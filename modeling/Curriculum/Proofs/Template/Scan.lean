import Curriculum.Template.Parse
import Mathlib.Data.List.Infix

/-! # Reading a body piece by piece

The tokens of a body are its whole text (`flatMap_source_scan`), and a body can be read in parts:
text without an opening pair that stands before a tag or at the end (`Reading.read_text`), and a
tag whose inside neither starts with an opening brace nor makes a closing pair (`Reading.read_tag`).
-/

namespace Curriculum.Template

/-! ## Pairs of braces -/

theorem cutOpening_eq_none_iff {t : Text} : cutOpening t = none ↔ ¬opening <:+: t := by
  fun_induction cutOpening t with
  | case1 => simp [opening]
  | case2 rest ih =>
    have hpair : opening <+: '\x7b' :: '\x7b' :: rest := List.prefix_append opening rest
    rw [Option.map_eq_none_iff, ih]
    exact iff_of_false (not_not_intro hpair.isInfix)
      (not_not_intro (List.infix_cons hpair.isInfix))
  | case3 rest _ => simpa [opening] using (List.prefix_append opening rest).isInfix
  | case4 c rest hpair ih =>
    have hprefix : ¬opening <+: c :: rest := by
      rintro ⟨u, hu⟩
      cases hu
      exact hpair u rfl rfl
    simp [List.infix_cons_iff, hprefix, ih]

theorem cutClosing_cons {t : Text} (h : ¬closing <+: c :: t) :
    cutClosing (c :: t) = (cutClosing t).map (later c) := by
  rw [cutClosing]
  rintro rest rfl rfl
  exact h (List.prefix_append closing rest)

/-- Where two opening braces stand, a third one comes first. -/
theorem cutOpening_cons {t : Text} (h : opening <+: c :: t → opening <+: t) :
    cutOpening (c :: t) = (cutOpening t).map (later c) := by
  by_cases hpair : opening <+: c :: t
  · obtain ⟨u, rfl⟩ := h hpair
    cases (List.cons_prefix_cons.1 hpair).1
    rfl
  · rw [cutOpening]
    rintro rest rfl rfl
    exact hpair (List.prefix_append opening rest)

theorem cutClosing_append {inside : Text} (h : ¬closing <:+: inside ++ ['\x7d']) (rest : Text) :
    cutClosing (inside ++ closing ++ rest) = some (inside, rest) := by
  induction inside with
  | nil => rfl
  | cons c inside ih =>
    rw [List.cons_append, List.infix_cons_iff, not_or] at h
    have hpair : ¬closing <+: c :: (inside ++ closing ++ rest) := by
      intro hp
      -- the pair lies in the first two characters, and the second closing brace comes later
      refine h.1 (List.prefix_of_prefix_length_le hp ⟨'\x7d' :: rest, ?_⟩ ?_)
      · simp [closing]
      · simp [closing]
    rw [List.cons_append, List.cons_append, cutClosing_cons hpair, ih h.2]
    rfl

theorem not_infix_append {t u : Text} (ht : '\x7d' ∉ t) (hu : ¬closing <:+: u) :
    ¬closing <:+: t ++ u := by
  induction t with
  | nil => exact hu
  | cons c t ih =>
    rw [List.mem_cons, not_or] at ht
    rw [List.cons_append, List.infix_cons_iff, not_or]
    refine ⟨fun h => ht.1 ?_, ih ht.2⟩
    exact (List.cons_prefix_cons.1 h).1

theorem not_infix_append_cons {t u : Text} (hc : c ≠ '\x7d') (ht : ¬closing <:+: t)
    (hu : ¬closing <:+: u) : ¬closing <:+: t ++ c :: u := by
  induction t with
  | nil => exact not_infix_append (t := [c]) (by simpa using hc.symm) hu
  | cons d t ih =>
    rw [List.infix_cons_iff, not_or] at ht
    rw [List.cons_append, List.infix_cons_iff, not_or]
    refine ⟨fun h => ?_, ih ht.2⟩
    -- the pair would be `d` with the first character of `t`, or with `c`
    obtain ⟨rfl, hnext⟩ := List.cons_prefix_cons.1 h
    cases t with
    | nil => exact hc (List.cons_prefix_cons.1 hnext).1.symm
    | cons e t =>
      cases (List.cons_prefix_cons.1 hnext).1
      exact ht.1 (List.prefix_append closing t)

theorem not_infix_concat {t : Text} (h : ¬closing <:+: t) (hlast : t.getLast? ≠ some '\x7d') :
    ¬closing <:+: t ++ ['\x7d'] := by
  intro hpair
  rcases List.infix_concat_iff.1 hpair with ⟨s, hs⟩ | hpair
  · -- the pair is the last two characters, so the first of them ends `t`
    have ht : t = s ++ ['\x7d'] := by
      have happend : t ++ ['\x7d'] = (s ++ ['\x7d']) ++ ['\x7d'] := by
        rw [← hs, List.append_assoc]
        rfl
      exact List.append_cancel_right happend
    exact hlast (ht ▸ List.getLast?_concat)
  · exact h hpair

theorem not_infix_of_cutClosing {t inside rest : Text} (h : cutClosing t = some (inside, rest)) :
    ¬closing <:+: inside ++ ['\x7d'] := by
  fun_induction cutClosing t generalizing inside rest with
  | case1 => cases h
  | case2 =>
    cases h
    decide
  | case3 c u hpair ih =>
    obtain ⟨⟨inside, rest⟩, hcut, hlater⟩ := Option.map_eq_some_iff.1 h
    cases hlater
    rw [List.cons_append, List.infix_cons_iff, not_or]
    refine ⟨?_, ih hcut⟩
    intro hp
    have hlong : c :: (inside ++ ['\x7d']) <+: c :: u := by
      rw [eq_of_cutClosing hcut]
      exact ⟨'\x7d' :: rest, by simp [closing]⟩
    obtain ⟨v, hv⟩ := hp.trans hlong
    cases hv
    exact hpair v rfl rfl

theorem cutOpening_append {l rest inner : Text} (hl : ¬opening <:+: l)
    (hrest : cutOpening rest = some ([], inner)) : cutOpening (l ++ rest) = some (l, inner) := by
  induction l with
  | nil => exact hrest
  | cons c l ih =>
    rw [List.infix_cons_iff, not_or] at hl
    have hpair : opening <+: c :: (l ++ rest) → opening <+: l ++ rest := by
      intro hp
      cases l with
      | nil => exact ⟨inner, (eq_of_cutOpening hrest).symm⟩
      | cons d l =>
        refine absurd (List.prefix_of_prefix_length_le hp ⟨rest, rfl⟩ ?_) hl.1
        simp [opening]
    rw [List.cons_append, cutOpening_cons hpair, ih hl.2]
    rfl

theorem head?_of_cutOpening {t before inner : Text} (h : cutOpening t = some (before, inner)) :
    inner.head? ≠ some '\x7b' := by
  fun_induction cutOpening t generalizing before inner with
  | case1 => cases h
  | case2 _ ih | case4 _ _ _ ih =>
    obtain ⟨⟨before, inner⟩, hcut, hlater⟩ := Option.map_eq_some_iff.1 h
    cases hlater
    exact ih hcut
  | case3 rest hrest =>
    cases h
    intro hhead
    obtain ⟨u, rfl⟩ := List.head?_eq_some_iff.1 hhead
    exact hrest u rfl

theorem cutOpening_opening {u : Text} (hu : u.head? ≠ some '\x7b') :
    cutOpening (opening ++ u) = some ([], u) := by
  simp only [opening, List.cons_append, List.nil_append]
  rw [cutOpening]
  rintro rest rfl
  exact hu rfl

theorem head?_tag {inside : Text} (h : inside.head? ≠ some '\x7b') (rest : Text) :
    (inside ++ closing ++ rest).head? ≠ some '\x7b' := by
  cases inside with
  | nil => simp [closing]
  | cons c inside => simpa using h

theorem cutOpening_tag {inside : Text} (h : inside.head? ≠ some '\x7b') (rest : Text) :
    cutOpening (opening ++ inside ++ closing ++ rest) =
      some ([], inside ++ closing ++ rest) := by
  rw [← cutOpening_opening (head?_tag h rest)]
  simp only [List.append_assoc]

private theorem opening_prefix_iff (t u : Text) :
    opening <+: t ++ opening ++ u ↔ opening <+: t ++ opening := by
  constructor
  · intro h
    exact List.prefix_of_prefix_length_le h (List.prefix_append ..) (by simp)
  · intro h
    exact h.trans (List.prefix_append ..)

/-- Where a tag opens does not depend on what stands behind the pair, if that is no brace. -/
theorem cutOpening_of_cutOpening {t before inner u : Text}
    (h : cutOpening t = some (before, inner)) (hu : u.head? ≠ some '\x7b') :
    cutOpening (before ++ opening ++ u) = some (before, u) := by
  fun_induction cutOpening t generalizing before inner with
  | case1 => cases h
  | case2 rest ih =>
    obtain ⟨⟨before, inner⟩, hcut, hlater⟩ := Option.map_eq_some_iff.1 h
    cases hlater
    have hpair : opening <+: before ++ opening ++ u := by
      rw [opening_prefix_iff, ← opening_prefix_iff before inner, ← eq_of_cutOpening hcut]
      exact List.prefix_append opening rest
    rw [List.cons_append, List.cons_append, cutOpening_cons fun _ => hpair, ih hcut]
    rfl
  | case3 rest hrest =>
    cases h
    exact cutOpening_opening hu
  | case4 c rest hrest ih =>
    obtain ⟨⟨before, inner⟩, hcut, hlater⟩ := Option.map_eq_some_iff.1 h
    cases hlater
    have hpair : ¬opening <+: c :: (before ++ opening ++ u) := by
      have := opening_prefix_iff (c :: before)
      simp only [List.cons_append] at this
      rw [this u, ← this inner, ← eq_of_cutOpening hcut]
      rintro ⟨v, hv⟩
      cases hv
      exact hrest v rfl rfl
    rw [List.cons_append, List.cons_append, cutOpening_cons fun h => absurd h hpair, ih hcut]
    rfl

/-! ## Tokens -/

theorem scan_of_cutOpening {t : Text} (h : cutOpening t = none) : scan t = [.text t] := by
  rw [scan]
  split
  · rfl
  · next h' => rw [h] at h'; cases h'

theorem scan_of_cutClosing {t before inner : Text} (h : cutOpening t = some (before, inner))
    (h' : cutClosing inner = none) : scan t = [.text t] := by
  rw [scan]
  split
  · rfl
  · next hcut =>
    cases h.symm.trans hcut
    split
    · rfl
    · next hcut' => rw [h'] at hcut'; cases hcut'

theorem scan_of_tag {t before inner inside rest : Text} (h : cutOpening t = some (before, inner))
    (h' : cutClosing inner = some (inside, rest)) :
    scan t = .text before :: .tag inside :: scan rest := by
  rw [scan]
  split
  · next hcut => rw [h] at hcut; cases hcut
  · next hcut =>
    cases h.symm.trans hcut
    split
    · next hcut' => rw [h'] at hcut'; cases hcut'
    · next hcut' => cases h'.symm.trans hcut'; rfl

/-- The tokens of a body are its whole text in order. -/
theorem flatMap_source_scan (t : Text) : (scan t).flatMap Token.source = t := by
  fun_induction scan t with
  | case1 | case2 => simp [Token.source]
  | case3 t before inner h inside rest h' ih =>
    rw [List.flatMap_cons, List.flatMap_cons, ih, eq_of_cutOpening h, eq_of_cutClosing h']
    simp [Token.source]

theorem not_infix_of_mem_scan {t inside : Text} (h : .tag inside ∈ scan t) :
    ¬closing <:+: inside := by
  fun_induction scan t with
  | case1 | case2 => simp at h
  | case3 t before inner _ inside' rest h' ih =>
    simp only [List.mem_cons, reduceCtorEq, Token.tag.injEq, false_or] at h
    rcases h with rfl | h
    · intro hpair
      exact not_infix_of_cutClosing h' (hpair.trans (List.prefix_append ..).isInfix)
    · exact ih h

/-- The text before a tag holds no tag. -/
theorem scan_before {t before inner : Text} (h : cutOpening t = some (before, inner)) :
    scan before = [.text before] := by
  cases hcut : cutOpening before with
  | none => exact scan_of_cutOpening hcut
  | some cut =>
    obtain ⟨b, i⟩ := cut
    cases i with
    | nil => exact scan_of_cutClosing hcut rfl
    | cons c i =>
      -- the tag would open within `before`
      have hbefore := eq_of_cutOpening hcut
      have htag : (c :: i ++ opening ++ inner).head? ≠ some '\x7b' := by
        simpa using head?_of_cutOpening hcut
      have ht : t = b ++ opening ++ (c :: i ++ opening ++ inner) := by
        rw [eq_of_cutOpening h, hbefore]
        simp only [List.append_assoc]
      rw [ht, cutOpening_of_cutOpening hcut htag] at h
      obtain ⟨rfl, -⟩ := Prod.mk.inj (Option.some.inj h)
      simp [opening] at hbefore

/-- A tag is cut off in the same way whatever text comes after it. -/
theorem scan_tag_append {t before inner inside rest : Text}
    (h : cutOpening t = some (before, inner)) (h' : cutClosing inner = some (inside, rest))
    (u : Text) :
    scan (before ++ (Token.tag inside).source ++ u) = .text before :: .tag inside :: scan u := by
  have hhead : inside.head? ≠ some '\x7b' := by
    intro hinside
    obtain ⟨v, rfl⟩ := List.head?_eq_some_iff.1 hinside
    exact head?_of_cutOpening h (by rw [eq_of_cutClosing h']; rfl)
  have hopen := cutOpening_of_cutOpening h (head?_tag hhead u)
  have hclose := cutClosing_append (not_infix_of_cutClosing h') u
  rw [Token.source, ← scan_of_tag hopen hclose]
  simp only [List.append_assoc]

/-! ## Reading -/

/-- What more text does: nothing when it is empty, else it joins a literal or is one. -/
theorem addText_cases (t : Text) (nodes : List Node) :
    (t = [] ∧ addText t nodes = nodes) ∨
      (∃ u rest, nodes = .literal u :: rest ∧ addText t nodes = .literal (u ++ t) :: rest) ∨
      (t ≠ [] ∧ (∀ u rest, nodes ≠ .literal u :: rest) ∧
        addText t nodes = .literal t :: nodes) := by
  unfold addText
  split
  · next ht => exact .inl ⟨List.isEmpty_iff.1 ht, rfl⟩
  · next ht =>
    split
    · exact .inr (.inl ⟨_, _, rfl, rfl⟩)
    · next hlast =>
      exact .inr (.inr ⟨fun h => ht (List.isEmpty_iff.2 h), hlast, rfl⟩)

theorem addText_addText (t u : Text) (nodes : List Node) :
    addText u (addText t nodes) = addText (t ++ u) nodes := by
  unfold addText
  cases t <;> cases u <;> rcases nodes with _ | ⟨_ | _ | _, _⟩ <;> simp

namespace Reading

/-- A text read after what has been read before. -/
def read (r : Reading) (t : Text) : Reading := (scan t).foldl step r

theorem parse_eq_finish_read (body : Text) : parse body = (read {} body).finish := rfl

theorem step_text_text (r : Reading) (t u : Text) :
    (r.step (.text t)).step (.text u) = r.step (.text (t ++ u)) := by
  simp only [step, addText_addText]

theorem read_nil (r : Reading) : r.read [] = r := by
  rw [read, scan_of_cutOpening rfl]
  rfl

/-- The text stands before a tag or at the end of the body. -/
def Boundary (rest : Text) : Prop := rest = [] ∨ ∃ inner, cutOpening rest = some ([], inner)

/-- Text without an opening pair can be read apart from the tag behind it. -/
theorem read_text (r : Reading) {l rest : Text} (hl : ¬opening <:+: l) (hrest : Boundary rest) :
    r.read (l ++ rest) = (r.step (.text l)).read rest := by
  rcases hrest with rfl | ⟨inner, hrest⟩
  · rw [List.append_nil, read_nil, read, scan_of_cutOpening (cutOpening_eq_none_iff.2 hl)]
    rfl
  have happend := cutOpening_append hl hrest
  cases hinner : cutClosing inner with
  | none =>
    -- the tag is not closed, so all is one text
    rw [read, read, scan_of_cutClosing happend hinner, scan_of_cutClosing hrest hinner]
    exact (step_text_text r l rest).symm
  | some cut =>
    rw [read, read, scan_of_tag happend hinner, scan_of_tag hrest hinner]
    rfl

theorem boundary_tag {inside : Text} (h : inside.head? ≠ some '\x7b') (rest : Text) :
    Boundary (Token.source (.tag inside) ++ rest) :=
  .inr ⟨_, cutOpening_tag h rest⟩

theorem read_tag (r : Reading) {inside : Text} (hopen : inside.head? ≠ some '\x7b')
    (hclose : ¬closing <:+: inside ++ ['\x7d']) (rest : Text) :
    r.read (Token.source (.tag inside) ++ rest) = (r.step (.tag inside)).read rest := by
  rw [read, Token.source, scan_of_tag (cutOpening_tag hopen rest) (cutClosing_append hclose rest)]
  rfl

end Reading

end Curriculum.Template
