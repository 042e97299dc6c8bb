import Curriculum.Proofs.Latex.Group

/-! # Reserved characters

LaTeX reads a text as signs: a backslash and the character behind it are one control symbol, and any
other character is a sign of its own. A reserved character means something to LaTeX where it is
bare, that is a sign of its own and no part of the empty group behind an accent. Escaping leaves no
character bare but the dollar signs of the text (`bare_escape`), since a dollar sign has no written
form in the table. -/

namespace Curriculum.Latex

variable {t : Text} {c : Char}

/-- What LaTeX takes at a time. -/
inductive Sign where
  | control (c : Char)
  | char (c : Char)
  deriving DecidableEq, Repr

/-- The signs that a text is read as. -/
def signs : Text → List Sign
  | [] => []
  | '\\' :: c :: t => .control c :: signs t
  | c :: t => .char c :: signs t

/-- The characters that LaTeX reserves. The backslash starts control symbols. -/
def reserved : List Char := ['#', '$', '%', '&', '_', '^', '~', '\x7b', '\x7d']

/-- The reserved characters outside of control symbols and of the empty groups behind accents. -/
def bare : List Sign → List Char
  | [] => []
  | .control c :: .char '\x7b' :: .char '\x7d' :: rest =>
    if c ∈ accents then bare rest else '\x7b' :: '\x7d' :: bare rest
  | .control _ :: rest => bare rest
  | .char c :: rest => if c ∈ reserved then c :: bare rest else bare rest

/-! ## Signs of texts in a row -/

theorem signs_cons (hc : c ≠ '\\') (t : Text) : signs (c :: t) = .char c :: signs t := by
  rw [signs]
  rintro d u rfl
  exact absurd rfl hc

/-- A text whose backslashes all have their character is read apart from what follows. -/
theorem signs_append (h : ¬Odd (backslashesAtEnd t)) (u : Text) :
    signs (t ++ u) = signs t ++ signs u := by
  rw [← Position.pending_read 0] at h
  generalize (0 : Int) = d at h
  fun_induction signs t generalizing d with
  | case1 => rfl
  | case2 c t ih =>
    have hrest : ¬((⟨d, false⟩ : Position).read t).pending = true := h
    rw [List.cons_append, List.cons_append, signs, ih d hrest, List.cons_append]
  | case3 c t hsymbol ih =>
    have hc : c ≠ '\\' := by
      rintro rfl
      cases t with
      | nil => exact h rfl
      | cons d t => exact hsymbol d t rfl rfl
    have hnext := Position.pending_next hc ⟨d, false⟩
    rw [Position.read_cons] at h
    generalize (⟨d, false⟩ : Position).next c = p at h hnext
    obtain ⟨e, pending⟩ := p
    cases hnext
    rw [List.cons_append, signs_cons hc, ih e h, List.cons_append]

theorem signs_flatMap {f : α → Text} {l : List α}
    (h : ∀ a ∈ l, ¬Odd (backslashesAtEnd (f a))) :
    signs (l.flatMap f) = l.flatMap fun a => signs (f a) := by
  induction l with
  | nil => rfl
  | cons a l ih =>
    obtain ⟨ha, hl⟩ := List.forall_mem_cons.1 h
    rw [List.flatMap_cons, List.flatMap_cons, signs_append ha, ih hl]

theorem signs_of_forall_ne (h : ∀ c ∈ t, c ≠ '\\') : signs t = t.map .char := by
  induction t with
  | nil => rfl
  | cons c t ih =>
    obtain ⟨hc, ht⟩ := List.forall_mem_cons.1 h
    rw [signs_cons hc, ih ht, List.map_cons]

/-! ## Bare characters -/

theorem bare_control (hc : c ∉ accents) (rest : List Sign) :
    bare (.control c :: rest) = bare rest := by
  rw [bare.eq_def]
  split
  · next h => cases h
  · next h =>
    cases h
    rw [if_neg hc]
    rfl
  · next h =>
    cases h
    rfl
  · next h => cases h

theorem bare_accent (hc : c ∈ accents) (rest : List Sign) :
    bare (.control c :: .char '\x7b' :: .char '\x7d' :: rest) = bare rest := by
  rw [bare, if_pos hc]

theorem bare_map_char (t : Text) : bare (t.map .char) = t.filter (· ∈ reserved) := by
  induction t with
  | nil => rfl
  | cons c t ih =>
    rw [List.map_cons, bare, ih, List.filter_cons]
    simp only [decide_eq_true_eq]

/-- A reserved character without a written form is a dollar sign. -/
theorem mem_reserved_iff (hs : c ∉ symbols) (ha : c ∉ accents) : c ∈ reserved ↔ c = '$' := by
  have hforms : reserved.all fun c => c = '$' ∨ c ∈ symbols ∨ c ∈ accents := by decide
  constructor
  · intro hc
    have hform := of_decide_eq_true (List.all_eq_true.1 hforms c hc)
    exact hform.elim id fun h => absurd h (not_or.2 ⟨hs, ha⟩)
  · rintro rfl
    decide

theorem ne_dollar_of_mem (h : c ∈ symbols ∨ c ∈ accents) : c ≠ '$' := by
  rintro rfl
  exact absurd h (by decide)

/-- The bare characters of an escaped text are its dollar signs. -/
theorem bare_escape (t : Text) : bare (signs (escape t)) = t.filter (· = '$') := by
  induction t with
  | nil => rfl
  | cons c t ih =>
    rw [escape_cons, signs_append (contained_iff.1 (contained_escapeChar c)).2.1, List.filter_cons]
    simp only [decide_eq_true_eq]
    rcases escapeChar_cases c with ⟨hc, h⟩ | ⟨hc, h⟩ | ⟨hs, ha, h⟩ <;> rw [h]
    · have haccent : c ∉ accents := fun h => not_mem_symbols_of_accent h hc
      rw [if_neg (ne_dollar_of_mem (.inl hc)), signs, signs, List.singleton_append,
        bare_control haccent, ih]
    · rw [if_neg (ne_dollar_of_mem (.inr hc)), signs, signs_cons (by decide),
        signs_cons (by decide), signs, List.cons_append, List.cons_append, List.singleton_append,
        bare_accent hc, ih]
    · have hbackslash : c ≠ '\\' := by
        rintro rfl
        exact hs (by decide)
      rw [signs_cons hbackslash, signs, List.singleton_append, bare,
        if_congr (mem_reserved_iff hs ha) rfl rfl, ih]

theorem bare_escape_eq_nil_iff : bare (signs (escape t)) = [] ↔ '$' ∉ t := by
  rw [bare_escape, List.filter_eq_nil_iff]
  simp only [decide_eq_true_eq]
  constructor
  · intro h hmem
    exact h '$' hmem rfl
  · rintro h c hc rfl
    exact h hc

end Curriculum.Latex
