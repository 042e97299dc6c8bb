import Curriculum.Proofs.Latex.Group

/-! # Reading escaped text back

An escaped text is a row of forms: the written forms of reserved characters and characters that are
not reserved. One pass from left to right gives the text that has been escaped, and it accepts the
rows of forms and nothing else (`escape_bijection`). -/

namespace Curriculum.Latex

variable {s t form : Text}

/-- What stands for one character in an escaped text. -/
inductive IsForm : Text → Prop
  | symbol {c : Char} : c ∈ symbols → IsForm ['\\', c]
  | accent {c : Char} : c ∈ accents → IsForm ['\\', c, '\x7b', '\x7d']
  | plain {c : Char} : c ∉ symbols → c ∉ accents → IsForm [c]

/-- The text is a row of forms. -/
def Escaped (t : Text) : Prop :=
  ∃ forms : List Text, (∀ form ∈ forms, IsForm form) ∧ t = forms.flatten

/-- The text whose characters the forms stand for, read from left to right. -/
def unescape? : Text → Option Text
  | [] => some []
  | '\\' :: c :: rest =>
    if c ∈ symbols then (unescape? rest).map (c :: ·)
    else if c ∈ accents then
      match rest with
      | '\x7b' :: '\x7d' :: rest => (unescape? rest).map (c :: ·)
      | _ => none
    else none
  | c :: rest => if c ∈ symbols ∨ c ∈ accents then none else (unescape? rest).map (c :: ·)

/-! ## Forms -/

theorem isForm_escapeChar (c : Char) : IsForm (escapeChar c) := by
  rcases escapeChar_cases c with ⟨hc, h⟩ | ⟨hc, h⟩ | ⟨hs, ha, h⟩ <;> rw [h]
  · exact .symbol hc
  · exact .accent hc
  · exact .plain hs ha

theorem IsForm.exists_escapeChar (h : IsForm form) : ∃ c, escapeChar c = form := by
  cases h with
  | symbol hc => exact ⟨_, escapeChar_of_symbol hc⟩
  | accent hc => exact ⟨_, escapeChar_of_accent hc⟩
  | plain hs ha => exact ⟨_, escapeChar_of_not_mem hs ha⟩

theorem escaped_escape (s : Text) : Escaped (escape s) := by
  refine ⟨s.map escapeChar, fun form hform => ?_, by rw [escape_eq_flatMap, List.flatMap_def]⟩
  obtain ⟨c, -, rfl⟩ := List.mem_map.1 hform
  exact isForm_escapeChar c

theorem Escaped.exists_escape (h : Escaped t) : ∃ s, escape s = t := by
  obtain ⟨forms, hforms, rfl⟩ := h
  induction forms with
  | nil => exact ⟨[], rfl⟩
  | cons form forms ih =>
    obtain ⟨hform, hrest⟩ := List.forall_mem_cons.1 hforms
    obtain ⟨c, rfl⟩ := hform.exists_escapeChar
    obtain ⟨s, hs⟩ := ih hrest
    exact ⟨c :: s, by rw [escape_cons, hs, List.flatten_cons]⟩

/-! ## Reading forms -/

theorem unescape?_symbol (h : c ∈ symbols) (t : Text) :
    unescape? ('\\' :: c :: t) = (unescape? t).map (c :: ·) := by
  conv_lhs => unfold unescape?
  exact if_pos h

theorem unescape?_accent (h : c ∈ accents) (t : Text) :
    unescape? ('\\' :: c :: '\x7b' :: '\x7d' :: t) = (unescape? t).map (c :: ·) := by
  rw [unescape?, if_neg (not_mem_symbols_of_accent h), if_pos h]

theorem unescape?_plain (hs : c ∉ symbols) (ha : c ∉ accents) (t : Text) :
    unescape? (c :: t) = (unescape? t).map (c :: ·) := by
  rw [unescape?, if_neg (not_or.2 ⟨hs, ha⟩)]
  -- a backslash in front would be a symbol
  rintro d rest rfl -
  exact hs (by decide)

theorem unescape?_escapeChar_append (c : Char) (t : Text) :
    unescape? (escapeChar c ++ t) = (unescape? t).map (c :: ·) := by
  rcases escapeChar_cases c with ⟨hc, h⟩ | ⟨hc, h⟩ | ⟨hs, ha, h⟩ <;> rw [h]
  · exact unescape?_symbol hc t
  · exact unescape?_accent hc t
  · exact unescape?_plain hs ha t

/-- What stands behind an escaped text is read apart from it. -/
theorem unescape?_escape_append (s t : Text) :
    unescape? (escape s ++ t) = (unescape? t).map (s ++ ·) := by
  induction s with
  | nil => exact Option.map_id'.symm
  | cons c s ih =>
    rw [escape_cons, List.append_assoc, unescape?_escapeChar_append, ih, Option.map_map]
    rfl

theorem unescape?_escape (s : Text) : unescape? (escape s) = some s := by
  have h := unescape?_escape_append s []
  rwa [List.append_nil, unescape?, Option.map_some, List.append_nil] at h

/-- Nothing but an escaped text is read at all. -/
theorem escape_of_unescape? (h : unescape? t = some s) : escape s = t := by
  fun_induction unescape? t generalizing s with
  | case1 =>
    cases h
    rfl
  | case2 c rest hc ih =>
    obtain ⟨s, hs, rfl⟩ := Option.map_eq_some_iff.1 h
    rw [escape_cons, escapeChar_of_symbol hc, ih hs]
    rfl
  | case3 c hs ha rest ih =>
    obtain ⟨s, hs, rfl⟩ := Option.map_eq_some_iff.1 h
    rw [escape_cons, escapeChar_of_accent ha, ih hs]
    rfl
  | case7 c rest _ hc ih =>
    obtain ⟨s, hs, rfl⟩ := Option.map_eq_some_iff.1 h
    obtain ⟨hsymbol, haccent⟩ := not_or.1 hc
    rw [escape_cons, escapeChar_of_not_mem hsymbol haccent, ih hs]
    rfl
  | case4 | case5 | case6 => cases h

theorem escape_injective : Function.Injective escape := by
  intro s t h
  have hs := unescape?_escape s
  rw [h, unescape?_escape t] at hs
  exact (Option.some.inj hs).symm

/-- Escaping is a bijection between all texts and the rows of forms. Reading from left to right goes
back and succeeds on the rows of forms alone, and no escaped text ends in a backslash that still
waits for its character. -/
theorem escape_bijection :
    (∀ s, Escaped (escape s)) ∧
      (∀ s, unescape? (escape s) = some s) ∧
      (∀ t, Escaped t ↔ (unescape? t).map escape = some t) ∧
      (∀ t, Escaped t ↔ (unescape? t).isSome) ∧
      (∀ s t, unescape? (escape s ++ t) = (unescape? t).map (s ++ ·)) ∧
      Function.Injective escape ∧ ∀ s, ¬Odd (backslashesAtEnd (escape s)) := by
  have hread : ∀ t, Escaped t → ∃ s, unescape? t = some s ∧ escape s = t := by
    intro t h
    obtain ⟨s, rfl⟩ := h.exists_escape
    exact ⟨s, unescape?_escape s, rfl⟩
  refine ⟨escaped_escape, unescape?_escape, fun t => ⟨fun h => ?_, fun h => ?_⟩,
    fun t => ⟨fun h => ?_, fun h => ?_⟩, unescape?_escape_append, escape_injective,
    fun s => (contained_iff.1 (contained_escape s)).2.1⟩
  · obtain ⟨s, hs, hescape⟩ := hread t h
    rw [hs, Option.map_some, hescape]
  · obtain ⟨s, -, rfl⟩ := Option.map_eq_some_iff.1 h
    exact escaped_escape s
  · obtain ⟨s, hs, -⟩ := hread t h
    rw [hs, Option.isSome_some]
  · obtain ⟨s, hs⟩ := Option.isSome_iff_exists.1 h
    rw [← escape_of_unescape? hs]
    exact escaped_escape s

end Curriculum.Latex
