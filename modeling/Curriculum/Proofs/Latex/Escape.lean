import Curriculum.Latex.Escape
import Mathlib.Data.List.Basic

/-! # Escaping character by character

The replacements of `escape` run one after the other over the whole text. Their order decides that
they come to one pass over the characters: no replacement finds a character that an earlier one has
written (`foldl_substitute_eq_flatMap`). The backslash therefore goes first, and the braces go
before the accents. -/

namespace Curriculum.Latex

/-! ## Tables of replacements -/

section
variable {rules : List (Char × Text)}

theorem getD_lookup_eq_singleton (h : ∀ rule ∈ rules, rule.1 ≠ c) :
    (rules.lookup c).getD [c] = [c] := by
  have hnone : rules.lookup c = none := by
    rw [List.lookup_eq_none_iff]
    intro rule hrule
    exact bne_iff_ne.2 (h rule hrule).symm
  rw [hnone, Option.getD_none]

/-- Replacements may run one after the other when none of them writes a character that a later one
looks for. -/
theorem foldl_substitute_eq_flatMap (h : rules.Pairwise fun rule later => later.1 ∉ rule.2)
    (t : Text) :
    rules.foldl (fun done (c, image) => Text.substitute c image done) t =
      t.flatMap fun c => (rules.lookup c).getD [c] := by
  induction rules generalizing t with
  | nil => exact (List.flatMap_singleton' t).symm
  | cons rule rules ih =>
    obtain ⟨key, image⟩ := rule
    obtain ⟨hkey, hrules⟩ := List.pairwise_cons.1 h
    -- no later replacement finds anything in what this one writes
    have himage : (image.flatMap fun c => (rules.lookup c).getD [c]) = image := by
      have hsingle : ∀ c ∈ image, (rules.lookup c).getD [c] = [c] := by
        intro c hc
        apply getD_lookup_eq_singleton
        rintro later hlater rfl
        exact hkey later hlater hc
      rw [List.flatMap_congr hsingle, List.flatMap_singleton']
    rw [List.foldl_cons, ih hrules]
    change (t.flatMap fun c => if c = key then image else [c]).flatMap _ = _
    rw [List.flatMap_assoc]
    apply List.flatMap_congr
    intro c _
    by_cases hc : c = key
    · subst hc
      rw [if_pos rfl, himage, List.lookup_cons_self, Option.getD_some]
    · rw [if_neg hc, List.flatMap_singleton, List.lookup_cons, beq_false_of_ne hc]

end

/-! ## Written forms -/

/-- The reserved characters whose written form is a backslash and the character. -/
def symbols : List Char := ['\\', '#', '%', '&', '_', '\x7b', '\x7d']

/-- The reserved characters whose written form also has an empty group behind the character. -/
def accents : List Char := ['^', '~']

theorem not_mem_symbols_of_accent (h : c ∈ accents) : c ∉ symbols := by
  simp only [accents, List.mem_cons, List.not_mem_nil, or_false] at h
  rcases h with rfl | rfl <;> decide

theorem escapeChar_of_symbol (h : c ∈ symbols) : escapeChar c = ['\\', c] := by
  simp only [symbols, List.mem_cons, List.not_mem_nil, or_false] at h
  rcases h with rfl | rfl | rfl | rfl | rfl | rfl | rfl <;> rfl

theorem escapeChar_of_accent (h : c ∈ accents) : escapeChar c = ['\\', c, '\x7b', '\x7d'] := by
  simp only [accents, List.mem_cons, List.not_mem_nil, or_false] at h
  rcases h with rfl | rfl <;> rfl

/-- The table has a rule for each of these nine characters, and for no other. -/
theorem mem_replacements : (c, image) ∈ replacements ↔
    c ∈ symbols ∧ image = ['\\', c] ∨ c ∈ accents ∧ image = ['\\', c, '\x7b', '\x7d'] := by
  constructor
  · have hrules : ∀ rule ∈ replacements, rule.1 ∈ symbols ∧ rule.2 = ['\\', rule.1] ∨
        rule.1 ∈ accents ∧ rule.2 = ['\\', rule.1, '\x7b', '\x7d'] := by decide
    exact hrules (c, image)
  · rintro (⟨hc, rfl⟩ | ⟨hc, rfl⟩)
    · simp only [symbols, List.mem_cons, List.not_mem_nil, or_false] at hc
      rcases hc with rfl | rfl | rfl | rfl | rfl | rfl | rfl <;> decide
    · simp only [accents, List.mem_cons, List.not_mem_nil, or_false] at hc
      rcases hc with rfl | rfl <;> decide

theorem escapeChar_of_not_mem (hs : c ∉ symbols) (ha : c ∉ accents) : escapeChar c = [c] := by
  apply getD_lookup_eq_singleton
  rintro ⟨c', image⟩ hrule rfl
  exact (mem_replacements.1 hrule).elim (fun h => hs h.1) (fun h => ha h.1)

/-- The three written forms of a character. -/
theorem escapeChar_cases (c : Char) :
    (c ∈ symbols ∧ escapeChar c = ['\\', c]) ∨
      (c ∈ accents ∧ escapeChar c = ['\\', c, '\x7b', '\x7d']) ∨
      (c ∉ symbols ∧ c ∉ accents ∧ escapeChar c = [c]) := by
  by_cases hs : c ∈ symbols
  · exact .inl ⟨hs, escapeChar_of_symbol hs⟩
  by_cases ha : c ∈ accents
  · exact .inr (.inl ⟨ha, escapeChar_of_accent ha⟩)
  · exact .inr (.inr ⟨hs, ha, escapeChar_of_not_mem hs ha⟩)

/-! ## All replacements in one pass -/

/-- Escaping a text escapes its characters one by one. -/
theorem escape_eq_flatMap (t : Text) : escape t = t.flatMap escapeChar :=
  foldl_substitute_eq_flatMap (by decide) t

theorem escape_append (t u : Text) : escape (t ++ u) = escape t ++ escape u := by
  simp only [escape_eq_flatMap, List.flatMap_append]

theorem escape_cons (c : Char) (t : Text) : escape (c :: t) = escapeChar c ++ escape t := by
  simp only [escape_eq_flatMap, List.flatMap_cons]

/-- The replacements in their order come to one pass in which every reserved character gives way to
its own written form and every other character stays. A text may therefore be escaped as a whole or
in pieces. -/
theorem escape_single_pass :
    (∀ t, escape t = t.flatMap escapeChar) ∧
      (∀ rule ∈ replacements, escapeChar rule.1 = rule.2) ∧
      (∀ c, c ∉ replacements.map Prod.fst → escapeChar c = [c]) ∧
      (∀ t u, escape (t ++ u) = escape t ++ escape u) ∧
      ∀ pieces : List Text, escape pieces.flatten = (pieces.map escape).flatten := by
  refine ⟨escape_eq_flatMap, by decide, fun c hc => ?_, escape_append, fun pieces => ?_⟩
  · apply getD_lookup_eq_singleton
    rintro rule hrule rfl
    exact hc (List.mem_map_of_mem hrule)
  · induction pieces with
    | nil => rfl
    | cons t pieces ih =>
      rw [List.flatten_cons, escape_append, ih, List.map_cons, List.flatten_cons]

end Curriculum.Latex
