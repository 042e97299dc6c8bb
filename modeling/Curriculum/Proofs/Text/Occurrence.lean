import Curriculum.Text.Basic
import Mathlib.Data.List.Infix

/-! # Occurrences of a word

A word occurs wherever it starts. When text is put together from pieces, an occurrence may reach
over their seams; none does where every piece is detached from the word, and then occurrences are
counted piece by piece (`occurrences_append`). -/

namespace Curriculum.Text

/-- How often a word starts somewhere in a text. -/
def occurrences (word t : Text) : Nat := t.tails.countP word.isPrefixOf

/-- A text in which no occurrence ends that has started before it: it starts with no proper end of
the word. -/
def Detached (word t : Text) : Prop := ∀ rest ∈ word.tail.tails, rest ≠ [] → ¬rest <+: t

instance : Decidable (Detached word t) := inferInstanceAs (Decidable (∀ rest ∈ word.tail.tails, _))

section
variable {word t u : Text}

theorem occurrences_cons (c : Char) (t : Text) :
    occurrences word (c :: t) = occurrences word t + if word <+: c :: t then 1 else 0 := by
  rw [occurrences, List.tails, List.countP_cons, ← occurrences]
  simp only [List.isPrefixOf_iff_prefix]

theorem occurrences_nil (hne : word ≠ []) : occurrences word [] = 0 := by
  simp [occurrences, hne]

theorem occurrences_eq_zero_iff : occurrences word t = 0 ↔ ¬word <:+: t := by
  rw [occurrences, List.countP_eq_zero, List.infix_iff_prefix_suffix]
  simp only [List.mem_tails, List.isPrefixOf_iff_prefix]
  constructor
  · rintro h ⟨u, hprefix, hsuffix⟩
    exact h u hsuffix hprefix
  · intro h u hsuffix hprefix
    exact h ⟨u, hprefix, hsuffix⟩

/-- An occurrence at the front reaches no detached text. -/
theorem prefix_append_iff (hu : Detached word u) (ht : t ≠ []) :
    word <+: t ++ u ↔ word <+: t := by
  constructor
  · intro h
    rcases List.prefix_or_prefix_of_prefix h (List.prefix_append t u) with h' | ⟨rest, rfl⟩
    · exact h'
    · obtain ⟨c, t, rfl⟩ := List.exists_cons_of_ne_nil ht
      have hsuffix : rest <:+ (c :: t ++ rest).tail := List.suffix_append t rest
      have hprefix : rest <+: u := (List.prefix_append_right_inj _).1 h
      by_cases hrest : rest = []
      · rw [hrest, List.append_nil]
      · exact absurd hprefix (hu rest ((List.mem_tails ..).2 hsuffix) hrest)
  · intro h
    exact h.trans (List.prefix_append t u)

/-- No occurrence reaches over the seam in front of a detached text. -/
theorem occurrences_append (hne : word ≠ []) (hu : Detached word u) (t : Text) :
    occurrences word (t ++ u) = occurrences word t + occurrences word u := by
  induction t with
  | nil => rw [List.nil_append, occurrences_nil hne, Nat.zero_add]
  | cons c t ih =>
    have hfront := prefix_append_iff hu (List.cons_ne_nil c t)
    rw [List.cons_append] at hfront
    rw [List.cons_append, occurrences_cons, occurrences_cons, ih, if_congr hfront rfl rfl,
      Nat.add_right_comm]

theorem detached_nil : Detached word [] := by
  intro rest _ hrest
  simpa using hrest

theorem Detached.append (ht : Detached word t) (hu : Detached word u) : Detached word (t ++ u) := by
  intro rest hmem hrest hprefix
  rcases List.prefix_or_prefix_of_prefix hprefix (List.prefix_append t u) with h | ⟨v, rfl⟩
  · exact ht rest hmem hrest h
  · have hv : v <+: u := (List.prefix_append_right_inj t).1 hprefix
    by_cases hnil : v = []
    · rw [hnil, List.append_nil] at hmem hrest
      exact ht t hmem hrest List.prefix_rfl
    · -- what reaches into the second text ends the word as well
      have hsuffix : v <:+ word.tail :=
        (List.suffix_append t v).trans ((List.mem_tails ..).1 hmem)
      exact hu v ((List.mem_tails ..).2 hsuffix) hnil hv

theorem Detached.flatMap {f : α → Text} {l : List α} (h : ∀ a ∈ l, Detached word (f a)) :
    Detached word (l.flatMap f) := by
  induction l with
  | nil => exact detached_nil
  | cons a l ih =>
    obtain ⟨ha, hl⟩ := List.forall_mem_cons.1 h
    rw [List.flatMap_cons]
    exact ha.append (ih hl)

end

end Curriculum.Text
