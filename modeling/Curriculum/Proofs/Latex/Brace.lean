import Curriculum.Proofs.Latex.Group
import Curriculum.Proofs.Text.Occurrence

/-! # Opening braces of inserted text

In an escaped text every opening brace stands behind a backslash or an accent. A word that ends in
an opening brace behind some other character does not occur there, and no occurrence of it reaches
into such a text from before. -/

namespace Curriculum.Latex

open Text (Detached occurrences occurrences_eq_zero_iff)

/-- Every opening brace stands behind a backslash or an accent. -/
def Guarded (t : Text) : Prop :=
  ∀ before after, t = before ++ '\x7b' :: after →
    ∃ c ∈ before.getLast?, c = '\\' ∨ c ∈ accents

theorem guarded_escapeChar (c : Char) : Guarded (escapeChar c) := by
  intro before after h
  rcases escapeChar_cases c with ⟨-, hc⟩ | ⟨hc', hc⟩ | ⟨hs, -, hc⟩ <;> rw [hc] at h
  · rcases before with _ | ⟨d, _ | ⟨e, before⟩⟩
    · cases h
    · cases h
      exact ⟨'\\', rfl, .inl rfl⟩
    · simp at h
  · rcases before with _ | ⟨d, _ | ⟨e, _ | ⟨f, before⟩⟩⟩
    · cases h
    · cases h
      exact ⟨'\\', rfl, .inl rfl⟩
    · cases h
      exact ⟨c, rfl, .inr hc'⟩
    · -- behind the group stands its closing brace only
      obtain ⟨-, -, -, h⟩ := by simpa using h
      rcases before with _ | ⟨g, before⟩ <;> simp at h
  · rcases before with _ | ⟨d, before⟩
    · cases h
      exact absurd (by decide) hs
    · simp at h

theorem Guarded.append (ht : Guarded t) (hu : Guarded u) : Guarded (t ++ u) := by
  intro before after h
  rcases List.append_eq_append_iff.1 h with ⟨rest, hbefore, hu'⟩ | ⟨rest, ht', hrest⟩
  · obtain ⟨c, hc, hguard⟩ := hu rest after hu'
    refine ⟨c, ?_, hguard⟩
    rw [hbefore, List.getLast?_append, Option.mem_def.1 hc]
    rfl
  · cases rest with
    | nil =>
      rw [List.append_nil] at ht'
      obtain ⟨c, hc, hguard⟩ := hu [] after hrest.symm
      cases hc
    | cons d rest =>
      cases hrest
      exact ht before rest ht'

theorem guarded_of_not_mem {t : Text} (h : '\x7b' ∉ t) : Guarded t := by
  rintro before after rfl
  exact absurd (by simp) h

theorem guarded_escape (t : Text) : Guarded (escape t) := by
  rw [escape_eq_flatMap]
  induction t with
  | nil => exact guarded_of_not_mem List.not_mem_nil
  | cons c t ih => exact (guarded_escapeChar c).append ih

/-- The word ends in an opening brace that is not guarded. -/
def EndsBare (word : Text) : Prop :=
  ∃ front c, word = front ++ [c, '\x7b'] ∧ c ≠ '\\' ∧ c ∉ accents

section
variable {word t : Text} (ht : Guarded t) (hword : EndsBare word)
include ht hword

theorem Guarded.not_infix : ¬word <:+: t := by
  rintro ⟨before, after, h⟩
  obtain ⟨front, c, rfl, hc, hc'⟩ := hword
  obtain ⟨d, hd, hguard⟩ := ht (before ++ front ++ [c]) after (by simp [← h])
  rw [List.getLast?_concat, Option.mem_some_iff] at hd
  subst hd
  exact hguard.elim hc hc'

theorem Guarded.occurrences_eq_zero : occurrences word t = 0 :=
  occurrences_eq_zero_iff.2 (ht.not_infix hword)

theorem Guarded.detached : Detached word t := by
  obtain ⟨front, c, rfl, hc, hc'⟩ := hword
  intro rest hmem hrest hprefix
  obtain ⟨after, rfl⟩ := hprefix
  have hsuffix : rest <:+ (front ++ [c]) ++ ['\x7b'] := by
    have htail := ((List.mem_tails ..).1 hmem).trans (List.tail_suffix _)
    rwa [List.append_assoc]
  rcases List.suffix_concat_iff.1 hsuffix with rfl | ⟨v, rfl, hv⟩
  · exact hrest rfl
  · obtain ⟨d, hd, hguard⟩ := ht v after (by simp)
    rcases List.suffix_concat_iff.1 hv with rfl | ⟨w, rfl, -⟩
    · cases hd
    · rw [List.getLast?_concat, Option.mem_some_iff] at hd
      subst hd
      exact hguard.elim hc hc'

end

end Curriculum.Latex
