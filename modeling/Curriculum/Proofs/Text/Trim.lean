import Curriculum.Text.Blank
import Mathlib.Data.List.DropRight
import Mathlib.Data.List.TakeWhile

/-! # Blanks at the ends of a text

Trimming drops blanks at both ends and nothing else, and a trimmed text is one that trimming does
not change. Blanks around a text therefore never show after trimming (`trim_append_blank`). -/

namespace Curriculum.Text

theorem allBlank_append : allBlank (t ++ u) = (allBlank t && allBlank u) := List.all_append

theorem isBlank_of_mem {w : Text} (hw : allBlank w) (hc : c ∈ w) : isBlank c :=
  List.all_eq_true.1 hw c hc

theorem not_mem_of_allBlank {w : Text} (hw : allBlank w) (hc : isBlank c = false) : c ∉ w :=
  fun h => by simp [isBlank_of_mem hw h] at hc

theorem trimStart_append_blank {w : Text} (hw : allBlank w) (t : Text) :
    trimStart (w ++ t) = trimStart t :=
  List.dropWhile_append_of_pos fun _ => isBlank_of_mem hw

theorem trimStart_of_allBlank {w : Text} (hw : allBlank w) : trimStart w = [] :=
  List.dropWhile_eq_nil_iff.2 fun _ => isBlank_of_mem hw

theorem trimEnd_append_blank {w : Text} (hw : allBlank w) (t : Text) :
    trimEnd (t ++ w) = trimEnd t := by
  have h : ∀ c ∈ w.reverse, isBlank c := fun _ hc => isBlank_of_mem hw (List.mem_reverse.1 hc)
  simp only [trimEnd, List.reverse_append, List.dropWhile_append_of_pos h]

theorem trimEnd_append_of_ne_nil {t : Text} (h : trimEnd t ≠ []) (u : Text) :
    trimEnd (u ++ t) = u ++ trimEnd t := by
  have h' : t.reverse.dropWhile isBlank ≠ [] := by simpa [trimEnd] using h
  simp [trimEnd, List.dropWhile_append, h']

theorem trimStart_eq_self_of_cons (hc : isBlank c = false) (t : Text) :
    trimStart (c :: t) = c :: t := by
  simp [trimStart, hc]

theorem trimEnd_suffix_split (t : Text) : ∃ w, allBlank w ∧ t = trimEnd t ++ w := by
  refine ⟨t.rtakeWhile isBlank, List.all_eq_true.2 fun _ => List.mem_rtakeWhile_imp, ?_⟩
  exact List.rdropWhile_append_rtakeWhile.symm

theorem trimStart_prefix_split (t : Text) : ∃ w, allBlank w ∧ t = w ++ trimStart t := by
  refine ⟨t.takeWhile isBlank, List.all_eq_true.2 fun _ => List.mem_takeWhile_imp, ?_⟩
  exact List.takeWhile_append_dropWhile.symm

/-- A text is its trimmed form with blanks around it. -/
theorem trim_split (t : Text) : ∃ w w', allBlank w ∧ allBlank w' ∧ t = w ++ trim t ++ w' := by
  obtain ⟨w, hw, h⟩ := trimStart_prefix_split t
  obtain ⟨w', hw', h'⟩ := trimEnd_suffix_split (trimStart t)
  exact ⟨w, w', hw, hw', by rw [List.append_assoc, trim, ← h', ← h]⟩

/-- Blanks around a text do not show after trimming. -/
theorem trim_append_blank {w w' : Text} (hw : allBlank w) (hw' : allBlank w') (t : Text) :
    trim (w ++ t ++ w') = trim t := by
  rw [List.append_assoc, trim, trimStart_append_blank hw, trimStart, List.dropWhile_append]
  split
  next h =>
    -- nothing but blanks is left of `t`
    have ht : trimStart t = [] := List.isEmpty_iff.1 h
    rw [trim, ht, show List.dropWhile isBlank w' = [] from trimStart_of_allBlank hw']
  next => exact trimEnd_append_blank hw' _

theorem trim_blank_append {w : Text} (hw : allBlank w) (t : Text) : trim (w ++ t) = trim t := by
  rw [trim, trimStart_append_blank hw, ← trim]

theorem trim_trim (t : Text) : trim (trim t) = trim t := by
  obtain ⟨w, w', hw, hw', h⟩ := trim_split t
  have := trim_append_blank hw hw' (trim t)
  rwa [← h, eq_comm] at this

theorem trimStart_of_trim_eq {t : Text} (h : trim t = t) : trimStart t = t := by
  refine (List.dropWhile_suffix isBlank).eq_of_length_le ?_
  calc t.length = (trimEnd (trimStart t)).length := by rw [← trim, h]
    _ ≤ (trimStart t).length := (List.rdropWhile_prefix isBlank _).length_le

theorem trimEnd_of_trim_eq {t : Text} (h : trim t = t) : trimEnd t = t := by
  have := h
  rwa [trim, trimStart_of_trim_eq h] at this

/-- The first character of a trimmed text is not blank. -/
theorem head_of_trim_eq (h : trim (c :: t) = c :: t) : isBlank c = false := by
  have := List.dropWhile_eq_self_iff.1 (trimStart_of_trim_eq h) (by simp)
  simpa using this

/-- Where a text starts with a blank, some blanks stand before its trimmed form. -/
theorem ne_nil_of_trim_split (hc : isBlank c) (h : c :: t = w ++ trim u ++ w') (hu : trim u ≠ []) :
    w ≠ [] := by
  rintro rfl
  obtain ⟨d, v, hv⟩ := List.exists_cons_of_ne_nil hu
  have hd := head_of_trim_eq (hv ▸ trim_trim u)
  rw [hv] at h
  cases h
  simp [hc] at hd

end Curriculum.Text
