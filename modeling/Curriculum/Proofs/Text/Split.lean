import Curriculum.Text.Basic

/-! # Splitting at a character

A text is split at each occurrence of a character, so splitting a text with a separator in it is
splitting what stands on the two sides (`split_append_cons`), and splitting undoes joining
(`split_join_of_not_mem`). -/

namespace Curriculum.Text

/-- Everything about splitting follows from this one equation. -/
theorem split_append_cons (sep : Char) (t u : Text) :
    split sep (t ++ sep :: u) = split sep t ++ split sep u := by
  induction t with
  | nil => simp [split]
  | cons c t ih =>
    rw [List.cons_append, split, split]
    split
    · rw [ih, List.cons_append]
    · rw [ih]
      cases h : split sep t with
      | nil => exact absurd h (split_ne_nil sep t)
      | cons first rest => rfl

theorem split_of_not_mem {t : Text} (h : sep ∉ t) : split sep t = [t] := by
  induction t with
  | nil => rfl
  | cons c t ih =>
    rw [List.mem_cons, not_or] at h
    rw [split, if_neg (Ne.symm h.1), ih h.2]

theorem intercalate_cons (sep l : List α) (ls : List (List α)) :
    sep.intercalate (l :: ls) = l ++ ls.flatMap (sep ++ ·) := by
  induction ls generalizing l with
  | nil => simp
  | cons next ls ih =>
    rw [List.intercalate_cons_cons, ih, List.flatMap_cons, List.append_assoc, List.append_assoc]

theorem join_eq_intercalate (sep : Text) (ts : List Text) : join sep ts = sep.intercalate ts := by
  fun_induction join sep ts with
  | case1 => rfl
  | case2 t => rw [List.intercalate_singleton]
  | case3 t u ts ih => rw [List.intercalate_cons_cons, ih]

theorem join_cons (sep t : Text) (ts : List Text) :
    join sep (t :: ts) = t ++ ts.flatMap (sep ++ ·) := by
  rw [join_eq_intercalate, intercalate_cons]

theorem split_join (sep : Char) {parts : List Text} (h : parts ≠ []) :
    split sep (join [sep] parts) = parts.flatMap (split sep) := by
  fun_induction join [sep] parts with
  | case1 => exact absurd rfl h
  | case2 t => simp
  | case3 t u parts ih =>
    rw [List.append_assoc, List.singleton_append, split_append_cons, ih (List.cons_ne_nil u parts)]
    rfl

/-- Texts without the separator are read back from what they are joined to. -/
theorem split_join_of_not_mem (sep : Char) {parts : List Text} (hne : parts ≠ [])
    (h : ∀ t ∈ parts, sep ∉ t) : split sep (join [sep] parts) = parts := by
  fun_induction join [sep] parts with
  | case1 => exact absurd rfl hne
  | case2 t => exact split_of_not_mem (h t (List.mem_singleton_self t))
  | case3 t u parts ih =>
    obtain ⟨ht, hparts⟩ := List.forall_mem_cons.1 h
    rw [List.append_assoc, List.singleton_append, split_append_cons, split_of_not_mem ht,
      ih (List.cons_ne_nil u parts) hparts]
    rfl

end Curriculum.Text
