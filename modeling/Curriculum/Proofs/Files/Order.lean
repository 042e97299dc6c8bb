import Curriculum.Files.Path
import Curriculum.Proofs.Text.Order

/-! # The order of paths

Paths are compared by their bytes, and only paths with the same bytes are told apart by what they
look like. So a list of paths has one order, whatever order it is given in
(`Path.inOrder_eq_of_perm`). -/

namespace Curriculum.Path

variable {path other third : Text}

theorem before_iff :
    before path other = true ↔
      bytes path < bytes other ∨ bytes path = bytes other ∧ path < other := by
  rw [before, Bool.or_eq_true, Bool.and_eq_true, decide_eq_true_eq, decide_eq_true_eq,
    Text.before_iff]

theorem before_trichotomy (path other : Text) :
    before path other = true ∨ path = other ∨ before other path = true := by
  simp only [before_iff]
  by_cases h : bytes path < bytes other
  · exact .inl (.inl h)
  rcases List.le_iff_lt_or_eq.1 (List.not_lt.1 h) with hlt | heq
  · exact .inr (.inr (.inl hlt))
  · rcases Text.lt_trichotomy path other with hlt | rfl | hlt
    · exact .inl (.inr ⟨heq.symm, hlt⟩)
    · exact .inr (.inl rfl)
    · exact .inr (.inr (.inr ⟨heq, hlt⟩))

theorem before_trans (h : before path other = true) (h' : before other third = true) :
    before path third = true := by
  rw [before_iff] at h h' ⊢
  rcases h with hlt | ⟨heq, hlt⟩
  · rcases h' with hlt' | ⟨heq', -⟩
    · exact .inl (List.lt_trans hlt hlt')
    · exact .inl (heq' ▸ hlt)
  · rcases h' with hlt' | ⟨heq', hlt'⟩
    · exact .inl (heq ▸ hlt')
    · exact .inr ⟨heq.trans heq', List.lt_trans hlt hlt'⟩

theorem before_irrefl (path : Text) : before path path ≠ true := by
  rw [Ne, before_iff]
  rintro (hlt | ⟨-, hlt⟩) <;> exact List.lt_irrefl _ hlt

theorem not_before_of_before (h : before path other = true) : before other path ≠ true :=
  fun h' => before_irrefl path (before_trans h h')

/-- The paths in order. -/
def inOrder (paths : List Text) : List Text := paths.mergeSort fun p q => !before q p

theorem inOrder_singleton (path : Text) : inOrder [path] = [path] := List.mergeSort_singleton path

theorem inOrder_perm (paths : List Text) : (inOrder paths).Perm paths := List.mergeSort_perm paths _

theorem pairwise_inOrder (paths : List Text) :
    (inOrder paths).Pairwise fun p q => before q p ≠ true := by
  have hle (p q : Text) : (!before q p) = true ↔ before q p ≠ true := by simp
  have hsorted : (inOrder paths).Pairwise fun p q => (!before q p) = true := by
    refine List.pairwise_mergeSort (fun p q r => ?_) (fun p q => ?_) paths
    · rw [hle, hle, hle]
      intro hpq hqr hrp
      rcases before_trichotomy p q with h | rfl | h
      · exact hqr (before_trans hrp h)
      · exact hqr hrp
      · exact hpq h
    · rw [Bool.or_eq_true, hle, hle]
      rcases before_trichotomy p q with h | rfl | h
      · exact .inl (not_before_of_before h)
      · exact .inl (before_irrefl p)
      · exact .inr (not_before_of_before h)
  exact hsorted.imp (hle _ _).1

theorem inOrder_eq_of_perm {paths others : List Text} (h : paths.Perm others) :
    inOrder paths = inOrder others := by
  refine List.Perm.eq_of_pairwise (fun p q _ _ hpq hqp => ?_) (pairwise_inOrder paths)
    (pairwise_inOrder others) ((inOrder_perm paths).trans (h.trans (inOrder_perm others).symm))
  exact ((before_trichotomy p q).resolve_left hqp).resolve_right hpq

end Curriculum.Path
