/-! # Partners of some elements

A filtering step gives some elements of a list a partner and passes over the others. What it makes
of the list is told without telling how, by which elements have which partners (`Picks`). -/

namespace Curriculum

/-- The partners of those elements that have one, in the order of the elements. -/
inductive Picks (R : α → β → Prop) : List α → List β → Prop where
  | nil : Picks R [] []
  | pick (h : R a b) (hrest : Picks R as bs) : Picks R (a :: as) (b :: bs)
  | skip (h : ∀ b, ¬R a b) (hrest : Picks R as bs) : Picks R (a :: as) bs

variable {R : α → β → Prop} {as : List α} {bs : List β}

theorem picks_filterMap {f : α → Option β} (hsome : ∀ a b, f a = some b → R a b)
    (hnone : ∀ a b, R a b → f a ≠ none) (as : List α) : Picks R as (as.filterMap f) := by
  induction as with
  | nil => exact .nil
  | cons a as ih =>
    rw [List.filterMap_cons]
    split
    · next h => exact .skip (fun b hb => hnone a b hb h) ih
    · next b h => exact .pick (hsome a b h) ih

theorem Picks.exists_of_mem (h : Picks R as bs) (hb : b ∈ bs) : ∃ a ∈ as, R a b := by
  induction h with
  | nil => cases hb
  | @pick a b' as bs hab hrest ih =>
    rcases List.mem_cons.1 hb with rfl | hb
    · exact ⟨a, List.mem_cons_self, hab⟩
    · obtain ⟨a', ha', hr⟩ := ih hb
      exact ⟨a', List.mem_cons_of_mem _ ha', hr⟩
  | @skip a as bs hnone hrest ih =>
    obtain ⟨a', ha', hr⟩ := ih hb
    exact ⟨a', List.mem_cons_of_mem _ ha', hr⟩

end Curriculum
