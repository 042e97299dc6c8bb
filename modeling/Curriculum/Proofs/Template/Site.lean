import Curriculum.Proofs.Latex.Brace
import Curriculum.Proofs.Template.Group

/-! # Words of a template in its expansion

A word stands in the literals of a template at certain sites, each inside some blocks. Where no
occurrence comes about at the seams of the pieces, the expansion has the word as often as the blocks
around its sites run (`occurrences_expand`). In a LaTeX source this holds of a word that ends in a
bare opening brace, since escaped text neither has such a word nor completes one. -/

namespace Curriculum.Template

open Json (Value)
open Latex (sanitize sanitize_eq_mapStrings isPlain EndsBare)
open Text (Detached occurrences occurrences_append occurrences_nil)

mutual
/-- For each occurrence of a word in the literals of a node the paths of the blocks around it, the
outermost first. -/
def Node.sites (word : Text) : Node → List (List Text)
  | .literal t => List.replicate (occurrences word t) []
  | .var _ => []
  | .each path children => (sites word children).map (path :: ·)

/-- The sites of a word in a forest. -/
def sites (word : Text) : List Node → List (List Text)
  | [] => []
  | node :: nodes => node.sites word ++ sites word nodes
end

/-- The items for which the innermost of some nested blocks is repeated. -/
def runs : List Text → Value → List Value
  | [], scope => [scope]
  | path :: paths, scope => (repeated (resolve scope path)).flatMap (runs paths)

theorem runs_mapStrings (f : Text → Text) (paths : List Text) (scope : Value) :
    runs paths (scope.mapStrings f) = (runs paths scope).map (Value.mapStrings f) := by
  induction paths generalizing scope with
  | nil => rfl
  | cons path paths ih =>
    simp only [runs, resolve_mapStrings, repeated_mapStrings, List.flatMap_map, List.map_flatMap, ih]

/-! ## Counting runs -/

theorem length_flatMap_append (f g : α → List β) (l : List α) :
    (l.flatMap fun a => f a ++ g a).length = (l.flatMap f).length + (l.flatMap g).length := by
  induction l with
  | nil => rfl
  | cons a l ih =>
    simp only [List.flatMap_cons, List.length_append, ih]
    omega

/-- It does not matter for the number of runs whether sites or items are gone through first. -/
theorem length_flatMap_comm (f : α → β → List γ) (l : List α) (l' : List β) :
    (l.flatMap fun a => l'.flatMap (f a)).length =
      (l'.flatMap fun b => l.flatMap fun a => f a b).length := by
  induction l with
  | nil => simp
  | cons a l ih => simp only [List.flatMap_cons, List.length_append, length_flatMap_append, ih]

section
variable {word : Text} (hne : word ≠ [])
include hne

theorem occurrences_flatMap {f : α → Text} {l : List α} (h : ∀ a ∈ l, Detached word (f a))
    {g : α → List β} (hg : ∀ a ∈ l, occurrences word (f a) = (g a).length) :
    occurrences word (l.flatMap f) = (l.flatMap g).length := by
  induction l with
  | nil => exact occurrences_nil hne
  | cons a l ih =>
    obtain ⟨ha, hl⟩ := List.forall_mem_cons.1 h
    obtain ⟨hga, hgl⟩ := List.forall_mem_cons.1 hg
    rw [List.flatMap_cons, List.flatMap_cons, List.length_append,
      occurrences_append hne (.flatMap hl), hga, ih hl hgl]

/-- A word shows up in an expansion once for each run of the blocks around one of its sites. -/
theorem occurrences_expand {nodes : List Node} {scope : Value}
    (hdetached : ∀ piece ∈ traceAll nodes scope, Detached word piece.text)
    (hinserted : ∀ piece ∈ traceAll nodes scope, piece.isLiteral = false →
      occurrences word piece.text = 0) :
    occurrences word (expand nodes scope) =
      ((sites word nodes).flatMap fun paths => runs paths scope).length := by
  induction nodes using forestInduction generalizing scope with
  | nil => exact occurrences_nil hne
  | literal text nodes ih =>
    simp only [traceAll_literal, List.forall_mem_cons] at hdetached hinserted
    have hrest : Detached word (expand nodes scope) := .flatMap hdetached.2
    rw [expand_literal, occurrences_append hne hrest, ih hdetached.2 hinserted.2]
    simp [sites, Node.sites, runs]
  | var path nodes ih =>
    simp only [traceAll_var, List.forall_mem_append] at hdetached hinserted
    have hrest : Detached word (expand nodes scope) := .flatMap hdetached.2
    have hnone : occurrences word ((inserted (resolve scope path)).flatMap Piece.text) = 0 := by
      rw [occurrences_flatMap hne hdetached.1 (g := fun _ => ([] : List Unit)) fun piece h =>
        hinserted.1 piece h (isLiteral_of_mem_inserted h)]
      simp
    rw [expand_var, occurrences_append hne hrest, hnone, Nat.zero_add, ih hdetached.2 hinserted.2]
    simp [sites, Node.sites]
  | each path children nodes ihc ih =>
    simp only [traceAll_each, List.forall_mem_append, List.forall_mem_flatMap] at hdetached hinserted
    have hrest : Detached word (expand nodes scope) := .flatMap hdetached.2
    have hitem : ∀ item ∈ repeated (resolve scope path), Detached word (expand children item) :=
      fun item h => .flatMap (hdetached.1 item h)
    rw [expand_each, occurrences_append hne hrest, ih hdetached.2 hinserted.2,
      occurrences_flatMap hne hitem fun item h => ihc (hdetached.1 item h) (hinserted.1 item h),
      length_flatMap_comm]
    simp [sites, Node.sites, runs, List.flatMap_map]

end

/-! ## Words of a source -/

/-- How often a word that ends in a bare opening brace is in a source is told by the template and
the résumé alone. -/
theorem occurrences_expand_sanitize {word : Text} (hword : EndsBare word) {nodes : List Node}
    (hnodes : ∀ t ∈ literals nodes, Detached word t) (v : Value) :
    occurrences word (expand nodes (sanitize v)) =
      ((sites word nodes).flatMap fun paths => runs paths v).length := by
  have hguarded : ∀ piece ∈ traceAll nodes (sanitize v), piece.isLiteral = false →
      Latex.Guarded piece.text := by
    intro piece h hp
    refine inserted_of_sanitize Latex.guarded_escape (fun t ht => ?_) h hp
    exact Latex.guarded_of_not_mem fun hbrace => absurd (ht _ hbrace) (by decide)
  have hne : word ≠ [] := by
    obtain ⟨front, c, rfl, -⟩ := hword
    simp
  have hdetached : ∀ piece ∈ traceAll nodes (sanitize v), Detached word piece.text := by
    intro piece h
    cases hp : piece.isLiteral with
    | false => exact (hguarded piece h hp).detached hword
    | true =>
      cases piece with
      | literal t => exact hnodes t (mem_literals_of_mem_traceAll h)
      | string | display => cases hp
  rw [occurrences_expand hne hdetached fun piece h hp =>
    (hguarded piece h hp).occurrences_eq_zero hword]
  simp only [sanitize_eq_mapStrings, runs_mapStrings, ← List.map_flatMap, List.length_map]

end Curriculum.Template
