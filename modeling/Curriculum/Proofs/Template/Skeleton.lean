import Curriculum.Proofs.Latex.Command
import Curriculum.Proofs.Template.Group

/-! # Skeletons

The skeleton of a template has a literal for each command of its literals, inside of the same blocks.
Nothing that is inserted from a sanitized value has a command in it, so the commands of a source are
told by the skeleton and the value alone (`commands_expand_sanitize`). -/

namespace Curriculum.Template

open Json (Value)
open Latex (Closed Silent commands escape sanitize sanitize_eq_mapStrings)

/-- The commands that a piece brings from the template. -/
def Piece.commands : Piece → List Text
  | .literal t => Latex.commands t
  | .string _ | .display _ => []

theorem Piece.commands_mapString (f : Text → Text) (piece : Piece) :
    (piece.mapString f).commands = piece.commands := by
  cases piece <;> simp only [mapString, Piece.commands]

mutual
/-- A literal for each command of a node that is to be kept. -/
def Node.skeleton (keep : Text → Bool) : Node → List Node
  | .literal t => ((commands t).filter keep).map .literal
  | .var _ => []
  | .each path children => [.each path (skeleton keep children)]

def skeleton (keep : Text → Bool) : List Node → List Node
  | [] => []
  | node :: nodes => node.skeleton keep ++ skeleton keep nodes
end

section
variable {keep : Text → Bool} {nodes children : List Node} {scope : Value}

theorem traceAll_map_literal (ts : List Text) (scope : Value) :
    traceAll (ts.map .literal) scope = ts.map .literal := by
  induction ts with
  | nil => exact traceAll_nil
  | cons t ts ih => rw [List.map_cons, List.map_cons, traceAll_literal, ih]

/-- The skeleton is traced as the template is. -/
theorem traceAll_skeleton (keep : Text → Bool) (nodes : List Node) (scope : Value) :
    (traceAll (skeleton keep nodes) scope).map Piece.text =
      ((traceAll nodes scope).flatMap Piece.commands).filter keep := by
  induction nodes using forestInduction generalizing scope with
  | nil => simp [skeleton]
  | literal t nodes ih =>
    rw [skeleton, Node.skeleton, traceAll_append, List.map_append, ih, traceAll_map_literal,
      List.map_map, traceAll_literal, List.flatMap_cons, List.filter_append]
    exact congrArg (· ++ _) (List.map_id _)
  | var path nodes ih =>
    -- what a variable brings is no literal, whatever its value
    have hnone : (inserted (resolve scope path)).flatMap Piece.commands = [] := by
      rw [List.flatMap_eq_nil_iff]
      intro piece hpiece
      have hinserted := isLiteral_of_mem_inserted hpiece
      cases piece with
      | literal t => cases hinserted
      | string | display => rfl
    rw [skeleton, Node.skeleton, List.nil_append, ih, traceAll_var, List.flatMap_append, hnone,
      List.nil_append]
  | each path children nodes ihc ih =>
    have hitems : ((repeated (resolve scope path)).flatMap (traceAll (skeleton keep children))).map
        Piece.text = (((repeated (resolve scope path)).flatMap (traceAll children)).flatMap
          Piece.commands).filter keep := by
      simp only [List.map_flatMap, List.flatMap_assoc, List.filter_flatMap, ihc]
    rw [skeleton, Node.skeleton, List.singleton_append, traceAll_each, traceAll_each, List.map_append,
      ih, hitems, List.flatMap_append, List.filter_append]

end

/-! ## Comparing templates -/

mutual
def Node.same : Node → Node → Bool
  | .literal t, .literal u => t = u
  | .var path, .var path' => path = path'
  | .each path children, .each path' children' => path = path' && same children children'
  | _, _ => false

def same : List Node → List Node → Bool
  | [], [] => true
  | node :: nodes, node' :: nodes' => node.same node' && same nodes nodes'
  | _, _ => false
end

theorem eq_of_same {nodes nodes' : List Node} (h : same nodes nodes') : nodes = nodes' := by
  induction nodes using forestInduction generalizing nodes' with
  | nil =>
    cases nodes' with
    | nil => rfl
    | cons node' nodes' => simp [same] at h
  | literal t nodes ih =>
    match nodes', h with
    | .literal u :: nodes', h =>
      simp only [same, Node.same, Bool.and_eq_true, decide_eq_true_eq] at h
      rw [h.1, ih h.2]
  | var path nodes ih =>
    match nodes', h with
    | .var path' :: nodes', h =>
      simp only [same, Node.same, Bool.and_eq_true, decide_eq_true_eq] at h
      rw [h.1, ih h.2]
  | each path children nodes ihc ih =>
    match nodes', h with
    | .each path' children' :: nodes', h =>
      simp only [same, Node.same, Bool.and_eq_true, decide_eq_true_eq] at h
      rw [h.1.1, ihc h.1.2, ih h.2]

/-! ## Commands of a source -/

theorem silent_of_mem_traceAll {nodes : List Node} {v : Value}
    (h : piece ∈ traceAll nodes (sanitize v)) (hp : piece.isLiteral = false) : Silent piece.text :=
  inserted_of_sanitize Latex.silent_escape (fun _ => Latex.silent_of_forall_isPlain) h hp

theorem commands_of_mem_traceAll {nodes : List Node} {v : Value}
    (hnodes : ∀ t ∈ literals nodes, Closed t) (h : piece ∈ traceAll nodes (sanitize v)) :
    Closed piece.text ∧ commands piece.text = piece.commands := by
  cases piece with
  | literal t => exact ⟨hnodes t (mem_literals_of_mem_traceAll h), rfl⟩
  | string | display =>
    have hsilent := silent_of_mem_traceAll h rfl
    exact ⟨hsilent.closed, hsilent.commands_eq⟩

/-- The commands of a source are those of the template, as often as the blocks around them run. -/
theorem commands_expand_sanitize {nodes : List Node} (hnodes : ∀ t ∈ literals nodes, Closed t)
    (keep : Text → Bool) (v : Value) :
    (commands (expand nodes (sanitize v))).filter keep =
      (traceAll (skeleton keep nodes) v).map Piece.text := by
  have hclosed : ∀ piece ∈ traceAll nodes (sanitize v), Closed piece.text :=
    fun _ h => (commands_of_mem_traceAll hnodes h).1
  have hcommands : ∀ piece ∈ traceAll nodes (sanitize v), commands piece.text = piece.commands :=
    fun _ h => (commands_of_mem_traceAll hnodes h).2
  rw [expand, Latex.commands_flatMap hclosed, List.flatMap_congr hcommands, traceAll_skeleton,
    sanitize_eq_mapStrings, traceAll_mapStrings, List.flatMap_map]
  simp only [Piece.commands_mapString]

end Curriculum.Template
