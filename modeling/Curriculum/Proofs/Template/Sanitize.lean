import Curriculum.Proofs.Json.Strings
import Curriculum.Proofs.Template.Forest

/-! # Expansion of sanitized values

Nothing that a template does depends on what the strings of a value say: the paths find the same
positions and the blocks run over the same items when the strings are changed
(`acts_mapStrings`). So a template may be expanded against a sanitized value or have the strings
that it inserts escaped, and the result is the same. What it inserts are scalars of the value
(`mem_leaves_of_mem_traceAll`), and a key of an object is none. -/

namespace Curriculum.Template

open Json (Value Members)
open Latex (escape sanitize sanitize_eq_mapStrings)

/-- The piece with `f` applied to it when it is a string of the scope. -/
def Piece.mapString (f : Text → Text) : Piece → Piece
  | .string s => .string (f s)
  | .literal t => .literal t
  | .display t => .display t

/-! ## Positions -/

section
variable (f : Text → Text)

theorem child_mapStrings (v : Value) (segment : Text) :
    child (v.mapStrings f) segment = (child v segment).map (Value.mapStrings f) := by
  cases v with
  | array items =>
    rw [Value.mapStrings, Value.mapStringsItems_eq_map, child, child]
    cases Text.word64? segment with
    | none => rfl
    | some i => exact List.getElem?_map
  | object members =>
    rw [Value.mapStrings, Value.mapStringsMembers_eq_map]
    exact lookup_map (fun _ => Value.mapStrings f) segment members
  | null | bool | number | string => rw [Value.mapStrings]; rfl

theorem foldlM_child_mapStrings (segments : List Text) (v : Value) :
    segments.foldlM child (v.mapStrings f) =
      (segments.foldlM child v).map (Value.mapStrings f) := by
  induction segments generalizing v with
  | nil => rfl
  | cons segment segments ih =>
    simp only [List.foldlM_cons, child_mapStrings]
    cases child v segment with
    | none => rfl
    | some w => exact ih w

/-- A path finds the same position whatever the strings say. -/
theorem resolve_mapStrings (v : Value) (path : Text) :
    resolve (v.mapStrings f) path = (resolve v path).map (Value.mapStrings f) := by
  simp only [resolve]
  split
  · rfl
  · exact foldlM_child_mapStrings f _ v

theorem inserted_mapStrings (v? : Option Value) :
    inserted (v?.map (Value.mapStrings f)) = (inserted v?).map (Piece.mapString f) := by
  cases v? with
  | none => rfl
  | some v =>
    cases v with
    | bool b => cases b <;> simp [Value.mapStrings, inserted, Piece.mapString]
    | null | number | string | array | object =>
      simp [Value.mapStrings, inserted, Piece.mapString]

theorem repeated_mapStrings (v? : Option Value) :
    repeated (v?.map (Value.mapStrings f)) = (repeated v?).map (Value.mapStrings f) := by
  cases v? with
  | none => rfl
  | some v =>
    cases v <;> simp [Value.mapStrings, Value.mapStringsItems_eq_map, repeated]

end

/-! ## Acts -/

/-- An act of an expansion: a block goes on to an item, or a piece is written. -/
inductive Act where
  | enter (path : Text) (item : Value)
  | write (piece : Piece)

/-- The piece that an act writes. -/
def Act.piece? : Act → Option Piece
  | .write piece => some piece
  | .enter .. => none

/-- The item that an act goes on to, behind the path of its block. -/
def Act.item? : Act → Option (Text × Value)
  | .write _ => none
  | .enter path item => some (path, item)

def Act.mapStrings (f : Text → Text) : Act → Act
  | .enter path item => .enter path (item.mapStrings f)
  | .write piece => .write (piece.mapString f)

mutual
def Node.acts : Node → Value → List Act
  | .literal t, _ => [.write (.literal t)]
  | .var path, scope => (inserted (resolve scope path)).map .write
  | .each path children, scope =>
    (repeated (resolve scope path)).flatMap fun item => .enter path item :: acts children item

/-- What the expansion of a forest does, in order. -/
def acts : List Node → Value → List Act
  | [], _ => []
  | node :: nodes, scope => node.acts scope ++ acts nodes scope
end

mutual
/-- The items that a node is repeated for, each behind the path of its block, in the order of the
expansion. -/
def Node.repetitions : Node → Value → List (Text × Value)
  | .literal _, _ | .var _, _ => []
  | .each path children, scope =>
    (repeated (resolve scope path)).flatMap fun item =>
      (path, item) :: repetitions children item

/-- The items that the blocks of a forest are repeated for. -/
def repetitions : List Node → Value → List (Text × Value)
  | [], _ => []
  | node :: nodes, scope => node.repetitions scope ++ repetitions nodes scope
end

/-- The acts write the trace. -/
theorem filterMap_piece_acts (nodes : List Node) (v : Value) :
    (acts nodes v).filterMap Act.piece? = traceAll nodes v := by
  induction nodes using forestInduction generalizing v with
  | nil => simp [acts]
  | literal text nodes ih => simp [acts, Node.acts, Act.piece?, ih]
  | var path nodes ih =>
    simp [acts, Node.acts, List.filterMap_map, Function.comp_def, Act.piece?, ih]
  | each path children nodes ihc ih =>
    simp [acts, Node.acts, List.filterMap_flatMap, List.filterMap_cons, Act.piece?, ihc, ih]

/-- The items that the acts go on to are the repetitions. -/
theorem filterMap_item_acts (nodes : List Node) (v : Value) :
    (acts nodes v).filterMap Act.item? = repetitions nodes v := by
  induction nodes using forestInduction generalizing v with
  | nil => simp [acts, repetitions]
  | literal text nodes ih =>
    simp [acts, Node.acts, repetitions, Node.repetitions, List.filterMap_cons, Act.item?, ih]
  | var path nodes ih =>
    simp [acts, Node.acts, repetitions, Node.repetitions, List.filterMap_map, Function.comp_def,
      Act.item?, ih]
  | each path children nodes ihc ih =>
    simp [acts, Node.acts, repetitions, Node.repetitions, List.filterMap_flatMap, Act.item?,
      ihc, ih]

/-- A block without blocks in it writes what its children write for each of its repetitions. -/
theorem trace_each_eq_flatMap {children : List Node}
    (hchildren : ∀ v, repetitions children v = []) (v : Value) :
    (Node.each path children).trace v =
      ((Node.each path children).repetitions v).flatMap fun (_, item) => traceAll children item := by
  simp [Node.trace, Node.repetitions, hchildren, List.flatMap_assoc]

section
variable (f : Text → Text)

/-- An expansion takes the same acts whatever the strings say. -/
theorem acts_mapStrings (nodes : List Node) (v : Value) :
    acts nodes (v.mapStrings f) = (acts nodes v).map (Act.mapStrings f) := by
  induction nodes using forestInduction generalizing v with
  | nil => simp [acts]
  | literal text nodes ih => simp [acts, Node.acts, Act.mapStrings, Piece.mapString, ih]
  | var path nodes ih =>
    simp [acts, Node.acts, resolve_mapStrings, inserted_mapStrings, Act.mapStrings, ih]
  | each path children nodes ihc ih =>
    simp [acts, Node.acts, resolve_mapStrings, repeated_mapStrings, Act.mapStrings, ihc, ih,
      List.flatMap_map, List.map_flatMap]

theorem traceAll_mapStrings (nodes : List Node) (v : Value) :
    traceAll nodes (v.mapStrings f) = (traceAll nodes v).map (Piece.mapString f) := by
  have hpiece : ∀ act : Act,
      (act.mapStrings f).piece? = act.piece?.map (Piece.mapString f) := by
    rintro (_ | _) <;> rfl
  simp only [← filterMap_piece_acts, acts_mapStrings, List.filterMap_map, List.map_filterMap,
    Function.comp_def, hpiece]

theorem repetitions_mapStrings (nodes : List Node) (v : Value) :
    repetitions nodes (v.mapStrings f) =
      (repetitions nodes v).map fun (path, item) => (path, item.mapStrings f) := by
  have hitem : ∀ act : Act, (act.mapStrings f).item? =
      act.item?.map fun (path, item) => (path, item.mapStrings f) := by
    rintro (_ | _) <;> rfl
  simp only [← filterMap_item_acts, acts_mapStrings, List.filterMap_map, List.map_filterMap,
    Function.comp_def, hitem]

end

/-! ## Scalars -/

mutual
/-- The scalars of a value as they are inserted. -/
def leaves : Value → List Piece
  | .array items => leavesOfItems items
  | .object members => leavesOfMembers members
  | v => inserted (some v)

/-- The scalars of some items. -/
def leavesOfItems : List Value → List Piece
  | [] => []
  | v :: vs => leaves v ++ leavesOfItems vs

/-- The scalars of the values of some members. -/
def leavesOfMembers : Members → List Piece
  | [] => []
  | (_, v) :: ms => leaves v ++ leavesOfMembers ms
end

theorem leaves_subset_items {items : List Value} (h : v ∈ items) :
    leaves v ⊆ leavesOfItems items := by
  induction items with
  | nil => cases h
  | cons w ws ih =>
    rw [leavesOfItems]
    rcases List.mem_cons.1 h with rfl | h
    · exact List.subset_append_left ..
    · exact List.subset_append_of_subset_right _ (ih h)

theorem leaves_subset_members {members : Members} (h : (key, v) ∈ members) :
    leaves v ⊆ leavesOfMembers members := by
  induction members with
  | nil => cases h
  | cons m ms ih =>
    rw [leavesOfMembers]
    rcases List.mem_cons.1 h with rfl | h
    · exact List.subset_append_left ..
    · exact List.subset_append_of_subset_right _ (ih h)

theorem leaves_subset_of_child {v w : Value} {segment : Text} (h : child v segment = some w) :
    leaves w ⊆ leaves v := by
  unfold child at h
  split at h
  · rw [leaves]
    exact leaves_subset_members (mem_of_lookup h)
  · obtain ⟨i, _, h⟩ := Option.bind_eq_some_iff.1 h
    rw [leaves]
    exact leaves_subset_items (List.mem_of_getElem? h)
  · cases h

theorem leaves_subset_of_foldlM {segments : List Text} {v w : Value}
    (h : segments.foldlM child v = some w) : leaves w ⊆ leaves v := by
  induction segments generalizing v with
  | nil =>
    cases h
    exact List.Subset.refl _
  | cons segment segments ih =>
    rw [List.foldlM_cons] at h
    obtain ⟨u, hu, h⟩ := Option.bind_eq_some_iff.1 h
    exact List.Subset.trans (ih h) (leaves_subset_of_child hu)

theorem leaves_subset_of_resolve {v w : Value} (h : resolve v path = some w) :
    leaves w ⊆ leaves v := by
  simp only [resolve] at h
  split at h
  · cases h
    exact List.Subset.refl _
  · exact leaves_subset_of_foldlM h

theorem inserted_subset_leaves (v : Value) : inserted (some v) ⊆ leaves v := by
  cases v <;> simp [inserted, leaves]

/-- What a template inserts is a scalar of the value. -/
theorem mem_leaves_of_mem_traceAll {nodes : List Node} {v : Value} (h : piece ∈ traceAll nodes v)
    (hp : piece.isLiteral = false) : piece ∈ leaves v := by
  induction nodes using forestInduction generalizing v with
  | nil => simp at h
  | literal text nodes ih =>
    rcases List.mem_cons.1 (traceAll_literal ▸ h) with rfl | h
    · cases hp
    · exact ih h
  | var path nodes ih =>
    rcases List.mem_append.1 (traceAll_var ▸ h) with h | h
    · cases hw : resolve v path with
      | none => simp [hw, inserted] at h
      | some w => exact leaves_subset_of_resolve hw (inserted_subset_leaves w (hw ▸ h))
    · exact ih h
  | each path children nodes ihc ih =>
    rcases List.mem_append.1 (traceAll_each ▸ h) with h | h
    · obtain ⟨item, hi, h⟩ := List.mem_flatMap.1 h
      have hitem := ihc h
      cases hw : resolve v path with
      | none => simp [hw, repeated] at hi
      | some w =>
        refine leaves_subset_of_resolve hw ?_
        cases w with
        | array items =>
          rw [leaves]
          exact leaves_subset_items (by simpa [hw, repeated] using hi) hitem
        | null | bool | number | string | object => simp [hw, repeated] at hi
    · exact ih h

/-- Expanding commutes with sanitizing: the pieces against a sanitized value are the pieces against
the value with the strings among them escaped, and the blocks run over the same items. However the
strings are changed, the template takes the same course. All that comes out is text of the template
or a scalar of the value. -/
theorem traceAll_sanitize (nodes : List Node) (v : Value) :
    traceAll nodes (sanitize v) = (traceAll nodes v).map (Piece.mapString escape) ∧
      expand nodes (sanitize v) =
        ((traceAll nodes v).map (Piece.mapString escape)).flatMap Piece.text ∧
      repetitions nodes (sanitize v) =
        ((repetitions nodes v).map fun (path, item) => (path, sanitize item)) ∧
      (∀ f, traceAll nodes (v.mapStrings f) = (traceAll nodes v).map (Piece.mapString f)) ∧
      ∀ piece ∈ traceAll nodes v,
        (∃ t ∈ literals nodes, piece = .literal t) ∨ piece ∈ leaves v := by
  have htrace : traceAll nodes (sanitize v) = (traceAll nodes v).map (Piece.mapString escape) := by
    rw [sanitize_eq_mapStrings, traceAll_mapStrings]
  refine ⟨htrace, by rw [expand, htrace], ?_, fun f => traceAll_mapStrings f nodes v, ?_⟩
  · simp only [sanitize_eq_mapStrings, repetitions_mapStrings]
  · intro piece h
    cases hp : piece with
    | literal t => exact .inl ⟨t, mem_literals_of_mem_traceAll (hp ▸ h), rfl⟩
    | string s | display s => exact .inr (hp ▸ mem_leaves_of_mem_traceAll h (by rw [hp]; rfl))

end Curriculum.Template
