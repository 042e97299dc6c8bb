import Curriculum.Proofs.Template.Lossless
import Curriculum.Proofs.Template.Path

/-! # Blocks as repeated text

A block says the same as its children written out once for each item, with paths that lead through
the item. One round does this to the blocks that are outermost (`traceAll_unrollOnce`), and rounds
go on until no block is left, which takes as many of them as blocks are nested. What remains are
literals and variables that are read against the scope of the whole template (`expand_unroll`). -/

namespace Curriculum.Template

open Json (Value)

/-! ## Depth of blocks -/

mutual
/-- How deep blocks are nested in a node. -/
def Node.height : Node → Nat
  | .literal _ | .var _ => 0
  | .each _ children => height children + 1

/-- How deep blocks are nested in a forest. -/
def height : List Node → Nat
  | [] => 0
  | node :: nodes => max node.height (height nodes)
end

theorem height_le_iff {nodes : List Node} : height nodes ≤ n ↔ ∀ node ∈ nodes, node.height ≤ n := by
  induction nodes with
  | nil => simp [height]
  | cons node nodes ih => rw [height, Nat.max_le, ih, List.forall_mem_cons]

def Node.isBlock : Node → Bool
  | .each .. => true
  | .literal _ | .var _ => false

theorem Node.height_eq_zero_iff {node : Node} : node.height = 0 ↔ node.isBlock = false := by
  cases node <;> simp [height, isBlock]

/-! ## Unrolling -/

/-- A child of a block over `p` as it reads outside of the block, for the item at a position. What
lies below the child is read against items that the child finds, and so it stays. -/
def Node.atItem (p : Text) (position : Nat) : Node → Node
  | .literal t => .literal t
  | .var q => .var (itemPath p position q)
  | .each q children => .each (itemPath p position q) children

/-- A block as its children once for each item of the array that it is over. A block over anything
else has no items. -/
def Node.unrollOnce (scope : Value) : Node → List Node
  | .each p children =>
    match resolve scope p with
    | some (.array items) =>
      (List.range items.length).flatMap fun position => children.map (Node.atItem p position)
    | _ => []
  | node => [node]

/-- The outermost blocks unrolled. -/
def unrollOnce (scope : Value) (nodes : List Node) : List Node :=
  nodes.flatMap (Node.unrollOnce scope)

/-- A node after a round is an old one that is no block, or comes from a child of a block. -/
theorem mem_unrollOnce {scope : Value} {nodes : List Node} {new : Node}
    (h : new ∈ unrollOnce scope nodes) :
    (new ∈ nodes ∧ new.isBlock = false) ∨
      ∃ p children position child, .each p children ∈ nodes ∧ child ∈ children ∧
        new = child.atItem p position := by
  obtain ⟨node, hnode, h⟩ := List.mem_flatMap.1 h
  cases node with
  | literal | var =>
    cases List.mem_singleton.1 h
    exact .inl ⟨hnode, rfl⟩
  | each p children =>
    rw [Node.unrollOnce] at h
    split at h
    · obtain ⟨position, -, h⟩ := List.mem_flatMap.1 h
      obtain ⟨child, hchild, rfl⟩ := List.mem_map.1 h
      exact .inr ⟨p, children, position, child, hnode, hchild, rfl⟩
    · cases h

theorem Node.height_atItem (node : Node) (p : Text) (position : Nat) :
    (node.atItem p position).height = node.height := by
  cases node <;> simp [atItem, height]

/-- A round takes away one level of blocks. -/
theorem height_unrollOnce (scope : Value) (nodes : List Node) :
    height (unrollOnce scope nodes) ≤ height nodes - 1 := by
  rw [height_le_iff]
  intro new hnew
  rcases mem_unrollOnce hnew with ⟨-, hblock⟩ | ⟨p, children, position, child, hnode, hchild, rfl⟩
  · rw [Node.height_eq_zero_iff.2 hblock]
    exact Nat.zero_le _
  · have hbelow : child.height ≤ height children := height_le_iff.1 (Nat.le_refl _) child hchild
    have hblock : height children + 1 ≤ height nodes := by
      have := height_le_iff.1 (Nat.le_refl (height nodes)) _ hnode
      rwa [Node.height] at this
    rw [Node.height_atItem]
    omega

theorem height_pos_of_any_isBlock {nodes : List Node} (h : nodes.any Node.isBlock) :
    0 < height nodes := by
  obtain ⟨node, hnode, hblock⟩ := List.any_eq_true.1 h
  have hle : node.height ≤ height nodes := height_le_iff.1 (Nat.le_refl _) node hnode
  have hne : node.height ≠ 0 := fun h => by simp [Node.height_eq_zero_iff.1 h] at hblock
  omega

/-- The nodes unrolled again and again, until no block is left. -/
def unroll (scope : Value) (nodes : List Node) : List Node :=
  if _block : nodes.any Node.isBlock then unroll scope (unrollOnce scope nodes) else nodes
termination_by height nodes
decreasing_by
  have := height_unrollOnce scope nodes
  have := height_pos_of_any_isBlock _block
  omega

/-! ## Trimmed paths -/

def Node.path? : Node → Option Text
  | .literal _ => none
  | .var path | .each path _ => some path

/-- No path of the forest has blanks at its ends. -/
def Trimmed (nodes : List Node) : Prop :=
  ∀ level ∈ levels nodes, ∀ node ∈ level, ∀ path ∈ node.path?, Text.trim path = path

instance : Decidable (Trimmed nodes) := inferInstanceAs (Decidable (∀ level ∈ levels nodes, _))

/-- The paths of a body are trimmed when it is parsed. -/
theorem trimmed_parse (body : Text) : Trimmed (parse body) := by
  intro level hlevel node hnode path hpath
  have hproper := (normal_parse body level hlevel).1 node hnode
  cases node with
  | literal => cases hpath
  | var =>
    cases hpath
    exact hproper.1.1
  | each =>
    cases hpath
    exact hproper.1

theorem trimmed_iff {nodes : List Node} :
    Trimmed nodes ↔ (∀ node ∈ nodes, ∀ path ∈ node.path?, Text.trim path = path) ∧
      ∀ path children, .each path children ∈ nodes → Trimmed children := by
  constructor
  · intro h
    refine ⟨h nodes List.mem_cons_self, fun path children hmem level hlevel => ?_⟩
    exact h level (List.mem_cons_of_mem _ (mem_levelsBelow.2 ⟨path, children, hmem, hlevel⟩))
  · rintro ⟨hpaths, hbelow⟩ level hlevel
    rcases List.mem_cons.1 hlevel with rfl | hlevel
    · exact hpaths
    · obtain ⟨path, children, hmem, hlevel⟩ := mem_levelsBelow.1 hlevel
      exact hbelow path children hmem level hlevel

theorem Trimmed.unrollOnce {nodes : List Node} (h : Trimmed nodes) (scope : Value) :
    Trimmed (unrollOnce scope nodes) := by
  obtain ⟨hpaths, hbelow⟩ := trimmed_iff.1 h
  refine trimmed_iff.2 ⟨fun new hnew path hpath => ?_, fun path below hnew => ?_⟩
  · rcases mem_unrollOnce hnew with ⟨hmem, -⟩ | ⟨p, children, position, child, hnode, hchild, rfl⟩
    · exact hpaths new hmem path hpath
    · have hp := hpaths _ hnode p rfl
      have hq := (trimmed_iff.1 (hbelow p children hnode)).1 child hchild
      cases child with
      | literal => cases hpath
      | var q | each q _ =>
        cases hpath
        exact trim_itemPath position hp (hq q rfl)
  · rcases mem_unrollOnce hnew with ⟨-, hblock⟩ | ⟨p, children, position, child, hnode, hchild, heq⟩
    · cases hblock
    · have hchildren := (trimmed_iff.1 (hbelow p children hnode)).2
      cases child with
      | literal | var => cases heq
      | each q below =>
        cases heq
        exact hchildren q below hchild

/-! ## Expansion -/

section
variable {scope : Value} {items : List Value} {p : Text}
  (hp : Text.trim p = p) (hscope : scope.longest ≤ 0x10000000000000000)
  (hitems : resolve scope p = some (.array items))
include hp hscope hitems

theorem resolve_item {position : Nat} (h : position < items.length) {q : Text}
    (hq : Text.trim q = q) :
    resolve scope (itemPath p position q) = resolve items[position] q := by
  have hword : position < 0x10000000000000000 :=
    (h.trans_le (Json.Value.length_le_longest hitems)).trans_le hscope
  rw [resolve_itemPath position hp hq, hitems, Option.bind_some, child,
    Text.word64?_digits hword, Option.bind_some, List.getElem?_eq_getElem h, Option.bind_some]

theorem trace_atItem {position : Nat} (h : position < items.length) {node : Node}
    (hnode : ∀ path ∈ node.path?, Text.trim path = path) :
    (node.atItem p position).trace scope = node.trace items[position] := by
  cases node with
  | literal t => simp [Node.atItem, Node.trace]
  | var q =>
    have hq := hnode q rfl
    simp only [Node.atItem, Node.trace, resolve_item hp hscope hitems h hq]
  | each q children =>
    have hq := hnode q rfl
    simp only [Node.atItem, Node.trace, resolve_item hp hscope hitems h hq]

/-- The children once for each position say what they say for each item. -/
theorem traceAll_copies {children : List Node}
    (hchildren : ∀ node ∈ children, ∀ path ∈ node.path?, Text.trim path = path) :
    traceAll ((List.range items.length).flatMap fun position =>
        children.map (Node.atItem p position)) scope =
      items.flatMap (traceAll children) := by
  have hcopy : ∀ position (h : position < items.length),
      (children.map (Node.atItem p position)).flatMap (·.trace scope) =
        traceAll children items[position] := by
    intro position h
    rw [traceAll_eq_flatMap, List.flatMap_map]
    refine List.flatMap_congr fun node hnode => ?_
    exact trace_atItem hp hscope hitems h (hchildren node hnode)
  calc _ = (List.range items.length).flatMap fun position =>
        (children.map (Node.atItem p position)).flatMap (·.trace scope) := by
        rw [traceAll_eq_flatMap, List.flatMap_assoc]
    _ = (List.finRange items.length).flatMap fun position => traceAll children items[position] := by
        rw [← List.map_coe_finRange_eq_range, List.flatMap_map]
        exact List.flatMap_congr fun position _ => hcopy position position.isLt
    _ = ((List.finRange items.length).map items.get).flatMap (traceAll children) := by
        rw [List.flatMap_map]
        rfl
    _ = items.flatMap (traceAll children) := by rw [List.map_get_finRange]

end

/-- A round leaves every piece of the expansion as it is. -/
theorem traceAll_unrollOnce {nodes : List Node} {scope : Value} (hnodes : Trimmed nodes)
    (hscope : scope.longest ≤ 0x10000000000000000) :
    traceAll (unrollOnce scope nodes) scope = traceAll nodes scope := by
  obtain ⟨hpaths, hbelow⟩ := trimmed_iff.1 hnodes
  rw [traceAll_eq_flatMap nodes, traceAll_eq_flatMap, unrollOnce, List.flatMap_assoc]
  refine List.flatMap_congr fun node hnode => ?_
  rw [← traceAll_eq_flatMap]
  cases node with
  | literal | var => simp [Node.unrollOnce, Node.trace]
  | each p children =>
    rw [Node.unrollOnce, Node.trace]
    split
    · next items hitems =>
      have hchildren := (trimmed_iff.1 (hbelow p children hnode)).1
      rw [traceAll_copies (hpaths _ hnode p rfl) hscope hitems hchildren, hitems, repeated]
    · next hnone =>
      have hrepeated : repeated (resolve scope p) = [] := by
        unfold repeated
        split
        · next items hitems => exact absurd hitems (hnone items)
        · rfl
      rw [hrepeated, traceAll_nil, List.flatMap_nil]

theorem isBlock_of_mem_unroll {scope : Value} {nodes : List Node} {node : Node}
    (h : node ∈ unroll scope nodes) : node.isBlock = false := by
  fun_induction unroll scope nodes with
  | case1 nodes hblock ih => exact ih h
  | case2 nodes hblock => simpa using fun hnode => hblock (List.any_eq_true.2 ⟨node, h, hnode⟩)

theorem traceAll_unroll {nodes : List Node} {scope : Value} (hnodes : Trimmed nodes)
    (hscope : scope.longest ≤ 0x10000000000000000) :
    traceAll (unroll scope nodes) scope = traceAll nodes scope := by
  fun_induction unroll scope nodes with
  | case1 nodes hblock ih => rw [ih (hnodes.unrollOnce scope), traceAll_unrollOnce hnodes hscope]
  | case2 nodes hblock => rfl

/-- Blocks are unrolled indexing. Unrolling leaves literals and variables only, and read against the
scope of the whole template they say what the nodes say. No array in memory has more items than
words can count. -/
theorem expand_unroll (nodes : List Node) (scope : Value) (hnodes : Trimmed nodes)
    (hscope : scope.longest ≤ 0x10000000000000000) :
    (∀ node ∈ unroll scope nodes, (∃ t, node = .literal t) ∨ ∃ path, node = .var path) ∧
      traceAll (unroll scope nodes) scope = traceAll nodes scope ∧
      expand (unroll scope nodes) scope = expand nodes scope := by
  have htrace := traceAll_unroll hnodes hscope
  refine ⟨fun node hnode => ?_, htrace, by rw [expand, htrace, expand]⟩
  have hblock := isBlock_of_mem_unroll hnode
  cases node with
  | literal t => exact .inl ⟨t, rfl⟩
  | var path => exact .inr ⟨path, rfl⟩
  | each => cases hblock

/-- Blocks over the items of items, and over what is no array. -/
def gridBody : Text :=
  "\x7b\x7b#each rows\x7d\x7d[\x7b\x7b#each this\x7d\x7d\x7b\x7bthis\x7d\x7d,".toList ++
    "\x7b\x7b0\x7d\x7d \x7b\x7b/each\x7d\x7d]\x7b\x7b/each\x7d\x7d".toList

/-- Rows of a string, an object with a number for a key, and an array. One row is no array. -/
def gridScope : Value :=
  .object [("rows".toList, .array [
    .array [.string "a".toList, .object [("0".toList, .string "b".toList)]],
    .string "c".toList,
    .array [.array [.number (.int 1), .number (.int 2)]]])]

theorem expand_unroll_grid :
    Trimmed (parse gridBody) ∧ gridScope.longest ≤ 0x10000000000000000 ∧
      (∀ node ∈ unroll gridScope (parse gridBody),
        (∃ t, node = .literal t) ∨ ∃ path, node = .var path) ∧
      expand (unroll gridScope (parse gridBody)) gridScope = "[a, ,b ][][,1 ]".toList := by
  have hnodes : Trimmed (parse gridBody) := trimmed_parse gridBody
  have hscope : gridScope.longest ≤ 0x10000000000000000 := by decide
  obtain ⟨hflat, -, htext⟩ := expand_unroll (parse gridBody) gridScope hnodes hscope
  refine ⟨hnodes, hscope, hflat, ?_⟩
  rw [htext]
  decide +kernel

end Curriculum.Template
