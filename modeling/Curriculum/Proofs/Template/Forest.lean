import Curriculum.Template.Expand

/-! # Forests of nodes

The nodes of a body are a forest: siblings stand in a row, and a block has its children below it.
Everything about a forest is proved by one induction (`forestInduction`), and what the expansion
does is read off four equations, one for each kind of node. -/

namespace Curriculum.Template

/-- Induction over a forest. A block comes with the hypothesis for its children and the one for
the siblings behind it. -/
@[elab_as_elim]
theorem forestInduction {motive : List Node → Prop} (nil : motive [])
    (literal : ∀ text nodes, motive nodes → motive (.literal text :: nodes))
    (var : ∀ path nodes, motive nodes → motive (.var path :: nodes))
    (each : ∀ path children nodes, motive children → motive nodes →
      motive (.each path children :: nodes)) : ∀ nodes, motive nodes
  | [] => nil
  | .literal text :: nodes => literal text nodes (forestInduction nil literal var each nodes)
  | .var path :: nodes => var path nodes (forestInduction nil literal var each nodes)
  | .each path children :: nodes =>
    each path children nodes (forestInduction nil literal var each children)
      (forestInduction nil literal var each nodes)

/-! ## Literals -/

mutual
/-- The literals in a node. -/
def Node.literals : Node → List Text
  | .literal text => [text]
  | .var _ => []
  | .each _ children => literals children

/-- The literals in a forest, at every depth. -/
def literals : List Node → List Text
  | [] => []
  | node :: nodes => node.literals ++ literals nodes
end

section
variable {text path : Text} {children nodes : List Node}

@[simp] theorem literals_nil : literals [] = [] := rfl

@[simp] theorem literals_literal :
    literals (.literal text :: nodes) = text :: literals nodes := by
  simp [literals, Node.literals]

@[simp] theorem literals_var : literals (.var path :: nodes) = literals nodes := by
  simp [literals, Node.literals]

@[simp] theorem literals_each :
    literals (.each path children :: nodes) = literals children ++ literals nodes := by
  simp [literals, Node.literals]

theorem mem_literals : text ∈ literals nodes ↔ ∃ node ∈ nodes, text ∈ node.literals := by
  induction nodes with
  | nil => simp
  | cons node nodes ih => simp [literals, ih]

/-! ## Expansion -/

variable {scope : Json.Value}

@[simp] theorem traceAll_nil : traceAll [] scope = [] := by rw [traceAll]

@[simp] theorem traceAll_literal :
    traceAll (.literal text :: nodes) scope = .literal text :: traceAll nodes scope := by
  simp [traceAll, Node.trace]

@[simp] theorem traceAll_var :
    traceAll (.var path :: nodes) scope =
      inserted (resolve scope path) ++ traceAll nodes scope := by
  simp [traceAll, Node.trace]

@[simp] theorem traceAll_each :
    traceAll (.each path children :: nodes) scope =
      (repeated (resolve scope path)).flatMap (traceAll children) ++ traceAll nodes scope := by
  simp [traceAll, Node.trace]

end

theorem traceAll_eq_flatMap (nodes : List Node) (scope : Json.Value) :
    traceAll nodes scope = nodes.flatMap (·.trace scope) := by
  induction nodes with
  | nil => rw [traceAll, List.flatMap_nil]
  | cons node nodes ih => rw [traceAll, ih, List.flatMap_cons]

theorem traceAll_append (nodes nodes' : List Node) (scope : Json.Value) :
    traceAll (nodes ++ nodes') scope = traceAll nodes scope ++ traceAll nodes' scope := by
  simp only [traceAll_eq_flatMap, List.flatMap_append]

section
variable {text path : Text} {children nodes nodes' : List Node} {scope : Json.Value}

theorem expand_literal :
    expand (.literal text :: nodes) scope = text ++ expand nodes scope := by
  simp [expand, Piece.text]

theorem expand_var :
    expand (.var path :: nodes) scope =
      (inserted (resolve scope path)).flatMap Piece.text ++ expand nodes scope := by
  simp [expand]

theorem expand_each :
    expand (.each path children :: nodes) scope =
      (repeated (resolve scope path)).flatMap (expand children) ++ expand nodes scope := by
  simp only [expand, traceAll_each, List.flatMap_append, List.flatMap_assoc]
  rfl

theorem expand_append :
    expand (nodes ++ nodes') scope = expand nodes scope ++ expand nodes' scope := by
  rw [expand, traceAll_append, List.flatMap_append]
  rfl

end

/-! ## Kinds of pieces -/

namespace Piece

/-- The piece comes from the template. -/
def isLiteral : Piece → Bool
  | .literal _ => true
  | .string _ | .display _ => false

@[simp] theorem isLiteral_literal : (literal t).isLiteral = true := rfl

@[simp] theorem isLiteral_string : (string t).isLiteral = false := rfl

@[simp] theorem isLiteral_display : (display t).isLiteral = false := rfl

end Piece

/-- What a variable inserts is no literal. -/
theorem isLiteral_of_mem_inserted {v? : Option Json.Value} (h : piece ∈ inserted v?) :
    piece.isLiteral = false := by
  unfold inserted at h
  split at h <;> simp_all

/-- The literals of a trace are literals of the template. -/
theorem mem_literals_of_mem_traceAll {nodes : List Node} {scope : Json.Value}
    (h : .literal t ∈ traceAll nodes scope) : t ∈ literals nodes := by
  induction nodes using forestInduction generalizing scope with
  | nil => simp at h
  | literal text nodes ih =>
    rcases List.mem_cons.1 (traceAll_literal ▸ h) with h | h
    · cases h
      simp
    · simp [ih h]
  | var path nodes ih =>
    rcases List.mem_append.1 (traceAll_var ▸ h) with h | h
    · exact absurd (isLiteral_of_mem_inserted h) (by simp)
    · simp [ih h]
  | each path children nodes ihc ih =>
    rcases List.mem_append.1 (traceAll_each ▸ h) with h | h
    · obtain ⟨item, _, h⟩ := List.mem_flatMap.1 h
      simp [ihc h]
    · simp [ih h]

/-- Every other piece is inserted for some value. -/
theorem exists_mem_inserted {nodes : List Node} {scope : Json.Value}
    (h : piece ∈ traceAll nodes scope) (hp : piece.isLiteral = false) :
    ∃ v, piece ∈ inserted (some v) := by
  induction nodes using forestInduction generalizing scope with
  | nil => simp at h
  | literal text nodes ih =>
    rcases List.mem_cons.1 (traceAll_literal ▸ h) with rfl | h
    · cases hp
    · exact ih h
  | var path nodes ih =>
    rcases List.mem_append.1 (traceAll_var ▸ h) with h | h
    · cases hv : resolve scope path with
      | none => simp [hv, inserted] at h
      | some v => exact ⟨v, hv ▸ h⟩
    · exact ih h
  | each path children nodes ihc ih =>
    rcases List.mem_append.1 (traceAll_each ▸ h) with h | h
    · obtain ⟨item, _, h⟩ := List.mem_flatMap.1 h
      exact ihc h
    · exact ih h

end Curriculum.Template
