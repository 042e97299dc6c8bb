import Curriculum.Proofs.Template.Group
import Curriculum.Proofs.Template.Normal

/-! # Templates that keep their groups together

The outline of a list of siblings is the text of their literals. When the outline of a template and
those of all its blocks are contained, every expansion of it against a sanitized value is contained
(`contained_expand`), however often its blocks run. -/

namespace Curriculum.Template

open Latex
open Json (Value)

/-! ## Pieces between contained literals -/

theorem prefix_flatMap_cases {f : α → Text} {l : List α} (h : u <+: l.flatMap f) :
    u = l.flatMap f ∨
      ∃ before a after v, l = before ++ a :: after ∧ v <+: f a ∧ u = before.flatMap f ++ v := by
  induction l generalizing u with
  | nil => exact .inl (List.prefix_nil.1 h)
  | cons a l ih =>
    rw [List.flatMap_cons] at h ⊢
    rcases List.prefix_or_prefix_of_prefix h (List.prefix_append ..) with h' | ⟨v, rfl⟩
    · exact .inr ⟨[], a, l, u, rfl, h', rfl⟩
    · rcases ih ((List.prefix_append_right_inj _).1 h) with rfl | ⟨before, b, after, w, rfl, hw, rfl⟩
      · exact .inl rfl
      · exact .inr ⟨a :: before, b, after, w, rfl, hw, by simp⟩

/-- Contained pieces between literals that are contained together. -/
theorem contained_pieces {pieces : List Piece}
    (hliteral : ∀ t, .literal t ∈ pieces → ¬Odd (backslashesAtEnd t))
    (hinserted : ∀ piece ∈ pieces, piece.isLiteral = false → Contained piece.text)
    (h : Contained ((pieces.filter Piece.isLiteral).flatMap Piece.text)) :
    Contained (pieces.flatMap Piece.text) := by
  have hend : ∀ d, (⟨d, false⟩ : Position).read (pieces.flatMap Piece.text) = ⟨d, false⟩ :=
    fun d => by rw [(read_pieces hliteral hinserted d).1, h.read_eq]
  refine ⟨hend, fun d u hu => ?_⟩
  rcases prefix_flatMap_cases hu with rfl | ⟨before, piece, after, v, rfl, hv, rfl⟩
  · exact Int.le_of_eq (by rw [hend])
  · have hliteral' : ∀ t, .literal t ∈ before → ¬Odd (backslashesAtEnd t) :=
      fun t ht => hliteral t (by simp [ht])
    have hinserted' : ∀ q ∈ before, q.isLiteral = false → Contained q.text :=
      fun q hq => hinserted q (by simp [hq])
    obtain ⟨hread, hpending⟩ := read_pieces hliteral' hinserted' d
    rw [Position.read_append]
    cases hp : piece.isLiteral with
    | true =>
      rw [hread, ← Position.read_append]
      refine h.le_depth d _ ?_
      rw [List.filter_append, List.filter_cons_of_pos hp, List.flatMap_append, List.flatMap_cons]
      exact (List.prefix_append_right_inj _).2 (hv.trans (List.prefix_append ..))
    | false =>
      have hstart : d ≤ ((⟨d, false⟩ : Position).read (before.flatMap Piece.text)).depth := by
        rw [hread]
        refine h.le_depth d _ ?_
        rw [List.filter_append, List.flatMap_append]
        exact List.prefix_append ..
      generalize (⟨d, false⟩ : Position).read (before.flatMap Piece.text) = p at hpending hstart ⊢
      obtain ⟨e, pending⟩ := p
      cases hpending
      exact Int.le_trans hstart ((hinserted piece (by simp) hp).le_depth e v hv)

/-! ## Outlines -/

/-- The text that a node itself has in the template. -/
def Node.outline : Node → Text
  | .literal text => text
  | .var _ | .each .. => []

/-- A list of siblings whose literals keep their groups together. -/
structure Balanced (level : List Node) : Prop where
  contained : Contained (level.flatMap Node.outline)
  even : ∀ node ∈ level, ¬Odd (backslashesAtEnd node.outline)

instance : Decidable (Balanced level) :=
  decidable_of_iff (Contained (level.flatMap Node.outline) ∧
      ∀ node ∈ level, ¬Odd (backslashesAtEnd node.outline))
    ⟨fun h => ⟨h.1, h.2⟩, fun h => ⟨h.1, h.2⟩⟩

/-- A node as one piece, a block with all its items. -/
def Node.piece (scope : Value) : Node → Piece
  | .literal text => .literal text
  | node => .string ((node.trace scope).flatMap Piece.text)

section
variable {level : List Node} {scope : Value}

theorem text_piece (node : Node) :
    (node.piece scope).text = (node.trace scope).flatMap Piece.text := by
  cases node with
  | literal => simp [Node.piece, Node.trace, Piece.text]
  | var | each => rfl

theorem expand_eq_flatMap_piece :
    expand level scope = (level.map (Node.piece scope)).flatMap Piece.text := by
  rw [expand, traceAll_eq_flatMap, List.flatMap_assoc, List.flatMap_map]
  simp only [text_piece]

theorem outline_eq_flatMap_piece :
    ((level.map (Node.piece scope)).filter Piece.isLiteral).flatMap Piece.text =
      level.flatMap Node.outline := by
  induction level with
  | nil => rfl
  | cons node level ih =>
    cases node with
    | literal =>
      rw [List.map_cons, Node.piece, List.filter_cons_of_pos rfl, List.flatMap_cons, ih]
      rfl
    | var | each => exact ih

/-- One level of a template, given its variables and blocks. -/
theorem Balanced.contained_expand (h : Balanced level)
    (hnodes : ∀ node ∈ level, node.isLiteral = false →
      Contained ((node.trace scope).flatMap Piece.text)) :
    Contained (expand level scope) := by
  rw [expand_eq_flatMap_piece]
  refine contained_pieces (fun t ht => ?_) (fun piece hpiece hp => ?_) ?_
  · obtain ⟨node, hnode, heq⟩ := List.mem_map.1 ht
    cases node with
    | literal =>
      cases heq
      exact h.even _ hnode
    | var | each => cases heq
  · obtain ⟨node, hnode, rfl⟩ := List.mem_map.1 hpiece
    cases node with
    | literal => cases hp
    | var | each => exact text_piece _ ▸ hnodes _ hnode rfl
  · rw [outline_eq_flatMap_piece]
    exact h.contained

end

/-- In a template whose levels all keep their groups together, every variable and every block comes
to a contained text as soon as each single insertion does. -/
theorem contained_trace {nodes : List Node} {scope : Value}
    (hbelow : ∀ level ∈ levelsBelow nodes, Balanced level)
    (hinserted : ∀ piece ∈ traceAll nodes scope, piece.isLiteral = false → Contained piece.text) :
    ∀ node ∈ nodes, node.isLiteral = false →
      Contained ((node.trace scope).flatMap Piece.text) := by
  induction nodes using forestInduction generalizing scope with
  | nil => simp
  | literal text nodes ih =>
    simp only [traceAll_literal, List.forall_mem_cons] at hinserted
    simp only [levelsBelow, Node.levels, List.nil_append] at hbelow
    rw [List.forall_mem_cons]
    refine ⟨fun h => ?_, ih hbelow hinserted.2⟩
    cases h
  | var path nodes ih =>
    simp only [traceAll_var, List.forall_mem_append] at hinserted
    simp only [levelsBelow, Node.levels, List.nil_append] at hbelow
    rw [List.forall_mem_cons]
    refine ⟨fun _ => ?_, ih hbelow hinserted.2⟩
    rw [Node.trace]
    exact .flatMap fun piece h => hinserted.1 piece h (isLiteral_of_mem_inserted h)
  | each path children nodes ihc ih =>
    simp only [traceAll_each, List.forall_mem_append, List.forall_mem_flatMap] at hinserted
    rw [levelsBelow, Node.levels_each, List.forall_mem_append, levels, List.forall_mem_cons] at hbelow
    rw [List.forall_mem_cons]
    refine ⟨fun _ => ?_, ih hbelow.2 hinserted.2⟩
    rw [Node.trace, List.flatMap_assoc]
    exact .flatMap fun item h =>
      hbelow.1.1.contained_expand (ihc hbelow.1.2 (hinserted.1 item h))

/-- Such a template keeps its groups together in every source. -/
theorem contained_expand_sanitize {nodes : List Node} (h : ∀ level ∈ levels nodes, Balanced level)
    (v : Value) : Contained (expand nodes (Latex.sanitize v)) := by
  obtain ⟨hnodes, hbelow⟩ := List.forall_mem_cons.1 h
  exact hnodes.contained_expand
    (contained_trace hbelow fun _ hpiece hp => contained_of_mem_traceAll hpiece hp)

end Curriculum.Template
