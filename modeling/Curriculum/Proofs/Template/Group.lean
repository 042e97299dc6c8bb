import Curriculum.Proofs.Latex.Group
import Curriculum.Proofs.Template.Sanitize
import Curriculum.Render

/-! # Groups of a rendered source

The values of a submission are escaped before they are inserted, and an escaped text is contained.
What stands between the literals of a template therefore neither opens nor closes one of its
groups, whatever has been submitted. -/

namespace Curriculum.Template

open Latex

theorem isScalarChar_of_mem_inserted {v : Json.Value} (h : .display t ∈ inserted (some v))
    (hc : c ∈ t) : isScalarChar c := by
  cases v with
  | number n =>
    rw [inserted, List.mem_singleton, Piece.display.injEq] at h
    exact isScalarChar_of_mem_display (h ▸ hc)
  | bool b =>
    have hall : t.all isScalarChar := by
      cases b
      all_goals
        rw [inserted, List.mem_singleton, Piece.display.injEq] at h
        subst h
        rfl
    exact List.all_eq_true.1 hall c hc
  | null | string | array | object => simp [inserted] at h

/-- What holds of escaped texts and of plain ones holds of all that a template inserts from a
sanitized value. -/
theorem inserted_of_sanitize {P : Text → Prop} (hescape : ∀ s, P (escape s))
    (hplain : ∀ t : Text, (∀ c ∈ t, isPlain c) → P t) {nodes : List Node} {v : Json.Value}
    (h : piece ∈ traceAll nodes (sanitize v)) (hp : piece.isLiteral = false) : P piece.text := by
  rw [sanitize_eq_mapStrings, traceAll_mapStrings] at h
  obtain ⟨piece, hpiece, rfl⟩ := List.mem_map.1 h
  cases piece with
  | literal t => cases hp
  | string s =>
    rw [Piece.mapString, Piece.text]
    exact hescape s
  | display t =>
    obtain ⟨w, hw⟩ := exists_mem_inserted hpiece Piece.isLiteral_display
    rw [Piece.mapString, Piece.text]
    exact hplain t fun c hc => isPlain_of_isScalarChar (isScalarChar_of_mem_inserted hw hc)

/-- What a template inserts from a sanitized value is contained. -/
theorem contained_of_mem_traceAll {nodes : List Node} {v : Json.Value}
    (h : piece ∈ traceAll nodes (sanitize v)) (hp : piece.isLiteral = false) :
    Contained piece.text :=
  inserted_of_sanitize contained_escape (fun _ => contained_of_forall_isPlain) h hp

section
variable {pieces : List Piece}
  (hliteral : ∀ t, .literal t ∈ pieces → ¬Odd (backslashesAtEnd t))
  (hinserted : ∀ piece ∈ pieces, piece.isLiteral = false → Contained piece.text)
include hliteral hinserted

/-- Pieces are read like the literals among them, and no backslash waits behind them. -/
theorem read_pieces (d : Int) :
    (⟨d, false⟩ : Position).read (pieces.flatMap Piece.text) =
        (⟨d, false⟩ : Position).read ((pieces.filter Piece.isLiteral).flatMap Piece.text) ∧
      ((⟨d, false⟩ : Position).read (pieces.flatMap Piece.text)).pending = false := by
  induction pieces generalizing d with
  | nil => exact ⟨rfl, rfl⟩
  | cons piece pieces ih =>
    have ih := ih (fun t ht => hliteral t (List.mem_cons_of_mem _ ht))
      (fun q hq => hinserted q (List.mem_cons_of_mem _ hq))
    rw [List.flatMap_cons, Position.read_append]
    cases hp : piece.isLiteral with
    | true =>
      rw [List.filter_cons_of_pos hp, List.flatMap_cons, Position.read_append]
      have hpending : ((⟨d, false⟩ : Position).read piece.text).pending = false := by
        cases piece with
        | literal t =>
          rw [← Bool.not_eq_true, Piece.text, Position.pending_read]
          exact hliteral t List.mem_cons_self
        | string | display => cases hp
      generalize (⟨d, false⟩ : Position).read piece.text = p at hpending ⊢
      obtain ⟨d', pending⟩ := p
      cases hpending
      exact ih d'
    | false =>
      rw [List.filter_cons_of_neg (by simp [hp]),
        (hinserted piece List.mem_cons_self hp).read_eq]
      exact ih d

theorem depth_pieces :
    depth (pieces.flatMap Piece.text) =
      depth ((pieces.filter Piece.isLiteral).flatMap Piece.text) :=
  congrArg Position.depth (read_pieces hliteral hinserted 0).1

theorem depth_le_of_contained (ht : Contained t) (hu : u <+: t) :
    depth (pieces.flatMap Piece.text) ≤ depth (pieces.flatMap Piece.text ++ u) := by
  have hpending := (read_pieces hliteral hinserted 0).2
  rw [depth, depth, Position.read_append]
  generalize (⟨0, false⟩ : Position).read (pieces.flatMap Piece.text) = p at hpending ⊢
  obtain ⟨d, pending⟩ := p
  cases hpending
  exact ht.le_depth d u hu

end

/-- The pieces of the source that a body and a submission make. -/
def sourcePieces (body : Text) (submission : Json.Value) : List Piece :=
  traceAll (parse body) (sanitize (Resume.build submission).toValue)

/-- No submission opens or closes a group of the template: wherever a piece of the source starts, as
many groups are open as without all inserted values, and within an inserted value there are never
fewer than where it starts. -/
theorem depth_sourcePieces (body : Text) (submission : Json.Value)
    (hbody : ∀ t ∈ literals (parse body), ¬Odd (backslashesAtEnd t)) :
    source body submission = (sourcePieces body submission).flatMap Piece.text ∧
      (∀ before, before <+: sourcePieces body submission →
        depth (before.flatMap Piece.text) =
          depth ((before.filter Piece.isLiteral).flatMap Piece.text)) ∧
      ∀ before piece, before ++ [piece] <+: sourcePieces body submission →
        piece.isLiteral = false → ∀ u, u <+: piece.text →
          depth (before.flatMap Piece.text) ≤ depth (before.flatMap Piece.text ++ u) := by
  have hliteral : ∀ before, before <+: sourcePieces body submission →
      ∀ t, .literal t ∈ before → ¬Odd (backslashesAtEnd t) :=
    fun _ h t ht => hbody t (mem_literals_of_mem_traceAll (h.subset ht))
  have hinserted : ∀ before, before <+: sourcePieces body submission →
      ∀ piece ∈ before, piece.isLiteral = false → Contained piece.text :=
    fun _ h _ hq => contained_of_mem_traceAll (h.subset hq)
  refine ⟨rfl, fun before h => depth_pieces (hliteral _ h) (hinserted _ h), ?_⟩
  intro before piece h hp u hu
  have hbefore : before <+: sourcePieces body submission := (List.prefix_append ..).trans h
  exact depth_le_of_contained (hliteral _ hbefore) (hinserted _ hbefore)
    (hinserted _ h piece (by simp) hp) hu

/-- A body with a row that ends in two backslashes, and values inside groups. -/
def rowBody : Text :=
  "\\textbf\x7b\x7b\x7b full_name \x7d\x7d\x7d\\\\".toList ++
    "\x7b\x7b#each experience\x7d\x7d\\item\x7b\x7b\x7bcompany\x7d\x7d\x7d\x7b\x7b/each\x7d\x7d".toList

/-- A submission that closes and opens groups and ends in a backslash. -/
def braceSubmission : Json.Value :=
  .object [("full_name".toList, .string "\x7d\\".toList),
    ("experience".toList, .array [.object [("company".toList, .string "\x7b^".toList)]])]

theorem depth_sourcePieces_rowBody :
    (∀ t ∈ literals (parse rowBody), ¬Odd (backslashesAtEnd t)) ∧
      depth (source rowBody braceSubmission) =
        depth (((sourcePieces rowBody braceSubmission).filter Piece.isLiteral).flatMap
          Piece.text) ∧
      ∀ u, u <+: "\\\x7d\\\\".toList →
        depth "\\textbf\x7b".toList ≤ depth ("\\textbf\x7b".toList ++ u) := by
  have hbody : ∀ t ∈ literals (parse rowBody), ¬Odd (backslashesAtEnd t) := by decide +kernel
  have hpieces : [Piece.literal "\\textbf\x7b".toList] ++ [.string "\\\x7d\\\\".toList] <+:
      sourcePieces rowBody braceSubmission := by decide +kernel
  obtain ⟨hsource, hdepth, hinside⟩ := depth_sourcePieces rowBody braceSubmission hbody
  exact ⟨hbody, hsource ▸ hdepth _ List.prefix_rfl, hinside _ _ hpieces rfl⟩

end Curriculum.Template
