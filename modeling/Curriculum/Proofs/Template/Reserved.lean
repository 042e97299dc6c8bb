import Curriculum.Proofs.Latex.Reserved
import Curriculum.Proofs.Template.Group

/-! # Reserved characters of a rendered source

A source is read as its pieces are, one after the other, as long as no literal of the template ends
in a backslash that would take a character of the value behind it. Of all reserved characters a
submission brings only dollar signs into the signs of its source (`bare_source`). -/

namespace Curriculum.Template

open Latex
open Json (Value)

variable {nodes : List Node} {v : Value} {piece : Piece}

theorem not_mem_reserved_of_isScalarChar (hc : isScalarChar c) : c ∉ reserved := by
  have hscalar : reserved.all fun c => ¬isScalarChar c := by decide
  intro hmem
  exact of_decide_eq_true (List.all_eq_true.1 hscalar c hmem) hc

/-- The bare characters of what is inserted are the dollar signs of what has been submitted. -/
theorem bare_inserted (h : piece ∈ traceAll nodes v) (hp : piece.isLiteral = false) :
    bare (signs (piece.mapString escape).text) = piece.text.filter (· = '$') := by
  cases piece with
  | literal t => cases hp
  | string s =>
    simp only [Piece.mapString, Piece.text]
    exact bare_escape s
  | display t =>
    obtain ⟨w, hw⟩ := exists_mem_inserted h Piece.isLiteral_display
    have hchars : ∀ c ∈ t, isScalarChar c := fun c hc => isScalarChar_of_mem_inserted hw hc
    have hsigns : signs t = t.map .char := by
      apply signs_of_forall_ne
      rintro c hc rfl
      exact absurd (hchars _ hc) (by decide)
    have hbare : t.filter (· ∈ reserved) = [] := by
      rw [List.filter_eq_nil_iff]
      intro c hc
      simpa using not_mem_reserved_of_isScalarChar (hchars c hc)
    have hdollar : t.filter (· = '$') = [] := by
      rw [List.filter_eq_nil_iff]
      rintro c hc hc'
      cases of_decide_eq_true hc'
      exact absurd (hchars _ hc) (by decide)
    simp only [Piece.mapString, Piece.text]
    rw [hsigns, bare_map_char, hbare, hdollar]

theorem signs_expand_sanitize (hliteral : ∀ t ∈ literals nodes, ¬Odd (backslashesAtEnd t))
    (v : Value) :
    signs (expand nodes (sanitize v)) =
      (traceAll nodes v).flatMap fun piece => signs (piece.mapString escape).text := by
  have htrace : traceAll nodes (sanitize v) = (traceAll nodes v).map (Piece.mapString escape) := by
    rw [sanitize_eq_mapStrings, traceAll_mapStrings]
  have hends : ∀ piece ∈ traceAll nodes (sanitize v), ¬Odd (backslashesAtEnd piece.text) := by
    intro piece h
    cases hp : piece.isLiteral with
    | false => exact (contained_iff.1 (contained_of_mem_traceAll h hp)).2.1
    | true =>
      cases piece with
      | literal t => exact hliteral t (mem_literals_of_mem_traceAll h)
      | string | display => cases hp
  rw [expand, signs_flatMap hends, htrace, List.flatMap_map]

/-- Escaping leaves no reserved character bare but the dollar signs, so a text is safe when it has
none. In a template none of whose literals ends in a backslash that waits for its character, the
source is read as its pieces are, and what a submission brings into it has no bare character but the
dollar signs that were submitted. -/
theorem bare_source (t body : Text) (submission : Value) :
    bare (signs (escape t)) = t.filter (· = '$') ∧
      (bare (signs (escape t)) = [] ↔ '$' ∉ t) ∧
      ((∀ l ∈ literals (parse body), ¬Odd (backslashesAtEnd l)) →
        let pieces := traceAll (parse body) (Resume.build submission).toValue
        signs (source body submission) =
            pieces.flatMap (fun piece => signs (piece.mapString escape).text) ∧
          ∀ piece ∈ pieces, piece.isLiteral = false →
            bare (signs (piece.mapString escape).text) = piece.text.filter (· = '$')) := by
  refine ⟨bare_escape t, bare_escape_eq_nil_iff, fun hbody => ⟨?_, fun piece h hp => ?_⟩⟩
  · exact signs_expand_sanitize hbody _
  · exact bare_inserted h hp

/-- A header that switches to mathematics between two values. -/
def headerBody : Text :=
  "\\textbf\x7b\x7b\x7b full_name \x7d\x7d\x7d $|$ \x7b\x7b phone \x7d\x7d".toList

/-- A submission with a comment, a group and a price. -/
def priceSubmission : Value :=
  .object [("full_name".toList, .string "50%\x7d^".toList), ("phone".toList, .string "5$".toList)]

theorem bare_source_header :
    (∀ t ∈ literals (parse headerBody), ¬Odd (backslashesAtEnd t)) ∧
      bare (signs (Piece.mapString escape (.string "50%\x7d^".toList)).text) = [] ∧
      bare (signs (Piece.mapString escape (.string "5$".toList)).text) = ['$'] := by
  have hbody : ∀ t ∈ literals (parse headerBody), ¬Odd (backslashesAtEnd t) := by decide +kernel
  have hpieces : traceAll (parse headerBody) (Resume.build priceSubmission).toValue =
      [.literal "\\textbf\x7b".toList, .string "50%\x7d^".toList, .literal "\x7d $|$ ".toList,
        .string "5$".toList] := by decide +kernel
  obtain ⟨-, hbare⟩ := (bare_source [] headerBody priceSubmission).2.2 hbody
  rw [hpieces] at hbare
  exact ⟨hbody, (hbare _ (by simp) rfl).trans rfl, (hbare _ (by simp) rfl).trans rfl⟩

/-- A dollar sign stays bare. -/
theorem bare_escape_dollar :
    escape ['$'] = ['$'] ∧ '$' ∈ reserved ∧ ¬∀ t, bare (signs (escape t)) = [] := by
  refine ⟨by decide, by decide, fun h => ?_⟩
  exact absurd (h ['$']) (by decide)

/-- A backslash at the end of a literal takes the one of the written form behind it. -/
example : signs (source "\\\x7b\x7b full_name \x7d\x7d" (.object [("full_name", .string "%")])) =
    [.control '\\', .char '%'] := by decide +kernel

end Curriculum.Template
