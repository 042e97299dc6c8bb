import Curriculum.Proofs.Text.Split
import Curriculum.Text.Lines

/-! # Lines of a text

`IsLines` tells what the lines of a text are by what ends them, and `lines` gives exactly these
(`lines_eq_iff`). Lines that are put together with line ends between them are read back, up to
empty ones at the end (`JoinsLines.filter_lines`). -/

namespace Curriculum.Text

/-- A line reaches up to a line feed, or up to a carriage return with a line feed, or is what is
left at the end of the text. -/
inductive IsLines : Text → List Text → Prop where
  | nil : IsLines [] []
  | last (h : '\n' ∉ line) (hne : line ≠ []) : IsLines line [line]
  | feed (h : '\n' ∉ line) (hreturn : line.getLast? ≠ some '\r') (hrest : IsLines rest ls) :
    IsLines (line ++ '\n' :: rest) (line :: ls)
  | returnFeed (h : '\n' ∉ line) (hrest : IsLines rest ls) :
    IsLines (line ++ '\r' :: '\n' :: rest) (line :: ls)

/-- The ends that a line may have. -/
inductive IsLineEnd : Text → Prop where
  | feed : IsLineEnd ['\n']
  | returnFeed : IsLineEnd ['\r', '\n']

/-- The lines one after the other in one text, with a line end of any kind between neighbours. -/
inductive JoinsLines : List Text → Text → Prop where
  | nil : JoinsLines [] []
  | single (line : Text) : JoinsLines [line] line
  | cons (line : Text) (hend : IsLineEnd lineEnd) (hrest : JoinsLines (next :: ls) t) :
    JoinsLines (line :: next :: ls) (line ++ lineEnd ++ t)

/-- A text that is a line on its own, whichever line end comes behind it. -/
structure IsLine (line : Text) : Prop where
  feed_not_mem : '\n' ∉ line
  getLast?_ne : line.getLast? ≠ some '\r'

instance (line : Text) : Decidable line.IsLine :=
  decidable_of_iff ('\n' ∉ line ∧ line.getLast? ≠ some '\r')
    ⟨fun h => ⟨h.1, h.2⟩, fun h => ⟨h.1, h.2⟩⟩

variable {t line rest : Text} {ls : List Text}

theorem dropReturn_append_return (line : Text) : dropReturn (line ++ ['\r']) = line := by
  induction line with
  | nil => rfl
  | cons c line ih =>
    rw [List.cons_append, dropReturn, ih]
    simp

theorem dropReturn_of_getLast? (h : line.getLast? ≠ some '\r') : dropReturn line = line := by
  fun_induction dropReturn line with
  | case1 => rfl
  | case2 => exact absurd rfl h
  | case3 c line hne ih =>
    cases line with
    | nil => rfl
    | cons d line => rw [ih (by rwa [List.getLast?_cons_cons] at h)]

theorem lines_append_feed (h : '\n' ∉ line) (rest : Text) :
    lines (line ++ '\n' :: rest) = dropReturn line :: lines rest := by
  rw [lines, split_append_cons, split_of_not_mem h, lines]
  obtain ⟨next, others, hsplit⟩ := List.exists_cons_of_ne_nil (split_ne_nil '\n' rest)
  rw [hsplit]
  rfl

theorem lines_append_returnFeed (h : '\n' ∉ line) (rest : Text) :
    lines (line ++ '\r' :: '\n' :: rest) = line :: lines rest := by
  rw [List.append_cons, lines_append_feed (by simpa using h), dropReturn_append_return]

theorem lines_of_not_mem (h : '\n' ∉ t) : lines t = if t.isEmpty then [] else [t] := by
  rw [lines, split_of_not_mem h]
  rfl

theorem IsLines.lines_eq (h : IsLines t ls) : lines t = ls := by
  induction h with
  | nil => rfl
  | last h hne => rw [lines_of_not_mem h, if_neg (by simpa using hne)]
  | feed h hreturn hrest ih => rw [lines_append_feed h, dropReturn_of_getLast? hreturn, ih]
  | returnFeed h hrest ih => rw [lines_append_returnFeed h, ih]

/-- By induction on the number of characters, as each line takes some from the text. -/
theorem exists_isLines (t : Text) : ∃ ls, IsLines t ls := by
  by_cases hfeed : '\n' ∈ t
  · obtain ⟨line, rest, heq, hline⟩ := List.eq_append_cons_of_mem hfeed
    have hshorter : rest.length < t.length := by
      rw [heq, List.length_append, List.length_cons]
      omega
    obtain ⟨ls, hrest⟩ := exists_isLines rest
    subst heq
    by_cases hreturn : line.getLast? = some '\r'
    · obtain ⟨line, rfl⟩ := List.getLast?_eq_some_iff.1 hreturn
      rw [List.append_assoc]
      exact ⟨line :: ls, .returnFeed (fun h => hline (List.mem_append_left _ h)) hrest⟩
    · exact ⟨line :: ls, .feed hline hreturn hrest⟩
  · by_cases hne : t = []
    · exact ⟨[], hne ▸ .nil⟩
    · exact ⟨[t], .last hfeed hne⟩
termination_by t.length

theorem lines_eq_iff : lines t = ls ↔ IsLines t ls := by
  refine ⟨?_, IsLines.lines_eq⟩
  rintro rfl
  obtain ⟨ls, h⟩ := exists_isLines t
  rwa [h.lines_eq]

/-! ## Lines put together -/

theorem lines_append_lineEnd (h : line.IsLine) (hend : IsLineEnd lineEnd) (rest : Text) :
    lines (line ++ lineEnd ++ rest) = line :: lines rest := by
  rw [List.append_assoc]
  cases hend with
  | feed =>
    rw [List.singleton_append, lines_append_feed h.feed_not_mem, dropReturn_of_getLast? h.getLast?_ne]
  | returnFeed => exact lines_append_returnFeed h.feed_not_mem rest

/-- Only empty lines at the end of a text may be lost or added. -/
theorem JoinsLines.filter_lines {p : Text → Bool} (hp : p [] = false) (h : JoinsLines ls t)
    (hls : ∀ line ∈ ls, line.IsLine) (hfinal : final = [] ∨ IsLineEnd final) :
    (lines (t ++ final)).filter p = ls.filter p := by
  induction h with
  | nil =>
    rcases hfinal with rfl | hfinal
    · rfl
    · have hline : IsLine [] := ⟨List.not_mem_nil, nofun⟩
      have hlines := lines_append_lineEnd hline hfinal []
      rw [List.append_nil, List.nil_append] at hlines
      rw [List.nil_append, hlines, List.filter_cons, hp]
      rfl
  | single line =>
    have hline := hls line (List.mem_singleton_self line)
    rcases hfinal with rfl | hfinal
    · rw [List.append_nil, lines_of_not_mem hline.feed_not_mem]
      cases line <;> simp [hp]
    · have hlines := lines_append_lineEnd hline hfinal []
      rw [List.append_nil] at hlines
      rw [hlines]
      rfl
  | cons line hend hrest ih =>
    obtain ⟨hline, hls⟩ := List.forall_mem_cons.1 hls
    rw [List.append_assoc, lines_append_lineEnd hline hend, List.filter_cons, List.filter_cons,
      ih hls]

end Curriculum.Text
