import Curriculum.Text.Basic

/-! # Lines

A line ends with a line feed, which may follow one carriage return. A carriage return elsewhere
belongs to the line, and a final line end opens no further line. -/

namespace Curriculum.Text

/-- The line without one carriage return at its end. -/
def dropReturn : Text → Text
  | [] => []
  | ['\r'] => []
  | c :: rest => c :: dropReturn rest

/-- The stretches between line feeds as lines. Only the last one was not closed by a line feed, so
it keeps its carriage return and is no line when it is empty. -/
def closeLines : List Text → List Text
  | [] => []
  | [last] => if last.isEmpty then [] else [last]
  | line :: next :: rest => dropReturn line :: closeLines (next :: rest)

def lines (t : Text) : List Text := closeLines (split '\n' t)

/-- The last `count` lines of a text, joined by line feeds. -/
def lastLines (count : Nat) (t : Text) : Text :=
  let all := lines t
  join ['\n'] (all.drop (all.length - count))

end Curriculum.Text
