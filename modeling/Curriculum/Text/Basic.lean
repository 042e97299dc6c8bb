/-! # Text

Text is kept as a list of characters. Every rule about names, markup and paths in this library is
stated on such lists, and a string literal stands for its list wherever text is expected. -/

namespace Curriculum

/-- Text is a list of characters, so a statement about text is a statement about a list. -/
abbrev Text := List Char

instance : Coe String Text := ⟨String.toList⟩

namespace Text

/-- The parts one after the other, with `sep` between neighbours. -/
def join (sep : Text) : List Text → Text
  | [] => []
  | [t] => t
  | t :: u :: ts => t ++ sep ++ join sep (u :: ts)

/-- The stretches between the occurrences of `sep`. There is one more of them than occurrences,
so the empty text has one empty stretch. -/
def split (sep : Char) : Text → List Text
  | [] => [[]]
  | c :: cs =>
    if c = sep then [] :: split sep cs
    else match split sep cs with
      | [] => [[c]]
      | t :: ts => (c :: t) :: ts

/-- Every occurrence of `c` gives way to `image`, all in one pass. -/
def substitute (c : Char) (image : Text) (t : Text) : Text :=
  t.flatMap fun d => if d = c then image else [d]

/-- A carriage return directly before a line feed is dropped. -/
def unifyLineEnds : Text → Text
  | '\r' :: '\n' :: rest => '\n' :: unifyLineEnds rest
  | c :: rest => c :: unifyLineEnds rest
  | [] => []

/-- ASCII capitals become small letters; all other characters stay. -/
def lowerAscii (t : Text) : Text := t.map Char.toLower

/-- Text is ordered by its code points, which is also the order of its bytes in UTF-8. -/
def before : Text → Text → Bool
  | [], [] => false
  | [], _ :: _ => true
  | _ :: _, [] => false
  | c :: cs, d :: ds => if c = d then before cs ds else decide (c < d)

/-- The number that a non-empty run of ASCII digits denotes. -/
def natural? (t : Text) : Option Nat :=
  if t.isEmpty then none
  else t.foldlM (fun n c => if c.isDigit then some (n * 10 + (c.toNat - '0'.toNat)) else none) 0

/-- An unsigned word of 64 bits: digits after at most one plus sign, up to `2 ^ 64 - 1`. -/
def word64? (t : Text) : Option Nat :=
  let digits := match t with
    | '+' :: rest => rest
    | _ => t
  (natural? digits).filter (· < 0x10000000000000000)

/-- A character is in one of some ranges of code points, given by their two ends. -/
def inRanges (ranges : List (Nat × Nat)) (c : Char) : Bool :=
  ranges.any fun (low, high) => low ≤ c.toNat && c.toNat ≤ high

theorem split_ne_nil (sep : Char) (t : Text) : split sep t ≠ [] := by
  cases t with
  | nil => simp [split]
  | cons c cs => unfold split; split <;> (try split) <;> simp

end Text

end Curriculum
