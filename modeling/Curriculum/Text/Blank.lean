import Curriculum.Text.Basic

/-! # Blank characters

The blank characters are those with the Unicode property White_Space. Zero width spaces, the byte
order mark and the information separators do not have it. -/

namespace Curriculum

/-- The ranges of the Unicode property White_Space, both ends included. -/
def blankRanges : List (Nat × Nat) :=
  [(0x09, 0x0D), (0x20, 0x20), (0x85, 0x85), (0xA0, 0xA0), (0x1680, 0x1680), (0x2000, 0x200A),
    (0x2028, 0x2029), (0x202F, 0x202F), (0x205F, 0x205F), (0x3000, 0x3000)]

def isBlank (c : Char) : Bool := Text.inRanges blankRanges c

namespace Text

def trimStart (t : Text) : Text := t.dropWhile isBlank

def trimEnd (t : Text) : Text := (t.reverse.dropWhile isBlank).reverse

def trim (t : Text) : Text := trimEnd (trimStart t)

/-- Text of blanks only, the empty text among them. -/
def allBlank (t : Text) : Bool := t.all isBlank

end Text

end Curriculum
