import Curriculum.Text.Picture

/-! # Display width

A text is as wide as its characters, but for sequences that are shown as one picture or one sign. It
is measured from its end, because what follows a character tells what becomes of it. -/

namespace Curriculum

/-- What the text behind a character begins with. -/
inductive Ahead where
  | plain
  | skinTone
  /-- One regional indicator or, when `several` is set, more. -/
  | regional (several : Bool)
  | picture
  /-- A joiner and a picture. -/
  | joined
  /-- The mark of a keycap, a joiner and a picture. -/
  | joinedKeycap
  /-- The end of a tag, of which some characters are passed, a joiner and a picture. -/
  | joinedTag (passed : Nat)
  /-- Regional indicators, a joiner and a picture. An even number of them makes flags. -/
  | joinedRegional (even : Bool) (several : Bool)
  | alef
  | lamed
  | ya
  /-- The vowel sign that joins two ya. -/
  | yaSign
  | tifinagh
  /-- A Tifinagh joiner and a letter. -/
  | tifinaghJoiner
  | toneLetter
  | orkhon
  | khmer
  deriving DecidableEq, Repr

namespace Ahead

/-- The letters that characters in front of them may join. -/
def isLetter : Ahead → Bool
  | alef | lamed | ya | yaSign | tifinagh | tifinaghJoiner | toneLetter | orkhon | khmer => true
  | _ => false

/-- The Khmer letters that can stand below another one. -/
def khmerRanges : List (Nat × Nat) :=
  [(0x1780, 0x1782), (0x1784, 0x1787), (0x1789, 0x178C), (0x178E, 0x1793), (0x1795, 0x1798),
    (0x179B, 0x179D), (0x17A0, 0x17A0), (0x17A2, 0x17A2), (0x17A7, 0x17A7), (0x17AB, 0x17AC),
    (0x17AF, 0x17AF)]

/-- The Arabic letters that are written like alef. -/
def alefRanges : List (Nat × Nat) :=
  [(0x622, 0x623), (0x625, 0x625), (0x627, 0x627), (0x671, 0x673), (0x675, 0x675), (0x773, 0x774),
    (0x870, 0x882)]

/-- The Arabic letters that are written like lam. -/
def lamRanges : List (Nat × Nat) :=
  [(0x644, 0x644), (0x6B5, 0x6B8), (0x76A, 0x76A), (0x8A6, 0x8A6), (0x8C7, 0x8C7)]

def isTifinagh (c : Char) : Bool := Text.inRanges [(0x2D31, 0x2D65), (0x2D6F, 0x2D6F)] c

/-- What a character is to the one in front of it, whatever follows. -/
def ofChar (c : Char) : Ahead :=
  if isSkinTone c then skinTone
  else if isRegional c then regional false
  else if isPicture c then picture
  else if Text.inRanges alefRanges c then alef
  else if c = '\u05DC' then lamed
  else if c = '\u1A10' then ya
  else if isTifinagh c then tifinagh
  else if c = '\uA4FC' || c = '\uA4FD' then toneLetter
  else if c.toNat = 0x10C03 then orkhon
  else if Text.inRanges khmerRanges c then khmer
  else plain

end Ahead

/-- How far the measure of a text has come: its width in columns so far, and what the character in
front has to know. -/
structure Measure where
  width : Int := 0
  ahead : Ahead := .plain
  /-- A joiner stands in front of the letter. -/
  joiner : Bool := false
  /-- A selector for pictures follows. -/
  picture : Bool := false
  /-- A selector for plain signs follows. -/
  sign : Bool := false

namespace Measure

def joinerChar : Char := '\u200D'

/-- The selectors that do not come between letters. -/
def isTransparent (c : Char) : Bool :=
  Text.inRanges [(0x34F, 0x34F), (0x17B4, 0x17B5), (0x180B, 0x180D), (0x180F, 0x180F),
    (0xFE00, 0xFE0F), (0xE0100, 0xE01EF)] c

/-- The measure after a character that adds `width` columns and is `ahead` for the next one. -/
def add (m : Measure) (width : Int) (ahead : Ahead) : Measure := { width := m.width + width, ahead }

/-- The measure without a selector that has no effect on the character in front of it. Only letters
outlast it. -/
def dropPicture (m : Measure) : Measure :=
  if !m.picture then m
  else if m.ahead.isLetter then { m with picture := false }
  else { width := m.width }

def dropSign (m : Measure) : Measure :=
  if !m.sign then m
  else if m.ahead.isLetter then { m with sign := false }
  else { width := m.width }

def selectPicture (m : Measure) : Measure :=
  if m.ahead.isLetter || ((m.ahead = .joined || m.ahead = .joinedKeycap) && !m.picture) then
    { m with picture := true }
  else { width := m.width, picture := true }

def selectSign (m : Measure) : Measure :=
  if m.ahead.isLetter then { m with sign := true } else { width := m.width, sign := true }

/-- The measure after a character that is part of a sequence with what follows it. -/
def joining? (m : Measure) (c : Char) : Option Measure :=
  match m.ahead with
  | .plain => none
  | .alef =>
    if Text.inRanges Ahead.lamRanges c then some (m.add 0 .plain)
    else if Text.inRanges invisibleRanges c && !Text.inRanges opaqueRanges c then some (m.add 0 .alef)
    else none
  | .lamed => if m.joiner && c = '\u05D0' then some (m.add 0 .plain) else none
  | .ya => if m.joiner && c = '\u1A17' then some (m.add 0 .yaSign) else none
  | .yaSign => if c = '\u1A15' then some (m.add 0 .plain) else none
  | .tifinagh =>
    if c = '\u2D7F' then some (m.add 1 .tifinaghJoiner)
    else if m.joiner && Ahead.isTifinagh c then some (m.add 0 .plain)
    else none
  | .tifinaghJoiner => if Ahead.isTifinagh c then some (m.add (-1) .plain) else none
  | .toneLetter => if Text.inRanges [(0xA4F8, 0xA4FB)] c then some (m.add 0 .plain) else none
  | .orkhon => if m.joiner && c.toNat = 0x10C32 then some (m.add 0 .plain) else none
  | .khmer => if c = '\u17D2' then some (m.add (-1) .plain) else none
  | .skinTone =>
    if isModifiable c then some (m.add 0 .picture)
    else if c = joinerChar then some (m.add 0 .joined)
    else none
  | .regional several =>
    if isRegional c then some (m.add 1 (.regional true))
    else if several && c = joinerChar then some (m.add 0 .joined)
    else none
  | .picture => if c = joinerChar then some (m.add 0 .joined) else none
  | .joined =>
    if c = '\u20E3' then some (m.add 0 .joinedKeycap)
    else if isRegional c then some (m.add 1 (.joinedRegional false false))
    else if isSkinTone c then some (m.add 0 .skinTone)
    else if c.toNat = 0xE007F then some (m.add 0 (.joinedTag 0))
    else if isPicture c then some (m.add 0 .picture)
    else none
  | .joinedKeycap => none
  | .joinedTag passed =>
    if passed < 6 && Text.inRanges [(0xE0030, 0xE0039), (0xE0061, 0xE007A)] c then
      some (m.add 0 (.joinedTag (passed + 1)))
    else if 3 ≤ passed && c.toNat = 0x1F3F4 then some (m.add 0 .picture)
    else none
  | .joinedRegional even several =>
    if isRegional c then some (m.add (if even then 3 else -1) (.joinedRegional (!even) true))
    else if several && c = joinerChar then some (m.add 0 .joined)
    else none

/-- The measure after a character that has been looked at by itself and by what follows. -/
def pass (m : Measure) (c : Char) : Measure :=
  if c = '\uFE0F' then m.selectPicture
  else if c = '\uFE0E' then m.selectSign
  else if m.sign && isReducible c then m.add 1 .plain
  else
    let m := m.dropSign
    if m.ahead.isLetter && m.ahead ≠ .alef && c = joinerChar then { m with joiner := true }
    else if m.ahead.isLetter && m.ahead ≠ .alef && isTransparent c then m
    else match m.joining? c with
      | some m => m
      | none => m.add (columns c) (.ofChar c)

def step (c : Char) (m : Measure) : Measure :=
  if m.picture && isSelectable c then
    m.add (if m.ahead = .joined || m.ahead = .joinedKeycap then 0 else 2) .picture
  else
    let m := m.dropPicture
    if c ≤ '\u00A0' then m.add 1 .plain else m.pass c

end Measure

/-- The columns that a line of text takes. -/
def Text.width (t : Text) : Nat := (t.foldr Measure.step {}).width.toNat

end Curriculum
