import Curriculum.Text.Basic

/-! # UTF-8

Files and streams hold bytes. Text goes out as UTF-8; coming in, bytes are either read strictly or
with a replacement character for each longest stretch that starts no character. Both readings are
made from one list of pieces. -/

namespace Curriculum

/-- What a file or a stream holds. -/
abbrev Bytes := List UInt8

namespace Utf8

def encode (t : Text) : Bytes := t.flatMap String.utf8EncodeChar

/-- The part of a character read so far: the bits it has given, how many bytes are owed, and the
range of the next one. -/
structure Pending where
  bits : Nat
  owed : Nat
  low : UInt8
  high : UInt8

/-- What the first byte of a character announces, if it can be a first byte. -/
def Pending.ofFirst (b : UInt8) : Option Pending :=
  if b < 0x80 then some ⟨b.toNat, 0, 0x80, 0xBF⟩
  else if b < 0xC2 then none
  else if b < 0xE0 then some ⟨b.toNat % 0x20, 1, 0x80, 0xBF⟩
  else if b < 0xF0 then
    some ⟨b.toNat % 0x10, 2, if b = 0xE0 then 0xA0 else 0x80, if b = 0xED then 0x9F else 0xBF⟩
  else if b < 0xF5 then
    some ⟨b.toNat % 0x08, 3, if b = 0xF0 then 0x90 else 0x80, if b = 0xF4 then 0x8F else 0xBF⟩
  else none

/-- What a byte completes where no character is under way, and the character under way then. -/
def first (b : UInt8) : List (Option Char) × Option Pending :=
  match Pending.ofFirst b with
  | none => ([none], none)
  | some p => if p.owed = 0 then ([some (Char.ofNat p.bits)], none) else ([], some p)

/-- What a byte completes, and the character under way then. A byte that does not go on with the
character under way ends that one and starts another. -/
def next : Option Pending → UInt8 → List (Option Char) × Option Pending
  | none, b => first b
  | some p, b =>
    if p.low ≤ b && b ≤ p.high then
      let bits := p.bits * 0x40 + b.toNat % 0x40
      if p.owed ≤ 1 then ([some (Char.ofNat bits)], none)
      else ([], some ⟨bits, p.owed - 1, 0x80, 0xBF⟩)
    else (none :: (first b).1, (first b).2)

/-- The characters of a byte sequence in order, with `none` for each longest stretch of bytes that
begins no character. The first argument is the character under way. -/
def piecesFrom : Option Pending → Bytes → List (Option Char)
  | none, [] => []
  | some _, [] => [none]
  | pending, b :: rest =>
    let (complete, under) := next pending b
    complete ++ piecesFrom under rest

def pieces (bytes : Bytes) : List (Option Char) := piecesFrom none bytes

/-- The text that the bytes spell, if all of them do. -/
def decode? (bytes : Bytes) : Option Text := (pieces bytes).mapM id

/-- The text that the bytes spell, with U+FFFD for what spells nothing. -/
def decodeLossy (bytes : Bytes) : Text := (pieces bytes).map (·.getD '\uFFFD')

end Utf8

end Curriculum
