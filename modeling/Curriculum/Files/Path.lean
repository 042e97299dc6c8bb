import Curriculum.Text.Utf8

/-! # Paths as text

Paths are joined and shortened as text: doubled slashes, `.` and `..` stay where they are. Only at
the end of a path do slashes and `/.` not count.

A path is any bytes, and not all of it need be text. Each byte of it that belongs to no character is
kept as a stray, which is one of the last 128 characters that there are, and these characters
themselves are kept as the strays of their bytes. So all bytes are those of a path
(`Path.bytes_ofBytes`); to be shown it is made text, where strays are lost (`Path.display`). -/

namespace Curriculum.Path

/-! ## Bytes -/

def isStray (c : Char) : Bool := 0x10FF80 ≤ c.toNat

/-- What stands for a byte from 0x80 on. -/
def stray (b : UInt8) : Char := Char.ofNat (0x10FF00 + b.toNat)

def charBytes (c : Char) : Bytes :=
  if isStray c then [UInt8.ofNat c.toNat] else String.utf8EncodeChar c

/-- The path as a file system takes it. -/
def bytes (path : Text) : Bytes := path.flatMap charBytes

/-- The path whose bytes spell a text. -/
def ofText (t : Text) : Text :=
  t.flatMap fun c => if isStray c then (String.utf8EncodeChar c).map stray else [c]

/-- The path that some bytes are, behind the first ones. -/
def ofBytesFrom : Nat → Bytes → Text
  | _, [] => []
  | skipped + 1, _ :: rest => ofBytesFrom skipped rest
  | 0, b :: rest =>
    match ((b :: rest).take 4).toByteArray.utf8DecodeChar? 0 with
    | some c => ofText [c] ++ ofBytesFrom (c.utf8Size - 1) rest
    | none => stray b :: ofBytesFrom 0 rest

def ofBytes (bs : Bytes) : Text := ofBytesFrom 0 bs

/-- The text that the path spells, if it spells one. -/
def text? (path : Text) : Option Text := Utf8.decode? (bytes path)

/-- The path as text, with U+FFFD for what spells nothing. -/
def display (path : Text) : Text := Utf8.decodeLossy (bytes path)

/-- The path that is meant by what a path is shown as. Where nothing is lost it is the same. -/
def shown (path : Text) : Text := ofText (display path)

/-- Paths are ordered by their bytes. -/
def before (path other : Text) : Bool :=
  decide (bytes path < bytes other) || bytes path = bytes other && Text.before path other

/-! ## Parts -/

def isAbsolute (path : Text) : Bool := path.head? = some '/'

/-- `name` below the directory `dir`. An absolute name stays as it is. -/
def join (dir name : Text) : Text :=
  if isAbsolute name then name
  else if dir.isEmpty || dir.getLast? = some '/' then dir ++ name
  else dir ++ '/' :: name

/-- The reversed path without slashes and `/.` at its end. The root keeps its slash. -/
def dropEnd : Text → Text
  | ['/'] => ['/']
  | '/' :: rest => dropEnd rest
  | '.' :: '/' :: rest => dropEnd ('/' :: rest)
  | path => path

/-- The path of the directory that holds the entry at a path. The root and the empty path have
none. -/
def parent? (path : Text) : Option Text :=
  match dropEnd path.reverse with
  | [] | ['/'] => none
  | _ :: rest =>
    match rest.dropWhile (· ≠ '/') with
    | [] => some []
    | above => some (dropEnd above).reverse

theorem length_dropEnd_le (path : Text) : (dropEnd path).length ≤ path.length := by
  fun_induction dropEnd path <;> simp_all <;> omega

theorem length_lt_of_parent? {path above : Text} (h : parent? path = some above) :
    above.length < path.length := by
  unfold parent? at h
  have hle := length_dropEnd_le path.reverse
  split at h
  · simp at h
  · simp at h
  · next c rest _ heq =>
    rw [heq] at hle
    simp only [List.length_cons, List.length_reverse] at hle
    split at h
    · cases h; simp only [List.length_nil]; omega
    · cases h
      have h₁ := length_dropEnd_le (rest.dropWhile (· ≠ '/'))
      have h₂ := (List.dropWhile_suffix (· ≠ '/') : rest.dropWhile _ <:+ rest).length_le
      simp only [List.length_reverse]
      omega

/-- What is between the slashes of a path. A slash at the end stands for the directory itself. -/
def steps (path : Text) : List Text :=
  let names := (Text.split '/' path).filter fun name => !name.isEmpty
  if path.getLast? = some '/' then names ++ [['.']] else names

def fromRoot (names : List Text) : Text := '/' :: Text.join ['/'] names

end Curriculum.Path
