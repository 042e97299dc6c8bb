import Curriculum.Script.Utility.Options
import Curriculum.Script.Utility.Print

/-! # Dumps

A dump shows the bytes of its input as numbers or characters, sixteen in a line, behind the number
of bytes before them. A line like the one before it is left out. -/

namespace Curriculum.Script

namespace Dump

structure Format where
  size : Nat
  width : Nat
  base : Nat := 10
  /-- Zeros fill up the width. -/
  full : Bool := false
  /-- Numbers from the middle on stand for those below zero. -/
  signed : Bool := false
  /-- Bytes are shown as characters where they can be. -/
  letters : Bool := false

def format? (t : Text) : Option Format :=
  match String.ofList t with
  | "x1" => some { size := 1, width := 2, base := 16, full := true }
  | "x" | "x4" => some { size := 4, width := 8, base := 16, full := true }
  | "x2" => some { size := 2, width := 4, base := 16, full := true }
  | "o1" => some { size := 1, width := 3, base := 8, full := true }
  | "o2" => some { size := 2, width := 6, base := 8, full := true }
  | "u1" => some { size := 1, width := 3 }
  | "u2" => some { size := 2, width := 5 }
  | "d1" => some { size := 1, width := 4, signed := true }
  | "d2" => some { size := 2, width := 6, signed := true }
  | "c" => some { size := 1, width := 3, base := 8, full := true, letters := true }
  | _ => none

/-- The formats that letters of their own stand for. -/
def shortcuts : List (Char × Text) :=
  [('b', "o1"), ('c', "c"), ('d', "u2"), ('o', "o2"), ('s', "d2"), ('x', "x2")]

/-- The characters that are shown by a backslash and a letter. -/
def named : List (Char × Text) :=
  [('\x00', "\\0"), ('\x07', "\\a"), ('\x08', "\\b"), ('\t', "\\t"), ('\n', "\\n"), ('\x0b', "\\v"),
    ('\x0c', "\\f"), ('\r', "\\r")]

def Format.show (f : Format) (unit : Text) : Text :=
  let n := unit.foldr (fun c n => n * 256 + c.toNat) 0
  let middle := Nat.pow 256 f.size / 2
  let digits := if f.signed && middle ≤ n then '-' :: Number.digits (2 * middle - n)
    else inBase f.base n
  let image := match unit with
    | [c] => if f.letters then
        match named.lookup c with
        | some t => t
        | none => if ' ' ≤ c && c ≤ '~' then [c] else List.replicate (3 - digits.length) '0' ++ digits
      else digits
    | _ => digits
  let fill := if f.full && !f.letters then '0' else ' '
  ' ' :: List.replicate (f.width - image.length) fill ++ image

/-- Lines from an offset on. A line like the one before it becomes a star, and further ones are left
out. -/
def lines (f : Format) (offset : Nat → Text) (all : Bool) (last : Text) (starred : Bool) (before : Nat) :
    List Text → Text
  | [] => []
  | bytes :: rest =>
    if !all && bytes = last && !rest.isEmpty then
      (if starred then [] else ['*', '\n']) ++ lines f offset all last true (before + 16) rest
    else
      let units := (chunks 16 f.size bytes).map f.show
      offset before ++ units.flatten ++ '\n' :: lines f offset all bytes false (before + bytes.length) rest

end Dump

def dump (arguments : List Text) : Step Nat :=
  withOptions "od" "bcdosxv" "AtNj" 1 arguments fun o => do
    let (t, status) ← joinedContent "od" 1 o.operands
    let t := t.drop ((((o.value? 'j' "skip-bytes").bind count?).map Count.number).getD 0)
    let t := match (o.value? 'N' "read-bytes").bind count? with
      | some c => t.take c.number
      | none => t
    let shortcut := Dump.shortcuts.find? fun s => o.has s.1 []
    let name := (o.value? 't' "format" <|> shortcut.map (·.2)).getD "o2"
    let radix := ((o.value? 'A' "address-radix").bind List.head?).getD 'o'
    let offset (n : Nat) : Text :=
      let digits := inBase (if radix = 'x' then 16 else if radix = 'd' then 10 else 8) n
      if radix = 'n' then [] else List.replicate ((if radix = 'x' then 6 else 7) - digits.length) '0' ++ digits
    match Dump.format? name with
    | none => complainAs "od" ("invalid type string '".toList ++ name ++ ['\'']) 1
    | some f =>
      let lines := chunks t.length 16 t
      Step.print (Dump.lines f offset (o.has 'v' "output-duplicates") [] false 0 lines)
      if radix ≠ 'n' then Step.printLine (offset t.length)
      return status

end Curriculum.Script
