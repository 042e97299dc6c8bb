import Curriculum.Script.Arithmetic
import Curriculum.Script.Utility.Options

/-! # Tests

A test is an expression on texts, numbers and files, whose parts are given as arguments. How an
argument is understood hangs on those around it. -/

namespace Curriculum.Script

/-- What a test can see. -/
structure Surroundings where
  world : World
  shell : Shell

namespace Surroundings

def entryAt (v : Surroundings) (path : Text) : Option Entry := v.world.entryAt v.shell.here path

def isThere (v : Surroundings) (path : Text) : Bool :=
  World.isDevice path || (v.entryAt path).isSome

end Surroundings

def unaryTest? (v : Surroundings) (operator : Text) : Option (Text → Bool) :=
  match String.ofList operator with
  | "-z" => some List.isEmpty
  | "-n" => some fun t => !t.isEmpty
  | "-e" | "-r" | "-w" | "-a" | "-O" | "-G" => some v.isThere
  | "-d" => some fun t => v.entryAt t = some .directory
  | "-f" => some fun t => match v.entryAt t with
    | some (.file ..) | some .sealedFile => true
    | _ => false
  | "-s" => some fun t => match v.entryAt t with
    | some (.file content _) => !content.isEmpty
    | e => e.isSome
  | "-x" => some fun t => match v.entryAt t with
    | some (.file _ runnable) => runnable
    | e => e = some .directory
  | "-c" => some fun t => World.isDevice t
  | "-b" | "-p" | "-u" | "-g" | "-k" | "-S" | "-t" | "-h" | "-L" => some fun _ => false
  | _ => none

/-- The numbers that two operands of a test are; the one that is none is the error. -/
def testNumbers (a b : Text) : Except Text (Int × Int) := do
  let number (t : Text) : Except Text Int :=
    let digits := t.dropWhile fun c => c = ' ' || c = '+'
    match digits, Text.natural? (digits.dropWhile (· = '-')) with
    | '-' :: _, some n => .ok (-n)
    | _, some n => .ok n
    | _, none => .error ("Illegal number: ".toList ++ t)
  return (← number a, ← number b)

def binaryTest? (v : Surroundings) (operator : Text) : Option (Text → Text → Except Text Bool) :=
  let compare (p : Int → Int → Bool) (a b : Text) : Except Text Bool :=
    (testNumbers a b).map fun (m, n) => p m n
  match String.ofList operator with
  | "=" => some fun a b => .ok (a = b)
  | "!=" => some fun a b => .ok (a ≠ b)
  | "<" => some fun a b => .ok (Text.before a b)
  | ">" => some fun a b => .ok (Text.before b a)
  | "-eq" => some (compare (· == ·))
  | "-ne" => some (compare (· != ·))
  | "-lt" => some (compare fun m n => m < n)
  | "-le" => some (compare fun m n => m ≤ n)
  | "-gt" => some (compare fun m n => m > n)
  | "-ge" => some (compare fun m n => m ≥ n)
  | "-nt" => some fun a b => .ok (v.isThere a && !v.isThere b)
  | "-ot" => some fun a b => .ok (!v.isThere a && v.isThere b)
  | "-ef" => some fun a b => .ok (v.isThere a &&
      (v.world.locate v.shell.here a).toOption = (v.world.locate v.shell.here b).toOption)
  | _ => none

namespace Test

abbrev Reader := StateT (List Text) (Except Text)

/-- The word that comes next is an operand, whatever it looks like. -/
def isOperand (v : Surroundings) : List Text → Bool
  | _ :: [] => true
  | _ :: _ :: [] => false
  | _ :: operator :: last :: _ => (binaryTest? v operator).isSome && last ≠ [')']
  | [] => false

/-- The next word if it is this one. -/
def take (word : Text) : Reader Bool := do
  match ← get with
  | t :: rest =>
    if t = word then
      set rest
      return true
    else return false
  | [] => return false

mutual

def anyOf (v : Surroundings) (fuel : Nat) : Reader Bool :=
  match fuel with
  | 0 => throw []
  | fuel + 1 => do
    let a ← allOf v fuel
    if ← take "-o" then
      let b ← anyOf v fuel
      return a || b
    else return a

def allOf (v : Surroundings) (fuel : Nat) : Reader Bool :=
  match fuel with
  | 0 => throw []
  | fuel + 1 => do
    let a ← negation v fuel
    if ← take "-a" then
      let b ← allOf v fuel
      return a && b
    else return a

def negation (v : Surroundings) (fuel : Nat) : Reader Bool :=
  match fuel with
  | 0 => throw []
  | fuel + 1 => do
    let words ← get
    if words.head? = some ['!'] && 1 < words.length then
      set words.tail
      return !(← negation v fuel)
    else primary v fuel

def primary (v : Surroundings) (fuel : Nat) : Reader Bool :=
  match fuel with
  | 0 => throw []
  | fuel + 1 => do
    let words ← get
    match words with
    | [] => return false
    | word :: rest =>
      if word = ['('] && !rest.isEmpty && !isOperand v words then
        set rest
        if ← take [')'] then return false
        let a ← anyOf v fuel
        if ← take [')'] then return a else throw "closing paren expected".toList
      match (if isOperand v words then none else unaryTest? v word), rest with
      | some f, operand :: rest =>
        set rest
        return f operand
      | _, operator :: operand :: rest =>
        match binaryTest? v operator with
        | some f =>
          set rest
          return ← f word operand
        | none =>
          set words.tail
          return !word.isEmpty
      | _, [operator] =>
        if (binaryTest? v operator).isSome then throw (operator ++ ": argument expected".toList)
        set rest
        return !word.isEmpty
      | _, [] =>
        set rest
        return !word.isEmpty

end

/-- The outcome of a test. What is left over is blamed on the word before it. Three words with an
operator between them are a test of two operands, whatever they look like. -/
def evaluate (v : Surroundings) (words : List Text) : Except Text Bool := do
  let whole (words : List Text) : Except Text Bool := do
    let (a, rest) ← (anyOf v (8 * words.length + 8)).run words
    if rest.isEmpty then return a
    else throw (words.getD (words.length - rest.length - 1) [] ++ ": unexpected operator".toList)
  match words with
  | [] => return false
  | [a, operator, b] =>
    match binaryTest? v operator with
    | some f => f a b
    | none =>
      if a = ['!'] then return !(← whole [operator, b])
      else if a = ['('] && b = [')'] then whole [operator]
      else whole words
  | [a, b, c, d] =>
    if a = ['!'] then
      match binaryTest? v c with
      | some f => return !(← f b d)
      | none => return !(← whole [b, c, d])
    else if a = ['('] && d = [')'] then whole [b, c]
    else whole words
  | _ => whole words

end Test

/-- The utility that tests its arguments, called by a name. -/
def test (name : Text) (arguments : List Text) : Step Nat := do
  let complain (t : Text) : Step Nat := do
    Step.complain (← Step.complaint (name ++ ": ".toList ++ t)) 2
  let bracket := name = ['[']
  if bracket && arguments.getLast? ≠ some [']'] then return ← complain "missing ]"
  let words := if bracket then arguments.dropLast else arguments
  match Test.evaluate ⟨← Step.world, ← get⟩ words with
  | .ok a => return if a then 0 else 1
  | .error t => complain t

end Curriculum.Script
