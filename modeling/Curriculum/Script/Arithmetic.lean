import Curriculum.Script.Shell

/-! # Arithmetic

Expressions on whole numbers that fit a signed word of 64 bits. Names in them are variables, whose
values have to be numbers; a variable without a value counts as zero. -/

namespace Curriculum.Script

/-- The digits of a number, behind a sign if it is negative. -/
def integer (n : Int) : Text :=
  if n < 0 then '-' :: Number.digits n.natAbs else Number.digits n.natAbs

/-- A number as a signed word of 64 bits. -/
def wrap (n : Int) : Int := n.bmod 0x10000000000000000

def digitValue? (base : Nat) (c : Char) : Option Nat :=
  let value := if c.isDigit then c.toNat - '0'.toNat
    else if c.isAlpha then c.toLower.toNat - 'a'.toNat + 10 else base
  if value < base then some value else none

def digitsIn? (base : Nat) (t : Text) : Option Nat :=
  if t.isEmpty then none
  else t.foldlM (fun n c => (digitValue? base c).map (n * base + ·)) 0

/-- A number without a sign: octal behind a zero, hexadecimal behind `0x`. -/
def unsigned? : Text → Option Nat
  | '0' :: 'x' :: digits | '0' :: 'X' :: digits => digitsIn? 16 digits
  | '0' :: digit :: digits => digitsIn? 8 (digit :: digits)
  | digits => digitsIn? 10 digits

/-- A number with a sign or without one. Blanks around it do not count. -/
def constant? (t : Text) : Option Int :=
  let t := t.dropWhile fun c => " \t\n".toList.contains c
  match (t.reverse.dropWhile fun c => " \t\n".toList.contains c).reverse with
  | '-' :: digits => (unsigned? digits).map fun n => wrap (-(n : Int))
  | '+' :: digits => (unsigned? digits).map fun n => wrap n
  | digits => (unsigned? digits).map fun n => wrap n

/-- What an operator makes of two numbers; nothing if it divides by zero. -/
abbrev Operation := Int → Int → Option Int

def truth (b : Bool) : Int := if b then 1 else 0

def bits (n : Int) : Nat := (n.emod 0x10000000000000000).toNat

/-- Shifts go by the lowest six bits of the second number. -/
def shiftCount (n : Int) : Nat := bits n % 64

/-- The operators that take both numbers, by how closely they bind, loosely ones first. -/
def operations : List (List (Text × Operation)) := [
  [("|", fun a b => some (wrap (bits a ||| bits b : Nat)))],
  [("^", fun a b => some (wrap (bits a ^^^ bits b : Nat)))],
  [("&", fun a b => some (wrap (bits a &&& bits b : Nat)))],
  [("==", fun a b => some (truth (a = b))), ("!=", fun a b => some (truth (a ≠ b)))],
  [("<", fun a b => some (truth (a < b))), ("<=", fun a b => some (truth (a ≤ b))),
    (">", fun a b => some (truth (a > b))), (">=", fun a b => some (truth (a ≥ b)))],
  [("<<", fun a b => some (wrap (a * Nat.pow 2 (shiftCount b)))),
    (">>", fun a b => some (a.fdiv (Nat.pow 2 (shiftCount b))))],
  [("+", fun a b => some (wrap (a + b))), ("-", fun a b => some (wrap (a - b)))],
  [("*", fun a b => some (wrap (a * b))),
    ("/", fun a b => if b = 0 then none else some (wrap (a.tdiv b))),
    ("%", fun a b => if b = 0 then none else some (a.tmod b))]]

inductive Expression where
  | number (n : Int)
  | valueOf (name : Text)
  | unary (f : Int → Int) (a : Expression)
  | binary (f : Operation) (a b : Expression)
  | both (a b : Expression)
  | either (a b : Expression)
  | choose (test yes no : Expression)
  /-- Assigns a value, which may be made with the old one first. -/
  | assign (name : Text) (f : Option Operation) (a : Expression)

namespace Expression

/-! ## Reading expressions -/

/-- A part of an expression. -/
inductive Piece where
  | number (n : Int)
  | name (t : Text)
  | symbol (t : Text)
  deriving DecidableEq

/-- The symbols, longer ones before those they start with. -/
def symbols : List Text := List.map String.toList
  ["<<=", ">>=", "<<", ">>", "<=", ">=", "==", "!=", "&&", "||", "+=", "-=", "*=", "/=", "%=", "&=",
    "|=", "^=", "=", "<", ">", "+", "-", "*", "/", "%", "&", "|", "^", "!", "~", "?", ":", "(", ")"]

/-- The pieces of a text; each takes a character at least. -/
def pieces? (fuel : Nat) (t : Text) : Option (List Piece) :=
  match fuel, t with
  | _, [] => some []
  | 0, _ => none
  | fuel + 1, c :: rest =>
    if " \t\n".toList.contains c then pieces? fuel rest
    else if c.isDigit then do
      let word := t.takeWhile Char.isAlphanum
      return .number (wrap (← unsigned? word)) :: (← pieces? fuel (t.drop word.length))
    else if isNameStart c then do
      let word := t.takeWhile isNamePart
      return .name word :: (← pieces? fuel (t.drop word.length))
    else do
      let (symbol, rest) ← symbol? symbols t
      return .symbol symbol :: (← pieces? fuel rest)

/-- What a text would need to be an expression. -/
inductive Expected where
  | primary
  | bracket
  | colon
  | ending
  deriving DecidableEq, Repr

def Expected.text : Expected → Text
  | primary => "expecting primary"
  | bracket => "expecting ')'"
  | colon => "expecting ':'"
  | ending => "expecting EOF"

abbrev Reader := StateT (List Piece) (Except Expected)

def take (symbol : Text) : Reader Bool := do
  match ← get with
  | .symbol t :: rest =>
    if t = symbol then
      set rest
      return true
    else return false
  | _ => return false

def operation? (table : List (Text × Operation)) : Reader (Option Operation) := do
  match ← get with
  | .symbol t :: rest =>
    match lookup t table with
    | some f =>
      set rest
      return some f
    | none => return none
  | _ => return none

mutual

/-- An expression. Each step takes a piece or goes to what binds more closely, so that `fuel` is a
multiple of the number of pieces. -/
def expression (fuel : Nat) : Reader Expression :=
  match fuel with
  | 0 => throw .primary
  | fuel + 1 => do
    match ← get with
    | .name name :: .symbol symbol :: rest =>
      if symbol = ['='] then
        set rest
        return .assign name none (← expression fuel)
      let f := if symbol.getLast? = some '=' then lookup symbol.dropLast operations.flatten else none
      if f.isSome && !(List.map String.toList ["==", "!=", "<=", ">="]).contains symbol then
        set rest
        return .assign name f (← expression fuel)
      choice fuel
    | _ => choice fuel

def choice (fuel : Nat) : Reader Expression :=
  match fuel with
  | 0 => throw .primary
  | fuel + 1 => do
    let test ← anyOf fuel
    if ← take ['?'] then
      let yes ← expression fuel
      if ← take [':'] then return .choose test yes (← choice fuel)
      else throw .colon
    else return test

def anyOf (fuel : Nat) : Reader Expression :=
  match fuel with
  | 0 => throw .primary
  | fuel + 1 => do
    let a ← allOf fuel
    if ← take "||" then return .either a (← anyOf fuel) else return a

def allOf (fuel : Nat) : Reader Expression :=
  match fuel with
  | 0 => throw .primary
  | fuel + 1 => do
    let a ← level fuel operations
    if ← take "&&" then return .both a (← allOf fuel) else return a

/-- Operands of the first of some levels of operators. -/
def level (fuel : Nat) (levels : List (List (Text × Operation))) : Reader Expression :=
  match fuel with
  | 0 => throw .primary
  | fuel + 1 =>
    match levels with
    | [] => operand fuel
    | table :: closer => do chain fuel table closer (← level fuel closer)

/-- What a level's operators add to a first operand. -/
def chain (fuel : Nat) (table : List (Text × Operation))
    (closer : List (List (Text × Operation))) (a : Expression) : Reader Expression :=
  match fuel with
  | 0 => throw .primary
  | fuel + 1 => do
    match ← operation? table with
    | some f => chain fuel table closer (.binary f a (← level fuel closer))
    | none => return a

def operand (fuel : Nat) : Reader Expression :=
  match fuel with
  | 0 => throw .primary
  | fuel + 1 => do
    if ← take ['!'] then return .unary (fun a => truth (a = 0)) (← operand fuel)
    if ← take ['~'] then return .unary (fun a => wrap (-a - 1)) (← operand fuel)
    if ← take ['-'] then return .unary (fun a => wrap (-a)) (← operand fuel)
    if ← take ['+'] then return ← operand fuel
    if ← take ['('] then
      let a ← expression fuel
      if ← take [')'] then return a else throw .bracket
    match ← get with
    | .number n :: rest =>
      set rest
      return .number n
    | .name name :: rest =>
      set rest
      return .valueOf name
    | _ => throw .primary

end

/-- The expression that a text is, or what was expected in it. -/
def parse (t : Text) : Except Expected Expression := do
  match pieces? t.length t with
  | none => throw .ending
  | some [] => return .number 0
  | some pieces =>
    let (a, rest) ← (expression (16 * pieces.length + 16)).run pieces
    if rest.isEmpty then return a else throw .ending

/-! ## Values -/

def numberOf (name : Text) : Step Int := do
  match (← get).value? name with
  | none | some [] =>
    if (← get).has 'u' && ((← get).value? name).isNone then
      Step.fail (name ++ ": parameter not set".toList) 2
    return 0
  | some t =>
    match constant? t with
    | some n => return n
    | none => Step.fail ("Illegal number: ".toList ++ t) 2

def value (t : Text) : Expression → Step Int
  | number n => return n
  | valueOf name => numberOf name
  | unary f a => return f (← value t a)
  | binary f a b => do apply f (← value t a) (← value t b)
  | both a b => do
    if (← value t a) = 0 then return 0 else return truth ((← value t b) ≠ 0)
  | either a b => do
    if (← value t a) ≠ 0 then return 1 else return truth ((← value t b) ≠ 0)
  | choose test yes no => do if (← value t test) ≠ 0 then value t yes else value t no
  | assign name f a => do
    let new ← value t a
    let result ← match f with
      | none => pure new
      | some f => do apply f (← numberOf name) new
    Step.setVariable name (integer result)
    return result
where
  apply (f : Operation) (a b : Int) : Step Int := do
    match f a b with
    | some n => return n
    | none =>
      Step.fail ("arithmetic expression: division by zero: \"".toList ++ t ++ ['"']) 2

end Expression

def evaluate (t : Text) : Step Text := do
  match Expression.parse t with
  | .ok e => return integer (← e.value t)
  | .error expected =>
    Step.fail ("arithmetic expression: ".toList ++ expected.text ++ ": \"".toList ++ t ++ ['"']) 2

end Curriculum.Script
