import Curriculum.Script.Arithmetic
import Curriculum.Script.Regex
import Curriculum.Script.Utility.Lines

/-! # Expressions of arguments

A utility evaluates an expression on numbers and texts, each part of which is an argument. -/

namespace Curriculum.Script.Expr

inductive Failure where
  | notWellFormed
  | missingArgument (behind : Text)
  | unexpected (t : Text)
  | notNumber
  | zeroDivisor
  deriving DecidableEq, Repr

def Failure.message : Failure → Text
  | notWellFormed => "missing operand"
  | missingArgument t => "syntax error: missing argument after '".toList ++ t ++ ['\'']
  | unexpected t => "syntax error: unexpected argument '".toList ++ t ++ ['\'']
  | notNumber => "non-integer argument"
  | zeroDivisor => "division by zero"

/-- Reads an expression from the arguments ahead and evaluates it. -/
abbrev Reader := StateT (List Text) (Except Failure)

/-- The value counts as true. -/
def holds (t : Text) : Bool := !t.isEmpty && wholeNumber? t ≠ some 0

abbrev Operation := Text → Text → Except Failure Text

def onNumbers (f : Int → Int → Except Failure Int) : Operation := fun a b =>
  match wholeNumber? a, wholeNumber? b with
  | some m, some n => (f m n).map integer
  | _, _ => .error .notNumber

/-- Compares as numbers if both are, and else as texts. -/
def comparison (numbers : Int → Int → Bool) (texts : Text → Text → Bool) : Operation := fun a b =>
  .ok (integer (truth (match wholeNumber? a, wholeNumber? b with
    | some m, some n => numbers m n
    | _, _ => texts a b)))

def divide (f : Int → Int → Int) : Operation :=
  onNumbers fun m n => if n = 0 then .error .zeroDivisor else .ok (f m n)

/-- What a pattern matches at the start of a text: its first group, or else the length. -/
def matched : Operation := fun a b =>
  match (Regex.parse? false false b).bind fun r =>
      ((Regex.sequence Regex.lineStart r).findFrom [] [] a).filter fun f => f.skipped.isEmpty with
  | some f => .ok ((f.groups.lookup 1).getD (if b.contains '(' then [] else
      Number.digits f.matched.length))
  | none => .ok (if b.contains '(' then [] else ['0'])

/-- The operators by how closely they bind, loosely ones first. -/
def operations : List (List (Text × Operation)) := [
  [("|", fun a b => .ok (if holds a then a else if b.isEmpty then ['0'] else b))],
  [("&", fun a b => .ok (if holds a && holds b then a else ['0']))],
  [("<", comparison (fun m n => m < n) Text.before),
    ("<=", comparison (fun m n => m ≤ n) fun a b => !Text.before b a),
    ("=", comparison (· == ·) fun a b => a = b), ("==", comparison (· == ·) fun a b => a = b),
    ("!=", comparison (· != ·) fun a b => a ≠ b),
    (">", comparison (fun m n => m > n) fun a b => Text.before b a),
    (">=", comparison (fun m n => m ≥ n) fun a b => !Text.before a b)],
  [("+", onNumbers fun m n => .ok (m + n)), ("-", onNumbers fun m n => .ok (m - n))],
  [("*", onNumbers fun m n => .ok (m * n)), ("/", divide Int.tdiv), ("%", divide Int.tmod)],
  [(":", matched)]]

/-- The operation of the argument that comes next, if it is one of these. -/
def operation? (table : List (Text × Operation)) : Reader (Option Operation) := do
  match ← get with
  | t :: rest =>
    match lookup t table with
    | some f =>
      set rest
      return some f
    | none => return none
  | [] => return none

def operand (behind : Text) : Reader Text := do
  match ← get with
  | t :: rest =>
    set rest
    return t
  | [] => throw (.missingArgument behind)

mutual

/-- Operands of the first of some levels of operators. -/
def level (fuel : Nat) (behind : Text) (levels : List (List (Text × Operation))) : Reader Text :=
  match fuel with
  | 0 => throw .notWellFormed
  | fuel + 1 =>
    match levels with
    | [] => single fuel behind
    | table :: closer => do chain fuel table closer (← level fuel behind closer)

/-- What a level's operators add to a first operand. -/
def chain (fuel : Nat) (table : List (Text × Operation))
    (closer : List (List (Text × Operation))) (a : Text) : Reader Text :=
  match fuel with
  | 0 => throw .notWellFormed
  | fuel + 1 => do
    let symbol := (← get).headD []
    match ← operation? table with
    | some f => chain fuel table closer (← f a (← level fuel symbol closer))
    | none => return a

def single (fuel : Nat) (behind : Text) : Reader Text :=
  match fuel with
  | 0 => throw .notWellFormed
  | fuel + 1 => do
    let t ← operand behind
    match String.ofList t with
    | "(" =>
      let a ← level fuel t operations
      match ← get with
      | [')'] :: rest =>
        set rest
        return a
      | _ => throw (.missingArgument a)
    | "length" => return Number.digits (← single fuel t).length
    | "index" =>
      let a ← single fuel t
      let b ← single fuel t
      return Number.digits ((a.findIdx? b.contains).map (· + 1) |>.getD 0)
    | "substr" =>
      let a ← single fuel t
      let first ← single fuel t
      let count ← single fuel t
      match wholeNumber? first, wholeNumber? count with
      | some m, some n => return if m < 1 then [] else (a.drop (m.toNat - 1)).take n.toNat
      | _, _ => return []
    | "match" =>
      let a ← single fuel t
      let b ← single fuel t
      return ← matched a b
    | "+" => operand t
    | _ => return t

end

def evaluate (arguments : List Text) : Except Failure Text := do
  if arguments.isEmpty then throw .notWellFormed
  let (a, rest) ← (level (16 * arguments.length + 16) [] operations).run arguments
  match rest with
  | [] => return a
  | t :: _ => throw (.unexpected t)

def run (arguments : List Text) : Step Nat := do
  match evaluate arguments with
  | .ok t =>
    Step.printLine t
    return if holds t then 0 else 1
  | .error .notWellFormed => complainOfCall "expr" Failure.notWellFormed.message 2
  | .error f => complainAs "expr" f.message 2

end Curriculum.Script.Expr
