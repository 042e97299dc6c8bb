import Curriculum.Script.Shell

/-! # Options

The options of a utility are letters or words, and some of them have a value. They may stand between
the operands. -/

namespace Curriculum.Script

/-- What a utility was called with: the options with their values, and the operands. -/
structure Options where
  given : List (Text × Text) := []
  operands : List Text := []
  /-- An option that the utility does not know. -/
  unknown : Option Char := none

namespace Options

/-- The options in a word of letters, with the value that the last one takes from the arguments
behind it, and what is left of those. -/
def ofLetters (known valued letters : Text) (rest : List Text) : Options × List Text :=
  match letters with
  | [] => ({}, rest)
  | c :: letters =>
    if valued.contains c then
      match letters, rest with
      | [], value :: rest => ({ given := [([c], value)] }, rest)
      | _, _ => ({ given := [([c], letters)] }, rest)
    else if known.contains c then
      let (o, rest) := ofLetters known valued letters rest
      ({ o with given := ([c], []) :: o.given }, rest)
    else ({ unknown := some c }, rest)

/-- Reads arguments; each step takes one of them at least. -/
def readFrom (known valued : Text) (fuel : Nat) (arguments : List Text) : Options :=
  match fuel, arguments with
  | 0, _ | _, [] => {}
  | fuel + 1, argument :: rest =>
    match argument with
    | ['-', '-'] => { operands := rest }
    | '-' :: '-' :: word =>
      let o := readFrom known valued fuel rest
      let name := word.takeWhile (· ≠ '=')
      { o with given := (name, word.drop (name.length + 1)) :: o.given }
    | '-' :: c :: letters =>
      let (first, rest) := ofLetters known valued (c :: letters) rest
      let o := readFrom known valued fuel rest
      { o with given := first.given ++ o.given, unknown := first.unknown <|> o.unknown }
    | operand =>
      let o := readFrom known valued fuel rest
      { o with operands := operand :: o.operands }

def read (known valued : Text) (arguments : List Text) : Options :=
  readFrom known valued (arguments.length + 1) arguments

def has (o : Options) (letter : Char) (word : Text) : Bool :=
  o.given.any fun g => g.1 = [letter] || (g.1 = word && !word.isEmpty)

def value? (o : Options) (letter : Char) (word : Text) : Option Text :=
  (o.given.reverse.find? fun g => g.1 = [letter] || (g.1 = word && !word.isEmpty)).map (·.2)

end Options

/-- A complaint of a utility, which calls itself by the path that it was called by, if it was by
one. -/
def complainAs (name t : Text) (code : Nat) : Step Nat := do
  let called := (← get).called
  Step.complain ((if called.isEmpty then name else called) ++ ": ".toList ++ t) code

def complainOfCall (name t : Text) (code : Nat) : Step Nat := do
  let called := (← get).called
  complainAs name (t ++ "\nTry '".toList ++ (if called.isEmpty then name else called) ++
    " --help' for more information.".toList) code

/-- Calls a utility with its options, unless there is one that it does not know. -/
def withOptions (name known valued : Text) (code : Nat) (arguments : List Text)
    (action : Options → Step Nat) : Step Nat := do
  let o := Options.read known valued arguments
  match o.unknown with
  | some c =>
    complainOfCall name ("invalid option -- '".toList ++ c :: ['\'']) code
  | none => action o

def complainAbout (name subject : Text) (f : Fault) (code : Nat) : Step Nat :=
  complainAs name (subject ++ ": ".toList ++ World.wording f) code

def eachOf (step : α → Step Nat) : List α → Step Nat
  | [] => return 0
  | a :: rest => do
    let first ← step a
    let others ← eachOf step rest
    return if first = 0 then others else first

/-- The content of a file, or of the input for a dash. -/
def readPath (path : Text) : Step (Except Fault Text) := do
  if path = ['-'] then return .ok (← Step.readAll 0)
  let s ← get
  let w ← Step.world
  match w.openPath s.id s.here path .read with
  | .error f => return .error f
  | .ok ({ source := .directory, .. }, _) => return .error .isDirectory
  | .ok ({ source := .file place, .. }, w) => return .ok (Latin1.decode (w.content place))
  | .ok ({ source := .zeros, .. }, _) =>
    Step.await fun _ => false
    return .ok []
  | .ok (_, _) => if streamPath? path = some 0 then return .ok (← Step.readAll 0) else return .ok []

/-- The content of all files, one after the other, or of the input when no file is given. -/
def joinedContent (name : Text) (code : Nat) (paths : List Text) : Step (Text × Nat) := do
  let mut all : List Text := []
  let mut status := 0
  for path in if paths.isEmpty then [['-']] else paths do
    match ← readPath path with
    | .ok content => all := all ++ [content]
    | .error f => status := (← complainAbout name path f code)
  return (all.flatten, status)

/-- Opens a file for writing as a stream; a fault if it cannot be opened. -/
def openStream (stream : Nat) (path : Text) (how : Opening) : Step (Option Fault) := do
  let s ← get
  match (← Step.world).openPath s.id s.here path how with
  | .error f => return some f
  | .ok (file, w) =>
    Step.setWorld (w.addStream s.id stream file)
    return none

/-- Writes a file, new or in place of its old content; a fault if it cannot be written. -/
def writePath (path content : Text) : Step (Option Fault) := do
  match ← openStream 9 path .write with
  | some f => return some f
  | none =>
    Step.write 9 content
    let s ← get
    Step.changeWorld fun w => w.closeStream s.id 9
    return none

def chunks (fuel size : Nat) (as : List α) : List (List α) :=
  match fuel with
  | 0 => []
  | fuel + 1 => if as.isEmpty then [] else as.take size :: chunks fuel size (as.drop size)

/-- A count with a sign and a unit. -/
structure Count where
  sign : Option Char
  number : Nat

def count? (t : Text) : Option Count :=
  let sign := match t with
    | '+' :: _ => some '+'
    | '-' :: _ => some '-'
    | _ => none
  let t := if sign.isSome then t.drop 1 else t
  let digits := t.takeWhile Char.isDigit
  let unit? : Option Nat := match t.drop digits.length with
    | [] => some 1
    | ['b'] => some 512
    | ['k'] | ['K'] => some 1024
    | ['M'] => some 1048576
    | _ => none
  unit?.bind fun unit => (Text.natural? digits).map fun n => ⟨sign, n * unit⟩

/-- The lines of a text without their ends. A last line may have none. -/
def linesOf (t : Text) : List Text :=
  let parts := t.splitOnP (· = '\n')
  if parts.getLast? = some [] then parts.dropLast else parts

end Curriculum.Script
