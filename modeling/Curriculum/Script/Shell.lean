import Curriculum.Decimal.Number
import Curriculum.Script.Command
import Curriculum.Script.Thread
import Curriculum.Text.Entries

/-! # Shells

A shell is what a process knows besides its streams. A step of it ends with a value or halts, and
is written as what a thread does before it goes on. -/

namespace Curriculum.Script

structure Binding where
  value : Option Text
  /-- Programs see it in their environment. -/
  exported : Bool := false
  readonly : Bool := false
  deriving DecidableEq, Repr

structure Shell where
  /-- The number of the process. -/
  id : Nat
  /-- The number of the process that the script was started in. -/
  main : Nat
  here : Place
  /-- The name of the script. -/
  name : Text
  /-- The path by which a utility was called; nothing if it was by its name. -/
  called : Text := []
  arguments : List Text := []
  bindings : List (Text × Binding) := []
  functions : List (Text × Command) := []
  status : Nat := 0
  /-- The line of the command that runs. -/
  line : Nat := 1
  /-- The letters of the options that are on. -/
  options : List Char := []
  /-- What to run for a signal, or at the end for 0. -/
  traps : List (Nat × Text) := []
  /-- The processes that were not waited for. -/
  jobs : List Nat := []
  lastJob : Option Nat := none
  /-- How many functions are being called. -/
  depth : Nat := 0
  /-- How many loops are being run. -/
  loops : Nat := 0
  /-- What the local variables of a function stand in front of. -/
  hidden : List (Text × Option Binding) := []
  /-- The end of the script that the last substitution ran. -/
  substituted : Option Nat := none
  /-- What complaints name behind the line. -/
  within : Text := []

/-- Why a step does not end with a value. -/
inductive Halt where
  | exit (code : Nat)
  /-- Something is wrong with what the shell was told. -/
  | failure (code : Nat)
  /-- The end of a function or a script that was read in. -/
  | giveBack (code : Nat)
  /-- The end of so many loops. -/
  | leave (loops : Nat)
  /-- The end of a round of the last one of so many loops. -/
  | again (loops : Nat)
  deriving DecidableEq, Repr

def Halt.status : Halt → Nat
  | exit code | failure code | giveBack code => code
  | leave _ | again _ => 0

/-- What is done with a shell before a thread goes on. -/
def Step (α : Type) : Type := Shell → (Except Halt α → Shell → Thread) → Thread

namespace Step

instance : Monad Step where
  pure a := fun s next => next (.ok a) s
  bind step f := fun s next => step s fun r s =>
    match r with
    | .ok a => f a s next
    | .error h => next (.error h) s

instance : MonadStateOf Shell Step where
  get := fun s next => next (.ok s) s
  set s := fun _ next => next (.ok ()) s
  modifyGet f := fun s next => next (.ok (f s).1) (f s).2

instance : MonadExceptOf Halt Step where
  throw h := fun s next => next (.error h) s
  tryCatch step f := fun s next => step s fun r s =>
    match r with
    | .ok a => next (.ok a) s
    | .error h => f h s next

def world : Step World := fun s next => .look fun w => next (.ok w) s

def setWorld (w : World) : Step Unit := fun s next => .become w (next (.ok ()) s)

def changeWorld (f : World → World) : Step Unit := do setWorld (f (← world))

/-- Lets time pass. -/
def pass (time : Nat) : Step Unit := fun s next => .pause time (next (.ok ()) s)

def await (ready : World → Bool) : Step Unit := fun s next => .await ready (next (.ok ()) s)

/-- The thread of a step that is all that a process does. -/
def toThread (step : Step Nat) (s : Shell) : Thread :=
  step s fun r _ => .done (.exited (match r with
    | .ok code => code
    | .error h => h.status))

/-- Starts a process that takes a step in a copy of the shell. -/
def fork (step : Step Nat) : Step Nat := fun s next =>
  .fork (fun id => step.toThread { s with id }) (fun id => next (.ok id) s)

def join (id : Nat) : Step End := do
  await fun w => (w.outcome id).isSome
  let w ← world
  setWorld (w.forget id)
  return (w.outcome id).getD (.exited 0)

/-! ## Streams -/

/-- A signal has been sent to the process itself; it may end by that. -/
def receive (signal : Nat) : Step Unit := do
  let s ← get
  changeWorld fun w => w.signal s.id signal
  pass 0

/-- Writes to a stream. A stream that is not open takes nothing, and a file that may get no longer
takes as much as it may hold. -/
def write (stream : Nat) (t : Text) : Step Unit := do
  if t.isEmpty then return
  let s ← get
  match (← world).stream? s.id stream with
  | none => return
  | some file =>
    await fun w => w.writable file
    let w ← world
    if w.isBroken file then receive 13
    else match w.roomIn? s.id file with
      | none => setWorld (w.write file (Latin1.encode t))
      | some room =>
        unless room = 0 do setWorld (w.write file (Latin1.encode (t.take room)))
        if room < t.length then receive 25

def print (t : Text) : Step Unit := write 1 t

def printLine (t : Text) : Step Unit := write 1 (t ++ ['\n'])

/-- Prints a complaint and gives the status of a failure. -/
def complain (t : Text) (status : Nat) : Step Nat := do
  write 2 (t ++ ['\n'])
  return status

/-- What can be read from a stream once anything can; nothing at its end. -/
def readSome (stream : Nat) : Step Text := do
  let s ← get
  match (← world).stream? s.id stream with
  | none => return []
  | some file =>
    await fun w => w.readable file
    return Latin1.decode ((← world).available file)

/-- Goes on in a stream by some characters that have been read. -/
def consume (stream count : Nat) : Step Unit := do
  let s ← get
  match (← world).stream? s.id stream with
  | none => return
  | some file => changeWorld fun w => w.consume file count

/-- What is read from a stream up to its end, in `fuel` parts at most. -/
def readParts (fuel stream : Nat) : Step (List Text) := do
  match fuel with
  | 0 => return []
  | fuel + 1 =>
    let part ← readSome stream
    if part.isEmpty then return []
    consume stream part.length
    return part :: (← readParts fuel stream)

/-- What is read from a stream up to its end. Zeros have none. -/
def readAll (stream : Nat) : Step Text := do
  let s ← get
  let w ← world
  if ((w.stream? s.id stream).bind fun file => w.opened.lookup file).any (·.source = .zeros) then
    await fun _ => false
  return (← readParts 1000000 stream).flatten

/-- What is read from a stream through the next line end, in `fuel` parts at most, and whether
there is one. -/
def readLine (fuel stream : Nat) : Step (Text × Bool) := do
  match fuel with
  | 0 => return ([], false)
  | fuel + 1 =>
    let part ← readSome stream
    if part.isEmpty then return ([], false)
    let line := part.takeWhile (· ≠ '\n')
    if line.length < part.length then
      consume stream (line.length + 1)
      return (line, true)
    consume stream part.length
    let (rest, ended) ← readLine fuel stream
    return (line ++ rest, ended)

/-! ## Complaints -/

/-- The complaint of a shell, with the line of the command. -/
def complaint (t : Text) : Step Text := do
  let s ← get
  return s.name ++ ": ".toList ++ Number.digits s.line ++ ": ".toList ++ s.within ++ t

def fail (t : Text) (code : Nat) : Step α := do
  write 2 ((← complaint t) ++ ['\n'])
  throw (.failure code)

end Step

/-! ## Parameters -/

namespace Shell

def binding? (s : Shell) (name : Text) : Option Binding := lookup name s.bindings

def bound? (s : Shell) (name : Text) : Option Text := (s.binding? name).bind Binding.value

/-- The characters at which values are split. -/
def separators (s : Shell) : Text := (s.bound? "IFS").getD " \t\n"

/-- What stands between the arguments when they are one text. -/
def glue (s : Shell) : Text := s.separators.take 1

/-- The value of a parameter, if it has one. -/
def value? (s : Shell) (name : Text) : Option Text :=
  match Text.natural? name with
  | some 0 => some s.name
  | some (n + 1) => s.arguments[n]?
  | none =>
    match name with
    | ['#'] => some (Number.digits s.arguments.length)
    | ['?'] => some (Number.digits s.status)
    | ['$'] => some (Number.digits s.main)
    | ['!'] => s.lastJob.map Number.digits
    | ['-'] => some s.options
    | ['@'] => if s.arguments.isEmpty then none else some (Text.join [' '] s.arguments)
    | ['*'] => if s.arguments.isEmpty then none else some (Text.join s.glue s.arguments)
    | _ => s.bound? name

/-- An option is on. -/
def has (s : Shell) (option : Char) : Bool := s.options.contains option

/-- The variables of the environment of programs. -/
def environment (s : Shell) : List (Text × Text) :=
  s.bindings.filterMap fun (name, b) => if b.exported then b.value.map fun v => (name, v) else none

def bind (s : Shell) (name : Text) (f : Option Binding → Binding) : Shell :=
  { s with bindings := bindName name (f (s.binding? name)) s.bindings }

end Shell

namespace Step

def setVariable (name value : Text) : Step Unit := do
  let s ← get
  if (s.binding? name).any Binding.readonly then fail (name ++ ": is read only") 2
  let exported := s.has 'a'
  set (s.bind name fun b => match b with
    | some b => { b with value := some value, exported := b.exported || exported }
    | none => { value := some value, exported })

def unsetVariable (name : Text) : Step Unit := modify fun s =>
  { s with bindings := s.bindings.filter fun b => b.1 ≠ name }

end Step

end Curriculum.Script
