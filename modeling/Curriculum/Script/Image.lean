import Curriculum.Script.Shell

/-! # What programs are

A program is one of the machine's own, or a file whose first line names the program that it is to be
given to. -/

namespace Curriculum.Script

inductive Refusal where
  | missing
  | denied
  /-- The file is there, but its first line names no program. -/
  | unknownFormat
  deriving DecidableEq, Repr

/-- A program of the machine, with what it is called with. -/
structure Image where
  program : Text
  /-- The name that it is called by. -/
  name : Text
  arguments : List Text
  deriving DecidableEq, Repr

def isBlank (c : Char) : Bool := c = ' ' || c = '\t'

def trimBlanks (t : Text) : Text :=
  ((t.dropWhile isBlank).reverse.dropWhile isBlank).reverse

/-- How much of the first line of a file is looked at, behind its first two characters. -/
def headLength : Nat := 254

/-- The program that the first line of a file names, and its argument, if it has one. A zero ends
the line too. A name that goes on where nobody looks is none. -/
def interpreter? : Text → Option (Text × List Text)
  | '#' :: '!' :: rest =>
    let head := (rest.take headLength).takeWhile fun c => c ≠ '\n' && c ≠ '\x00'
    let line := trimBlanks head
    let program := line.takeWhile fun c => !isBlank c
    let argument := trimBlanks (line.drop program.length)
    let isCut := head.length = headLength && !(head.dropWhile isBlank).any isBlank
    if program.isEmpty || isCut then none
    else some (program, if argument.isEmpty then [] else [argument])
  | _ => none

/-- How many files may name one another. -/
def interpreterLimit : Nat := 5

/-- What the program at a path is when it is called by a name with some arguments. -/
def World.image (w : World) (here : Place) (name path : Text) (arguments : List Text) :
    Except Refusal Image :=
  go interpreterLimit name path arguments
where
  go (fuel : Nat) (name path : Text) (arguments : List Text) : Except Refusal Image :=
    match fuel, World.program? path with
    | _, some program => .ok ⟨program, name, arguments⟩
    | 0, none => .error .denied
    | fuel + 1, none =>
      match (w.locate here path).toOption.bind w.tree.get? with
      | none => .error .missing
      | some (.file content true) =>
        match interpreter? (Latin1.decode content) with
        | some (program, argument) => go fuel program program (argument ++ path :: arguments)
        | none => .error .unknownFormat
      | some _ => .error .denied

/-- The first of some paths that can be started, with the program there. One that is a file of no known
format ends the search. -/
def World.firstImage (w : World) (here : Place) (name : Text) (arguments : List Text) :
    List Text → Except Fault (Text × Image)
  | [] => .error .missing
  | path :: rest =>
    match w.image here name path arguments with
    | .ok image => .ok (path, image)
    | .error .unknownFormat => .error .denied
    | .error _ => w.firstImage here name arguments rest

/-- Where programs are looked for unless it is said otherwise. -/
def standardPath : Text := "/usr/local/sbin:/usr/local/bin:/usr/sbin:/usr/bin:/sbin:/bin"

def Shell.searchPath (s : Shell) : List Text :=
  ((s.bound? "PATH").getD standardPath).splitOnP (· = ':')

def Shell.candidates (s : Shell) (name : Text) : List Text :=
  if name.contains '/' then [name]
  else s.searchPath.map fun dir => if dir.isEmpty then name else dir ++ '/' :: name

/-- The path of a program. The first file that may be run counts; if there is none, one that may not
be run is told from none at all. -/
def World.findProgram (w : World) (s : Shell) (name : Text) : Except Refusal Text :=
  let isProgram (path : Text) : Bool :=
    match w.entryAt s.here path with
    | some (.file _ runnable) => runnable
    | _ => false
  let candidates := s.candidates name
  match candidates.find? isProgram with
  | some path => .ok path
  | none =>
    let isDenied (path : Text) : Bool :=
      match w.entryAt s.here path with
      | some .directory => name.contains '/'
      | e => e.isSome
    if candidates.any isDenied then .error .denied else .error .missing

end Curriculum.Script
