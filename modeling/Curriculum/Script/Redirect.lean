import Curriculum.Script.Field

/-! # Redirections

A redirection makes an open file a stream of the process. Unless it is meant to stay, the stream
that it takes the place of is kept under another number and comes back at the end. -/

namespace Curriculum.Script

/-- The complaint about a file that cannot be opened. -/
def openingComplaint (path : Text) (how : Opening) (f : Fault) : Text :=
  let reason : Text := match f, how with
    | .missing, .read | .notDirectory, .read => "No such file"
    | .missing, _ | .notDirectory, _ => "Directory nonexistent"
    | f, _ => World.wording f
  (if how = .read then "cannot open " else "cannot create " : String).toList ++ path ++
    ": ".toList ++ reason

/-- Makes a file a stream, or gives the complaint about it. -/
def openAs (stream : Nat) (path : Text) (how : Opening) : Step (Option Text) := do
  let s ← get
  match (← Step.world).openPath s.id s.here path how with
  | .error f => return some (openingComplaint path how f)
  | .ok (file, w) =>
    Step.setWorld (w.addStream s.id stream file)
    return none

/-- Makes a stream another one, closes it for a dash, or gives the complaint. -/
def copyAs (stream : Nat) (source : Text) : Step (Option Text) := do
  let s ← get
  let w ← Step.world
  if source = ['-'] then
    Step.setWorld (w.closeStream s.id stream)
    return none
  match Text.natural? source with
  | none => return some "Bad fd number"
  | some n =>
    match w.stream? s.id n with
    | some file =>
      Step.setWorld (w.setStream s.id stream file)
      return none
    | none => return some (source ++ ": Bad file descriptor".toList)

def Redirection.stream : Redirection → Nat
  | .path stream _ output _ => stream.getD (if output then 1 else 0)
  | .document stream _ => stream.getD 0

def Redirection.apply (inner : Text → Step Text) (r : Redirection) : Step (Option Text) := do
  match r with
  | .document _ body =>
    let t ← wholeText inner body
    let s ← get
    let file : OpenFile := { source := .removed (Latin1.encode t) }
    Step.changeWorld fun w => w.addStream s.id r.stream file
    return none
  | .path _ direction _ target =>
    let t ← wholeText inner target
    match direction with
    | .input => openAs r.stream t .read
    | .output => openAs r.stream t .write
    | .append => openAs r.stream t .append
    | .inputOutput => openAs r.stream t .both
    | .copy => copyAs r.stream t

/-- The first number from 10 on that is no stream of the process. -/
def freeStream (p : Process) : Nat :=
  ((List.range (p.streams.length + 1)).map (10 + ·)).find? (fun n => (p.streams.lookup n).isNone)
    |>.getD 10

def keepStream (stream : Nat) : Step (Nat × Option Nat) := do
  let s ← get
  let w ← Step.world
  match w.stream? s.id stream with
  | none => return (stream, none)
  | some file =>
    let free := freeStream (w.process s.id)
    Step.setWorld (w.setStream s.id free file)
    return (stream, some free)

def bringBack : Nat × Option Nat → Step Unit
  | (stream, none) => do
    let s ← get
    Step.changeWorld fun w => w.closeStream s.id stream
  | (stream, some free) => do
    let s ← get
    Step.changeWorld fun w =>
      match w.stream? s.id free with
      | some file => (w.setStream s.id stream file).closeStream s.id free
      | none => w

/-- Carries out redirections; gives what was kept for them, and the complaint about the first one
that fails. -/
def applyAll (inner : Text → Step Text) (keep : Bool) :
    List Redirection → Step (List (Nat × Option Nat) × Option Text)
  | [] => return ([], none)
  | r :: rest => do
    let kept ← if keep then do pure [← keepStream r.stream] else pure []
    match ← r.apply inner with
    | some complaint => return (kept, some complaint)
    | none =>
      let (more, complaint) ← applyAll inner keep rest
      return (more ++ kept, complaint)

def bringAllBack : List (Nat × Option Nat) → Step Unit
  | [] => return
  | k :: rest => do
    bringBack k
    bringAllBack rest

/-- Takes a step with redirections, which end with it. When one of them fails, `failed` gives the
result instead. -/
def redirected (inner : Text → Step Text) (rs : List Redirection) (failed : Step Nat)
    (step : Step Nat) : Step Nat := do
  if rs.isEmpty then return ← step
  let (kept, complaint) ← applyAll inner true rs
  match complaint with
  | some t =>
    Step.write 2 ((← Step.complaint t) ++ ['\n'])
    bringAllBack kept
    failed
  | none =>
    let status ← tryCatch step fun halt => do
      bringAllBack kept
      throw halt
    bringAllBack kept
    return status

end Curriculum.Script
