import Curriculum.CommandLine.Run
import Curriculum.Files.Fresh
import Curriculum.Script.Run

/-! # The program itself

The program that starts scripts can be called from them. Its calls are replied to from the files that
the scripts work on, and a compiler that it starts is a process of its own. What it writes is limited
as for every other process. -/

namespace Curriculum.Script

def pollOf : Option End → Poll
  | none => .running
  | some (.exited code) => .exited (some (code % 256))
  | some (.signalled _) => .exited none

namespace Own

/-- The variables of the environment, as they are looked at. -/
def bindings (s : Shell) : List (Text × Text) :=
  s.environment.map fun (name, value) => (Latin1.toPath name, Latin1.toPath value)

def change (result : Except Fault FileTree) : Step (Except Fault Unit) := do
  match result with
  | .ok tree =>
    Step.changeWorld fun w => w.withTree tree
    return .ok ()
  | .error fault => return .error fault

/-- Appends to a file as many bytes as it may hold. -/
def append (path : Text) (bytes : Bytes) : Step (Except Fault Nat) := do
  let s ← get
  let w ← Step.world
  match w.tree.read s.here path with
  | .error fault => return .error fault
  | .ok content =>
    let taken := min bytes.length ((w.room? s.id content.length).getD bytes.length)
    if taken = 0 then
      Step.receive 25
      return .error .full
    return (← change (w.tree.append s.here path (bytes.take taken))).map fun _ => taken

/-- Starts a compiler as a process of its own, and gives its number. -/
def spawn (c : Caller) (command : Curriculum.Command) : Step (Except Fault Nat) := do
  let s ← get
  let w ← Step.world
  let name := Latin1.ofPath command.program
  let arguments := command.arguments.map Latin1.ofPath
  let found : Except Fault (Place × Place × Text) := do
    let here ← w.tree.locate s.here command.directory
    if w.tree.get? here ≠ some .directory then throw .missing
    let log ← w.tree.locate s.here command.log
    let (path, _) ← w.firstImage here name arguments (s.candidates name)
    return (here, log, path)
  match found with
  | .error fault => return .error fault
  | .ok (here, log, path) =>
    let id ← Step.fork do
      let child ← get
      Step.changeWorld fun w =>
        let w := w.addStream child.id 0 { source := .nothing }
        let w := w.addStream child.id 1 { source := .file log }
        match w.stream? child.id 1 with
        | some file => w.setStream child.id 2 file
        | none => w
      set { child.apart with here }
      c.become name path arguments
    return .ok id

/-- Replies to a call, when `child` is the compiler that has been started. -/
def answer (c : Caller) (child : Option Nat) : (call : Call) → Step (call.Reply × Option Nat)
  | .spawn command => do
    match ← spawn c command with
    | .ok id => return (.ok (), some id)
    | .error fault => return (.error fault, child)
  | .poll => do
    let w ← Step.world
    return ((child.map fun id => pollOf (w.outcome id)).getD .lost, child)
  | .kill => do
    if let some id := child then Step.changeWorld fun w => w.signal id 9
    return ((), child)
  | .reap => do
    if let some id := child then discard <| Step.join id
    return ((), none)
  | .survey _ => do return ((← Step.world).tree.view (← get).here, child)
  | .read path => do return ((← Step.world).tree.read (← get).here path, child)
  | .readInput => do return (Latin1.encode (← Step.readAll 0), child)
  | .isFile path => do return (((← Step.world).tree.view (← get).here).isFile path, child)
  | .isDirectory path => do
    return (decide ((← Step.world).tree.entryAt (← get).here path = some .directory), child)
  | .makeDirectory path => do
    return (← change ((← Step.world).tree.makeDirectory (← get).here path), child)
  | .makeTemporary stem => do
    let s ← get
    let tree := (← Step.world).tree
    let path := tree.freshPath s.here (temporaryOf (bindings s)) stem
    return ((← change (tree.makeDirectory s.here path)).map fun _ => path, child)
  | .create path => do return (← change ((← Step.world).tree.create (← get).here path), child)
  | .share _ => return (.ok (), child)
  | .append path bytes => do return (← append path bytes, child)
  | .rename source target => do
    return (← change ((← Step.world).tree.rename (← get).here source target), child)
  | .removeFile path => do
    return (← change ((← Step.world).tree.removeFile (← get).here path), child)
  | .removeAll path => do
    return (← change ((← Step.world).tree.removeAll (← get).here path), child)
  | .clock earliest => do
    return (⟨max earliest (← Step.world).clock, Nat.le_max_left ..⟩, child)
  | .sleep time => do
    Step.pass time
    return ((), child)
  | .warn _ => return ((), child)

def perform (c : Caller) (child : Option Nat) : Program α → Step α
  | .done result => return result
  | .ask call next => do
    let (reply, child) ← answer c child call
    perform c child (next reply)

/-- Becomes the program itself, which sees only what is exported. -/
def run (c : Caller) (arguments : List Text) : Step Nat := do
  modify fun s => { s with bindings := s.bindings.filter fun b => b.2.exported }
  let environment := Environment.ofBindings (bindings (← get))
  let report ← perform c none (CommandLine.run environment (arguments.map Latin1.toPath))
  Step.write 1 (Latin1.decode report.output)
  Step.write 2 (Latin1.ofText report.errors)
  return report.code

end Own

end Curriculum.Script
