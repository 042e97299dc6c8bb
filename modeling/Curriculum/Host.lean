import Curriculum.Compiler.Basic
import Curriculum.Files.Fresh
import Curriculum.Program.Basic
import Curriculum.Script.Programs

/-! # A machine in memory

A host is a machine whose files are a file tree and whose clock moves only while programs sleep. The
compilers that it can start are scripts, and programs that scripts can call. Nothing of it fails
without a reason that its files give, which makes it the place to rehearse a program in. What is
proved about programs holds of every machine and rests on nothing that scripts do. -/

namespace Curriculum

/-- A compiler at work: the number of its process, and all processes that have come from it. -/
structure Child where
  id : Nat
  crowd : Script.Crowd

structure Host where
  tree : FileTree := {}
  /-- The working directory. -/
  here : Place := []
  /-- The variables of the environment. -/
  bindings : List (Text × Text) := []
  input : Bytes := []
  /-- The time, which starts some while after the clock did. -/
  clock : Nat := 100000 * second
  child : Option Child := none
  warnings : List Warning := []

namespace Host

def temporary (h : Host) : Text := temporaryOf h.bindings

/-! ## Compilers -/

/-- How long it takes before a compiler starts to work. -/
def launchTime : Nat := 1000000

def firstProcess : Nat := Script.World.starter + 1

/-- What the processes of a compiler start with: all that is printed goes to the file at `log`. -/
def world (h : Host) (log : Place) : Script.World where
  stored := h.tree
  clock := h.clock
  opened := [(0, { source := .nothing }), (1, { source := .file log })]
  processes := [{
    id := firstProcess, parent := Script.World.starter, streams := [(0, 0), (1, 1), (2, 1)] }]
  fresh := firstProcess + 1

/-- What a compiler knows when it starts to work in a directory. -/
def shell (h : Host) (here : Place) : Script.Shell where
  id := firstProcess
  main := firstProcess
  here := here
  name := []
  bindings := h.bindings.map fun (name, value) =>
    (Latin1.ofPath name, { value := some (Latin1.ofPath value), exported := true })

/-- Starts a compiler. A name without a slash is looked for in the directories of programs. -/
def spawn (h : Host) (c : Command) : Except Fault Child := do
  let here ← h.tree.locate h.here c.directory
  if h.tree.get? here ≠ some .directory then throw .missing
  let world := h.world (← h.tree.locate h.here c.log)
  let shell := h.shell here
  let name := Latin1.ofPath c.program
  let arguments := c.arguments.map Latin1.ofPath
  let (_, image) ← world.firstImage here name arguments (shell.candidates name)
  let thread := (Script.start image).toThread shell
  return ⟨firstProcess, world, [⟨firstProcess, h.clock + launchTime, thread⟩]⟩

/-- How a compiler is doing by now, with its processes as they are and the files as they have left
them. -/
def progress (h : Host) (c : Child) : Poll × Child × FileTree :=
  let crowd := { c.crowd with world := c.crowd.world.withTree h.tree }.upTo h.clock
  (Script.pollOf (crowd.world.outcome c.id), { c with crowd }, crowd.world.tree)

/-! ## Replies -/

/-- The reply to a change of the files. -/
def change (h : Host) (result : Except Fault FileTree) : Except Fault Unit × Host :=
  match result with
  | .ok tree => (.ok (), { h with tree })
  | .error fault => (.error fault, h)

def reply (call : Call) (h : Host) : call.Reply × Host :=
  match call with
  | .survey _ => (h.tree.view h.here, h)
  | .read path => (h.tree.read h.here path, h)
  | .readInput => (h.input, h)
  | .isFile path => ((h.tree.view h.here).isFile path, h)
  | .isDirectory path => (h.tree.entryAt h.here path = some .directory, h)
  | .makeDirectory path => h.change (h.tree.makeDirectory h.here path)
  | .makeTemporary stem =>
    let path := h.tree.freshPath h.here h.temporary stem
    match h.tree.makeDirectory h.here path with
    | .ok tree => (.ok path, { h with tree })
    | .error fault => (.error fault, h)
  | .create path => h.change (h.tree.create h.here path)
  | .share _ => (.ok (), h)
  | .append path bytes =>
    match h.tree.append h.here path bytes with
    | .ok tree => (.ok bytes.length, { h with tree })
    | .error fault => (.error fault, h)
  | .rename source target => h.change (h.tree.rename h.here source target)
  | .removeFile path => h.change (h.tree.removeFile h.here path)
  | .removeAll path => h.change (h.tree.removeAll h.here path)
  | .spawn command =>
    match h.spawn command with
    | .ok child => (.ok (), { h with child := some child })
    | .error fault => (.error fault, h)
  | .poll =>
    match h.child with
    | none => (.lost, h)
    | some child =>
      let (poll, child, tree) := h.progress child
      (poll, { h with tree, child := some child })
  | .kill => ((), { h with child := none })
  | .reap => ((), { h with child := none })
  | .clock earliest =>
    let time := max earliest h.clock
    (⟨time, Nat.le_max_left ..⟩, { h with clock := time })
  | .sleep time => ((), { h with clock := h.clock + time })
  | .warn warning => ((), { h with warnings := h.warnings ++ [warning] })

def machine : Machine Host := ⟨reply⟩

def run (h : Host) (p : Program α) : α × Host := p.run machine h

end Host

end Curriculum
