import Curriculum.CommandLine.Run
import Curriculum.Host

/-! # The command line program

The outer layer: it performs the calls of a program on the machine at hand, prints the report and
ends with its code. Compilers are scripts here too; they run on a copy of their compile directory,
and what they leave is copied back. -/

open Curriculum

namespace Curriculum.Outer

def faultOf : IO.Error → Fault
  | .noFileOrDirectory .. | .noSuchThing .. => .missing
  | .alreadyExists .. => .occupied
  | .inappropriateType .. => .notDirectory
  | _ => .denied

/-- The result of an action, with an error as a fault. -/
def caught (action : IO α) : IO (Except Fault α) := do
  try return .ok (← action) catch e => return .error (faultOf e)

def bytesOf (bytes : ByteArray) : Bytes := bytes.toList

def arrayOf (bytes : Bytes) : ByteArray := ⟨bytes.toArray⟩

/-- The name by which a path is handed to the machine, which takes text. -/
def nameOf (path : Text) : String := String.ofList (Path.display path)

def pathOf (name : String) : Text := Path.ofText name.toList

/-- The place of an absolute path. -/
def placeOf (path : Text) : Place :=
  (Path.steps path).foldl (fun place step =>
    if step = ['.'] then place
    else if step = ['.', '.'] then place.dropLast
    else place ++ [step]) []

def absolute (path : Text) : IO Text := do
  return Path.join (pathOf (← IO.currentDir).toString) path

/-- A tree with all that lies at and below an absolute path, as many levels deep as `depth`. -/
def copyInto (depth : Nat) (path : Text) (tree : FileTree) : IO FileTree := do
  let here := (← IO.currentDir) / nameOf path
  if ← here.isDir then
    let mut tree := tree.putDirectories (placeOf path)
    match depth with
    | 0 => return tree
    | depth + 1 =>
      for entry in ← here.readDir do
        tree ← copyInto depth (Path.join path (pathOf entry.fileName)) tree
      return tree
  else if ← here.pathExists then
    let place := placeOf path
    match ← caught (IO.FS.readBinFile here) with
    | .ok bytes =>
      return (tree.putDirectories place.dropLast).put place (.file (bytesOf bytes) true)
    | .error _ => return (tree.putDirectories place.dropLast).put place .sealedFile
  else return tree

def levels : Nat := 64

/-- Makes a directory on the machine agree with a tree. -/
def copyBack (dir : Text) (old new : FileTree) : IO Unit := do
  for (path, entry) in new.listing (placeOf dir) do
    let target := nameOf (Path.join dir path)
    match entry with
    | .directory => IO.FS.createDirAll target
    | .file bytes _ => IO.FS.writeBinFile target (arrayOf bytes)
    | .sealedFile => pure ()
  for (path, entry) in old.listing (placeOf dir) do
    if entry ≠ .directory && (new.get? (placeOf dir ++ Path.steps path)).isNone then
      discard <| caught (IO.FS.removeFile (nameOf (Path.join dir path)))

/-- The compiler at work, with the host it works on and the directory it works in. -/
structure Work where
  host : Host
  directory : Text

def bindings : IO (List (Text × Text)) := do
  let names := ["HOME", "PATH", "TMPDIR", "VITAE_TEMPLATES_DIR", "VITAE_COMPILER",
    "VITAE_COMPILE_TIMEOUT", "CLICOLOR_FORCE"]
  let values ← names.mapM fun name => do
    return (← IO.getEnv name).map fun value => (name.toList, pathOf value)
  return values.filterMap id

def start (work : IO.Ref (Option Work)) (c : Command) : IO (Except Fault Unit) := do
  let bindings ← bindings
  let here := placeOf (← absolute [])
  let directory ← absolute c.directory
  let mut tree ← copyInto levels directory (({} : FileTree).putDirectories here)
  let shell := ({ bindings : Host }).shell here
  for program in shell.candidates (Latin1.ofPath c.program) do
    tree ← copyInto levels (Path.join directory (Latin1.toPath program)) tree
  let host : Host := { tree, here, bindings, clock := ← IO.monoNanosNow }
  match host.spawn c with
  | .ok child =>
    work.set (some ⟨{ host with child := some child }, directory⟩)
    return .ok ()
  | .error fault => return .error fault

/-- How the compiler is doing by now. -/
def progress (work : IO.Ref (Option Work)) : IO Poll := do
  match ← work.get with
  | none => return .lost
  | some w =>
    let now : Host := { w.host with clock := ← IO.monoNanosNow }
    let (poll, host) := now.reply .poll
    copyBack w.directory w.host.tree host.tree
    work.set (some { w with host })
    return poll

/-- A fresh directory among those for temporary files. -/
def makeTemporary (stem : Text) : IO (Except Fault Text) := do
  let dir ← absolute (({ bindings := ← bindings } : Host).temporary)
  let path := Path.join dir (stem ++ FileTree.freshEnding (← IO.rand 0 999999))
  return (← caught (IO.FS.createDir (nameOf path))).map fun _ => path

def answer (work : IO.Ref (Option Work)) : (call : Call) → IO call.Reply
  | .survey path => do
    let here := placeOf (← absolute [])
    let tree ← copyInto levels (← absolute path) (({} : FileTree).putDirectories here)
    return tree.view here
  | .read path => caught do return bytesOf (← IO.FS.readBinFile (nameOf path))
  | .readInput => do return bytesOf (← (← IO.getStdin).readBinToEnd)
  | .isFile path => do
    let path := (← IO.currentDir) / nameOf path
    return (← path.pathExists) && !(← path.isDir)
  | .isDirectory path => do ((← IO.currentDir) / nameOf path).isDir
  | .makeDirectory path => caught (IO.FS.createDir (nameOf path))
  | .makeTemporary stem => makeTemporary stem
  | .create path => caught (IO.FS.writeBinFile (nameOf path) (arrayOf []))
  | .share _ => return .ok ()
  | .append path bytes => caught do
    let handle ← IO.FS.Handle.mk (nameOf path) .append
    handle.write (arrayOf bytes)
    return bytes.length
  | .rename source target =>
    caught (IO.FS.rename (nameOf source) (nameOf target))
  | .removeFile path => caught (IO.FS.removeFile (nameOf path))
  | .removeAll path => caught (IO.FS.removeDirAll (nameOf path))
  | .spawn command => start work command
  | .poll => progress work
  | .kill | .reap => work.set none
  | .clock earliest => do
    let time := max earliest (← IO.monoNanosNow)
    return ⟨time, Nat.le_max_left ..⟩
  | .sleep time => IO.sleep (UInt32.ofNat (time / 1000000))
  | .warn warning => do
    unless (← IO.getEnv "RUST_LOG") = some "off" do
      IO.eprintln ("WARN " ++ String.ofList warning.message)

def perform (work : IO.Ref (Option Work)) : Program α → IO α
  | .done result => return result
  | .ask call next => do perform work (next (← answer work call))

end Curriculum.Outer

def main (arguments : List String) : IO UInt32 := do
  let work ← IO.mkRef none
  let environment := Environment.ofBindings (← Outer.bindings)
  let report ← Outer.perform work
    (CommandLine.run environment (arguments.map Outer.pathOf))
  let output ← IO.getStdout
  output.write (Outer.arrayOf report.output)
  output.flush
  IO.eprint (String.ofList report.errors)
  return UInt32.ofNat report.code
