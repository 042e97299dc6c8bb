import Curriculum.Artifact.Basic
import Curriculum.Program.Files

/-! # Writing artifacts

An artifact goes to a file of its name in a directory. It is written to a temporary file beside the
target, which then takes the place of the target in one step, so that nobody sees half an artifact.
A target that holds the artifact already is left alone.

An artifact is of one of the three formats, and its file has the name that goes with the format. -/

namespace Curriculum

/-- An artifact is not written because of what happened at a path. -/
structure WriteError where
  path : Text
  deriving DecidableEq, Repr

def WriteError.message (e : WriteError) : Text := "I/O error at ".toList ++ Path.display e.path

/-- An artifact is at its path. -/
inductive Written where
  | fresh (path : Text)
  /-- The file held the artifact before. -/
  | unchanged (path : Text)
  deriving DecidableEq, Repr

def Written.path : Written → Text
  | fresh path | unchanged path => path

namespace Artifact

open Program

def target (a : Artifact) (dir : Text) : Text := Path.join dir (Path.ofText a.filename)

/-- Where the bytes for a target are collected. The path is made of what the target is shown as, so
it lies beside the target only where that is text. -/
def temporary (target : Text) : Text := Path.shown target ++ ".vitae.tmp"

/-- Puts a temporary file in the place of the target; it is removed if that fails. -/
def replace (target : Text) : Program (Except WriteError Written) :=
  ask (.rename (temporary target) target) fun
    | .ok () => done (.ok (.fresh target))
    | .error _ => ask (.removeFile (temporary target)) fun _ => done (.error ⟨target⟩)

/-- Makes the directory of a target, if the path has one. -/
def prepare (target : Text) : Program (Except WriteError Unit) :=
  match Path.parent? target with
  | none => done (.ok ())
  | some above => (makeDirectories above).bind fun result =>
    done (result.mapError fun _ => ⟨above⟩)

/-- Writes bytes to a target that does not hold them. -/
def overwrite (target : Text) (bytes : Bytes) : Program (Except WriteError Written) :=
  (prepare target).bind fun
    | .error e => done (.error e)
    | .ok () => (writeFile (temporary target) bytes).bind fun
      | .error _ => done (.error ⟨temporary target⟩)
      | .ok () => replace target

def write (a : Artifact) (dir : Text) : Program (Except WriteError Written) :=
  let target := a.target dir
  ask (.read target) fun
    | .ok bytes =>
      if bytes = a.body then done (.ok (.unchanged target)) else overwrite target a.body
    | .error _ => overwrite target a.body

end Artifact

end Curriculum
