import Curriculum.Program.Basic

/-! # Steps on files

A whole file is written in as many calls as the machine needs to take its bytes, and a directory is
made along with all those above it that are missing. -/

namespace Curriculum.Program

def writeAll (path : Text) : Bytes → Program (Except Fault Unit)
  | [] => done (.ok ())
  | byte :: bytes => ask (.append path (byte :: bytes)) fun
    | .error fault => done (.error fault)
    | .ok 0 => done (.error .full)
    | .ok (taken + 1) => writeAll path (bytes.drop taken)
termination_by bytes => bytes.length
decreasing_by simp only [List.length_drop, List.length_cons]; omega

/-- Writes a file, new or in place of its old content. -/
def writeFile (path : Text) (bytes : Bytes) : Program (Except Fault Unit) :=
  ask (.create path) fun
    | .error fault => done (.error fault)
    | .ok () => writeAll path bytes

/-- The reply to a failure to make a directory: none if one is there already. -/
def acceptDirectory (path : Text) (fault : Fault) : Program (Except Fault Unit) :=
  ask (.isDirectory path) fun present => done (if present then .ok () else .error fault)

/-- Makes a directory and those above it, where they are missing. -/
def makeDirectories (path : Text) : Program (Except Fault Unit) :=
  if path = [] then done (.ok ())
  else ask (.makeDirectory path) fun
    | .ok () => done (.ok ())
    | .error .missing =>
      match _h : Path.parent? path with
      | none => done (.error .missing)
      | some above =>
        (makeDirectories above).bind fun
          | .error fault => done (.error fault)
          | .ok () => ask (.makeDirectory path) fun
            | .ok () => done (.ok ())
            | .error fault => acceptDirectory path fault
    | .error fault => acceptDirectory path fault
termination_by path.length
decreasing_by exact Path.length_lt_of_parent? ‹_›

end Curriculum.Program
