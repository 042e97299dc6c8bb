import Curriculum.Compiler.Wait
import Curriculum.Program.Files
import Curriculum.Text.Lines

/-! # Making a pdf

Each pdf is made in a compile directory of its own, which is removed at the end whatever has
happened in it. When the compiler is to blame for a failure, the end of what it has said is
reported. -/

namespace Curriculum.Compiler

open Program

def directoryStem : Text := "vitae-"

/-- The file in a compile directory that takes all that the compiler says. -/
def logPath (directory : Text) : Text := Path.join directory "compiler.log"

def reportedLines : Nat := 20

def openDirectory : Program (Except CompileError Text) :=
  ask (.makeTemporary directoryStem) fun
    | .ok directory => done (.ok directory)
    | .error _ => done (.error .noDirectory)

/-- Removes a compile directory, or warns that it stays. -/
def closeDirectory (directory : Text) : Program Unit :=
  ask (.removeAll directory) fun
    | .ok () => done ()
    | .error _ => ask (.warn .directoryLeft) done

def sourcePath (directory stem : Text) : Text := Path.join directory (Path.ofText (stem ++ ".tex"))

def pdfPath (directory stem : Text) : Text := Path.join directory (Path.ofText (stem ++ ".pdf"))

/-- How the compiler is started on a source file. -/
def command (c : Compiler) (directory stem : Text) : Command where
  program := c.program
  arguments := ["-interaction=nonstopmode", "-halt-on-error",
    "-output-directory=".toList ++ Path.shown directory, sourcePath directory stem]
  directory := directory
  log := logPath directory

def collect (path : Text) : Program (Except CompileError Bytes) :=
  ask (.isFile path) fun
    | false => done (.error (.missingOutput path))
    | true => ask (.read path) fun
      | .ok bytes => done (.ok bytes)
      | .error _ => done (.error (.unreadable path))

/-- Runs the compiler to its end. Only the code 0 is a success. -/
def launch (c : Compiler) (directory stem : Text) : Program (Except CompileError Unit) :=
  ask (.spawn (c.command directory stem)) fun
    | .error _ => done (.error (.spawn c.program))
    | .ok () => (wait c.timeout).bind fun
      | .error e => done (.error e)
      | .ok code => done (if code = some 0 then .ok () else .error (.exit code))

def compileIn (c : Compiler) (directory stem : Text) (source : Bytes) :
    Program (Except CompileError Bytes) :=
  (writeFile (sourcePath directory stem) source).bind fun
    | .error _ => done (.error (.source (sourcePath directory stem)))
    | .ok () => ask (.create (logPath directory)) fun
      | .error _ => done (.error (.source (logPath directory)))
      -- what the compiler prints and its errors go to the log through a handle each
      | .ok () => ask (.share (logPath directory)) fun
        | .error _ => done (.error (.source (logPath directory)))
        | .ok () => (c.launch directory stem).bind fun
          | .error e => done (.error e)
          | .ok () => collect (pdfPath directory stem)

/-- The end of the log. Bytes that are no text are replaced, and a log that cannot be read is
empty. -/
def logEnd (result : Except Fault Bytes) : Text :=
  match result with
  | .ok bytes => Text.lastLines reportedLines (Utf8.decodeLossy bytes)
  | .error _ => []

/-- Warns of a failure that is the compiler's. -/
def report (directory : Text) (result : Except CompileError Bytes) : Program Unit :=
  match result with
  | .ok _ => done ()
  | .error e =>
    if e.isCompilerFailure then
      ask (.read (logPath directory)) fun log => ask (.warn (.compilerFailed (logEnd log))) done
    else done ()

/-- Compiles LaTeX source under the name `stem` to the bytes of a pdf. -/
def pdf (c : Compiler) (stem source : Text) : Program (Except CompileError Bytes) :=
  openDirectory.bind fun
    | .error e => done (.error e)
    | .ok directory => (c.compileIn directory stem (Utf8.encode source)).bind fun result =>
      (report directory result).bind fun _ => (closeDirectory directory).bind fun _ => done result

end Curriculum.Compiler
