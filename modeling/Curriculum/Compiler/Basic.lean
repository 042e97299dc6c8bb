import Curriculum.Decimal.Number
import Curriculum.Settings

/-! # Compilers

A compiler is an external program that turns a LaTeX file into a pdf beside it. -/

namespace Curriculum

/-- The nanoseconds of a second. -/
def second : Nat := 1000000000

structure Compiler where
  program : Text
  /-- How long it may run, in nanoseconds. -/
  timeout : Nat
  deriving DecidableEq, Repr

def Compiler.ofSettings (s : CompilerSettings) : Compiler := ⟨s.program, s.timeoutSecs * second⟩

/-- Why there is no pdf. -/
inductive CompileError where
  /-- There is no directory to compile in. -/
  | noDirectory
  /-- The source or the log cannot be written. -/
  | source (path : Text)
  /-- The compiler cannot be started. -/
  | spawn (program : Text)
  /-- The end of the compiler cannot be learned. -/
  | wait
  /-- The compiler has failed, with a code unless a signal ended it. -/
  | exit (code : Option Nat)
  | timeout (seconds : Nat)
  /-- The compiler has left no pdf. -/
  | missingOutput (path : Text)
  /-- The pdf cannot be read. -/
  | unreadable (path : Text)
  /-- The clock cannot show the time at which the compiler should be stopped. -/
  | noDeadline
  deriving DecidableEq, Repr

namespace CompileError

def message : CompileError → Text
  | noDirectory => "failed to create compile directory"
  | source path => "failed to write source file ".toList ++ Path.display path
  | spawn program => "failed to launch compiler ".toList ++ Path.display program
  | wait => "failed waiting for compiler"
  | exit none => "compiler exited with status None"
  | exit (some code) =>
    "compiler exited with status Some(".toList ++ Number.digits code ++ [')']
  | timeout seconds => "compiler timed out after ".toList ++ Number.digits seconds ++ ['s']
  | missingOutput path => "compiler produced no output at ".toList ++ Path.display path
  | unreadable path => "failed to read compiled output ".toList ++ Path.display path
  | noDeadline => "overflow when adding duration to instant"

/-- The compiler is to blame, and not the files around it. -/
def isCompilerFailure : CompileError → Bool
  | spawn _ | wait | exit _ | timeout _ | missingOutput _ => true
  | noDirectory | source _ | unreadable _ | noDeadline => false

end CompileError

end Curriculum
