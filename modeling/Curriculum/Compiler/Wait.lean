import Curriculum.Compiler.Basic
import Curriculum.Program.Basic

/-! # Waiting for the compiler

The compiler is polled until it ends or its deadline has passed. One that does not end in time, or
of which nothing can be learned, is killed and reaped. Whether either succeeds shows in the log only:
the error is the same, so the two calls reply with nothing. -/

namespace Curriculum.Compiler

open Program

def pollInterval : Nat := 25000000

/-- The clock shows times whose seconds fit a signed word of 64 bits. -/
def representable (time : Nat) : Bool := time / second < 0x8000000000000000

/-- Ends the compiler, with an error for a result. -/
def abandon (e : CompileError) : Program (Except CompileError (Option Nat)) :=
  ask .kill fun _ => ask .reap fun _ => done (.error e)

/-- Polls until the deadline, when the clock shows `earliest` at least. -/
def waitUntil (deadline : Nat) (late : CompileError) (earliest : Nat) :
    Program (Except CompileError (Option Nat)) :=
  ask .poll fun
    | .exited code => done (.ok code)
    | .lost => abandon .wait
    | .running => ask (.clock earliest) fun now =>
      if deadline ≤ now.1 then abandon late
      else ask (.sleep pollInterval) fun _ => waitUntil deadline late (now.1 + pollInterval)
termination_by deadline - earliest
decreasing_by
  have := now.2
  simp only [pollInterval]
  omega

def wait (timeout : Nat) : Program (Except CompileError (Option Nat)) :=
  ask (.clock 0) fun now =>
    let deadline := now.1 + timeout
    if representable deadline then waitUntil deadline (.timeout (timeout / second)) now.1
    else done (.error .noDeadline)

end Curriculum.Compiler
