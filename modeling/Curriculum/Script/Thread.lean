import Curriculum.Script.World

/-! # Threads and crowds

What a process still has to do is a thread. A crowd is the threads of all processes. They take
turns: a turn goes to the thread that has waited for the earliest time, and lasts until it pauses,
waits for something or ends. -/

namespace Curriculum.Script

inductive Thread where
  | done (e : End)
  | look (next : World → Thread)
  | become (w : World) (next : Thread)
  /-- Lets time pass. -/
  | pause (time : Nat) (next : Thread)
  /-- Waits until the world is ready. -/
  | await (ready : World → Bool) (next : Thread)
  /-- Starts another process, which is known by its number. -/
  | fork (child next : Nat → Thread)

structure Waiting where
  id : Nat
  /-- The time before which it takes no turn. -/
  wake : Nat
  thread : Thread

/-- The threads of all processes, with the world they are in. -/
structure Crowd where
  world : World
  waiting : List Waiting := []

/-- How long it takes until a new process takes its first turn, in nanoseconds. -/
def forkTime : Nat := 500000

/-- A turn of the thread of a process; `others` wait for theirs. -/
def Thread.turn (id : Nat) : Thread → World → List Waiting → Crowd
  | done e, w, others => ⟨w.finish id e, others⟩
  | look next, w, others => (next w).turn id w others
  | become w next, _, others => next.turn id w others
  | pause time next, w, others => ⟨w, others ++ [⟨id, w.clock + time, next⟩]⟩
  | await ready next, w, others =>
    if ready w then next.turn id w others
    else ⟨w, others ++ [⟨id, w.clock, await ready next⟩]⟩
  | fork child next, w, others =>
    (next w.fresh).turn id (w.fork id) (others ++ [⟨w.fresh, w.clock + forkTime, child w.fresh⟩])

/-- Nothing but time keeps a thread from its turn. -/
def Waiting.isReady (w : World) (t : Waiting) : Bool :=
  !(w.process t.id).stopped && match t.thread with
    | .await ready _ => ready w
    | _ => true

namespace Crowd

/-- The thread whose turn it is, if there is one by the given time: of those that are ready the
first one with the earliest time. -/
def next? (c : Crowd) (limit : Nat) : Option Waiting :=
  c.waiting.foldl (fun best t =>
    if t.wake ≤ limit && t.isReady c.world && best.all (t.wake < ·.wake) then some t else best) none

/-- Turns are taken up to a time, `fuel` at most. Threads of processes that were ended by others
take none. -/
def run (fuel limit : Nat) (c : Crowd) : Crowd :=
  match fuel with
  | 0 => c
  | fuel + 1 =>
    let c := { c with waiting := c.waiting.filter fun t => (c.world.outcome t.id).isNone }
    match c.next? limit with
    | none => c
    | some t =>
      let world := { c.world with clock := max c.world.clock t.wake }
      (t.thread.turn t.id world (c.waiting.filter fun o => o.id ≠ t.id)).run fuel limit

/-- More turns than there is time for. -/
def turns : Nat := 1000000000000

def upTo (limit : Nat) (c : Crowd) : Crowd := c.run turns limit

end Crowd

end Curriculum.Script
