import Curriculum.Program.Basic

/-! # Histories

The history of a program on a machine is the list of its calls with their replies. What a program
does is the same wherever it gets the same replies, so a fact about its histories is proved of the
program alone, whatever it is replied (`Replays`). -/

namespace Curriculum

/-- A call and what it has been replied with. -/
structure Event where
  call : Call
  reply : call.Reply

namespace Program

variable {α β σ : Type}

/-- The calls of a program on a machine with their replies. -/
def history (m : Machine σ) : Program α → σ → List Event
  | done _, _ => []
  | ask call next, s =>
    ⟨call, (m.reply call s).1⟩ :: (next (m.reply call s).1).history m (m.reply call s).2

theorem history_bind (m : Machine σ) (p : Program α) (f : α → Program β) (s : σ) :
    (p.bind f).history m s = p.history m s ++ (f (p.run m s).1).history m (p.run m s).2 := by
  induction p generalizing s with
  | done a => rfl
  | ask call next ih => exact congrArg _ (ih ..)

/-- A program that is given the replies of some events makes their calls and comes to a result. -/
inductive Replays : Program α → List Event → α → Prop
  | done (a : α) : Replays (done a) [] a
  | ask {call : Call} {next : call.Reply → Program α} {events : List Event} {a : α}
      (reply : call.Reply) (h : Replays (next reply) events a) :
      Replays (ask call next) (⟨call, reply⟩ :: events) a

theorem replays_run (m : Machine σ) (p : Program α) (s : σ) :
    p.Replays (p.history m s) (p.run m s).1 := by
  induction p generalizing s with
  | done a => exact .done a
  | ask call next ih => exact .ask _ (ih ..)

@[simp] theorem replays_done {a b : α} : (done a).Replays events b ↔ events = [] ∧ b = a := by
  constructor
  · rintro ⟨⟩
    exact ⟨rfl, rfl⟩
  · rintro ⟨rfl, rfl⟩
    exact .done b

theorem replays_ask {call : Call} {next : call.Reply → Program α} {a : α} :
    (ask call next).Replays events a ↔
      ∃ reply rest, events = ⟨call, reply⟩ :: rest ∧ (next reply).Replays rest a := by
  constructor
  · rintro ⟨⟩
    exact ⟨_, _, rfl, ‹_›⟩
  · rintro ⟨reply, rest, rfl, h⟩
    exact .ask reply h

theorem replays_bind {p : Program α} {f : α → Program β} {b : β} :
    (p.bind f).Replays events b ↔
      ∃ before after a, events = before ++ after ∧ p.Replays before a ∧ (f a).Replays after b := by
  induction p generalizing events with
  | done a =>
    rw [done_bind]
    constructor
    · intro h
      exact ⟨[], events, a, rfl, .done a, h⟩
    · rintro ⟨before, after, a, rfl, ⟨⟩, h⟩
      exact h
  | ask call next ih =>
    rw [ask_bind]
    constructor
    · intro h
      obtain ⟨reply, rest, rfl, hrest⟩ := replays_ask.1 h
      obtain ⟨before, after, a, rfl, hp, hf⟩ := (ih reply).1 hrest
      exact ⟨⟨call, reply⟩ :: before, after, a, rfl, .ask reply hp, hf⟩
    · rintro ⟨before, after, a, rfl, hp, hf⟩
      obtain ⟨reply, rest, rfl, hrest⟩ := replays_ask.1 hp
      exact .ask reply ((ih reply).2 ⟨rest, after, a, rfl, hrest, hf⟩)

end Program

end Curriculum
