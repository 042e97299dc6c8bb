import Curriculum.CommandLine.Run
import Curriculum.Host
import Curriculum.Proofs.Render

/-! # The end of the compiler

What becomes of a started compiler is told by the calls that concern it (`Compiler.fate`). Every
render ends it, or kills and reaps it, with one exception: where the clock cannot show its deadline,
the render is aborted with the compiler at work (`Registry.render_fate`). -/

namespace Curriculum

open Program

namespace Compiler

/-- What has become of the compiler. -/
inductive Fate where
  /-- None has been started. -/
  | unstarted
  | running
  /-- It has been killed, and is to be reaped. -/
  | killed
  /-- It has been seen to end by itself, or has been reaped. -/
  | ended
  deriving DecidableEq

/-- What an event makes of the compiler. -/
def Fate.next (fate : Fate) : Event → Fate
  | ⟨.spawn _, .ok ()⟩ => .running
  | ⟨.poll, .exited _⟩ => if fate = .running then .ended else fate
  | ⟨.kill, ()⟩ => if fate = .running then .killed else fate
  | ⟨.reap, ()⟩ => if fate = .killed then .ended else fate
  | _ => fate

/-- What the events make of the compiler. -/
def Fate.after (fate : Fate) (events : List Event) : Fate := events.foldl Fate.next fate

@[simp] theorem Fate.after_nil (fate : Fate) : fate.after [] = fate := rfl

@[simp] theorem Fate.after_cons (fate : Fate) (event : Event) (events : List Event) :
    fate.after (event :: events) = (fate.next event).after events := rfl

@[simp] theorem Fate.after_append (fate : Fate) (before events : List Event) :
    fate.after (before ++ events) = (fate.after before).after events := List.foldl_append

/-! ## The steps of a compilation -/

theorem Writes.fate_eq (h : Writes path events result) (fate : Fate) : fate.after events = fate := by
  induction h with
  | done | failed | full => rfl
  | more _ ih => exact ih

theorem Stores.fate_eq (h : Stores path events result) (fate : Fate) : fate.after events = fate := by
  cases h with
  | notCreated => rfl
  | created h => exact h.fate_eq fate

/-- Waiting comes to an end with the compiler. -/
theorem Waits.fate_eq (h : Waits deadline e earliest events result) :
    Fate.running.after events = .ended := by
  induction h with
  | exited | lost | late => rfl
  | early _ _ _ ih => exact ih

theorem Waits.result_ne (h : Waits deadline e earliest events result) (he : e ≠ .noDeadline) :
    result ≠ .error .noDeadline := by
  induction h with
  | exited | lost => nofun
  | late => exact fun h => he (Except.error.inj h)
  | early _ _ _ ih => exact ih

/-- A started compiler is at work at the end if there is no deadline, and it has ended otherwise. -/
theorem Awaits.fate_eq (h : Awaits limit events result) :
    result = .error .noDeadline ∧ Fate.running.after events = .running ∨
      result ≠ .error .noDeadline ∧ Fate.running.after events = .ended := by
  cases h with
  | noDeadline => exact .inl ⟨rfl, rfl⟩
  | deadline now h hwait => exact .inr ⟨hwait.result_ne nofun, hwait.fate_eq⟩

theorem Launches.fate_eq (h : Launches c directory stem events result) :
    result = .error .noDeadline ∧ Fate.unstarted.after events = .running ∨
      result ≠ .error .noDeadline ∧ Fate.unstarted.after events = .ended := by
  obtain ⟨hstore, hawait⟩ := h
  simpa [hstore.fate_eq, Fate.next] using hawait.fate_eq

theorem Launches.fate_of_ok (h : Launches c directory stem events (.ok code)) :
    Fate.unstarted.after events = .ended := by
  rcases h.fate_eq with ⟨hresult, -⟩ | ⟨-, hfate⟩
  · cases hresult
  · exact hfate

/-- How a compilation with a result leaves the compiler. -/
def Fate.IsLeftBy (result : Except CompileError Bytes) (fate : Fate) : Prop :=
  result = .error .noDeadline ∧ fate = .running ∨
    result ≠ .error .noDeadline ∧ (fate = .unstarted ∨ fate = .ended)

theorem Compiles.fate_isLeftBy (h : Compiles c directory stem events result) :
    (Fate.unstarted.after events).IsLeftBy result := by
  cases h with
  | notStored hstore => exact .inr ⟨nofun, .inl (hstore.fate_eq _)⟩
  | noLog hstore | notShared hstore | notStarted hstore =>
    refine .inr ⟨nofun, .inl ?_⟩
    simp [hstore.fate_eq, Fate.next]
  | notAwaited hlaunch =>
    rcases hlaunch.fate_eq with ⟨hresult, hfate⟩ | ⟨hresult, hfate⟩
    · exact .inl ⟨by simpa using hresult, hfate⟩
    · exact .inr ⟨by simpa using hresult, .inr hfate⟩
  | failed hlaunch => exact .inr ⟨nofun, .inr hlaunch.fate_of_ok⟩
  | noPdf hlaunch | unreadable hlaunch | pdf hlaunch =>
    refine .inr ⟨nofun, .inr ?_⟩
    simp [hlaunch.fate_of_ok, Fate.next]

/-! ## Around the compilation -/

theorem fate_report (h : (report directory result).Replays events ()) (fate : Fate) :
    fate.after events = fate := by
  rcases replays_report h with rfl | ⟨log, rfl⟩ <;> rfl

theorem fate_closeDirectory (h : (closeDirectory directory).Replays events ()) (fate : Fate) :
    fate.after events = fate := by
  rcases replays_closeDirectory h with rfl | ⟨fault, rfl⟩ <;> rfl

theorem fate_pdf {c : Compiler} (h : (c.pdf stem source).Replays events result) :
    (Fate.unstarted.after events).IsLeftBy result := by
  rcases replays_pdf h with
    ⟨fault, rfl, rfl⟩ | ⟨directory, inside, reporting, closing, rfl, hinside, hreport, hclose⟩
  · exact .inr ⟨nofun, .inl rfl⟩
  · simpa [Fate.next, fate_report hreport, fate_closeDirectory hclose] using hinside.fate_isLeftBy

theorem fate_artifact {c : Compiler} (h : (c.artifact stem source).Replays events a) :
    (a = .error .aborted → Fate.unstarted.after events = .running) ∧
      (a ≠ .error .aborted →
        Fate.unstarted.after events = .unstarted ∨ Fate.unstarted.after events = .ended) := by
  obtain ⟨making, after, v, rfl, hpdf, rfl, hafter⟩ := replays_artifact h
  have hfate : Fate.unstarted.after (making ++ after) = Fate.unstarted.after making := by
    rcases hafter with rfl | ⟨w, rfl⟩ <;> simp [Fate.next]
  rw [hfate, ne_eq, settle_eq_aborted_iff]
  rcases fate_pdf hpdf with ⟨hv, hrunning⟩ | ⟨hv, hleft⟩
  · exact ⟨fun _ => hrunning, fun h => absurd hv h⟩
  · exact ⟨fun h => absurd h hv, fun _ => hleft⟩

/-- Seconds can be shown as long as they fit in a signed word of 64 bits. -/
theorem not_representable_iff (start seconds : Nat) :
    ¬representable (start + seconds * second) ↔
      0x8000000000000000 ≤ start / second + seconds := by
  have hquotient : (start + seconds * second) / second = start / second + seconds :=
    Nat.add_mul_div_right start seconds (by decide)
  rw [representable, hquotient, decide_eq_true_iff, Nat.not_lt]

end Compiler

/-! ## Renders -/

namespace Registry

open Compiler

/-- A render that is aborted leaves the compiler at work, and no other render does: every compiler
that it has started has ended by itself, or has been killed and reaped. It is aborted just when the
time limit leads beyond what the clock can show, which no setting is guarded against. -/
theorem render_fate (r : Registry) (settings : CompilerSettings) (id : Text)
    (submission : Json.Value) (m : Machine σ) (s : σ) :
    let rendering := r.render (.ofSettings settings) id submission .pdf
    let events := rendering.history m s
    let result := (rendering.run m s).1
    let fate := Fate.unstarted.after events
    (result = .error .aborted ↔ ∃ start later, readings events = start :: later ∧
      0x8000000000000000 ≤ start / second + settings.timeoutSecs) ∧
    (result = .error .aborted → fate = .running) ∧
    (result ≠ .error .aborted → fate = .unstarted ∨ fate = .ended) := by
  intro rendering events result fate
  cases htemplate : r.template id with
  | error e =>
    have hrendering : rendering = .done (.error (.notFound id)) := render_of_error htemplate
    have hevents : events = [] := by simp only [events, hrendering, history]
    have hresult : result = .error (.notFound id) := by simp only [result, hrendering, run_done]
    have hne : result ≠ .error .aborted := by simp [hresult]
    have hfate : fate = .unstarted := by simp only [fate, hevents, Fate.after_nil]
    exact ⟨iff_of_false hne (by simp [hevents]), fun h => absurd h hne, fun _ => .inl hfate⟩
  | ok t =>
    have hpdf : ((Compiler.ofSettings settings).artifact t.definition.id.text
        (Template.source t.body submission)).Replays events result := by
      simp only [events, result, rendering, render_of_ok htemplate]
      exact replays_run ..
    obtain ⟨-, -, -, hdeadline⟩ := artifact_outcome hpdf
    refine ⟨hdeadline.trans ?_, fate_artifact hpdf⟩
    simp only [HasNoDeadline, Compiler.ofSettings, not_representable_iff]

end Registry

namespace CommandLine

/-- A host with a template for notes and a compiler. -/
def pressroom : Host :=
  let file (t : Text) (runnable : Bool) : Entry := .file (Utf8.encode t) runnable
  let entries : List (Place × Entry) := [(["tmp"], .directory), (["lib"], .directory),
    (["lib", "note"], .directory), (["lib", "note", "schema.yaml"], file "name: Note" false),
    (["lib", "note", "template.tex"], file "x" false), (["press"], file "#!/bin/sh\n" true)]
  { tree := entries.foldl (fun t e => t.put e.1 e.2) ∅ }

/-- Asked to wait for as long as can be written down, the program is aborted with the compiler at
work. -/
theorem run_unlimited :
    let program := run {} ["render", "note", "--templates-dir", "lib", "--compiler", "/press",
      "--timeout-secs", "18446744073709551615"]
    (program.run Host.machine pressroom).1.code = 101 ∧
      Compiler.Fate.unstarted.after (program.history Host.machine pressroom) = .running ∧
      (program.run Host.machine pressroom).2.child.isSome := by
  decide +kernel

end CommandLine

end Curriculum
