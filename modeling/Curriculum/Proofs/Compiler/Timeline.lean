import Curriculum.Proofs.Compiler.Session
import Mathlib.Data.Nat.Find
import Mathlib.Order.Bounds.Basic

/-! # Waiting along a timeline

A timeline says what each poll answers and what the clock shows, whether it is asked or not. Waiting
follows it up to the first round that does not go on (`Timeline.goes_from`). As every sleep takes an
interval off what is left, the clock ends the waiting if no poll does (`wait_settles`). -/

namespace Curriculum

/-- What a poll has been answered. -/
def Event.answers : Event → List Poll
  | ⟨.poll, answer⟩ => [answer]
  | _ => []

/-- The compiler is killed or reaped. -/
def Event.isEnding : Event → Bool
  | ⟨.kill, ()⟩ | ⟨.reap, ()⟩ => true
  | _ => false

namespace Compiler

open Program

def polls (events : List Event) : List Poll := events.flatMap Event.answers

def endings (events : List Event) : List Event := events.filter Event.isEnding

structure Timeline where
  /-- What each poll is answered. -/
  answer : Nat → Poll
  /-- What the clock shows at the start and after each poll. -/
  time : Nat → Nat
  start_le : time 0 ≤ time 1
  advance : ∀ n, time (n + 1) + pollInterval ≤ time (n + 1 + 1)

namespace Timeline

/-- How many polls have been answered and how often the clock has been read, beside the state of the
machine that replies to all other calls. -/
structure Point (σ : Type) where
  state : σ
  polled : Nat
  read : Nat

/-- A machine with the polls and the clock of the timeline. The clock keeps to what it owes the
caller, which on a timeline asks nothing of it. -/
def machine (t : Timeline) (m : Machine σ) : Machine (Point σ) where
  reply call p :=
    match call with
    | .poll => (t.answer p.polled, { p with polled := p.polled + 1 })
    | .clock earliest =>
      (if h : earliest ≤ t.time p.read then ⟨t.time p.read, h⟩
        else ⟨earliest, Nat.le_refl earliest⟩, { p with read := p.read + 1 })
    | call => ((m.reply call p.state).1, { p with state := (m.reply call p.state).2 })

/-- After poll `n` there is another one. -/
def GoesOn (t : Timeline) (deadline n : Nat) : Prop :=
  t.answer n = .running ∧ t.time (n + 1) < deadline

/-- After poll `n` the time is up. -/
def Expires (t : Timeline) (deadline n : Nat) : Prop :=
  t.answer n = .running ∧ deadline ≤ t.time (n + 1)

/-- Poll `n` reports an end or a failure, and the time is not up after any poll before it. -/
def Reports (t : Timeline) (deadline n : Nat) : Prop :=
  t.answer n ≠ .running ∧ ∀ k < n, ¬t.Expires deadline k

section
variable (t : Timeline) (m : Machine σ) (p : Point σ)

@[simp] theorem reply_poll : (t.machine m).reply .poll p =
    (t.answer p.polled, { p with polled := p.polled + 1 }) := rfl

theorem reply_clock (h : earliest ≤ t.time p.read) : (t.machine m).reply (.clock earliest) p =
    (⟨t.time p.read, h⟩, { p with read := p.read + 1 }) := by
  simp only [machine, dif_pos h]

@[simp] theorem reply_sleep : (t.machine m).reply (.sleep interval) p =
    ((), { p with state := (m.reply (.sleep interval) p.state).2 }) := rfl

end

/-! ## Time -/

theorem add_mul_le (t : Timeline) (n : Nat) : t.time 0 + n * pollInterval ≤ t.time (n + 1) := by
  induction n with
  | zero => simpa using t.start_le
  | succ n ih =>
    have hadvance := t.advance n
    rw [Nat.succ_mul]
    omega

/-- No more rounds go on than intervals fit the time limit. -/
theorem not_goesOn (t : Timeline) (limit : Nat) :
    ¬t.GoesOn (t.time 0 + limit) ((limit + pollInterval - 1) / pollInterval) := by
  rintro ⟨-, hearly⟩
  have hle := t.add_mul_le ((limit + pollInterval - 1) / pollInterval)
  have hdiv := Nat.lt_div_mul_add (a := limit + pollInterval - 1) (b := pollInterval) (by decide)
  have hpos : 0 < pollInterval := by decide
  omega

/-! ## Rounds -/

/-- What comes of the answer to the last poll. -/
def resultOf (late : CompileError) : Poll → Except CompileError (Option Nat)
  | .exited code => .ok code
  | .lost => .error .wait
  | .running => .error late

/-- Only after an exit there is nothing left to be killed. -/
def endingsOf : Poll → List Event
  | .exited _ => []
  | .lost | .running => [⟨.kill, ()⟩, ⟨.reap, ()⟩]

/-- Waiting has made `n` polls from poll `i` on, and then one more whose answer has ended it. -/
structure EndsAfter (t : Timeline) (late : CompileError) (i n : Nat) (events : List Event)
    (result : Except CompileError (Option Nat)) : Prop where
  polls_eq : polls events = (List.range' i (n + 1)).map t.answer
  readings_eq : ∃ k, readings events = (List.range' (i + 1) k).map t.time
  result_eq : result = resultOf late (t.answer (i + n))
  endings_eq : endings events = endingsOf (t.answer (i + n))

section
variable {t : Timeline} {m : Machine σ} {late : CompileError} {deadline earliest i n : Nat}

theorem EndsAfter.round (h : t.EndsAfter late (i + 1) n events result)
    (hgo : t.answer i = .running) (he : earliest ≤ t.time (i + 1)) :
    t.EndsAfter late i (n + 1) (⟨.poll, .running⟩ :: ⟨.clock earliest, ⟨t.time (i + 1), he⟩⟩ ::
      ⟨.sleep pollInterval, ()⟩ :: events) result := by
  obtain ⟨hpolls, ⟨k, hreadings⟩, hresult, hendings⟩ := h
  rw [Nat.add_right_comm, Nat.add_assoc i n 1] at hresult hendings
  refine ⟨?_, ⟨k + 1, ?_⟩, hresult, ?_⟩
  · rw [List.range'_succ, List.map_cons, hgo, ← hpolls]
    rfl
  · rw [List.range'_succ, List.map_cons, ← hreadings]
    rfl
  · rw [← hendings]
    rfl

theorem EndsAfter.of_answer (ha : t.answer i = a) (hpolls : polls events = [a])
    (hreadings : ∃ k, readings events = (List.range' (i + 1) k).map t.time)
    (hresult : result = resultOf late a) (hendings : endings events = endingsOf a) :
    t.EndsAfter late i 0 events result := by
  subst ha
  exact ⟨hpolls, hreadings, hresult, hendings⟩

/-- Where a round does not go on, waiting ends in it. -/
theorem endsAfter_of_not_goesOn (hstop : ¬t.GoesOn deadline i) (he : earliest ≤ t.time (i + 1))
    (s : σ) :
    t.EndsAfter late i 0 ((waitUntil deadline late earliest).history (t.machine m) ⟨s, i, i + 1⟩)
      ((waitUntil deadline late earliest).run (t.machine m) ⟨s, i, i + 1⟩).1 := by
  rw [waitUntil]
  cases hanswer : t.answer i with
  | exited code =>
    simp only [history, run_ask, reply_poll, hanswer]
    exact .of_answer hanswer rfl ⟨0, rfl⟩ rfl rfl
  | lost =>
    simp only [history, run_ask, reply_poll, hanswer, abandon]
    exact .of_answer hanswer rfl ⟨0, rfl⟩ rfl rfl
  | running =>
    have hlate : deadline ≤ t.time (i + 1) := by
      apply Nat.le_of_not_lt
      intro hearly
      exact hstop ⟨hanswer, hearly⟩
    simp only [history, run_ask, reply_poll, hanswer, reply_clock t m ⟨s, i + 1, i + 1⟩ he,
      if_pos hlate, abandon]
    exact .of_answer hanswer rfl ⟨1, rfl⟩ rfl rfl

theorem run_round (hgo : t.GoesOn deadline i) (he : earliest ≤ t.time (i + 1)) (s : σ) :
    ((waitUntil deadline late earliest).run (t.machine m) ⟨s, i, i + 1⟩).1 =
      ((waitUntil deadline late (t.time (i + 1) + pollInterval)).run (t.machine m)
        ⟨(m.reply (.sleep pollInterval) s).2, i + 1, i + 1 + 1⟩).1 := by
  obtain ⟨hanswer, hearly⟩ := hgo
  rw [waitUntil, run_ask, reply_poll]
  simp only [hanswer]
  rw [run_ask, reply_clock t m ⟨s, i + 1, i + 1⟩ he, if_neg (Nat.not_le_of_lt hearly), run_ask,
    reply_sleep]

theorem history_round (hgo : t.GoesOn deadline i) (he : earliest ≤ t.time (i + 1)) (s : σ) :
    (waitUntil deadline late earliest).history (t.machine m) ⟨s, i, i + 1⟩ =
      ⟨.poll, .running⟩ :: ⟨.clock earliest, ⟨t.time (i + 1), he⟩⟩ :: ⟨.sleep pollInterval, ()⟩ ::
        (waitUntil deadline late (t.time (i + 1) + pollInterval)).history (t.machine m)
          ⟨(m.reply (.sleep pollInterval) s).2, i + 1, i + 1 + 1⟩ := by
  obtain ⟨hanswer, hearly⟩ := hgo
  rw [waitUntil, history, reply_poll]
  simp only [hanswer]
  rw [history, reply_clock t m ⟨s, i + 1, i + 1⟩ he, if_neg (Nat.not_le_of_lt hearly), history,
    reply_sleep]

/-- Rounds that go on are followed by what the rest of the timeline brings. -/
theorem goes_from (hgo : ∀ k < n, t.GoesOn deadline (i + k)) (hstop : ¬t.GoesOn deadline (i + n))
    (he : earliest ≤ t.time (i + 1)) (s : σ) :
    t.EndsAfter late i n ((waitUntil deadline late earliest).history (t.machine m) ⟨s, i, i + 1⟩)
      ((waitUntil deadline late earliest).run (t.machine m) ⟨s, i, i + 1⟩).1 := by
  induction n generalizing i earliest s with
  | zero => exact endsAfter_of_not_goesOn hstop he s
  | succ n ih =>
    have hfirst : t.GoesOn deadline i := hgo 0 (Nat.succ_pos n)
    have hlater : ∀ k < n, t.GoesOn deadline (i + 1 + k) := by
      intro k hk
      rw [Nat.add_right_comm, Nat.add_assoc]
      exact hgo (k + 1) (Nat.succ_lt_succ hk)
    rw [← Nat.add_assoc, Nat.add_right_comm] at hstop
    rw [history_round hfirst he, run_round hfirst he]
    exact (ih hlater hstop (t.advance i) _).round hfirst.1 he

/-! ## The whole -/

/-- Some round ends the waiting, and none comes after the one in which the last interval is over. -/
theorem exists_last (t : Timeline) (limit : Nat) :
    ∃ n ≤ (limit + pollInterval - 1) / pollInterval,
      (∀ k < n, t.GoesOn (t.time 0 + limit) k) ∧ ¬t.GoesOn (t.time 0 + limit) n := by
  classical
  have hstops : ∃ n, ¬t.GoesOn (t.time 0 + limit) n := ⟨_, t.not_goesOn limit⟩
  refine ⟨Nat.find hstops, Nat.find_min' hstops (t.not_goesOn limit), ?_, Nat.find_spec hstops⟩
  intro k hk
  exact not_not.1 (Nat.find_min hstops hk)

theorem wait_endsAfter (h : representable (t.time 0 + limit)) (s : σ)
    (hgo : ∀ k < n, t.GoesOn (t.time 0 + limit) k) (hstop : ¬t.GoesOn (t.time 0 + limit) n) :
    ∃ later, (wait limit).history (t.machine m) ⟨s, 0, 0⟩ =
        ⟨.clock 0, ⟨t.time 0, Nat.zero_le _⟩⟩ :: later ∧
      t.EndsAfter (.timeout (limit / second)) 0 n later
        ((wait limit).run (t.machine m) ⟨s, 0, 0⟩).1 := by
  rw [wait, history, run_ask, reply_clock t m ⟨s, 0, 0⟩ (Nat.zero_le _)]
  simp only [if_pos h]
  refine ⟨_, rfl, goes_from ?_ ?_ t.start_le s⟩
  · simpa using hgo
  · simpa using hstop

theorem GoesOn.not_expires (h : t.GoesOn deadline n) : ¬t.Expires deadline n :=
  fun hexpires => Nat.not_le_of_lt h.2 hexpires.2

theorem isLeast_reports (hgo : ∀ k < n, t.GoesOn deadline k) (hn : t.answer n ≠ .running) :
    IsLeast {n | t.Reports deadline n} n := by
  refine ⟨⟨hn, fun k hk => (hgo k hk).not_expires⟩, ?_⟩
  rintro k ⟨hk, -⟩
  apply Nat.le_of_not_lt
  intro hlt
  exact hk (hgo k hlt).1

theorem not_reports (hgo : ∀ k < n, t.GoesOn deadline k) (hexpires : t.Expires deadline n)
    (k : Nat) : ¬t.Reports deadline k := by
  rintro ⟨hk, hbefore⟩
  rcases Nat.lt_trichotomy k n with hlt | rfl | hlt
  · exact hk (hgo k hlt).1
  · exact hk hexpires.1
  · exact hbefore n hlt hexpires

end

end Timeline

open Timeline

/-- Waiting ends with the first poll that reports something before the time is up, or else with the
timeout. There are no more polls than intervals fit the limit, and one. A compiler that has not
ended by itself is killed and reaped once. -/
theorem wait_settles (t : Timeline) (limit : Nat) (h : representable (t.time 0 + limit))
    (m : Machine σ) (s : σ) :
    let deadline := t.time 0 + limit
    let events := (wait limit).history (t.machine m) ⟨s, 0, 0⟩
    let result := ((wait limit).run (t.machine m) ⟨s, 0, 0⟩).1
    (polls events).length ≤ (limit + pollInterval - 1) / pollInterval + 1 ∧
    polls events = (List.range (polls events).length).map t.answer ∧
    readings events = (List.range (readings events).length).map t.time ∧
    ((∃ n code, IsLeast {n | t.Reports deadline n} n ∧ t.answer n = .exited code ∧
        result = .ok code ∧ endings events = []) ∨
      (∃ n, IsLeast {n | t.Reports deadline n} n ∧ t.answer n = .lost ∧
        result = .error .wait ∧ endings events = [⟨.kill, ()⟩, ⟨.reap, ()⟩]) ∨
      (∀ n, ¬t.Reports deadline n) ∧
        result = .error (.timeout (limit / second)) ∧
        endings events = [⟨.kill, ()⟩, ⟨.reap, ()⟩]) := by
  intro deadline events result
  obtain ⟨n, hn, hgo, hstop⟩ := t.exists_last limit
  obtain ⟨later, hevents, hpolls, ⟨k, hreadings⟩, hresult, hendings⟩ :=
    wait_endsAfter (m := m) h s hgo hstop
  have hevents : events = ⟨.clock 0, ⟨t.time 0, Nat.zero_le _⟩⟩ :: later := hevents
  have hpolls : polls events = (List.range (n + 1)).map t.answer := by
    rw [List.range_eq_range', ← hpolls, hevents]
    rfl
  have hreadings : readings events = (List.range (k + 1)).map t.time := by
    rw [List.range_eq_range', List.range'_succ, List.map_cons, ← hreadings, hevents]
    rfl
  have hendings : endings events = endingsOf (t.answer n) := by
    rw [← Nat.zero_add n, ← hendings, hevents]
    rfl
  rw [Nat.zero_add] at hresult
  refine ⟨by simpa [hpolls] using hn, by simp [hpolls], by simp [hreadings], ?_⟩
  cases hanswer : t.answer n with
  | exited code =>
    rw [hanswer] at hresult hendings
    exact .inl ⟨n, code, isLeast_reports hgo (by simp [hanswer]), hanswer, hresult, hendings⟩
  | lost =>
    rw [hanswer] at hresult hendings
    exact .inr (.inl ⟨n, isLeast_reports hgo (by simp [hanswer]), hanswer, hresult, hendings⟩)
  | running =>
    rw [hanswer] at hresult hendings
    have hexpires : t.Expires deadline n := by
      refine ⟨hanswer, Nat.le_of_not_lt fun hearly => ?_⟩
      exact hstop ⟨hanswer, hearly⟩
    exact .inr (.inr ⟨not_reports hgo hexpires, hresult, hendings⟩)

/-- A compiler that never ends. -/
def hung : Timeline where
  answer _ := .running
  time n := n * pollInterval
  start_le := by decide
  advance n := by rw [← Nat.succ_mul]

theorem wait_settles_hung :
    let waiting := wait (2 * second)
    let events := waiting.history (hung.machine Desk.machine) ⟨⟨[], none⟩, 0, 0⟩
    representable (hung.time 0 + 2 * second) ∧ (polls events).length ≤ 81 ∧
      (waiting.run (hung.machine Desk.machine) ⟨⟨[], none⟩, 0, 0⟩).1 = .error (.timeout 2) ∧
      endings events = [⟨.kill, ()⟩, ⟨.reap, ()⟩] := by
  intro waiting events
  have hdeadline : representable (hung.time 0 + 2 * second) := by decide
  obtain ⟨hlength, -, -, hends⟩ :=
    wait_settles hung (2 * second) hdeadline Desk.machine ⟨[], none⟩
  refine ⟨hdeadline, hlength, ?_⟩
  have hnone : ∀ n, ¬hung.Reports (hung.time 0 + 2 * second) n := fun n hn => hn.1 rfl
  rcases hends with ⟨n, code, hleast, -⟩ | ⟨n, hleast, -⟩ | ⟨-, hresult, hendings⟩
  · exact absurd hleast.1 (hnone n)
  · exact absurd hleast.1 (hnone n)
  · exact ⟨hresult, hendings⟩

end Compiler

end Curriculum
