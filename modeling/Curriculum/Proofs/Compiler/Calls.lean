import Curriculum.Proofs.Render

/-! # What a compilation touches

Behind the call that makes its directory, a compilation only makes calls about the source, the log
and the pdf in that directory, about the directory itself and about the compiler
(`Registry.staysInside_render`). -/

namespace Curriculum

open Program

namespace Compiler

variable {c : Compiler} {directory stem : Text} {events before after : List Event}

/-- The calls of a compilation in a directory. -/
inductive Works (c : Compiler) (directory stem : Text) : Call → Prop
  | createSource : Works c directory stem (.create (sourcePath directory stem))
  | append : Works c directory stem (.append (sourcePath directory stem) bytes)
  | createLog : Works c directory stem (.create (logPath directory))
  | shareLog : Works c directory stem (.share (logPath directory))
  | spawn : Works c directory stem (.spawn (c.command directory stem))
  | poll : Works c directory stem .poll
  | clock : Works c directory stem (.clock earliest)
  | sleep : Works c directory stem (.sleep time)
  | kill : Works c directory stem .kill
  | reap : Works c directory stem .reap
  | isFile : Works c directory stem (.isFile (pdfPath directory stem))
  | readPdf : Works c directory stem (.read (pdfPath directory stem))
  | readLog : Works c directory stem (.read (logPath directory))
  | removeAll : Works c directory stem (.removeAll directory)
  | warn : Works c directory stem (.warn w)

def AllWork (c : Compiler) (directory stem : Text) (events : List Event) : Prop :=
  ∀ event ∈ events, Works c directory stem event.call

@[simp] theorem allWork_nil : AllWork c directory stem [] := nofun

@[simp] theorem allWork_cons :
    AllWork c directory stem (event :: events) ↔
      Works c directory stem event.call ∧ AllWork c directory stem events :=
  List.forall_mem_cons

@[simp] theorem allWork_append : AllWork c directory stem (before ++ after) ↔
    AllWork c directory stem before ∧ AllWork c directory stem after :=
  List.forall_mem_append

theorem Writes.allWork (h : Writes (sourcePath directory stem) events result) :
    AllWork c directory stem events := by
  induction h with
  | done => exact allWork_nil
  | failed | full => exact allWork_cons.2 ⟨.append, allWork_nil⟩
  | more _ ih => exact allWork_cons.2 ⟨.append, ih⟩

theorem Stores.allWork (h : Stores (sourcePath directory stem) events result) :
    AllWork c directory stem events := by
  cases h with
  | notCreated => exact allWork_cons.2 ⟨.createSource, allWork_nil⟩
  | created h => exact allWork_cons.2 ⟨.createSource, h.allWork⟩

theorem Waits.allWork (h : Waits deadline e earliest events result) :
    AllWork c directory stem events := by
  induction h with
  | exited => simp [Works.poll]
  | lost => simp [Works.poll, Works.kill, Works.reap]
  | late => simp [Works.poll, Works.clock, Works.kill, Works.reap]
  | early _ _ _ ih => simp [Works.poll, Works.clock, Works.sleep, ih]

theorem Awaits.allWork (h : Awaits limit events result) : AllWork c directory stem events := by
  cases h with
  | noDeadline => exact allWork_cons.2 ⟨.clock, allWork_nil⟩
  | deadline now h hwait => exact allWork_cons.2 ⟨.clock, hwait.allWork⟩

theorem Launches.allWork (h : Launches c directory stem events result) :
    AllWork c directory stem events := by
  obtain ⟨hstore, hawait⟩ := h
  refine allWork_append.2 ⟨hstore.allWork, allWork_cons.2 ⟨.createLog, ?_⟩⟩
  exact allWork_cons.2 ⟨.shareLog, allWork_cons.2 ⟨.spawn, hawait.allWork⟩⟩

theorem Compiles.allWork (h : Compiles c directory stem events result) :
    AllWork c directory stem events := by
  cases h with
  | notStored hstore => exact hstore.allWork
  | noLog hstore => simp [hstore.allWork, Works.createLog]
  | notShared hstore => simp [hstore.allWork, Works.createLog, Works.shareLog]
  | notStarted hstore => simp [hstore.allWork, Works.createLog, Works.shareLog, Works.spawn]
  | notAwaited hlaunch => exact hlaunch.allWork
  | failed hlaunch => exact hlaunch.allWork
  | noPdf hlaunch => simp [hlaunch.allWork, Works.isFile]
  | unreadable hlaunch => simp [hlaunch.allWork, Works.isFile, Works.readPdf]
  | pdf hlaunch => simp [hlaunch.allWork, Works.isFile, Works.readPdf]

theorem allWork_report (h : (report directory result).Replays events ()) :
    AllWork c directory stem events := by
  rcases replays_report h with rfl | ⟨log, rfl⟩
  · exact allWork_nil
  · exact allWork_cons.2 ⟨.readLog, allWork_cons.2 ⟨.warn, allWork_nil⟩⟩

theorem allWork_closeDirectory (h : (closeDirectory directory).Replays events ()) :
    AllWork c directory stem events := by
  rcases replays_closeDirectory h with rfl | ⟨fault, rfl⟩
  · exact allWork_cons.2 ⟨.removeAll, allWork_nil⟩
  · exact allWork_cons.2 ⟨.removeAll, allWork_cons.2 ⟨.warn, allWork_nil⟩⟩

/-- There is no directory to work in and nothing is done but warn, or all the work is done in one
fresh directory. -/
inductive StaysInside (c : Compiler) (stem : Text) : List Event → Prop
  | noDirectory {rest : List Event} (h : ∀ event ∈ rest, ∃ w, event.call = .warn w) :
      StaysInside c stem (⟨.makeTemporary directoryStem, .error fault⟩ :: rest)
  | inside {directory : Text} {rest : List Event} (h : AllWork c directory stem rest) :
      StaysInside c stem (⟨.makeTemporary directoryStem, .ok directory⟩ :: rest)

theorem StaysInside.concat_warn (h : StaysInside c stem events) (w : Warning) :
    StaysInside c stem (events ++ [⟨.warn w, ()⟩]) := by
  cases h with
  | noDirectory h => exact .noDirectory (List.forall_mem_append.2 ⟨h, by simp⟩)
  | inside h => exact .inside (allWork_append.2 ⟨h, allWork_cons.2 ⟨.warn, allWork_nil⟩⟩)

theorem staysInside_pdf (h : (c.pdf stem source).Replays events v) : StaysInside c stem events := by
  rcases replays_pdf h with
    ⟨fault, rfl, -⟩ | ⟨directory, inside, reporting, closing, rfl, hinside, hreport, hclose⟩
  · exact .noDirectory nofun
  · refine .inside (allWork_append.2 ⟨allWork_append.2 ⟨hinside.allWork, ?_⟩, ?_⟩)
    · exact allWork_report hreport
    · exact allWork_closeDirectory hclose

theorem staysInside_artifact (h : (c.artifact stem source).Replays events a) :
    StaysInside c stem events := by
  obtain ⟨making, after, v, rfl, hpdf, -, rfl | ⟨w, rfl⟩⟩ := replays_artifact h
  · rw [List.append_nil]
    exact staysInside_pdf hpdf
  · exact (staysInside_pdf hpdf).concat_warn w

end Compiler

/-- A render touches nothing, or does all its work in one fresh directory. -/
theorem Registry.staysInside_render {r : Registry} {c : Compiler} {id : Text}
    (h : (r.render c id submission format).Replays events a) :
    events = [] ∨ c.StaysInside id events := by
  cases ht : r.template id with
  | error e =>
    rw [render_of_error ht] at h
    exact .inl (replays_done.1 h).1
  | ok t =>
    obtain ⟨-, rfl⟩ := of_template_eq_ok ht
    rw [render_of_ok ht] at h
    cases format with
    | summary | source => exact .inl (replays_done.1 h).1
    | pdf => exact .inr (Compiler.staysInside_artifact h)

end Curriculum
