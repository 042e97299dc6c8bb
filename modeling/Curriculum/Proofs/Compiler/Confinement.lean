import Curriculum.Proofs.Compiler.Exits
import Curriculum.Proofs.Files.Shown
import Curriculum.Schema.TemplateId
import Mathlib.Order.BooleanAlgebra.Set

/-! # Confined compilers

A compiler is confined when it touches nothing outside of its compile directory. What the calls of a
compilation do to the directory for temporary files is then told call by call (`Event.Confined`),
and from that it follows for whole programs: whatever way a compilation ends, the compiler is no
longer at work and nothing but the compile directory has come or gone (`Compiles.diff_eq`). -/

namespace Curriculum

open Program

/-- The directory for temporary files. -/
@[ext] structure TempRoot where
  /-- The paths of its entries. -/
  entries : Set Text
  /-- Where a compiler is at work. -/
  atWork : Option Text

namespace TempRoot

/-- What a compiler at work can do to the entries: its own directory may come or go. -/
def Drifts (r r' : TempRoot) : Prop :=
  ∀ path, r.atWork ≠ some path → (path ∈ r'.entries ↔ path ∈ r.entries)

variable {r r' r'' : TempRoot}

theorem Drifts.trans (h : r.Drifts r') (hwork : r'.atWork = r.atWork) (h' : r'.Drifts r'') :
    r.Drifts r'' := by
  intro path hpath
  rw [h' path (hwork ▸ hpath), h path hpath]

theorem Drifts.entries_eq (h : r.Drifts r') (hwork : r.atWork = none) :
    r'.entries = r.entries := by
  ext path
  exact h path (by simp [hwork])

theorem Drifts.eq (h : r.Drifts r') (hsame : r'.atWork = r.atWork) (hwork : r.atWork = none) :
    r' = r :=
  TempRoot.ext (h.entries_eq hwork) hsame

theorem Drifts.diff_eq (h : r.Drifts r') (hwork : r.atWork = some directory) :
    r'.entries \ {directory} = r.entries \ {directory} := by
  ext path
  simp only [Set.mem_sdiff, Set.mem_singleton_iff]
  constructor
  · rintro ⟨hmem, hne⟩
    exact ⟨(h path (by simpa [hwork] using Ne.symm hne)).1 hmem, hne⟩
  · rintro ⟨hmem, hne⟩
    exact ⟨(h path (by simpa [hwork] using Ne.symm hne)).2 hmem, hne⟩

end TempRoot

/-- What a call with its reply may do to the directory for temporary files. A compiler at work may
change its own directory during any call. The calls that no compilation makes may do anything. -/
def Event.Confined (event : Event) (r r' : TempRoot) : Prop :=
  match event with
  | ⟨.makeTemporary _, .ok directory⟩ =>
    r.atWork = none → directory ∉ r.entries ∧ r' = ⟨insert directory r.entries, none⟩
  | ⟨.makeTemporary _, .error _⟩ => r.atWork = none → r' = r
  | ⟨.create path, _⟩ | ⟨.append path _, _⟩ =>
    r.atWork = none → ∀ directory ∈ r.entries, ∀ name, Path.IsPlain name →
      path = Path.join directory name → r' = r
  | ⟨.spawn command, .ok ()⟩ =>
    r.atWork = none → r'.atWork = some command.directory ∧
      r'.entries \ {command.directory} = r.entries \ {command.directory}
  | ⟨.spawn _, .error _⟩ => r.atWork = none → r' = r
  | ⟨.poll, .exited _⟩ | ⟨.reap, _⟩ => r'.atWork = none ∧ r.Drifts r'
  | ⟨.share _, _⟩ | ⟨.poll, _⟩ | ⟨.kill, _⟩ | ⟨.clock _, _⟩ | ⟨.sleep _, _⟩ | ⟨.isFile _, _⟩
  | ⟨.read _, _⟩ | ⟨.warn _, _⟩ => r'.atWork = r.atWork ∧ r.Drifts r'
  | ⟨.removeAll directory, reply⟩ =>
    r.atWork = none → r'.atWork = none ∧ r'.entries ⊆ r.entries ∧
      r'.entries \ {directory} = r.entries \ {directory} ∧
      (reply = .ok () → directory ∉ r'.entries)
  | _ => True

/-- What some calls may do one after the other. -/
def Course : List Event → TempRoot → TempRoot → Prop
  | [], r, r' => r' = r
  | event :: events, r, r'' => ∃ r', event.Confined r r' ∧ Course events r' r''

theorem course_append : Course (before ++ after) r r'' ↔
    ∃ r', Course before r r' ∧ Course after r' r'' := by
  induction before generalizing r with
  | nil => simp [Course]
  | cons event before ih =>
    simp only [List.cons_append, Course, ih]
    constructor
    · rintro ⟨r₁, hevent, r₂, hbefore, hafter⟩
      exact ⟨r₂, ⟨r₁, hevent, hbefore⟩, hafter⟩
    · rintro ⟨r₂, ⟨r₁, hevent, hbefore⟩, hafter⟩
      exact ⟨r₁, hevent, r₂, hbefore, hafter⟩

/-- A machine whose compilers are confined, seen through what it has for temporary files. -/
def Confines (m : Machine σ) (view : σ → TempRoot) : Prop :=
  ∀ call s, Event.Confined ⟨call, (m.reply call s).1⟩ (view s) (view (m.reply call s).2)

theorem course_history {m : Machine σ} {view : σ → TempRoot} (hm : Confines m view)
    (p : Program α) (s : σ) : Course (p.history m s) (view s) (view (p.run m s).2) := by
  induction p generalizing s with
  | done a => rfl
  | ask call next ih => exact ⟨_, hm call s, ih ..⟩

namespace Compiler

variable {r r' : TempRoot} {directory name stem : Text} {c : Compiler}

/-! ## Files -/

section
variable (hwork : r.atWork = none) (hdirectory : directory ∈ r.entries)
include hwork hdirectory

theorem Writes.course_eq (h : Writes (Path.join directory name) events result)
    (hname : Path.IsPlain name) (hcourse : Course events r r') : r' = r := by
  induction h generalizing r with
  | done => exact hcourse
  | failed | full =>
    obtain ⟨r₁, hfirst, rfl⟩ := hcourse
    exact hfirst hwork directory hdirectory name hname rfl
  | more _ ih =>
    obtain ⟨r₁, hfirst, hrest⟩ := hcourse
    obtain rfl := hfirst hwork directory hdirectory name hname rfl
    exact ih hwork hdirectory hrest

theorem Stores.course_eq (h : Stores (Path.join directory name) events result)
    (hname : Path.IsPlain name) (hcourse : Course events r r') : r' = r := by
  cases h with
  | notCreated =>
    obtain ⟨r₁, hfirst, rfl⟩ := hcourse
    exact hfirst hwork directory hdirectory name hname rfl
  | created h =>
    obtain ⟨r₁, hfirst, hrest⟩ := hcourse
    obtain rfl := hfirst hwork directory hdirectory name hname rfl
    exact h.course_eq hwork hdirectory hname hrest

end

theorem isPlain_logName : Path.IsPlain "compiler.log" := by decide

theorem isPlain_sourceName (id : TemplateId) : Path.IsPlain (Path.ofText (id.text ++ ".tex")) := by
  have hid : '/' ∉ id.text := by
    intro h
    have hvalid := id.valid
    rw [Bool.and_eq_true, List.all_eq_true] at hvalid
    exact absurd (hvalid.2 _ h) (by decide)
  exact Path.isPlain_ofText (Path.isPlain_append hid (by decide) (by decide))

theorem Stores.course_eq_of_id {id : TemplateId}
    (h : Stores (sourcePath directory id.text) events result) (hwork : r.atWork = none)
    (hdirectory : directory ∈ r.entries) (hcourse : Course events r r') : r' = r :=
  h.course_eq hwork hdirectory (isPlain_sourceName id) hcourse

/-! ## The compiler -/

/-- Whether the compiler ends by itself or is killed and reaped, it is no longer at work. -/
theorem Waits.atWork_eq (h : Waits deadline e earliest events result)
    (hcourse : Course events r r') : r'.atWork = none ∧ r.Drifts r' := by
  induction h generalizing r with
  | exited =>
    obtain ⟨r₁, hended, rfl⟩ := hcourse
    exact hended
  | lost =>
    obtain ⟨r₁, ⟨hsame₁, hpoll⟩, r₂, ⟨hsame₂, hkill⟩, r₃, ⟨hended, hreap⟩, rfl⟩ := hcourse
    exact ⟨hended, (hpoll.trans hsame₁ hkill).trans (hsame₂.trans hsame₁) hreap⟩
  | late now h =>
    obtain ⟨r₁, ⟨hsame₁, hpoll⟩, r₂, ⟨hsame₂, hclock⟩, r₃, ⟨hsame₃, hkill⟩, r₄, ⟨hended, hreap⟩,
      rfl⟩ := hcourse
    have hsame := hsame₂.trans hsame₁
    have hdrift := (hpoll.trans hsame₁ hclock).trans hsame hkill
    exact ⟨hended, hdrift.trans (hsame₃.trans hsame) hreap⟩
  | early now h _ ih =>
    obtain ⟨r₁, ⟨hsame₁, hpoll⟩, r₂, ⟨hsame₂, hclock⟩, r₃, ⟨hsame₃, hsleep⟩, hrest⟩ := hcourse
    have hsame := hsame₂.trans hsame₁
    have hdrift := (hpoll.trans hsame₁ hclock).trans hsame hsleep
    obtain ⟨hended, hlater⟩ := ih hrest
    exact ⟨hended, hdrift.trans (hsame₃.trans hsame) hlater⟩

/-- Only where there is no deadline is the compiler left to itself. -/
theorem Awaits.atWork_eq (h : Awaits limit events result) (hresult : result ≠ .error .noDeadline)
    (hcourse : Course events r r') : r'.atWork = none ∧ r.Drifts r' := by
  cases h with
  | noDeadline => exact absurd rfl hresult
  | deadline now h hwait =>
    obtain ⟨r₁, ⟨hsame, hclock⟩, hrest⟩ := hcourse
    obtain ⟨hended, hdrift⟩ := hwait.atWork_eq hrest
    exact ⟨hended, hclock.trans hsame hdrift⟩

section
variable {id : TemplateId} (hwork : r.atWork = none) (hdirectory : directory ∈ r.entries)
include hwork hdirectory

theorem Launches.diff_eq (h : Launches c directory id.text events result)
    (hresult : result ≠ .error .noDeadline) (hcourse : Course events r r') :
    r'.atWork = none ∧ r'.entries \ {directory} = r.entries \ {directory} := by
  obtain ⟨hstore, hawait⟩ := h
  obtain ⟨r₁, hstoring, r₂, hlog, r₃, ⟨hsame, hshare⟩, r₄, hspawn, hwaiting⟩ :=
    course_append.1 hcourse
  obtain rfl := hstore.course_eq_of_id hwork hdirectory hstoring
  obtain rfl := hlog hwork directory hdirectory _ isPlain_logName rfl
  obtain rfl := hshare.eq hsame hwork
  obtain ⟨hstarted, hspawned⟩ := hspawn hwork
  obtain ⟨hended, hdrift⟩ := hawait.atWork_eq hresult hwaiting
  exact ⟨hended, (hdrift.diff_eq hstarted).trans hspawned⟩

/-- However a compilation ends, nothing but its directory has come or gone. -/
theorem Compiles.diff_eq (h : Compiles c directory id.text events result)
    (hresult : result ≠ .error .noDeadline) (hcourse : Course events r r') :
    r'.atWork = none ∧ r'.entries \ {directory} = r.entries \ {directory} := by
  cases h with
  | notStored hstore =>
    obtain rfl := hstore.course_eq_of_id hwork hdirectory hcourse
    exact ⟨hwork, rfl⟩
  | noLog hstore =>
    obtain ⟨r₁, hstoring, r₂, hlog, rfl⟩ := course_append.1 hcourse
    obtain rfl := hstore.course_eq_of_id hwork hdirectory hstoring
    obtain rfl := hlog hwork directory hdirectory _ isPlain_logName rfl
    exact ⟨hwork, rfl⟩
  | notShared hstore =>
    obtain ⟨r₁, hstoring, r₂, hlog, r₃, ⟨hsame, hshare⟩, rfl⟩ := course_append.1 hcourse
    obtain rfl := hstore.course_eq_of_id hwork hdirectory hstoring
    obtain rfl := hlog hwork directory hdirectory _ isPlain_logName rfl
    obtain rfl := hshare.eq hsame hwork
    exact ⟨hwork, rfl⟩
  | notStarted hstore =>
    obtain ⟨r₁, hstoring, r₂, hlog, r₃, ⟨hsame, hshare⟩, r₄, hspawn, rfl⟩ :=
      course_append.1 hcourse
    obtain rfl := hstore.course_eq_of_id hwork hdirectory hstoring
    obtain rfl := hlog hwork directory hdirectory _ isPlain_logName rfl
    obtain rfl := hshare.eq hsame hwork
    obtain rfl := hspawn hwork
    exact ⟨hwork, rfl⟩
  | notAwaited hlaunch =>
    exact hlaunch.diff_eq hwork hdirectory (by simpa using hresult) hcourse
  | failed hlaunch => exact hlaunch.diff_eq hwork hdirectory nofun hcourse
  | noPdf hlaunch =>
    obtain ⟨r₁, hrunning, r₂, ⟨hsame, hlook⟩, rfl⟩ := course_append.1 hcourse
    obtain ⟨hended, hentries⟩ := hlaunch.diff_eq hwork hdirectory nofun hrunning
    obtain rfl := hlook.eq hsame hended
    exact ⟨hended, hentries⟩
  | unreadable hlaunch | pdf hlaunch =>
    obtain ⟨r₁, hrunning, r₂, ⟨hsame₁, hlook⟩, r₃, ⟨hsame₂, hread⟩, rfl⟩ :=
      course_append.1 hcourse
    obtain ⟨hended, hentries⟩ := hlaunch.diff_eq hwork hdirectory nofun hrunning
    obtain rfl := (hlook.trans hsame₁ hread).eq (hsame₂.trans hsame₁) hended
    exact ⟨hended, hentries⟩

end

/-! ## Around the compilation -/

theorem course_report (h : (report directory result).Replays events ())
    (hwork : r.atWork = none) (hcourse : Course events r r') : r' = r := by
  rcases replays_report h with rfl | ⟨log, rfl⟩
  · exact hcourse
  · obtain ⟨r₁, ⟨hsame₁, hread⟩, r₂, ⟨hsame₂, hwarn⟩, rfl⟩ := hcourse
    exact (hread.trans hsame₁ hwarn).eq (hsame₂.trans hsame₁) hwork

/-- A directory that can be removed is gone then, and nothing else is. -/
theorem course_closeDirectory (h : (closeDirectory directory).Replays events ())
    (hwork : r.atWork = none) (hcourse : Course events r r')
    (hremoves : directory ∈ r.entries → events.head? = some ⟨.removeAll directory, .ok ()⟩) :
    r' = ⟨r.entries \ {directory}, none⟩ := by
  have hremoved : ∃ reply r₁, events.head? = some ⟨.removeAll directory, reply⟩ ∧
      Event.Confined ⟨.removeAll directory, reply⟩ r r₁ ∧ (r₁.atWork = none → r' = r₁) := by
    rcases replays_closeDirectory h with rfl | ⟨fault, rfl⟩
    · obtain ⟨r₁, hremove, rfl⟩ := hcourse
      exact ⟨_, r', rfl, hremove, fun _ => rfl⟩
    · obtain ⟨r₁, hremove, r₂, ⟨hsame, hwarn⟩, rfl⟩ := hcourse
      exact ⟨_, r₁, rfl, hremove, hwarn.eq hsame⟩
  obtain ⟨reply, r₁, hhead, hremove, hafter⟩ := hremoved
  obtain ⟨hwork₁, hsubset, hothers, hgone⟩ := hremove hwork
  have habsent : directory ∉ r₁.entries := by
    intro hmem
    cases Option.some.inj (hhead.symm.trans (hremoves (hsubset hmem)))
    exact hgone rfl hmem
  rw [hafter hwork₁]
  refine TempRoot.ext ?_ hwork₁
  rw [← hothers]
  exact (Set.sdiff_singleton_eq_self habsent).symm

end Compiler

end Curriculum
