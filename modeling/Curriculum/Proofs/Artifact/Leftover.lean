import Curriculum.Proofs.Artifact.Atomic
import Curriculum.Proofs.Program.Mirror

/-! # What failed writes leave

A write that fails leaves no temporary file, unless it fails with the file made and not all of the
artifact in it: where bytes are refused, or none of them is taken, the file stays behind with those
that were taken before (`Artifact.write_leftover`). -/

namespace Curriculum

open Program

/-- Bytes for a file are refused, or none of them is taken. -/
inductive Event.StopsAppending (path : Text) : Event → Prop
  | refused {bytes : Bytes} {fault : Fault} : StopsAppending path ⟨.append path bytes, .error fault⟩
  | full {bytes : Bytes} : StopsAppending path ⟨.append path bytes, .ok 0⟩

theorem Event.StopsAppending.exists_call {event : Event} (h : event.StopsAppending path) :
    ∃ bytes, event.call = .append path bytes := by
  cases h with
  | refused | full => exact ⟨_, rfl⟩

/-- Neither an append nor the removal of a file has failed. -/
def Event.goesWell : Event → Bool
  | ⟨.removeFile _, .error _⟩ | ⟨.append .., .error _⟩ | ⟨.append .., .ok 0⟩ => false
  | _ => true

namespace Artifact

variable {here : Place} {t t' : FileTree} {path target : Text} {bytes : Bytes}
  {events : List Event}

/-! ## Before the temporary file -/

/-- Nothing is appended to any file. -/
def AppendsNothing (call : Call) : Prop := ∀ path bytes, call ≠ .append path bytes

theorem obeys_makeDirectories (path : Text) :
    (makeDirectories path).Obeys AppendsNothing fun _ => True := by
  have hmake (path : Text) : AppendsNothing (.makeDirectory path) := by simp [AppendsNothing]
  have haccept (path : Text) (fault : Fault) :
      (acceptDirectory path fault).Obeys AppendsNothing fun _ => True :=
    ⟨by simp [AppendsNothing], fun _ => trivial⟩
  fun_induction makeDirectories path with
  | case1 => exact trivial
  | case2 path hpath ih =>
    refine ⟨hmake path, fun reply => ?_⟩
    cases reply with
    | ok => exact trivial
    | error fault =>
      cases fault with
      | missing =>
        dsimp only
        split
        · exact trivial
        · next above hparent =>
          refine (ih above hparent).bind fun made _ => ?_
          cases made with
          | error fault => exact trivial
          | ok =>
            refine ⟨hmake path, fun reply => ?_⟩
            cases reply with
            | ok => exact trivial
            | error fault => exact haccept path fault
      | _ => exact haccept path _

theorem obeys_prepare (target : Text) : (prepare target).Obeys AppendsNothing fun _ => True := by
  unfold prepare
  split
  · exact trivial
  · exact (obeys_makeDirectories _).bind fun _ _ => trivial

theorem not_stopsAppending (h : ∀ event ∈ events, AppendsNothing event.call) :
    ¬∃ event ∈ events, event.StopsAppending path := by
  rintro ⟨event, hevent, hstops⟩
  obtain ⟨bytes, hcall⟩ := hstops.exists_call
  exact h event hevent path bytes hcall

/-- Making directories above the target leaves places of another length alone. -/
theorem unoccupied_prepare {place : Place} (htarget : Path.Descends target)
    (hlength : place.length = (Path.place here target).length)
    (h : (prepare target).Replays events made) (hfollows : Follows here events t t')
    (hfree : t.get? place = none) : t'.get? place = none := by
  have hmake {above : Text} {t t' : FileTree} (hfree : t.get? place = none)
      (habove : Above target above) (hne : above ≠ [])
      (hmake : t.makeDirectory here above = .ok t') : t'.get? place = none := by
    obtain ⟨other, hother, hnone, rfl⟩ := FileTree.of_makeDirectory hmake
    have hleads : LeadsAbove (Path.place here target) here above :=
      leadsAbove_of_above habove htarget
    obtain ⟨hdescends, -, hshorter⟩ := hleads hne
    obtain rfl := FileTree.locate_eq_place hother hdescends
    have hroot : Path.place here above ≠ [] := FileTree.ne_nil_of_get? (t := t) (by simp [hnone])
    rw [FileTree.get?_put t .directory hroot, if_neg, hfree]
    rintro rfl
    exact Nat.lt_irrefl _ (hlength ▸ hshorter)
  exact ((safe_prepare hmake hfree).of_reaches (reaches_of_replays h hfollows)).1

/-! ## Writing the temporary file -/

section
variable (hpath : Path.Descends path)
include hpath

theorem get?_of_append {written more : Bytes}
    (hfile : t.get? (Path.place here path) = some (.file written runnable))
    (h : t.append here path more = .ok t') :
    t'.get? (Path.place here path) = some (.file (written ++ more) runnable) := by
  obtain ⟨place, content, runnable', hplace, hcontent, rfl⟩ := FileTree.of_append h
  obtain rfl := FileTree.locate_eq_place hplace hpath
  cases hfile.symm.trans hcontent
  have hroot : Path.place here path ≠ [] := FileTree.ne_nil_of_get? (t := t) (by simp [hfile])
  rw [FileTree.get?_put t _ hroot, if_pos rfl]

theorem get?_of_create (h : t.create here path = .ok t') :
    ∃ runnable, t'.get? (Path.place here path) = some (.file [] runnable) := by
  obtain ⟨place, runnable, hplace, hfree, rfl⟩ := FileTree.put_of_create h
  obtain rfl := FileTree.locate_eq_place hplace hpath
  exact ⟨runnable, by rw [FileTree.get?_put t _ (FileTree.ne_nil_of_get? hfree), if_pos rfl]⟩

theorem get?_of_removeFile (h : t.removeFile here path = .ok t') :
    t'.get? (Path.place here path) = none := by
  obtain ⟨place, hplace, hfree, rfl⟩ := FileTree.erase_of_removeFile h
  obtain rfl := FileTree.locate_eq_place hplace hpath
  rw [FileTree.get?_erase t (FileTree.ne_nil_of_get? hfree), if_pos rfl]

/-- The file gets some first bytes of those that it is to get, and the writing ends well unless it
is stopped. -/
theorem writeAll_leaves {written : Bytes}
    (hfile : t.get? (Path.place here path) = some (.file written runnable))
    (h : (writeAll path bytes).Replays events result) (hfollows : Follows here events t t') :
    (∃ part, part <+: bytes ∧
      t'.get? (Path.place here path) = some (.file (written ++ part) runnable)) ∧
    ((∃ fault, result = .error fault) ↔ ∃ event ∈ events, event.StopsAppending path) := by
  fun_induction writeAll path bytes generalizing t written events with
  | case1 =>
    obtain ⟨rfl, rfl⟩ := replays_done.1 h
    obtain rfl := follows_nil.1 hfollows
    exact ⟨⟨[], List.prefix_rfl, by rwa [List.append_nil]⟩, by simp⟩
  | case2 byte bytes ih =>
    obtain ⟨reply, rest, rfl, hrest⟩ := replays_ask.1 h
    obtain ⟨t₁, hcall, hthen⟩ := follows_cons.1 hfollows
    cases reply with
    | error fault =>
      obtain ⟨rfl, rfl⟩ := replays_done.1 hrest
      obtain rfl := follows_nil.1 hthen
      refine ⟨?_, iff_of_true ⟨fault, rfl⟩ ⟨_, List.mem_singleton_self _, .refused⟩⟩
      rcases hcall with rfl | ⟨taken, happend⟩
      · exact ⟨[], List.nil_prefix, by rwa [List.append_nil]⟩
      · exact ⟨_, List.take_prefix taken _, get?_of_append hpath hfile happend⟩
    | ok taken =>
      have hfile₁ := get?_of_append hpath hfile hcall.2
      cases taken with
      | zero =>
        obtain ⟨rfl, rfl⟩ := replays_done.1 hrest
        obtain rfl := follows_nil.1 hthen
        refine ⟨?_, iff_of_true ⟨.full, rfl⟩ ⟨_, List.mem_singleton_self _, .full⟩⟩
        exact ⟨_, List.take_prefix 0 _, hfile₁⟩
      | succ taken =>
        obtain ⟨⟨part, hpart, hleft⟩, hstops⟩ := ih taken hfile₁ hrest hthen
        refine ⟨⟨_ ++ part, ?_, by rwa [List.append_assoc] at hleft⟩, hstops.trans ?_⟩
        · obtain ⟨more, hmore⟩ := hpart
          refine ⟨more, ?_⟩
          rw [List.append_assoc, hmore]
          exact List.take_append_drop (taken + 1) (byte :: bytes)
        · have htaken :
              ¬Event.StopsAppending path ⟨.append path (byte :: bytes), .ok (taken + 1)⟩ := by
            rintro ⟨⟩
          simp [htaken]

end

/-- What an error leaves of the bytes at a path: nothing, or some first bytes if the writing was
stopped, of which the error tells. -/
inductive Leaves (path : Text) (bytes : Bytes) (events : List Event) :
    WriteError → Option Entry → Prop
  | nothing {e : WriteError} (hgoes : ¬∃ event ∈ events, event.StopsAppending path) :
      Leaves path bytes events e none
  | part {part : Bytes} {runnable : Bool} (hpart : part <+: bytes)
      (hstops : ∃ event ∈ events, event.StopsAppending path) :
      Leaves path bytes events ⟨path⟩ (some (.file part runnable))

section
variable {before after : List Event} {entry : Option Entry} {e : WriteError}

theorem Leaves.append (hgoes : ¬∃ event ∈ before, event.StopsAppending path)
    (h : Leaves path bytes after e entry) : Leaves path bytes (before ++ after) e entry := by
  have hsame : (∃ event ∈ before ++ after, event.StopsAppending path) ↔
      ∃ event ∈ after, event.StopsAppending path := by
    simp only [List.mem_append, or_and_right, exists_or, hgoes, false_or]
  cases h with
  | nothing hgoes => exact .nothing (mt hsame.1 hgoes)
  | part hpart hstops => exact .part hpart (hsame.2 hstops)

theorem Leaves.ne_none_iff (h : Leaves path bytes events e entry) :
    entry ≠ none ↔ ∃ event ∈ events, event.StopsAppending path := by
  cases h with
  | nothing hgoes => simpa using hgoes
  | part hpart hstops => simpa using hstops

end

/-- A file that cannot be created is not there, and one that is stopped is there in part. -/
theorem writeFile_leaves (hpath : Path.Descends path)
    (hfree : t.get? (Path.place here path) = none)
    (h : (writeFile path bytes).Replays events result) (hfollows : Follows here events t t') :
    match result with
    | .error _ => Leaves path bytes events ⟨path⟩ (t'.get? (Path.place here path))
    | .ok () => ¬∃ event ∈ events, event.StopsAppending path := by
  obtain ⟨reply, rest, rfl, hrest⟩ := replays_ask.1 h
  obtain ⟨t₁, hcall, hthen⟩ := follows_cons.1 hfollows
  have hcreate : ¬∃ event ∈ [Event.mk (.create path) reply], event.StopsAppending path :=
    not_stopsAppending (by simp [AppendsNothing])
  cases reply with
  | error fault =>
    obtain ⟨rfl, rfl⟩ := replays_done.1 hrest
    obtain rfl := follows_nil.1 hthen
    obtain rfl : t' = t := hcall
    rw [hfree]
    exact .nothing hcreate
  | ok =>
    obtain ⟨runnable, hfile⟩ := get?_of_create hpath hcall
    obtain ⟨⟨part, hpart, hleft⟩, hstops⟩ := writeAll_leaves hpath hfile hrest hthen
    cases result with
    | error fault =>
      rw [hleft]
      exact .append hcreate (.part hpart (hstops.1 ⟨fault, rfl⟩))
    | ok =>
      rintro ⟨event, hevent, hstop⟩
      rcases List.mem_cons.1 hevent with rfl | hevent
      · exact hcreate ⟨_, List.mem_singleton_self _, hstop⟩
      · obtain ⟨fault, hfault⟩ := hstops.2 ⟨event, hevent, hstop⟩
        cases hfault

/-- A temporary file that does not get to its target is removed. -/
theorem replace_leaves (htemp : Path.Descends (temporary target))
    (hremove : ∀ fault, ⟨.removeFile (temporary target), .error fault⟩ ∉ events)
    (h : (replace target).Replays events (.error e)) (hfollows : Follows here events t t') :
    Leaves (temporary target) bytes events e (t'.get? (Path.place here (temporary target))) := by
  obtain ⟨reply, rest, rfl, hrest⟩ := replays_ask.1 h
  obtain ⟨t₁, -, hthen⟩ := follows_cons.1 hfollows
  cases reply with
  | ok => exact absurd (replays_done.1 hrest).2 (by simp)
  | error fault =>
    obtain ⟨reply, rest, rfl, hdone⟩ := replays_ask.1 hrest
    obtain ⟨t₂, hcall, hthen⟩ := follows_cons.1 hthen
    obtain ⟨rfl, -⟩ := replays_done.1 hdone
    obtain rfl := follows_nil.1 hthen
    cases reply with
    | error fault => exact absurd (by simp) (hremove fault)
    | ok =>
      rw [get?_of_removeFile htemp hcall]
      exact .nothing (not_stopsAppending (by simp [AppendsNothing]))

/-- An error leaves nothing, or what the temporary file had got when it was stopped. -/
theorem overwrite_leaves (htarget : Path.Descends target)
    (htemp : Path.Descends (temporary target))
    (hlength : (Path.place here (temporary target)).length = (Path.place here target).length)
    (hfree : t.get? (Path.place here (temporary target)) = none)
    (hremove : ∀ fault, ⟨.removeFile (temporary target), .error fault⟩ ∉ events)
    (h : (overwrite target bytes).Replays events (.error e))
    (hfollows : Follows here events t t') :
    Leaves (temporary target) bytes events e (t'.get? (Path.place here (temporary target))) := by
  obtain ⟨before, after, made, rfl, hprepare, h⟩ := replays_bind.1 h
  obtain ⟨t₁, hbefore, hafter⟩ := follows_append.1 hfollows
  have hfree₁ := unoccupied_prepare htarget hlength hprepare hbefore hfree
  refine .append (not_stopsAppending ((obeys_prepare target).of_replays hprepare).1) ?_
  cases made with
  | error fault =>
    obtain ⟨rfl, -⟩ := replays_done.1 h
    obtain rfl := follows_nil.1 hafter
    rw [hfree₁]
    exact .nothing (by simp)
  | ok =>
    obtain ⟨writing, after, stored, rfl, hwrite, h⟩ := replays_bind.1 h
    obtain ⟨t₂, hwriting, hafter⟩ := follows_append.1 hafter
    have hleaves := writeFile_leaves htemp hfree₁ hwrite hwriting
    cases stored with
    | error fault =>
      obtain ⟨rfl, herror⟩ := replays_done.1 h
      obtain rfl := follows_nil.1 hafter
      cases herror
      rwa [List.append_nil]
    | ok =>
      refine .append hleaves (replace_leaves htemp ?_ h hafter)
      exact fun fault hmem => hremove fault (by simp [hmem])

/-! ## Runs -/

section
variable {a : Artifact} {dir : Text}

/-- The writer ends with an error only behind a look at the target that has changed nothing. -/
theorem replays_overwrite (h : (a.write dir).Replays events (.error e))
    (hfollows : Follows here events t t') :
    ∃ reply rest, events = ⟨.read (a.target dir), reply⟩ :: rest ∧
      (overwrite (a.target dir) a.body).Replays rest (.error e) ∧ Follows here rest t t' := by
  obtain ⟨reply, rest, rfl, hrest⟩ := replays_ask.1 h
  obtain ⟨t₁, hcall, hthen⟩ := follows_cons.1 hfollows
  refine ⟨reply, rest, rfl, ?_⟩
  cases reply with
  | error fault =>
    obtain rfl : t₁ = t := hcall
    exact ⟨hrest, hthen⟩
  | ok bytes =>
    obtain ⟨-, rfl⟩ := hcall
    dsimp only at hrest
    split at hrest
    · exact absurd (replays_done.1 hrest).2 (by simp)
    · exact ⟨hrest, hthen⟩

/-- On a machine where a temporary file can be removed, a write that fails leaves an entry at its
path just if its bytes were refused, or none of them was taken: a file with those that were taken
before, and the error names it. -/
theorem write_leftover {σ : Type} (m : FileMachine σ) (s : σ) (hname : Path.IsPlain a.filename)
    (hdir : Path.Descends dir)
    (hfree : (m.tree s).get? (Path.place (m.here s) (temporary (a.target dir))) = none)
    (hremove : ∀ fault, ⟨.removeFile (temporary (a.target dir)), .error fault⟩ ∉
      (a.write dir).history m.toMachine s)
    (herror : ((a.write dir).run m.toMachine s).1 = .error e) :
    let temp := temporary (a.target dir)
    let entry := (m.tree ((a.write dir).run m.toMachine s).2).get? (Path.place (m.here s) temp)
    (entry ≠ none ↔ ∃ event ∈ (a.write dir).history m.toMachine s, event.StopsAppending temp) ∧
      ∀ left, entry = some left →
        e = ⟨temp⟩ ∧ ∃ part runnable, part <+: a.body ∧ left = .file part runnable := by
  intro temp entry
  have hlength : (Path.place (m.here s) temp).length =
      (Path.place (m.here s) (a.target dir)).length := by
    rw [place_temporary_target hname, place_target hname, List.length_append, List.length_append,
      Path.length_place_shown]
    rfl
  have hleaves : Leaves temp a.body ((a.write dir).history m.toMachine s) e entry := by
    have hreplays := replays_run m.toMachine (a.write dir) s
    rw [herror] at hreplays
    obtain ⟨reply, rest, hevents, hover, hfollows⟩ :=
      replays_overwrite hreplays (m.follows_history (a.write dir) s)
    rw [hevents] at hremove ⊢
    have hread : ¬∃ event ∈ [Event.mk (.read (a.target dir)) reply], event.StopsAppending temp :=
      not_stopsAppending (by simp [AppendsNothing])
    refine .append hread (overwrite_leaves (descends_target hname hdir)
      (descends_temporary hname hdir) hlength hfree ?_ hover hfollows)
    exact fun fault hmem => hremove fault (List.mem_cons_of_mem _ hmem)
  refine ⟨hleaves.ne_none_iff, fun left hleft => ?_⟩
  rw [hleft] at hleaves
  cases hleaves with
  | part hpart _ => exact ⟨rfl, _, _, hpart, rfl⟩

end

/-- A directory that is in the way of a pdf. -/
def blocked : Host where
  tree := (FileTree.put ∅ ["out"] .directory).put ["out", "cv.pdf"] .directory

/-- A pdf cannot take the place of a directory, and its temporary file does not stay. -/
theorem write_leftover_blocked :
    let a : Artifact := ⟨"cv", .pdf [10, 20, 30]⟩
    let temp : Place := ["out", "cv.pdf.vitae.tmp"]
    Path.IsPlain a.filename ∧ Path.Descends "out" ∧ blocked.tree.get? temp = none ∧
      (∀ fault, ⟨.removeFile "out/cv.pdf.vitae.tmp", .error fault⟩ ∉
        (a.write "out").history Host.machine blocked) ∧
      (blocked.run (a.write "out")).1 = .error ⟨"out/cv.pdf"⟩ ∧
      (blocked.run (a.write "out")).2.tree.get? temp = none := by
  intro a temp
  have hname : Path.IsPlain a.filename := by decide
  have hdir : Path.Descends "out" := by decide
  have hfree : blocked.tree.get? temp = none := by decide
  have herror : (blocked.run (a.write "out")).1 = .error ⟨"out/cv.pdf"⟩ := by decide +kernel
  have htemp : temporary (a.target "out") = "out/cv.pdf.vitae.tmp" := by decide +kernel
  have hgoes : ∀ event ∈ (a.write "out").history Host.machine blocked, event.goesWell := by
    decide +kernel
  have hremove : ∀ fault, ⟨.removeFile "out/cv.pdf.vitae.tmp", .error fault⟩ ∉
      (a.write "out").history Host.machine blocked :=
    fun _ hmem => Bool.false_ne_true (hgoes _ hmem)
  have hstops : ¬∃ event ∈ (a.write "out").history Host.machine blocked,
      event.StopsAppending "out/cv.pdf.vitae.tmp" := by
    rintro ⟨_, hmem, ⟨⟩⟩ <;> exact Bool.false_ne_true (hgoes _ hmem)
  obtain ⟨hleft, -⟩ := write_leftover Host.fileMachine blocked hname hdir
    (by rw [htemp]; exact hfree) (by rw [htemp]; exact hremove) herror
  rw [htemp] at hleft
  exact ⟨hname, hdir, hfree, hremove, herror, Classical.not_not.1 (mt hleft.1 hstops)⟩

end Artifact

/-- A host with a disk that takes only some bytes more. -/
structure Disk where
  host : Host
  room : Nat

namespace Disk

def reply (call : Call) (d : Disk) : call.Reply × Disk :=
  match call with
  | .append path bytes =>
    let taken := min d.room bytes.length
    if taken = 0 then (.error .full, d)
    else match d.host.tree.append d.host.here path (bytes.take taken) with
      | .ok tree => (.ok taken, ⟨{ d.host with tree }, d.room - taken⟩)
      | .error fault => (.error fault, d)
  | call => ((d.host.reply call).1, { d with host := (d.host.reply call).2 })

/-- What does not fit is refused. -/
def fileMachine : FileMachine Disk where
  reply := reply
  tree d := d.host.tree
  here d := d.host.here
  here_reply call d := by
    unfold reply
    split
    · dsimp only
      split <;> (try split) <;> rfl
    · exact d.host.reply_here _
  touches call d := by
    unfold reply
    split
    · dsimp only
      split
      · exact .inl rfl
      · split
        · next htree => exact ⟨Nat.min_le_right .., htree⟩
        · exact .inl rfl
    · exact d.host.touches_reply _
  reads _ _ := rfl

/-- Two of three bytes fit on the disk, and they stay in the temporary file. -/
theorem write_leftover_full :
    let a : Artifact := ⟨"cv", .pdf [10, 20, 30]⟩
    let d : Disk := { host := { tree := FileTree.put ∅ ["out"] .directory }, room := 2 }
    let temp : Place := ["out", "cv.pdf.vitae.tmp"]
    Path.IsPlain a.filename ∧ Path.Descends "out" ∧ d.host.tree.get? temp = none ∧
      ((a.write "out").run fileMachine.toMachine d).1 = .error ⟨"out/cv.pdf.vitae.tmp"⟩ ∧
      ((a.write "out").run fileMachine.toMachine d).2.host.tree.get? temp =
        some (.file [10, 20] false) :=
  ⟨by decide, by decide, by decide, by decide +kernel, by decide +kernel⟩

end Disk

end Curriculum
