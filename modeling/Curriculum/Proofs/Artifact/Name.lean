import Curriculum.Artifact.Write
import Curriculum.Proofs.Compiler.Calls
import Curriculum.Proofs.Compiler.Session
import Curriculum.Proofs.Files.Locate

/-! # Names of artifacts

An artifact is called after the id of its template, and an id has no characters but letters, digits,
hyphens and underscores. So its name says nothing but what it should, wherever it is put: in a
directory it is a child, in a header it is what stands between the quotes, and different ids or
formats have different names (`Registry.render_names`). -/

namespace Curriculum

/-- A character of the kind Cc. -/
def isControl (c : Char) : Bool := c.toNat < 0x20 || (0x7F ≤ c.toNat && c.toNat < 0xA0)

/-- A name that is nothing but a name in a path, between quotes and in a line of text. -/
structure IsSafeName (name : Text) : Prop where
  chars : ∀ c ∈ name, c ≠ '/' ∧ c ≠ '\\' ∧ c ≠ '\'' ∧ c ≠ '"' ∧ isControl c = false ∧ isBlank c = false
  ne_dot : name ≠ ['.']
  ne_up : name ≠ ['.', '.']

/-! ## Characters -/

/-- The characters of file names that are made from ids. -/
def isNameChar (c : Char) : Bool := isIdChar c || c = '.'

theorem toNat_of_isNameChar (h : isNameChar c) : 0x20 < c.toNat ∧ c.toNat < 0x7F := by
  rw [isNameChar, Bool.or_eq_true, decide_eq_true_eq] at h
  rcases h with h | rfl
  · exact toNat_of_isIdChar h
  · decide

theorem isControl_of_isNameChar (h : isNameChar c) : isControl c = false := by
  obtain ⟨hlow, hhigh⟩ := toNat_of_isNameChar h
  simp only [isControl, Bool.or_eq_false_iff, Bool.and_eq_false_iff, decide_eq_false_iff_not]
  omega

theorem isBlank_of_isNameChar (h : isNameChar c) : isBlank c = false := by
  obtain ⟨hlow, hhigh⟩ := toNat_of_isNameChar h
  simp [isBlank, Text.inRanges, blankRanges]
  omega

theorem ne_of_isNameChar (h : isNameChar c) (hd : isNameChar d = false) : c ≠ d := by
  rintro rfl
  cases h.symm.trans hd

theorem not_mem_of_isNameChar {name : Text} (h : ∀ c ∈ name, isNameChar c)
    (hd : isNameChar d = false) : d ∉ name :=
  fun hmem => ne_of_isNameChar (h d hmem) hd rfl

namespace TemplateId.IsWellFormed

variable {id other : Text}

/-- An id with the ending of a format. -/
theorem isNameChar_of_mem (h : IsWellFormed id) (f : Format)
    (hc : c ∈ id ++ '.' :: f.extension) : isNameChar c := by
  rw [List.mem_append, List.mem_cons] at hc
  rcases hc with hc | rfl | hc
  · simp [isNameChar, h.isIdChar_of_mem hc]
  · decide
  · have hall : f.extension.all isNameChar = true := by cases f <;> decide
    exact List.all_eq_true.1 hall c hc

theorem isSafeName (h : IsWellFormed id) (f : Format) : IsSafeName (id ++ '.' :: f.extension) := by
  have hlength : 3 ≤ (id ++ '.' :: f.extension).length := by cases f <;> simp [Format.extension]
  refine ⟨fun c hc => ?_, ?_, ?_⟩
  · have hname := h.isNameChar_of_mem f hc
    exact ⟨ne_of_isNameChar hname rfl, ne_of_isNameChar hname rfl, ne_of_isNameChar hname rfl,
      ne_of_isNameChar hname rfl, isControl_of_isNameChar hname, isBlank_of_isNameChar hname⟩
  · intro heq
    simp [heq] at hlength
  · intro heq
    simp [heq] at hlength

theorem namesChild (h : IsWellFormed id) (f : Format) (dir : Text) :
    Path.NamesChild (Path.join dir (Path.ofText (id ++ '.' :: f.extension))) dir
      (id ++ '.' :: f.extension) := by
  have hsafe := h.isSafeName f
  have hpath : Path.ofText (id ++ '.' :: f.extension) = id ++ '.' :: f.extension :=
    h.ofText_append (by cases f <;> simp [Format.extension])
  have hslash : '/' ∉ id ++ '.' :: f.extension := fun hmem => (hsafe.chars _ hmem).1 rfl
  have hnul : isNameChar '\x00' = false := by decide
  rw [hpath]
  refine Path.namesChild_join ⟨hslash, by simp, hsafe.ne_dot, hsafe.ne_up⟩ ?_ dir
  exact not_mem_of_isNameChar (fun c => h.isNameChar_of_mem f) hnul

/-- The stem and the ending of a name are on the two sides of its only dot. -/
theorem eq_of_append_eq (h : IsWellFormed id) (hother : IsWellFormed other) {f g : Format}
    (heq : id ++ '.' :: f.extension = other ++ '.' :: g.extension) : id = other ∧ f = g := by
  have hdot {id : Text} (h : IsWellFormed id) : '.' ∉ id := fun hmem =>
    absurd (h.isIdChar_of_mem hmem) (by decide)
  have hend (f : Format) : '.' ∉ f.extension := by cases f <;> decide
  have hsplit := congrArg (Text.split '.') heq
  rw [Text.split_append_cons, Text.split_append_cons, Text.split_of_not_mem (hdot h),
    Text.split_of_not_mem (hdot hother), Text.split_of_not_mem (hend f),
    Text.split_of_not_mem (hend g)] at hsplit
  simp only [List.cons_append, List.nil_append, List.cons.injEq, and_true] at hsplit
  refine ⟨hsplit.1, ?_⟩
  cases f <;> cases g <;> first | rfl | exact absurd hsplit.2 (by decide)

end TemplateId.IsWellFormed

/-! ## Renders -/

namespace Artifact

theorem split_quoted {start name : Text} (hstart : '"' ∉ start) (hname : '"' ∉ name) :
    Text.split '"' (start ++ ['"'] ++ name ++ ['"']) = [start, name, []] := by
  rw [List.append_assoc, List.append_assoc, List.singleton_append, Text.split_append_cons,
    Text.split_append_cons, Text.split_of_not_mem hstart, Text.split_of_not_mem hname]
  rfl

theorem split_contentDisposition {a : Artifact} (h : '"' ∉ a.filename) :
    Text.split '"' a.contentDisposition = ["attachment; filename=".toList, a.filename, []] := by
  have hquoted : a.contentDisposition =
      "attachment; filename=".toList ++ ['"'] ++ a.filename ++ ['"'] := rfl
  rw [hquoted]
  exact split_quoted (by decide) h

end Artifact

namespace Registry

open Program Compiler

variable {r : Registry} {c : Compiler} {id : Text} {a : Artifact}

/-- The artifact of some render with an id. -/
inductive Offers (id : Text) (a : Artifact) : Prop
  | intro {σ : Type} (r : Registry) (c : Compiler) (submission : Json.Value) (format : Format)
      (m : Machine σ) (s : σ) (h : ((r.render c id submission format).run m s).1 = .ok a)

/-- An artifact has its id and the ending of its format for a name, and a render hands no other name
to the files: what it is written to and what is compiled are children of their directories, and
what else a render touches is in its compile directory. Between the quotes of the header is the
name, and no other id or format has it. -/
theorem render_names (r : Registry) (c : Compiler) (id : Text) (submission : Json.Value)
    (format : Format) (m : Machine σ) (s : σ)
    (h : ((r.render c id submission format).run m s).1 = .ok a) :
    let events := (r.render c id submission format).history m s
    a.filename = id ++ '.' :: a.format.extension ∧ IsSafeName a.filename ∧
    (∀ dir, Path.NamesChild (a.target dir) dir a.filename) ∧
    (events = [] ∨ c.StaysInside id events) ∧
    (∀ directory, Path.NamesChild (sourcePath directory id) directory (id ++ ".tex".toList) ∧
      Path.NamesChild (pdfPath directory id) directory (id ++ ".pdf".toList)) ∧
    Text.split '"' a.contentDisposition = ["attachment; filename=".toList, a.filename, []] ∧
    ∀ other b, Offers other b → b.filename = a.filename → other = id ∧ b.format = a.format := by
  intro events
  have hreplays := replays_run m (r.render c id submission format) s
  rw [h] at hreplays
  obtain ⟨hid, hstem, -⟩ := of_replays_render hreplays
  have hname : a.filename = id ++ '.' :: a.format.extension := by rw [Artifact.filename, hstem]
  have hsafe : IsSafeName a.filename := hname ▸ hid.isSafeName a.format
  refine ⟨hname, hsafe, fun dir => ?_, staysInside_render hreplays, fun directory => ?_, ?_, ?_⟩
  · rw [Artifact.target, hname]
    exact hid.namesChild a.format dir
  · exact ⟨hid.namesChild .source directory, hid.namesChild .pdf directory⟩
  · exact Artifact.split_contentDisposition fun hmem => (hsafe.chars _ hmem).2.2.2.1 rfl
  · rintro other b ⟨r', c', submission', format', m', s', h'⟩ heq
    have hreplays' := replays_run m' (r'.render c' other submission' format') s'
    rw [h'] at hreplays'
    obtain ⟨hother, hstem', -⟩ := of_replays_render hreplays'
    rw [hname, Artifact.filename, hstem'] at heq
    exact hother.eq_of_append_eq hid heq

/-- The template of a note. -/
def note : Template := ⟨⟨⟨"note-1", by decide⟩, "Note", []⟩, "x"⟩

/-- Where the compiler fails, the source of a note is still called after its id. -/
theorem render_names_note :
    let c : Compiler := ⟨"pdflatex", 60 * second⟩
    let a : Artifact := ⟨"note-1", .source "x"⟩
    let pdf := Registry.render ⟨[note]⟩ c "note-1" (.object []) .pdf
    (pdf.run Desk.machine ⟨[], none⟩).1 = .ok a ∧ a.filename = "note-1.tex".toList ∧
      IsSafeName a.filename ∧ Path.NamesChild (a.target "../out") "../out" a.filename ∧
      c.StaysInside "note-1" (pdf.history Desk.machine ⟨[], none⟩) := by
  intro c a pdf
  have hresult : (pdf.run Desk.machine ⟨[], none⟩).1 = .ok a := by decide +kernel
  obtain ⟨hname, hsafe, hchild, hstays, -⟩ := render_names _ _ _ _ _ _ _ hresult
  refine ⟨hresult, hname, hsafe, hchild "../out", hstays.resolve_left ?_⟩
  exact List.cons_ne_nil _ _

end Registry

end Curriculum
