import Curriculum.Proofs.Files.Order
import Curriculum.Proofs.Picks
import Curriculum.Proofs.Registry.Lookup
import Curriculum.Registry.Directory

/-! # Directories of templates

A directory with a template's name lacks a file, holds something broken, or holds a template
(`FileView.Lacks`, `FileView.Breaks`, `FileView.Holds`). Loading takes the directories in the order
of their names' bytes, whatever order they are listed in, and accounts for each of them
(`Registry.ofDirectory_accounts`). There are no links, and a listing tells the kind of each entry. -/

namespace Curriculum

namespace FileView

/-! ## Single directories -/

/-- The schema file of a template: the one in YAML, or else the one in JSON. -/
inductive HasSchema (view : FileView) (root : Text) : Text → Prop where
  | yaml (h : view.isFile (Path.join root "schema.yaml") = true) :
    HasSchema view root (Path.join root "schema.yaml")
  | json (hyaml : view.isFile (Path.join root "schema.yaml") = false)
    (h : view.isFile (Path.join root "schema.json") = true) :
    HasSchema view root (Path.join root "schema.json")

/-- The directory `name` in `dir` does not have what a template needs. -/
inductive Lacks (view : FileView) (dir name : Text) : Warning → Prop where
  | id (h : ¬TemplateId.IsWellFormed name) : Lacks view dir name (.invalidId (Path.join dir name))
  | schema (hid : TemplateId.IsWellFormed name)
    (h : ∀ path, ¬view.HasSchema (Path.join dir name) path) : Lacks view dir name (.noSchema name)
  | body (hid : TemplateId.IsWellFormed name) (hschema : view.HasSchema (Path.join dir name) path)
    (h : view.isFile (Path.join (Path.join dir name) "template.tex") = false) :
    Lacks view dir name (.noBody name)

/-- The directory has the name and the files of a template. -/
structure Offers (view : FileView) (dir name : Text) (id : TemplateId) (schemaPath : Text) :
    Prop where
  text_id : id.text = name
  hasSchema : view.HasSchema (Path.join dir name) schemaPath
  hasBody : view.isFile (Path.join (Path.join dir name) "template.tex") = true

/-- The files of a template hold texts. -/
structure Reads (view : FileView) (dir name : Text) (id : TemplateId)
    (schemaPath schema body : Text) : Prop extends Offers view dir name id schemaPath where
  schema : view.text? schemaPath = some schema
  body : view.text? (Path.join (Path.join dir name) "template.tex") = some body

/-- The directory has the files of a template, and one of them is broken. -/
inductive Breaks (view : FileView) (read : SchemaReader) (dir name : Text) :
    RegistryError → Prop where
  | schema {id : TemplateId} (hoffers : view.Offers dir name id path)
    (h : view.text? path = none) : Breaks view read dir name (.io path)
  | body {id : TemplateId} (hoffers : view.Offers dir name id path)
    (hschema : view.text? path = some schema)
    (h : view.text? (Path.join (Path.join dir name) "template.tex") = none) :
    Breaks view read dir name (.io (Path.join (Path.join dir name) "template.tex"))
  | descriptor {id : TemplateId} (hreads : view.Reads dir name id path schema body)
    (h : read schema = none) : Breaks view read dir name (.parse path)
  | field {id : TemplateId} (hreads : view.Reads dir name id path schema body)
    (hdescriptor : read schema = some d) (h : misplacedIn? d.fields = some f) :
    Breaks view read dir name (.invalidSchema name f.name)

/-- The directory holds a template. -/
inductive Holds (view : FileView) (read : SchemaReader) (dir name : Text) : Template → Prop where
  | intro {id : TemplateId} (hreads : view.Reads dir name id path schema body)
    (hdescriptor : read schema = some d) (h : misplacedIn? d.fields = none) :
    Holds view read dir name ⟨⟨id, d.name, d.fields⟩, Text.unifyLineEnds body⟩

section
variable {view : FileView} {read : SchemaReader} {dir name root path schema body : Text}
  {id : TemplateId}

theorem find?_schemaFiles : (schemaFiles.map (Path.join root)).find? view.isFile = some path ↔
    view.HasSchema root path := by
  rw [schemaFiles, List.map_cons, List.map_cons, List.map_nil, List.find?_cons,
    List.find?_singleton]
  refine ⟨fun h => ?_, fun h => ?_⟩
  · split at h
    · next hyaml =>
      cases h
      exact .yaml hyaml
    · next hyaml =>
      split at h
      · next hjson =>
        cases h
        exact .json hyaml hjson
      · cases h
  · cases h with
    | yaml hyaml => rw [hyaml]
    | json hyaml hjson => rw [hyaml, hjson]; rfl

theorem find?_schemaFiles_eq_none :
    (schemaFiles.map (Path.join root)).find? view.isFile = none ↔
      ∀ path, ¬view.HasSchema root path := by
  simp only [← find?_schemaFiles, Option.eq_none_iff_forall_ne_some, ne_eq]

theorem inspect_of_lacks (h : view.Lacks dir name w) : view.inspect read dir name = .skipped w := by
  cases h with
  | id h => rw [inspect, TemplateId.ofText?_display, TemplateId.ofText?_eq_none_iff.2 h]
  | schema hid h =>
    simp only [inspect, TemplateId.ofText?_display, TemplateId.ofText?_of_isWellFormed hid,
        find?_schemaFiles_eq_none.2 h]
  | body hid hschema h =>
    simp only [inspect, TemplateId.ofText?_display, TemplateId.ofText?_of_isWellFormed hid,
        find?_schemaFiles.2 hschema]
    exact if_neg (Bool.eq_false_iff.1 h)

theorem inspect_of_offers (h : view.Offers dir name id path) :
    view.inspect read dir name =
      match view.text? path, view.text? (Path.join (Path.join dir name) "template.tex") with
      | none, _ => .failed (.io path)
      | some _, none => .failed (.io (Path.join (Path.join dir name) "template.tex"))
      | some schema, some body =>
        match Template.ofTexts read id path schema body with
        | .ok t => .loaded t
        | .error e => .failed e := by
  obtain ⟨rfl, hschema, hbody⟩ := h
  simp only [inspect, TemplateId.ofText?_display, TemplateId.ofText?_text,
      find?_schemaFiles.2 hschema]
  exact if_pos hbody

theorem lacks_or_offers (view : FileView) (dir name : Text) :
    (∃ w, view.Lacks dir name w) ∨ ∃ id path, view.Offers dir name id path := by
  by_cases hid : TemplateId.IsWellFormed name
  · by_cases hschema : ∃ path, view.HasSchema (Path.join dir name) path
    · obtain ⟨path, hschema⟩ := hschema
      cases hbody : view.isFile (Path.join (Path.join dir name) "template.tex") with
      | false => exact .inl ⟨_, .body hid hschema hbody⟩
      | true => exact .inr ⟨⟨name, TemplateId.isWellFormed_iff.1 hid⟩, path, rfl, hschema, hbody⟩
    · exact .inl ⟨_, .schema hid (not_exists.1 hschema)⟩
  · exact .inl ⟨_, .id hid⟩

theorem inspect_of_breaks (h : view.Breaks read dir name e) :
    view.inspect read dir name = .failed e := by
  cases h with
  | schema hoffers h => rw [inspect_of_offers hoffers, h]
  | body hoffers hschema h => rw [inspect_of_offers hoffers, hschema, h]
  | descriptor hreads h =>
    simp only [inspect_of_offers hreads.toOffers, hreads.schema, hreads.body, Template.ofTexts, h]
  | field hreads hdescriptor h =>
    simp only [inspect_of_offers hreads.toOffers, hreads.schema, hreads.body, Template.ofTexts,
      hdescriptor, h, hreads.text_id]

theorem inspect_of_holds (h : view.Holds read dir name t) :
    view.inspect read dir name = .loaded t := by
  obtain ⟨hreads, hdescriptor, h⟩ := h
  simp only [inspect_of_offers hreads.toOffers, hreads.schema, hreads.body, Template.ofTexts,
    hdescriptor, h]

theorem breaks_or_holds (h : view.Offers dir name id path) :
    (∃ e, view.Breaks read dir name e) ∨ ∃ t, view.Holds read dir name t := by
  cases hschema : view.text? path with
  | none => exact .inl ⟨_, .schema h hschema⟩
  | some schema =>
    cases hbody : view.text? (Path.join (Path.join dir name) "template.tex") with
    | none => exact .inl ⟨_, .body h hschema hbody⟩
    | some body =>
      have hreads : view.Reads dir name id path schema body := ⟨h, hschema, hbody⟩
      cases hdescriptor : read schema with
      | none => exact .inl ⟨_, .descriptor hreads hdescriptor⟩
      | some d =>
        cases hfield : misplacedIn? d.fields with
        | none => exact .inr ⟨_, hreads, hdescriptor, hfield⟩
        | some f => exact .inl ⟨_, .field hreads hdescriptor hfield⟩

/-- One of the three can be said of every directory. -/
theorem lacks_or_breaks_or_holds (view : FileView) (read : SchemaReader) (dir name : Text) :
    (∃ w, view.Lacks dir name w) ∨ (∃ e, view.Breaks read dir name e) ∨
      ∃ t, view.Holds read dir name t :=
  (lacks_or_offers view dir name).imp_right fun ⟨_, _, h⟩ => breaks_or_holds h

theorem Lacks.not_breaks (h : view.Lacks dir name w) (e : RegistryError) :
    ¬view.Breaks read dir name e := fun he =>
  nomatch (inspect_of_lacks h).symm.trans (inspect_of_breaks he)

theorem Lacks.not_holds (h : view.Lacks dir name w) (t : Template) : ¬view.Holds read dir name t :=
  fun ht => nomatch (inspect_of_lacks h).symm.trans (inspect_of_holds ht)

theorem Holds.not_breaks (h : view.Holds read dir name t) (e : RegistryError) :
    ¬view.Breaks read dir name e := fun he =>
  nomatch (inspect_of_holds h).symm.trans (inspect_of_breaks he)

theorem Holds.text_id (h : view.Holds read dir name t) : t.definition.id.text = name := by
  obtain ⟨hreads, -, -⟩ := h
  exact hreads.text_id

end

/-! ## Several directories -/

/-- The directories hold the templates, and for those that lack something there is one warning
each, in their order. -/
structure Yields (view : FileView) (read : SchemaReader) (dir : Text) (names : List Text)
    (ts : List Template) (ws : List Warning) : Prop where
  reports : Picks (view.Lacks dir) names ws
  sound : ∀ name ∈ names, ∀ e, ¬view.Breaks read dir name e
  mem_iff : ∀ t, t ∈ ts ↔ ∃ name ∈ names, view.Holds read dir name t

section
variable {view : FileView} {read : SchemaReader} {dir name : Text} {names : List Text}
  {ts : List Template}

theorem yields_nil : view.Yields read dir [] [] [] := ⟨.nil, nofun, by simp⟩

theorem Yields.of_lacks (h : view.Yields read dir names ts ws) (hname : view.Lacks dir name w) :
    view.Yields read dir (name :: names) ts (w :: ws) where
  reports := .pick hname h.reports
  sound := List.forall_mem_cons.2 ⟨hname.not_breaks, h.sound⟩
  mem_iff t := by
    rw [h.mem_iff]
    simp [hname.not_holds]

theorem Yields.of_holds (h : view.Yields read dir names ts ws) (hname : view.Holds read dir name t) :
    view.Yields read dir (name :: names) (t :: ts) ws where
  reports := .skip (fun w hw => hw.not_holds t hname) h.reports
  sound := List.forall_mem_cons.2 ⟨hname.not_breaks, h.sound⟩
  mem_iff u := by
    have heq : view.Holds read dir name u ↔ u = t := by
      refine ⟨fun hu => ?_, fun hu => hu ▸ hname⟩
      exact Finding.loaded.inj ((inspect_of_holds hu).symm.trans (inspect_of_holds hname))
    rw [List.mem_cons, h.mem_iff]
    simp [heq]

/-- Directories are gone through up to the first broken one. -/
theorem inspectAll_cases (view : FileView) (read : SchemaReader) (dir : Text) (names : List Text) :
    (∃ ts ws, view.inspectAll read dir names = (.ok ts, ws) ∧ view.Yields read dir names ts ws) ∨
      ∃ before name after ts ws e, names = before ++ name :: after ∧
        view.inspectAll read dir names = (.error e, ws) ∧ view.Yields read dir before ts ws ∧
        view.Breaks read dir name e := by
  induction names with
  | nil => exact .inl ⟨[], [], rfl, yields_nil⟩
  | cons name names ih =>
    rcases lacks_or_breaks_or_holds view read dir name with ⟨w, hw⟩ | ⟨e, he⟩ | ⟨t, ht⟩
    · rw [inspectAll, inspect_of_lacks hw]
      rcases ih with ⟨ts, ws, heq, h⟩ | ⟨before, other, after, ts, ws, e, rfl, heq, h, he⟩
      · rw [heq]
        exact .inl ⟨ts, w :: ws, rfl, h.of_lacks hw⟩
      · rw [heq]
        exact .inr ⟨name :: before, other, after, ts, w :: ws, e, rfl, rfl, h.of_lacks hw, he⟩
    · rw [inspectAll, inspect_of_breaks he]
      exact .inr ⟨[], name, names, [], [], e, rfl, rfl, yields_nil, he⟩
    · rw [inspectAll, inspect_of_holds ht]
      rcases ih with ⟨ts, ws, heq, h⟩ | ⟨before, other, after, ts, ws, e, rfl, heq, h, he⟩
      · rw [heq]
        exact .inl ⟨t :: ts, ws, rfl, h.of_holds ht⟩
      · rw [heq]
        exact .inr ⟨name :: before, other, after, t :: ts, ws, e, rfl, rfl, h.of_holds ht, he⟩

end

/-- The names of the directories in a directory, as they are listed. -/
def subdirectories (view : FileView) (dir : Text) : Option (List Text) :=
  match view.list dir with
  | .ok entries => some ((entries.filter fun e => e.2).map fun e => e.1)
  | .error _ => none

theorem templates_eq (view : FileView) (read : SchemaReader) (dir : Text) :
    view.templates read dir =
      if view.present dir then
        match view.subdirectories dir with
        | none => (.error (.io dir), [])
        | some listed => view.inspectAll read dir (Path.inOrder listed)
      else (.ok [], []) := by
  rw [templates, subdirectories]
  cases view.list dir <;> rfl

/-- Two views show the same directory `dir` and the same template files in its directories. They may
list these in different orders, and may differ in everything else. -/
structure Agrees (view other : FileView) (dir : Text) : Prop where
  present : view.present dir = other.present dir
  listed : Option.Rel List.Perm (view.subdirectories dir) (other.subdirectories dir)
  read : ∀ names, view.subdirectories dir = some names → ∀ name ∈ names,
    ∀ file ∈ bodyFile :: schemaFiles, view.read (Path.join (Path.join dir name) file) =
      other.read (Path.join (Path.join dir name) file)
  isFile : ∀ names, view.subdirectories dir = some names → ∀ name ∈ names,
    ∀ file ∈ bodyFile :: schemaFiles, view.isFile (Path.join (Path.join dir name) file) =
      other.isFile (Path.join (Path.join dir name) file)

section
variable {view other : FileView} {read : SchemaReader} {dir name : Text}

theorem inspect_congr
    (hread : ∀ file ∈ bodyFile :: schemaFiles, view.read (Path.join (Path.join dir name) file) =
      other.read (Path.join (Path.join dir name) file))
    (hfile : ∀ file ∈ bodyFile :: schemaFiles, view.isFile (Path.join (Path.join dir name) file) =
      other.isFile (Path.join (Path.join dir name) file)) :
    view.inspect read dir name = other.inspect read dir name := by
  have hschema : (schemaFiles.map (Path.join (Path.join dir name))).find? view.isFile =
      (schemaFiles.map (Path.join (Path.join dir name))).find? other.isFile := by
    rw [← List.head?_filter, ← List.head?_filter]
    refine congrArg List.head? (List.filter_congr fun path hpath => ?_)
    obtain ⟨file, hmem, rfl⟩ := List.mem_map.1 hpath
    exact hfile file (List.mem_cons_of_mem _ hmem)
  simp only [inspect, hschema, hfile bodyFile List.mem_cons_self]
  cases TemplateId.ofText? (Path.display name) with
  | none => rfl
  | some id =>
    cases hpath : (schemaFiles.map (Path.join (Path.join dir name))).find? other.isFile with
    | none => rfl
    | some path =>
      obtain ⟨file, hmem, rfl⟩ := List.mem_map.1 (List.mem_of_find?_eq_some hpath)
      simp only [text?, hread bodyFile List.mem_cons_self, hread file (List.mem_cons_of_mem _ hmem)]

theorem inspectAll_congr
    (h : ∀ name ∈ names, view.inspect read dir name = other.inspect read dir name) :
    view.inspectAll read dir names = other.inspectAll read dir names := by
  induction names with
  | nil => rfl
  | cons name names ih =>
    obtain ⟨hname, hnames⟩ := List.forall_mem_cons.1 h
    rw [inspectAll, inspectAll, hname, ih hnames]

theorem Agrees.templates_eq (h : view.Agrees other dir) :
    view.templates read dir = other.templates read dir := by
  obtain ⟨hpresent, hlisted, hread, hfile⟩ := h
  rw [FileView.templates_eq, FileView.templates_eq, hpresent]
  generalize hnames : view.subdirectories dir = names, other.subdirectories dir = others at hlisted
  cases hlisted with
  | none => rfl
  | @some names others hperm =>
    have hall : view.inspectAll read dir (Path.inOrder names) =
        other.inspectAll read dir (Path.inOrder others) := by
      rw [← Path.inOrder_eq_of_perm hperm]
      refine inspectAll_congr fun name hname => ?_
      have hmem := (Path.inOrder_perm names).mem_iff.1 hname
      exact inspect_congr (hread names hnames name hmem) (hfile names hnames name hmem)
    simp only [hall]

end

end FileView

namespace Registry

open FileView

variable {view : FileView} {read : SchemaReader} {dir : Text} {names : List Text}
  {ts : List Template}

/-- Every directory that does not lack anything is registered under its name, and no other is. -/
theorem account_of_yields (h : view.Yields read dir names ts ws) :
    (∀ id ∈ (insertAll {} ts).ids, id ∈ names) ∧
    ∀ name ∈ names,
      (∃ w, view.Lacks dir name w) ∧ name ∉ (insertAll {} ts).ids ∨
      (∀ w, ¬view.Lacks dir name w) ∧
        ∃ t, (insertAll {} ts).template name = .ok t ∧ view.Holds read dir name t := by
  -- What is found under an id was loaded from the directory of that name, which then lacks nothing.
  have hholds : ∀ id t, (insertAll {} ts).template id = .ok t →
      id ∈ names ∧ view.Holds read dir id t := by
    intro id t ht
    obtain ⟨hmem, rfl⟩ := of_template_eq_ok ht
    obtain ⟨name, hname, hholds⟩ := (h.mem_iff t).1 ((mem_insertAll hmem).resolve_right nofun)
    rw [hholds.text_id]
    exact ⟨hname, hholds⟩
  refine ⟨fun id hid => ?_, fun name hname => ?_⟩
  · obtain ⟨t, ht⟩ := template_ok_iff.2 hid
    exact (hholds id t ht).1
  · rcases lacks_or_breaks_or_holds view read dir name with ⟨w, hw⟩ | ⟨e, he⟩ | ⟨t, ht⟩
    · refine .inl ⟨⟨w, hw⟩, fun hid => ?_⟩
      obtain ⟨t, ht⟩ := template_ok_iff.2 hid
      exact hw.not_holds t (hholds name t ht).2
    · exact absurd he (h.sound name hname e)
    · refine .inr ⟨fun w hw => hw.not_holds t ht, ?_⟩
      have hmem : t ∈ ts := (h.mem_iff t).2 ⟨name, hname, ht⟩
      -- A later template of the same id would be found, but it comes from the same directory.
      obtain ⟨u, hu⟩ := template_ok_iff.2 (mem_ids_insertAll.2 (.inl ⟨t, hmem, rfl⟩))
      rw [ht.text_id] at hu
      exact ⟨u, hu, (hholds name u hu).2⟩

/-- What is loaded from a directory does not depend on the order of its listing or on what is there
beside directories. Each directory in it is registered or reported, up to the first broken one. -/
theorem ofDirectory_accounts (read : SchemaReader) (view : FileView) (dir : Text) :
    (∀ other : FileView, view.Agrees other dir →
      ofDirectoryBy read view dir = ofDirectoryBy read other dir) ∧
    ∀ listed, view.present dir = true → view.subdirectories dir = some listed →
      ∃ names, names.Perm listed ∧ (names.map Path.bytes).Pairwise (fun a b => ¬b < a) ∧
        (∀ r, (ofDirectoryBy read view dir).1 = .ok r →
          Picks (view.Lacks dir) names (ofDirectoryBy read view dir).2 ∧ (∀ id ∈ r.ids, id ∈ names) ∧
          ∀ name ∈ names,
            (∃ w, view.Lacks dir name w) ∧ name ∉ r.ids ∨
            (∀ w, ¬view.Lacks dir name w) ∧
              ∃ t, r.template name = .ok t ∧ view.Holds read dir name t) ∧
        ∀ e, (ofDirectoryBy read view dir).1 = .error e →
          ∃ before name after, names = before ++ name :: after ∧ view.Breaks read dir name e ∧
            (∀ n ∈ before, ∀ e, ¬view.Breaks read dir n e) ∧
            Picks (view.Lacks dir) before (ofDirectoryBy read view dir).2 := by
  refine ⟨fun other h => by rw [ofDirectoryBy, ofDirectoryBy, h.templates_eq], ?_⟩
  intro listed hpresent hlisted
  refine ⟨Path.inOrder listed, Path.inOrder_perm listed, ?_, ?_⟩
  · exact List.pairwise_map.2 ((Path.pairwise_inOrder listed).imp fun h hlt =>
      h (Path.before_iff.2 (.inl hlt)))
  · have htemplates : view.templates read dir = view.inspectAll read dir (Path.inOrder listed) := by
      rw [templates_eq, if_pos hpresent, hlisted]
    rw [ofDirectoryBy, htemplates]
    rcases inspectAll_cases view read dir (Path.inOrder listed) with
      ⟨ts, ws, heq, h⟩ | ⟨before, name, after, ts, ws, e, hnames, heq, h, he⟩
    · rw [heq]
      refine ⟨fun r hr => ?_, nofun⟩
      cases hr
      exact ⟨h.reports, account_of_yields h⟩
    · rw [heq]
      refine ⟨nofun, fun e' he' => ?_⟩
      cases he'
      exact ⟨before, name, after, hnames, he, h.sound, h.reports⟩

/-- A directory with one template in it, two directories that lack a file, and a bad name. -/
def cabinet : FileTree :=
  let file (t : Text) : Entry := .file (Utf8.encode t) false
  let entries : List (Place × Entry) := [(["beta"], .directory),
    (["beta", "schema.yaml"], file "name: B\n"), (["beta", "template.tex"], file "x"),
    (["a b"], .directory), (["mid"], .directory), (["mid", "schema.json"], file "\x7b\x7d"),
    (["zeta"], .directory)]
  entries.foldl (fun t e => t.put e.1 e.2) ∅

/-- The same directory, listed in another order and with a file in it. -/
def recount : FileView :=
  { cabinet.view [] with
    list := fun _ => .ok [("mid", true), ("notes.txt", false), ("a b", true), ("zeta", true),
      ("beta", true)] }

/-- Both listings give the same, the template among it, and what lacks a file is not. -/
theorem ofDirectory_accounts_cabinet :
    let view := cabinet.view []
    ofDirectory recount "/" = ofDirectory view "/" ∧
      ∃ r t, (ofDirectory view "/").1 = .ok r ∧ r.template "beta" = .ok t ∧
        "mid".toList ∉ r.ids := by
  intro view
  let listed : List Text := ["zeta", "mid", "a b", "beta"]
  let recounted : List Text := ["mid", "a b", "zeta", "beta"]
  have hlisted : view.subdirectories "/" = some listed := by decide +kernel
  have hagrees : recount.Agrees view "/" := by
    refine ⟨rfl, ?_, fun _ _ _ _ _ _ => rfl, fun _ _ _ _ _ _ => rfl⟩
    have hrecounted : recount.subdirectories "/" = some recounted := by decide +kernel
    rw [hlisted, hrecounted]
    exact .some (by decide)
  refine ⟨(ofDirectory_accounts Descriptor.parse? recount "/").1 view hagrees, ?_⟩
  obtain ⟨names, hperm, -, hok, herror⟩ :=
    (ofDirectory_accounts Descriptor.parse? view "/").2 listed (by decide +kernel) hlisted
  have hsound : ∀ name ∈ listed, (match view.inspect Descriptor.parse? "/" name with
      | .failed _ => false
      | _ => true) = true := by decide +kernel
  have hbeta : (match view.inspect Descriptor.parse? "/" "beta" with
      | .skipped _ => false
      | _ => true) = true := by decide +kernel
  have hmid : (match view.inspect Descriptor.parse? "/" "mid" with
      | .loaded _ => false
      | _ => true) = true := by decide +kernel
  cases hresult : (ofDirectory view "/").1 with
  | error e =>
    obtain ⟨before, name, after, rfl, he, -⟩ := herror e hresult
    have hname := hsound name (hperm.mem_iff.1 (by simp))
    rw [inspect_of_breaks he] at hname
    cases hname
  | ok r =>
    obtain ⟨-, -, hnames⟩ := hok r hresult
    refine ⟨r, ?_⟩
    rcases hnames "beta" (hperm.mem_iff.2 (by decide)) with ⟨⟨w, hw⟩, -⟩ | ⟨-, t, ht, -⟩
    · rw [inspect_of_lacks hw] at hbeta
      cases hbeta
    · rcases hnames "mid" (hperm.mem_iff.2 (by decide)) with ⟨-, hmissing⟩ | ⟨-, u, -, hu⟩
      · exact ⟨t, rfl, ht, hmissing⟩
      · rw [inspect_of_holds hu] at hmid
        cases hmid

end Registry

end Curriculum
