import Curriculum.Proofs.Registry.Overlay

/-! # Sub fields in their place

Only repeatable fields are to have sub fields. The check walks through the fields in depth-first
order and stops at the first one that is misplaced (`misplacedIn?_eq_find?`), and what does not pass
it is not loaded, so in a registry all fields are in place (`Registry.fields_placed`). -/

namespace Curriculum

namespace FieldSpec

/-- The field is one of the fields or one below them, at any depth. -/
inductive LiesIn (f : FieldSpec) : List FieldSpec → Prop
  | top (h : f ∈ fs) : LiesIn f fs
  | sub (h : g ∈ fs) (hsubs : g.subFields = some subs) (hrest : LiesIn f subs) : LiesIn f fs

theorem LiesIn.cons (h : LiesIn f fs) : LiesIn f (g :: fs) := by
  cases h with
  | top h => exact .top (List.mem_cons_of_mem g h)
  | sub h hsubs hrest => exact .sub (List.mem_cons_of_mem g h) hsubs hrest

theorem not_liesIn_nil : ¬LiesIn f [] := by
  rintro (h | h) <;> cases h

theorem liesIn_cons : LiesIn f (g :: fs) ↔
    (f = g ∨ ∃ subs, g.subFields = some subs ∧ LiesIn f subs) ∨ LiesIn f fs := by
  constructor
  · intro h
    cases h with
    | top h =>
      rcases List.mem_cons.1 h with rfl | h
      · exact .inl (.inl rfl)
      · exact .inr (.top h)
    | sub h hsubs hrest =>
      rcases List.mem_cons.1 h with rfl | h
      · exact .inl (.inr ⟨_, hsubs, hrest⟩)
      · exact .inr (.sub h hsubs hrest)
  · rintro ((rfl | ⟨subs, hsubs, hrest⟩) | h)
    · exact .top List.mem_cons_self
    · exact .sub List.mem_cons_self hsubs hrest
    · exact h.cons

def IsMisplaced (f : FieldSpec) : Prop := f.subFields.isSome ∧ f.type ≠ .repeatable

instance : DecidablePred IsMisplaced := fun f =>
  inferInstanceAs (Decidable (f.subFields.isSome ∧ f.type ≠ .repeatable))

mutual
/-- The field and all fields below it, each before those below it. -/
def spread : FieldSpec → List FieldSpec
  | ⟨name, label, type, required, none⟩ => [⟨name, label, type, required, none⟩]
  | ⟨name, label, type, required, some subs⟩ =>
    ⟨name, label, type, required, some subs⟩ :: spreadAll subs

/-- The fields, each followed by those below it. -/
def spreadAll : List FieldSpec → List FieldSpec
  | [] => []
  | f :: fs => f.spread ++ spreadAll fs
end

mutual
theorem mem_spread : ∀ g : FieldSpec,
    f ∈ g.spread ↔ f = g ∨ ∃ subs, g.subFields = some subs ∧ LiesIn f subs
  | ⟨_, _, _, _, none⟩ => by simp [spread]
  | ⟨_, _, _, _, some subs⟩ => by simp [spread, mem_spreadAll subs]

theorem mem_spreadAll : ∀ fs : List FieldSpec, f ∈ spreadAll fs ↔ LiesIn f fs
  | [] => iff_of_false List.not_mem_nil not_liesIn_nil
  | g :: fs => by rw [spreadAll, List.mem_append, mem_spread g, mem_spreadAll fs, liesIn_cons]
end

end FieldSpec

open FieldSpec

mutual
theorem misplaced?_eq_find? : ∀ f : FieldSpec,
    f.misplaced? = f.spread.find? fun g => decide g.IsMisplaced
  | ⟨_, _, _, _, none⟩ => by simp [misplaced?, spread, IsMisplaced]
  | ⟨_, _, type, _, some subs⟩ => by
    by_cases htype : type = .repeatable
    · simp [misplaced?, spread, IsMisplaced, htype, misplacedIn?_eq_find? subs]
    · simp [misplaced?, spread, IsMisplaced, htype]

theorem misplacedIn?_eq_find? : ∀ fs : List FieldSpec,
    misplacedIn? fs = (spreadAll fs).find? fun g => decide g.IsMisplaced
  | [] => rfl
  | f :: fs => by
    rw [misplacedIn?, spreadAll, List.find?_append, misplaced?_eq_find? f,
      misplacedIn?_eq_find? fs, Option.orElse_eq_orElse, Option.orElse_eq_or]
end

/-- At every depth, a field that has sub fields, if only none at all, is repeatable. -/
def Placed (fs : List FieldSpec) : Prop :=
  ∀ f : FieldSpec, f.LiesIn fs → f.subFields ≠ none → f.type = .repeatable

/-- The field is misplaced, and those before it in depth-first order are not. -/
def FirstMisplaced (f : FieldSpec) (fs : List FieldSpec) : Prop :=
  f.IsMisplaced ∧ ∃ before after, spreadAll fs = before ++ f :: after ∧ ∀ g ∈ before, ¬g.IsMisplaced

theorem misplacedIn?_eq_none_iff : misplacedIn? fs = none ↔ Placed fs := by
  simp only [misplacedIn?_eq_find?, List.find?_eq_none, decide_eq_true_eq, mem_spreadAll,
    IsMisplaced, Placed, Option.isSome_iff_ne_none, ne_eq, not_and, Decidable.not_not]

theorem misplacedIn?_eq_some_iff : misplacedIn? fs = some f ↔ FirstMisplaced f fs := by
  simp only [misplacedIn?_eq_find?, List.find?_eq_some_iff_append, FirstMisplaced,
    decide_eq_true_eq, Bool.not_eq_true', decide_eq_false_iff_not]

/-! ## Templates -/

theorem Template.exists_ofTexts_iff {read : SchemaReader} (h : read schema = some d) (id : TemplateId)
    (path body : Text) :
    (∃ t, Template.ofTexts read id path schema body = .ok t) ↔ Placed d.fields := by
  rw [← misplacedIn?_eq_none_iff]
  simp only [Template.ofTexts, h]
  cases misplacedIn? d.fields with
  | none => exact iff_of_true ⟨_, rfl⟩ rfl
  | some f =>
    constructor
    · rintro ⟨_, ⟨⟩⟩
    · intro h
      cases h

theorem Template.ofTexts_eq_error_iff {read : SchemaReader} (h : read schema = some d)
    (id : TemplateId) (path body : Text) :
    Template.ofTexts read id path schema body = .error e ↔
      ∃ f, FirstMisplaced f d.fields ∧ e = .invalidSchema id.text f.name := by
  simp only [← misplacedIn?_eq_some_iff, Template.ofTexts, h]
  cases misplacedIn? d.fields with
  | none => simp
  | some f => simp [eq_comm]

namespace Registry

variable {view : FileView} {read : SchemaReader} {dir : Text} {r base : Registry} {t : Template}

theorem placed_of_templates (h : (view.templates read dir).1 = .ok ts) (ht : t ∈ ts) :
    Placed t.definition.fields := by
  rw [FileView.templates_eq] at h
  split at h
  · cases hlisted : view.subdirectories dir with
    | none =>
      rw [hlisted] at h
      cases h
    | some listed =>
      rw [hlisted] at h
      rcases FileView.inspectAll_cases view read dir (Path.inOrder listed) with
        ⟨found, ws, heq, hyields⟩ | ⟨_, _, _, _, _, _, _, heq, _⟩
      · simp only [heq, Except.ok.injEq] at h
        subst h
        obtain ⟨name, -, hholds⟩ := (hyields.mem_iff t).1 ht
        obtain ⟨-, -, hplaced⟩ := hholds
        exact misplacedIn?_eq_none_iff.1 hplaced
      · simp only [heq, reduceCtorEq] at h
  · cases h
    cases ht

theorem mem_of_map {templates : Except RegistryError (List Template)}
    (h : templates.map (fun new => base.insertAll new) = .ok r) (ht : t ∈ r.templates) :
    (∃ new, templates = .ok new ∧ t ∈ new) ∨ t ∈ base.templates := by
  cases templates with
  | error e => cases h
  | ok new =>
    cases h
    exact (mem_insertAll ht).imp_left fun hnew => ⟨new, rfl, hnew⟩

theorem placed_of_builtIn (ht : t ∈ builtIn.templates) : Placed t.definition.fields := by
  cases List.mem_singleton.1 ht
  exact misplacedIn?_eq_none_iff.1 rfl

theorem Built.placed (h : Built read r) (ht : t ∈ r.templates) : Placed t.definition.fields := by
  cases h with
  | builtIn => exact placed_of_builtIn ht
  | ofDirectory h =>
    rcases mem_of_map h ht with ⟨new, hnew, hmem⟩ | hmem
    · exact placed_of_templates hnew hmem
    · cases hmem
  | @load view dir made h =>
    cases dir with
    | none =>
      cases h
      exact placed_of_builtIn ht
    | some dir =>
      rcases mem_of_map h ht with ⟨new, hnew, hmem⟩ | hmem
      · exact placed_of_templates hnew hmem
      · exact placed_of_builtIn hmem

/-- The check passes just the fields that are in place at every depth, and blames the first one in
depth-first order that is not, together with the id of the template. So the definitions of a
registry have all their fields in place, whichever way it has been made. -/
theorem fields_placed (read : SchemaReader) :
    (∀ fs, misplacedIn? fs = none ↔ Placed fs) ∧
    (∀ fs f, misplacedIn? fs = some f ↔ FirstMisplaced f fs) ∧
    (∀ id path schema body d, read schema = some d →
      ((∃ t, Template.ofTexts read id path schema body = .ok t) ↔ Placed d.fields) ∧
      ∀ e, Template.ofTexts read id path schema body = .error e ↔
        ∃ f, FirstMisplaced f d.fields ∧ e = .invalidSchema id.text f.name) ∧
    ∀ r, Built read r → ∀ d ∈ r.list, Placed d.fields := by
  refine ⟨fun _ => misplacedIn?_eq_none_iff, fun _ _ => misplacedIn?_eq_some_iff, ?_, ?_⟩
  · intro id path schema body d h
    exact ⟨Template.exists_ofTexts_iff h id path body,
      fun _ => Template.ofTexts_eq_error_iff h id path body⟩
  · intro r hr d hd
    obtain ⟨t, ht, rfl⟩ := List.mem_map.1 hd
    exact hr.placed ht

/-- A list with sub fields, below a repeatable field and after one that is in place. -/
def ledger : Text :=
  "name: L\nfields: [\x7bname: g, label: G, type: repeatable, subFields: [".toList ++
    "\x7bname: h, label: H, type: repeatable, sub_fields: []\x7d, ".toList ++
    "\x7bname: x, label: X, type: list, sub_fields: []\x7d]\x7d]".toList

theorem fields_placed_ledger :
    ∃ d f, Descriptor.parse? ledger = some d ∧ FirstMisplaced f d.fields ∧ ¬Placed d.fields ∧
      Template.ofTexts Descriptor.parse? ⟨"book", by decide⟩ "schema.yaml" ledger [] =
        .error (.invalidSchema "book" "x") := by
  have hledger : ((Descriptor.parse? ledger).bind fun d =>
      (misplacedIn? d.fields).map FieldSpec.name) = some "x".toList := by decide +kernel
  obtain ⟨d, hd, hfield⟩ := Option.bind_eq_some_iff.1 hledger
  obtain ⟨f, hf, hname⟩ := Option.map_eq_some_iff.1 hfield
  obtain ⟨hplaced, hfirst, htexts, -⟩ := fields_placed Descriptor.parse?
  have hmisplaced : FirstMisplaced f d.fields := (hfirst d.fields f).1 hf
  refine ⟨d, f, hd, hmisplaced, ?_, ?_⟩
  · intro h
    cases hf.symm.trans ((hplaced d.fields).2 h)
  · exact ((htexts _ _ _ _ _ hd).2 _).2 ⟨f, hmisplaced, by rw [hname]⟩

end Registry

end Curriculum
