import Curriculum.Proofs.Schema.Value
import Curriculum.Schema.Descriptor
import Mathlib.Logic.Relation

/-! # Revising definitions

A value that describes a definition may be revised: sub fields may go by their other name, what is
left out may be written out, and members may be added that nothing reads. A revision at any depth
leaves what is described as it is (`Definition.Revises.ofValue?`), and so does any number of them
one after another. Sub fields that go by both names spoil the definition
(`Definition.SpelledTwice.ofValue?`). -/

namespace Curriculum

open Json (Record Value)

/-- An entry, under the new name if it is under the old one. -/
def rename (old new : Text) (entry : Text × α) : Text × α :=
  (if entry.1 = old then new else entry.1, entry.2)

section Rename

variable {old new : Text} (entries : List (Text × α))

theorem lookup_rename_old (h : old ≠ new) : lookup old (entries.map (rename old new)) = none := by
  induction entries with
  | nil => rfl
  | cons entry rest ih =>
    by_cases hkey : entry.1 = old <;> simp [lookup, rename, hkey, h.symm, ih]

theorem lookup_rename_new (h : lookup old entries = none ∨ lookup new entries = none) :
    lookup new (entries.map (rename old new)) = (lookup old entries).or (lookup new entries) := by
  induction entries with
  | nil => rfl
  | cons entry rest ih =>
    by_cases hold : entry.1 = old <;> by_cases hnew : entry.1 = new <;> grind [lookup, rename]

theorem lookup_rename (hold : key ≠ old) (hnew : key ≠ new) :
    lookup key (entries.map (rename old new)) = lookup key entries := by
  induction entries with
  | nil => rfl
  | cons entry rest ih =>
    by_cases hkey : entry.1 = old <;> grind [lookup, rename]

end Rename

theorem lookup_insert (before after : List (Text × α)) (hkey : key ≠ name) :
    lookup name (before ++ (key, a) :: after) = lookup name (before ++ after) := by
  rw [lookup_append, lookup, if_neg hkey, ← lookup_append]

namespace FieldSpec

/-- The names of the sub fields. -/
def spellings : List Text := ["sub_fields", "subFields"]

/-- A value for a field and a revision of it. Only one of the fields below may be revised at a
time. -/
inductive Revises : Value → Value → Prop where
  | respelled : Revises (.object ms) (.object (ms.map (rename "sub_fields" "subFields")))
  | unread (h : ∀ part ∈ partNames, lookup part ns = lookup part ms) :
    Revises (.object ms) (.object ns)
  | type (h : lookup "type" ms = none) :
    Revises (.object ms) (.object (("type", .string "text") :: ms))
  | required (h : lookup "required" ms = none) :
    Revises (.object ms) (.object (("required", .bool false) :: ms))
  | nothing (h : ∀ key ∈ spellings, lookup key ms = none) :
    Revises (.object ms) (.object (("sub_fields", .null) :: ms))
  | within (hvw : Revises v w) (hkey : key ∈ spellings)
    (hms : lookup key ms = some (.array (us ++ v :: ws)))
    (hns : lookup key ns = some (.array (us ++ w :: ws)))
    (h : ∀ part ∈ partNames, part ≠ key → lookup part ns = lookup part ms) :
    Revises (.object ms) (.object ns)
  | typeLast : Revises (.array [n, l]) (.array [n, l, .string "text"])
  | requiredLast : Revises (.array [n, l, t]) (.array [n, l, t, .bool false])
  | nothingLast : Revises (.array [n, l, t, q]) (.array [n, l, t, q, .null])
  | withinLast (hvw : Revises v w) :
    Revises (.array [n, l, t, q, .array (us ++ v :: ws)])
      (.array [n, l, t, q, .array (us ++ w :: ws)])

/-- In the object of a field, or of one below it, sub fields go by both names. -/
inductive SpelledTwice : Value → Prop where
  | here (h : ∀ key ∈ spellings, lookup key ms ≠ none) : SpelledTwice (.object ms)
  | within (hkey : key ∈ spellings) (hms : lookup key ms = some (.array vs)) (hmem : v ∈ vs)
    (hv : SpelledTwice v) : SpelledTwice (.object ms)
  | withinLast (hmem : v ∈ vs) (hv : SpelledTwice v) :
    SpelledTwice (.array [n, l, t, q, .array vs])

variable {ms ns : Json.Members} {u v w : Value} {us vs ws : List Value} {key : Text}

/-- A member that is not read may be added anywhere. -/
theorem Revises.added (hkey : key ∉ partNames) (v : Value) (before after : Json.Members) :
    Revises (.object (before ++ after)) (.object (before ++ (key, v) :: after)) := by
  apply Revises.unread
  intro part hpart
  exact lookup_insert before after (ne_of_mem_of_not_mem hpart hkey).symm

/-! ## One field among several -/

theorem fieldsOfItems?_replace (hvw : ∀ {f}, ofValue? v = some f → ofValue? w = some f)
    (h : fieldsOfItems? (us ++ v :: ws) = some fs) : fieldsOfItems? (us ++ w :: ws) = some fs := by
  rw [fieldsOfItems?_eq_some_iff] at h ⊢
  induction us generalizing fs with
  | nil =>
    cases h with
    | cons hv hws => exact .cons (hvw hv) hws
  | cons u us ih =>
    cases h with
    | cons hu hrest => exact .cons hu (ih hrest)

theorem exists_ofValue? (h : fieldsOfItems? vs = some fs) (hmem : v ∈ vs) :
    ∃ f, ofValue? v = some f := by
  rw [fieldsOfItems?_eq_some_iff] at h
  induction h with
  | nil => nomatch hmem
  | cons hu _ ih =>
    cases hmem with
    | head => exact ⟨_, hu⟩
    | tail _ hmem => exact ih hmem

/-! ## Members that are read -/

/-- Sub fields go by one name at most. -/
def OneSpelling (ms : Json.Members) : Prop :=
  lookup "sub_fields" ms = none ∨ lookup "subFields" ms = none

theorem eq_or_eq_of_mem_spellings (h : key ∈ spellings) :
    key = ("sub_fields" : Text) ∨ key = ("subFields" : Text) := by
  rwa [spellings, List.mem_pair] at h

/-- With one name at most, what is under a name is what is read. -/
theorem OneSpelling.or_eq (hone : OneSpelling ms) (hkey : key ∈ spellings)
    (hpart : lookup key ms = some u) :
    (lookup "sub_fields" ms).or (lookup "subFields" ms) = some u := by
  obtain rfl | rfl := eq_or_eq_of_mem_spellings hkey
  · rw [hpart, Option.some_or]
  · obtain hnone | hnone := hone
    · rw [hnone, hpart, Option.none_or]
    · cases hnone.symm.trans hpart

/-- What is under one of the names does not matter to what is under the other. -/
theorem OneSpelling.of_lookup (hone : OneSpelling ms) (hkey : key ∈ spellings)
    (hpart : lookup key ms = some u)
    (h : ∀ part ∈ partNames, part ≠ key → lookup part ns = lookup part ms) : OneSpelling ns := by
  obtain rfl | rfl := eq_or_eq_of_mem_spellings hkey <;> obtain hnone | hnone := hone
  · cases hnone.symm.trans hpart
  · exact .inr ((h "subFields" (by decide) (by decide)).trans hnone)
  · exact .inl ((h "sub_fields" (by decide) (by decide)).trans hnone)
  · cases hnone.symm.trans hpart

theorem IsReadFrom.of_lookup {f : FieldSpec} (h : f.IsReadFrom (.named ms))
    (hparts : ∀ part ∈ partNames, part ∉ spellings → lookup part ns = lookup part ms)
    (hone : OneSpelling ns)
    (hsub : optional ((lookup "sub_fields" ns).or (lookup "subFields" ns)) none subFieldsOf? =
      some f.subFields) : f.IsReadFrom (.named ns) where
  name := by
    have h := h.name
    rw [Record.text?, Record.get?] at h ⊢
    rwa [hparts "name" (by decide) (by decide)]
  label := by
    have h := h.label
    rw [Record.text?, Record.get?] at h ⊢
    rwa [hparts "label" (by decide) (by decide)]
  type := by
    have h := h.type
    rw [Record.get?] at h ⊢
    rwa [hparts "type" (by decide) (by decide)]
  required := by
    have h := h.required
    rw [Record.get?] at h ⊢
    rwa [hparts "required" (by decide) (by decide)]
  oneSpelling := hone
  subFields := hsub

theorem subFieldsOf?_replace (hvw : ∀ {f}, ofValue? v = some f → ofValue? w = some f)
    (h : subFieldsOf? (.array (us ++ v :: ws)) = some s) :
    subFieldsOf? (.array (us ++ w :: ws)) = some s := by
  rw [subFieldsOf?_array, Option.map_eq_some_iff] at h ⊢
  obtain ⟨fs, hfs, rfl⟩ := h
  exact ⟨fs, fieldsOfItems?_replace hvw hfs, rfl⟩

theorem exists_of_subFieldsOf? (h : subFieldsOf? (.array vs) = some s) (hmem : v ∈ vs) :
    ∃ f, ofValue? v = some f := by
  rw [subFieldsOf?_array, Option.map_eq_some_iff] at h
  obtain ⟨fs, hfs, -⟩ := h
  exact exists_ofValue? hfs hmem

/-! ## What a revision keeps -/

variable {f : FieldSpec}

theorem IsReadFrom.respell (h : f.IsReadFrom (.named ms)) :
    f.IsReadFrom (.named (ms.map (rename "sub_fields" "subFields"))) := by
  have hnone := lookup_rename_old ms (by decide : ("sub_fields" : Text) ≠ "subFields")
  apply h.of_lookup
  · intro part _ hpart
    rw [spellings, List.mem_pair, not_or] at hpart
    exact lookup_rename ms hpart.1 hpart.2
  · exact .inl hnone
  · rw [hnone, lookup_rename_new ms h.oneSpelling, Option.none_or]
    exact h.subFields

theorem IsReadFrom.of_unread (h : f.IsReadFrom (.named ms))
    (hlookup : ∀ part ∈ partNames, lookup part ns = lookup part ms) :
    f.IsReadFrom (.named ns) := by
  have hs := hlookup "sub_fields" (by decide)
  have hu := hlookup "subFields" (by decide)
  apply h.of_lookup
  · intro part hpart _
    exact hlookup part hpart
  · rw [OneSpelling, hs, hu]
    exact h.oneSpelling
  · rw [hs, hu]
    exact h.subFields

theorem IsReadFrom.cons_type (h : f.IsReadFrom (.named ms)) (hnone : lookup "type" ms = none) :
    f.IsReadFrom (.named (("type", .string "text") :: ms)) := by
  have htype := h.type
  rw [Record.get?, hnone] at htype
  exact ⟨h.name, h.label, htype, h.required, h.oneSpelling, h.subFields⟩

theorem IsReadFrom.cons_required (h : f.IsReadFrom (.named ms))
    (hnone : lookup "required" ms = none) :
    f.IsReadFrom (.named (("required", .bool false) :: ms)) := by
  have hrequired := h.required
  rw [Record.get?, hnone] at hrequired
  exact ⟨h.name, h.label, h.type, hrequired, h.oneSpelling, h.subFields⟩

theorem IsReadFrom.cons_null (h : f.IsReadFrom (.named ms))
    (hnone : ∀ key ∈ spellings, lookup key ms = none) :
    f.IsReadFrom (.named (("sub_fields", .null) :: ms)) := by
  have hs := hnone "sub_fields" (by decide)
  have hu := hnone "subFields" (by decide)
  have hsub := h.subFields
  rw [Record.get?, hs, Record.alias?, hu] at hsub
  exact ⟨h.name, h.label, h.type, h.required, .inr hu, hsub⟩

/-- What stands for the sub fields matters only as far as it is read. -/
theorem IsReadFrom.replace (h : f.IsReadFrom (.named ms)) (hkey : key ∈ spellings)
    (hms : lookup key ms = some u) (hns : lookup key ns = some v)
    (hlookup : ∀ part ∈ partNames, part ≠ key → lookup part ns = lookup part ms)
    (hread : ∀ {s}, subFieldsOf? u = some s → subFieldsOf? v = some s) :
    f.IsReadFrom (.named ns) := by
  have hone : OneSpelling ms := h.oneSpelling
  have hone' : OneSpelling ns := hone.of_lookup hkey hms hlookup
  have hsub := h.subFields
  rw [Record.get?, Record.alias?, hone.or_eq hkey hms] at hsub
  apply h.of_lookup
  · intro part hpart hne
    exact hlookup part hpart (ne_of_mem_of_not_mem hkey hne).symm
  · exact hone'
  · rw [hone'.or_eq hkey hns]
    exact hread hsub

theorem Revises.ofValue? (h : Revises v w) (hv : ofValue? v = some f) : ofValue? w = some f := by
  induction h generalizing f with
  | respelled =>
    rw [ofValue?_object_iff] at hv ⊢
    exact hv.respell
  | unread hlookup =>
    rw [ofValue?_object_iff] at hv ⊢
    exact hv.of_unread hlookup
  | type hnone =>
    rw [ofValue?_object_iff] at hv ⊢
    exact hv.cons_type hnone
  | required hnone =>
    rw [ofValue?_object_iff] at hv ⊢
    exact hv.cons_required hnone
  | nothing hnone =>
    rw [ofValue?_object_iff] at hv ⊢
    exact hv.cons_null hnone
  | within _ hkey hms hns hlookup ih =>
    rw [ofValue?_object_iff] at hv ⊢
    exact hv.replace hkey hms hns hlookup (subFieldsOf?_replace ih)
  | typeLast | requiredLast | nothingLast =>
    rw [ofValue?_array_iff (by simp)] at hv ⊢
    exact ⟨hv.name, hv.label, hv.type, hv.required, .inr rfl, hv.subFields⟩
  | withinLast _ ih =>
    rw [ofValue?_array_iff (by simp)] at hv ⊢
    have hsub := subFieldsOf?_replace ih hv.subFields
    exact ⟨hv.name, hv.label, hv.type, hv.required, .inr rfl, hsub⟩

theorem SpelledTwice.ofValue? (h : SpelledTwice v) : ofValue? v = none := by
  rw [Option.eq_none_iff_forall_ne_some]
  induction h with
  | here htwice =>
    intro f hv
    rw [ofValue?_object_iff] at hv
    obtain hnone | hnone := hv.oneSpelling
    · exact htwice "sub_fields" (by decide) hnone
    · exact htwice "subFields" (by decide) hnone
  | within hkey hms hmem _ ih =>
    intro f hv
    rw [ofValue?_object_iff] at hv
    have hone : OneSpelling _ := hv.oneSpelling
    have hsub := hv.subFields
    rw [Record.get?, Record.alias?, hone.or_eq hkey hms] at hsub
    obtain ⟨g, hg⟩ := exists_of_subFieldsOf? hsub hmem
    exact ih g hg
  | withinLast hmem _ ih =>
    intro f hv
    rw [ofValue?_array_iff (by simp)] at hv
    obtain ⟨g, hg⟩ := exists_of_subFieldsOf? hv.subFields hmem
    exact ih g hg

end FieldSpec

namespace Definition

/-- The names of the parts of a definition. -/
def partNames : List Text := ["id", "name", "fields"]

/-- A value for a definition and a revision of it. -/
inductive Revises : Value → Value → Prop where
  | unread (h : ∀ part ∈ partNames, lookup part ns = lookup part ms) :
    Revises (.object ms) (.object ns)
  | within (hvw : FieldSpec.Revises v w)
    (hms : lookup "fields" ms = some (.array (us ++ v :: ws)))
    (hns : lookup "fields" ns = some (.array (us ++ w :: ws)))
    (h : ∀ part ∈ partNames, part ≠ "fields" → lookup part ns = lookup part ms) :
    Revises (.object ms) (.object ns)
  | withinLast (hvw : FieldSpec.Revises v w) :
    Revises (.array [i, n, .array (us ++ v :: ws)]) (.array [i, n, .array (us ++ w :: ws)])

/-- In the object of a field, at any depth, sub fields go by both names. -/
def SpelledTwice (v : Value) : Prop :=
  ∃ r us u, Record.ofValue? 3 v = some r ∧ r.get? 2 "fields" = some (.array us) ∧ u ∈ us ∧
    FieldSpec.SpelledTwice u

theorem Revises.added (hkey : key ∉ partNames) (v : Value) (before after : Json.Members) :
    Revises (.object (before ++ after)) (.object (before ++ (key, v) :: after)) := by
  apply Revises.unread
  intro part hpart
  exact lookup_insert before after (ne_of_mem_of_not_mem hpart hkey).symm

theorem IsReadFrom.of_lookup {d : Definition} (h : d.IsReadFrom (.named ms))
    (hparts : ∀ part ∈ partNames, part ≠ "fields" → lookup part ns = lookup part ms)
    (hfields : (lookup "fields" ns).bind fieldsOf? = some d.fields) : d.IsReadFrom (.named ns) where
  id := by
    have h := h.id
    rw [Record.text?, Record.get?] at h ⊢
    rwa [hparts "id" (by decide) (by decide)]
  name := by
    have h := h.name
    rw [Record.text?, Record.get?] at h ⊢
    rwa [hparts "name" (by decide) (by decide)]
  fields := hfields

theorem fieldsOf?_replace (hvw : FieldSpec.Revises v w)
    (h : fieldsOf? (.array (us ++ v :: ws)) = some fs) :
    fieldsOf? (.array (us ++ w :: ws)) = some fs := by
  rw [fieldsOf?] at h ⊢
  exact FieldSpec.fieldsOfItems?_replace hvw.ofValue? h

theorem Revises.ofValue? (h : Revises v w) {d : Definition} (hv : ofValue? v = some d) :
    ofValue? w = some d := by
  cases h with
  | unread hlookup =>
    obtain ⟨_, ⟨⟩, h⟩ := ofValue?_iff.mp hv
    rw [ofValue?_iff]
    refine ⟨_, rfl, h.of_lookup (fun part hpart _ => hlookup part hpart) ?_⟩
    rw [hlookup "fields" (by decide)]
    exact h.fields
  | within hvw hms hns hlookup =>
    obtain ⟨_, ⟨⟩, h⟩ := ofValue?_iff.mp hv
    rw [ofValue?_iff]
    refine ⟨_, rfl, h.of_lookup hlookup ?_⟩
    have hfields := h.fields
    rw [Record.get?, hms] at hfields
    rw [hns]
    exact fieldsOf?_replace hvw hfields
  | withinLast hvw =>
    obtain ⟨_, ⟨⟩, h⟩ := ofValue?_iff.mp hv
    rw [ofValue?_iff]
    exact ⟨_, rfl, h.id, h.name, fieldsOf?_replace hvw h.fields⟩

theorem ofValue?_of_reflTransGen {d : Definition} (h : Relation.ReflTransGen Revises v w)
    (hv : ofValue? v = some d) : ofValue? w = some d := by
  induction h with
  | refl => exact hv
  | tail _ hstep ih => exact hstep.ofValue? ih

theorem SpelledTwice.ofValue? (h : SpelledTwice v) : ofValue? v = none := by
  obtain ⟨r, us, u, hr, hfields, hmem, hu⟩ := h
  rw [Option.eq_none_iff_forall_ne_some]
  intro d hv
  obtain ⟨r', hr', h⟩ := ofValue?_iff.mp hv
  obtain rfl := Option.some.inj (hr.symm.trans hr')
  have hread := h.fields
  rw [hfields, Option.bind_some, fieldsOf?] at hread
  obtain ⟨f, hf⟩ := FieldSpec.exists_ofValue? hread hmem
  cases hu.ofValue?.symm.trans hf

/-- What is written for a definition is read back as it, and revised any number of times it still
is. -/
theorem ofValue?_revised (d : Definition) :
    ofValue? d.toValue = some d ∧
      (∀ v w, ofValue? v = some d → Relation.ReflTransGen Revises v w → ofValue? w = some d) ∧
      ∀ v, SpelledTwice v → ofValue? v = none := by
  refine ⟨d.ofValue?_toValue, ?_, ?_⟩
  · intro v w hv h
    exact ofValue?_of_reflTransGen h hv
  · intro v h
    exact h.ofValue?

/-! ## A definition of one field -/

def jobs : Definition where
  id := ⟨"cv", by decide⟩
  name := "CV"
  fields := [⟨"jobs", "Jobs", .repeatable, false, some [⟨"role", "Role", .text, false, none⟩]⟩]

/-- What tells of the field, its sub fields aside. -/
def jobsMembers : Json.Members :=
  [("name", .string "jobs"), ("label", .string "Jobs"), ("type", .string "repeatable")]

def roleMembers : Json.Members := [("name", .string "role"), ("label", .string "Role")]

/-- The members of the definition, given what its field is. -/
def membersOf (field : Value) : Json.Members :=
  [("id", .string "cv"), ("name", .string "CV"), ("fields", .array [field])]

theorem revises_membersOf (h : FieldSpec.Revises v w) :
    Revises (.object (membersOf v)) (.object (membersOf w)) := by
  have hfields (u : Value) : lookup "fields" (membersOf u) = some (.array ([] ++ u :: [])) := rfl
  refine .within h (hfields v) (hfields w) ?_
  simp [partNames, lookup, membersOf]

theorem revises_jobsMembers (h : FieldSpec.Revises v w) :
    FieldSpec.Revises (.object (("sub_fields", .array [v]) :: jobsMembers))
      (.object (("sub_fields", .array [w]) :: jobsMembers)) := by
  have hfields (u : Value) : lookup "sub_fields" (("sub_fields", .array [u]) :: jobsMembers) =
    some (.array ([] ++ u :: [])) := rfl
  refine .within h (by decide) (hfields v) (hfields w) ?_
  intro part _ hne
  rw [lookup, lookup, if_neg hne.symm, if_neg hne.symm]

theorem ofValue?_revised_jobs :
    let role := .object (("sub_fields", .null) :: ("required", .bool false) ::
      ("type", .string "text") :: roleMembers)
    let v := .object (membersOf
      (.object (("sub_fields", .array [.object roleMembers]) :: jobsMembers)))
    let w := .object (("version", .null) :: membersOf
      (.object (("help", .null) :: ("subFields", .array [role]) :: jobsMembers)))
    let twice := .object (membersOf
      (.object (("sub_fields", .null) :: ("subFields", .null) :: jobsMembers)))
    (ofValue? v = some jobs ∧ Relation.ReflTransGen Revises v w ∧ ofValue? w = some jobs) ∧
      SpelledTwice twice ∧ ofValue? twice = none := by
  intro role v w twice
  have hv : ofValue? v = some jobs := rfl
  have hhelp : ("help" : Text) ∉ FieldSpec.partNames := by decide
  have hversion : ("version" : Text) ∉ partNames := by decide
  have hrun : Relation.ReflTransGen Revises v w := by
    apply Relation.ReflTransGen.head
    · exact revises_membersOf (revises_jobsMembers (.type rfl))
    apply Relation.ReflTransGen.head
    · exact revises_membersOf (revises_jobsMembers (.required rfl))
    apply Relation.ReflTransGen.head
    · refine revises_membersOf (revises_jobsMembers (.nothing ?_))
      decide
    apply Relation.ReflTransGen.head
    · exact revises_membersOf .respelled
    apply Relation.ReflTransGen.head
    · exact revises_membersOf (.added hhelp .null [] _)
    apply Relation.ReflTransGen.single
    exact .added hversion .null [] _
  have htwice : SpelledTwice twice := by
    refine ⟨_, _, _, rfl, rfl, .head _, .here ?_⟩
    decide
  exact ⟨⟨hv, hrun, (ofValue?_revised jobs).2.1 v w hv hrun⟩, htwice,
    (ofValue?_revised jobs).2.2 twice htwice⟩

/-- The object that names a type has a single member, and a definition has no sub fields of its
own that could go by two names. -/
theorem ofValue?_elsewhere :
    let notes (type : Json.Members) := Value.object (membersOf
      (.object [("name", .string "notes"), ("label", .string "Notes"), ("type", .object type)]))
    let role := Value.object (("sub_fields", .null) :: ("subFields", .null) ::
      membersOf (.object roleMembers))
    (∃ d, ofValue? (notes [("list", .null)]) = some d ∧
      ofValue? (notes [("list", .null), ("help", .null)]) = none) ∧
      ofValue? role ≠ none := by
  intro notes role
  refine ⟨⟨_, rfl, rfl⟩, ?_⟩
  exact nofun

end Definition
end Curriculum
