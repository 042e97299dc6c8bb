import Curriculum.Schema.Definition
import Mathlib.Data.List.Forall2
import Mathlib.Tactic.MkIffOfInductiveProp

/-! # Reading definitions from JSON

A record describes a field if each of its parts does what the field asks of it
(`FieldSpec.IsReadFrom`), and this is all that reading a field comes to (`FieldSpec.ofValue?_iff`).
What is written for a definition is read back as it (`Definition.ofValue?_toValue`). -/

namespace Curriculum

open Json (Record Value)

/-- The type that a value names. -/
def typeOf? (v : Value) : Option FieldType := v.choice?.bind FieldType.ofName?

/-- The sub fields that a value lists, or that it says are not there. -/
def subFieldsOf? : Value → Option (Option (List FieldSpec))
  | .null => some none
  | v => (fieldsOf? v).map some

namespace FieldSpec

@[mk_iff]
structure IsReadFrom (f : FieldSpec) (r : Record Value) : Prop where
  name : r.text? 0 "name" = some f.name
  label : r.text? 1 "label" = some f.label
  type : optional (r.get? 2 "type") .text typeOf? = some f.type
  required : optional (r.get? 3 "required") false Value.bool? = some f.required
  oneSpelling : r.get? 4 "sub_fields" = none ∨ r.alias? "subFields" = none
  subFields : optional ((r.get? 4 "sub_fields").or (r.alias? "subFields")) none subFieldsOf? =
    some f.subFields

/-! ## Records of values -/

/-- A value as a part of a record. -/
def source (v : Value) : FieldSource := .ofValue v (fieldsOf? v)

theorem sourcesOfMembers_eq_map (members : Json.Members) :
    sourcesOfMembers members = members.map fun (key, v) => (key, source v) := by
  induction members with
  | nil => rw [sourcesOfMembers, List.map_nil]
  | cons m ms ih =>
    rw [sourcesOfMembers, ih, List.map_cons]
    rfl

theorem sourcesOfItems_eq_map (items : List Value) : sourcesOfItems items = items.map source := by
  induction items with
  | nil => rw [sourcesOfItems, List.map_nil]
  | cons v vs ih => rw [sourcesOfItems, ih, List.map_cons, source]

def sources : Record Value → Record FieldSource
  | .named members => .named (members.map fun (key, v) => (key, source v))
  | .listed items => .listed (items.map source)

theorem get?_sources (r : Record Value) (position : Nat) (name : Text) :
    (sources r).get? position name = (r.get? position name).map source := by
  cases r with
  | named members => exact lookup_map (fun _ => source) name members
  | listed items => exact List.getElem?_map

theorem alias?_sources (r : Record Value) (name : Text) :
    (sources r).alias? name = (r.alias? name).map source := by
  cases r with
  | named members => exact lookup_map (fun _ => source) name members
  | listed items => rfl

theorem ofValue?_eq_bind (v : Value) :
    ofValue? v = (Record.ofValue? 5 v).bind fun r => ofRecord? (sources r) := by
  cases v with
  | object members =>
    rw [ofValue?, sourcesOfMembers_eq_map]
    rfl
  | array items =>
    rw [ofValue?, sourcesOfItems_eq_map, Record.ofValue?]
    split <;> rfl
  | null | bool _ | number _ | string _ => simp [ofValue?, Record.ofValue?]

theorem optional_map (g : α → β) (part : Option α) (default : γ) (read : β → Option γ) :
    optional (part.map g) default read = optional part default fun a => read (g a) := by
  cases part <;> rfl

/-- What a part says about sub fields, once it is the only one that does. -/
theorem optional_source (part : Option Value) :
    optional (part.map source) none
      (fun s => if s.nothing then some none else s.fields.map some) =
      optional part none subFieldsOf? := by
  rw [optional_map]
  congr 1
  funext v
  cases v <;> rfl

theorem text_sources (r : Record Value) (position : Nat) (name : Text) :
    ((sources r).get? position name).bind FieldSource.text = r.text? position name := by
  rw [get?_sources, Option.bind_map]
  rfl

theorem ofRecord?_sources_iff {r : Record Value} :
    ofRecord? (sources r) = some f ↔ f.IsReadFrom r := by
  obtain ⟨name, label, type, required, subFields⟩ := f
  have htype : (fun v => (source v).type) = typeOf? := rfl
  have hflag : (fun v => (source v).flag) = Value.bool? := rfl
  have hnone := optional_source none
  have hsome v := optional_source (some v)
  simp only [Option.map_none, Option.map_some] at hnone hsome
  simp only [ofRecord?, Option.bind_eq_bind, ← Option.bind_assoc, text_sources]
  simp only [get?_sources, alias?_sources, optional_map, Option.bind_eq_some_iff, htype, hflag]
  rw [isReadFrom_iff]
  rcases r.get? 4 "sub_fields" with _ | s <;> rcases r.alias? "subFields" with _ | u
  case some.some => simp
  -- one spelling at most, so there is one part to read
  all_goals
    simp only [Option.map_none, Option.map_some, Option.bind_some, hnone, hsome,
      Option.bind_eq_some_iff, Option.none_or, Option.some_or]
    constructor
    · rintro ⟨_, hname, _, hlabel, _, htype, _, hrequired, _, hsub, ⟨⟩⟩
      exact ⟨hname, hlabel, htype, hrequired, by simp, hsub⟩
    · rintro ⟨hname, hlabel, htype, hrequired, -, hsub⟩
      exact ⟨_, hname, _, hlabel, _, htype, _, hrequired, _, hsub, rfl⟩

theorem ofValue?_iff {v : Value} :
    ofValue? v = some f ↔ ∃ r, Record.ofValue? 5 v = some r ∧ f.IsReadFrom r := by
  rw [ofValue?_eq_bind, Option.bind_eq_some_iff]
  simp only [ofRecord?_sources_iff]

theorem ofValue?_object_iff {ms : Json.Members} :
    ofValue? (.object ms) = some f ↔ f.IsReadFrom (.named ms) := by
  rw [ofValue?_iff]
  constructor
  · rintro ⟨_, ⟨⟩, h⟩
    exact h
  · intro h
    exact ⟨_, rfl, h⟩

theorem ofValue?_array_iff {items : List Value} (hlength : items.length ≤ 5) :
    ofValue? (.array items) = some f ↔ f.IsReadFrom (.listed items) := by
  rw [ofValue?_iff]
  simp only [Record.ofValue?, if_pos hlength]
  constructor
  · rintro ⟨_, ⟨⟩, h⟩
    exact h
  · intro h
    exact ⟨_, rfl, h⟩

end FieldSpec

theorem fieldsOfItems?_eq_some_iff :
    fieldsOfItems? vs = some fs ↔
      List.Forall₂ (fun v f => FieldSpec.ofValue? v = some f) vs fs := by
  induction vs generalizing fs with
  | nil =>
    rw [List.forall₂_nil_left_iff, fieldsOfItems?]
    exact ⟨fun h => (Option.some.inj h).symm, fun h => h ▸ rfl⟩
  | cons v vs ih =>
    rw [fieldsOfItems?, List.forall₂_cons_left_iff]
    simp only [Option.bind_eq_bind, Option.bind_eq_some_iff, Option.some.injEq, ih]
    constructor
    · rintro ⟨f, hf, fs, hfs, rfl⟩
      exact ⟨f, fs, hf, hfs, rfl⟩
    · rintro ⟨f, fs, hf, hfs, rfl⟩
      exact ⟨f, hf, fs, hfs, rfl⟩

theorem subFieldsOf?_array (vs : List Value) :
    subFieldsOf? (.array vs) = (fieldsOfItems? vs).map some := by
  rw [subFieldsOf?, fieldsOf?]
  exact nofun

/-! ## Written and read back -/

theorem FieldType.ofName?_name (type : FieldType) : FieldType.ofName? type.name = some type := by
  cases type <;> rfl

mutual
theorem FieldSpec.ofValue?_toValue : ∀ f : FieldSpec, FieldSpec.ofValue? f.toValue = some f
  | ⟨name, label, type, required, none⟩ => by
    rw [FieldSpec.toValue, FieldSpec.ofValue?_object_iff]
    refine ⟨rfl, rfl, ?_, rfl, .inl rfl, rfl⟩
    exact FieldType.ofName?_name type
  | ⟨name, label, type, required, some subs⟩ => by
    rw [FieldSpec.toValue, FieldSpec.ofValue?_object_iff]
    refine ⟨rfl, rfl, ?_, rfl, .inr rfl, ?_⟩
    · exact FieldType.ofName?_name type
    · show subFieldsOf? (.array (fieldValues subs)) = some (some subs)
      rw [subFieldsOf?_array, fieldsOfItems?_fieldValues subs, Option.map_some]

theorem fieldsOfItems?_fieldValues :
    ∀ fs : List FieldSpec, fieldsOfItems? (fieldValues fs) = some fs
  | [] => by rw [fieldValues, fieldsOfItems?]
  | f :: fs => by
    rw [fieldValues, fieldsOfItems?, FieldSpec.ofValue?_toValue f, fieldsOfItems?_fieldValues fs]
    rfl
end

namespace Definition

@[mk_iff]
structure IsReadFrom (d : Definition) (r : Record Value) : Prop where
  id : r.text? 0 "id" = some d.id.text
  name : r.text? 1 "name" = some d.name
  fields : (r.get? 2 "fields").bind fieldsOf? = some d.fields

theorem ofValue?_iff {v : Value} :
    ofValue? v = some d ↔ ∃ r, Record.ofValue? 3 v = some r ∧ d.IsReadFrom r := by
  obtain ⟨id, name, fields⟩ := d
  simp only [ofValue?, Option.bind_eq_bind, Option.bind_eq_some_iff, isReadFrom_iff]
  constructor
  · rintro ⟨r, hr, _, ht, _, hid, _, hname, _, hv, _, hfields, ⟨⟩⟩
    exact ⟨r, hr, TemplateId.text_of_ofText? hid ▸ ht, hname, _, hv, hfields⟩
  · rintro ⟨r, hr, hid, hname, _, hv, hfields⟩
    exact ⟨r, hr, _, hid, _, id.ofText?_text, _, hname, _, hv, _, hfields, rfl⟩

/-- What is written for a definition is read back as it. -/
theorem ofValue?_toValue (d : Definition) : ofValue? d.toValue = some d :=
  ofValue?_iff.mpr ⟨_, rfl, rfl, rfl, fieldsOfItems?_fieldValues d.fields⟩

end Definition
end Curriculum
