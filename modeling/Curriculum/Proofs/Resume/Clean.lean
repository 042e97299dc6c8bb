import Curriculum.Proofs.Resume.Build
import Curriculum.Render

/-! # Noise in a submission

What a résumé has no use for may be there or not: fields that nothing reads, values that say
nothing where a text or a list is read, and what is no object among groups. Whichever of them are
taken out, the résumé stays the same, and with it all that is rendered (`Resume.render_clean`). -/

namespace Curriculum

namespace Resume

open Json (Members Value)

/-! ## Uses of the fields -/

/-- How a field is read. -/
inductive Use where
  | text
  | points
  | groups
  | unread
  deriving DecidableEq

/-- A value that comes to the same as no value. -/
def Use.ignores : Use → Value → Bool
  | .text, .null => true
  | .text, .object _ => true
  | .text, _ => false
  | .points, _ => false
  | .groups, .array _ => false
  | .groups, _ => true
  | .unread, _ => true

/-- The uses of the fields by their names. -/
abbrev Uses := List (Text × Use)

def Uses.of (uses : Uses) (key : Text) : Use := (lookup key uses).getD .unread

def submissionUses : Uses :=
  [("full_name", .text), ("location", .text), ("phone", .text), ("email", .text),
    ("website", .text), ("website_display", .text), ("summary", .text), ("skills_expert", .text),
    ("skills_proficient", .text), ("skills_familiar", .text), ("languages", .text),
    ("edu_institute", .text), ("edu_location", .text), ("edu_degree", .text), ("edu_year", .text),
    ("edu_coursework", .text), ("experience", .groups), ("projects", .groups)]

def experienceUses : Uses :=
  [("company", .text), ("location", .text), ("role", .text), ("duration", .text),
    ("points", .points)]

def projectUses : Uses := [("name", .text), ("date", .text), ("points", .points)]

/-- The uses of the fields of a group, by the list that the group is in. -/
def groupUses : List (Text × Uses) := [("experience", experienceUses), ("projects", projectUses)]

/-! ## Taking noise out -/

/-- A place in a submission where there may be noise. -/
inductive Spot where
  /-- A field of the submission. -/
  | field (key : Text)
  /-- An item of a list of groups. -/
  | item (key : Text) (index : Nat)
  /-- A field of a group. -/
  | member (key : Text) (index : Nat) (name : Text)
  deriving DecidableEq

/-- The fields without those of the picked ones that hold what their use ignores. -/
def withoutNoise (uses : Uses) (picked : Text → Bool) (fields : Members) : Members :=
  fields.filter fun field =>
    !(picked field.1 && (lookup field.1 fields).any (uses.of field.1).ignores)

/-- An item of a list of groups without noise. Only what is no object goes as a whole. -/
def cleanItem? (uses : Uses) (picked : Bool) (pickedMember : Text → Bool) : Value → Option Value
  | .object group => some (.object (withoutNoise uses pickedMember group))
  | v => if picked then none else some v

def cleanItems (uses : Uses) (picked : Nat → Bool) (pickedMember : Nat → Text → Bool)
    (items : List Value) : List Value :=
  items.zipIdx.filterMap fun (v, i) => cleanItem? uses (picked i) (pickedMember i) v

/-- The value of a field, where the items of a list of groups are without noise. -/
def cleanField (picked : Spot → Bool) (key : Text) (v : Value) : Value :=
  match lookup key groupUses, v with
  | some uses, .array items =>
    .array <| cleanItems uses (fun i => picked (.item key i))
      (fun i name => picked (.member key i name)) items
  | _, v => v

/-- The fields of a submission without the noise in the picked places. -/
def cleanFields (picked : Spot → Bool) (fields : Members) : Members :=
  withoutNoise submissionUses (fun key => picked (.field key)) <|
    fields.map fun (key, v) => (key, cleanField picked key v)

/-- A submission without the noise in the picked places. What is no object is nothing but noise. -/
def clean (picked : Spot → Bool) : Value → Value
  | .object fields => .object (cleanFields picked fields)
  | _ => .object []

/-! ## What the uses have no use for -/

section
variable {uses : Uses} {picked : Text → Bool} {fields : Members} {key : Text}

theorem lookup_withoutNoise :
    lookup key (withoutNoise uses picked fields) =
      (lookup key fields).filter fun v => !(picked key && (uses.of key).ignores v) := by
  rw [withoutNoise, lookup_filter fun key =>
    !(picked key && (lookup key fields).any (uses.of key).ignores)]
  cases hfield : lookup key fields with
  | none => simp
  | some v => by_cases h : picked key && (uses.of key).ignores v <;> simp_all [Option.filter]

theorem scalarText_of_ignores (h : Use.text.ignores v = true) : scalarText (some v) = [] := by
  cases v <;> first | rfl | cases h

theorem scalar_withoutNoise (h : uses.of key = .text) :
    scalar (withoutNoise uses picked fields) key = scalar fields key := by
  rw [scalar, scalar, lookup_withoutNoise, h]
  cases hfield : lookup key fields with
  | none => rfl
  | some v =>
    rw [Option.filter_some]
    split
    · rfl
    · next hignored =>
      rw [scalarText_of_ignores (v := v) (by simp_all)]
      rfl

theorem points_withoutNoise (h : uses.of "points" = .points) :
    points (withoutNoise uses picked fields) = points fields := by
  have hlookup : lookup "points" (withoutNoise uses picked fields) = lookup "points" fields := by
    rw [lookup_withoutNoise, h]
    cases lookup "points" fields <;> simp [Use.ignores, Option.filter_some]
  rw [points, points, hlookup]

theorem experienceOf_withoutNoise :
    experienceOf (withoutNoise experienceUses picked fields) = experienceOf fields := by
  simp (disch := decide +kernel) only [experienceOf, scalar_withoutNoise, points_withoutNoise]

theorem projectOf_withoutNoise :
    projectOf (withoutNoise projectUses picked fields) = projectOf fields := by
  simp (disch := decide +kernel) only [projectOf, scalar_withoutNoise, points_withoutNoise]

end

/-! ## The same résumé -/

/-- Cleaned items have the groups of the items, as far as `f` tells them. -/
theorem map_members?_cleanItems {uses : Uses} {f : Members → α}
    (hf : ∀ picked group, f (withoutNoise uses picked group) = f group) (picked : Nat → Bool)
    (pickedMember : Nat → Text → Bool) (items : List Value) :
    ((cleanItems uses picked pickedMember items).filterMap Value.members?).map f =
      (items.filterMap Value.members?).map f := by
  have hitem : ∀ (v : Value) (i : Nat),
      ((cleanItem? uses (picked i) (pickedMember i) v).bind Value.members?).map f =
        v.members?.map f := by
    intro v i
    cases v with
    | object group => exact congrArg some (hf (pickedMember i) group)
    | _ => simp only [cleanItem?]; split <;> rfl
  calc ((cleanItems uses picked pickedMember items).filterMap Value.members?).map f
      = items.zipIdx.filterMap fun (v, _) => v.members?.map f := by
        simp only [cleanItems, List.filterMap_filterMap, List.map_filterMap, hitem]
    _ = (items.zipIdx.map Prod.fst).filterMap fun v => v.members?.map f := by
        rw [List.filterMap_map]
        rfl
    _ = (items.filterMap Value.members?).map f := by rw [List.zipIdx_map_fst, List.map_filterMap]

section
variable {picked : Spot → Bool} {fields : Members} {key : Text}

theorem lookup_cleanFields :
    lookup key (cleanFields picked fields) =
      ((lookup key fields).map (cleanField picked key)).filter fun v =>
        !(picked (.field key) && (submissionUses.of key).ignores v) := by
  rw [cleanFields, lookup_withoutNoise, lookup_map]

theorem scalar_cleanFields (h : submissionUses.of key = .text)
    (hgroups : lookup key groupUses = none) :
    scalar (cleanFields picked fields) key = scalar fields key := by
  have hfield : cleanField picked key = id := by
    funext v
    simp only [cleanField, hgroups, id]
  rw [cleanFields, scalar_withoutNoise h, scalar, lookup_map, hfield, Option.map_id, id, scalar]

theorem map_groups_cleanFields {uses : Uses} {f : Members → α}
    (hgroups : lookup key groupUses = some uses) (huse : submissionUses.of key = .groups)
    (hf : ∀ picked group, f (withoutNoise uses picked group) = f group) :
    (groups (cleanFields picked fields) key).map f = (groups fields key).map f := by
  rw [groups_eq, groups_eq, itemsAt, itemsAt, lookup_cleanFields, huse]
  cases hfield : lookup key fields with
  | none => rfl
  | some v =>
    cases v with
    | array items =>
      simp only [Option.map_some, cleanField, hgroups, Option.filter_some, Use.ignores,
        Bool.and_false, Bool.not_false, if_true, Option.bind_some, Value.items?, Option.getD_some]
      exact map_members?_cleanItems hf ..
    | _ =>
      -- what is no list has no items, and without it there are none either
      simp only [Option.map_some, cleanField, hgroups, Option.filter_some]
      split <;> rfl

theorem educationOf_cleanFields : educationOf (cleanFields picked fields) = educationOf fields := by
  simp (disch := decide +kernel) only [educationOf, scalar_cleanFields]

theorem hasEducation_cleanFields :
    hasEducation (cleanFields picked fields) = hasEducation fields := by
  rw [Bool.eq_iff_iff, hasEducation_iff, hasEducation_iff, educationOf_cleanFields]

theorem ofFields_cleanFields : ofFields (cleanFields picked fields) = ofFields fields := by
  have hexperience : (groups (cleanFields picked fields) "experience").map experienceOf =
      (groups fields "experience").map experienceOf :=
    map_groups_cleanFields (by rfl) (by rfl) fun _ _ => experienceOf_withoutNoise
  have hprojects : (groups (cleanFields picked fields) "projects").map projectOf =
      (groups fields "projects").map projectOf :=
    map_groups_cleanFields (by rfl) (by rfl) fun _ _ => projectOf_withoutNoise
  simp (disch := decide +kernel) only [ofFields, hexperience, hprojects, hasEducation_cleanFields,
    educationOf_cleanFields, scalar_cleanFields]

end

theorem build_clean (picked : Spot → Bool) (submission : Value) :
    build (clean picked submission) = build submission := by
  cases submission with
  | object fields => exact ofFields_cleanFields
  | _ => rfl

/-- Taking noise out changes neither the résumé nor anything that is rendered from it. -/
theorem render_clean (picked : Spot → Bool) (submission : Value) :
    build (clean picked submission) = build submission ∧
      (∀ body, Template.source body (clean picked submission) = Template.source body submission) ∧
      summaryOf (clean picked submission) = summaryOf submission ∧
      ∀ (r : Registry) c id format,
        r.render c id (clean picked submission) format = r.render c id submission format := by
  have h := build_clean picked submission
  have hsource (body) :
      Template.source body (clean picked submission) = Template.source body submission := by
    rw [Template.source, Template.source, h]
  have hsummary : summaryOf (clean picked submission) = summaryOf submission := by
    rw [summaryOf, summaryOf, h]
  refine ⟨h, hsource, hsummary, fun r c id format => ?_⟩
  rw [Registry.render, Registry.render]
  split
  · cases format <;> simp only [Template.render, hsource, hsummary]
  · rfl

/-! ## What is left -/

/-- Nothing in the fields is ignored. -/
def IsQuiet (uses : Uses) (fields : Members) : Prop :=
  ∀ key v, lookup key fields = some v → (uses.of key).ignores v = false

/-- A submission without noise: an object in which nothing is ignored, nor in its groups, and whose
lists of groups hold nothing but groups. -/
def IsQuietSubmission (submission : Value) : Prop :=
  ∃ fields, submission = .object fields ∧ IsQuiet submissionUses fields ∧
    ∀ key uses items, lookup key groupUses = some uses → lookup key fields = some (.array items) →
      ∀ v ∈ items, ∃ group, v = .object group ∧ IsQuiet uses group

theorem isQuiet_withoutNoise (uses : Uses) (fields : Members) :
    IsQuiet uses (withoutNoise uses (fun _ => true) fields) := by
  intro key v h
  rw [lookup_withoutNoise] at h
  simpa using (Option.filter_eq_some_iff.1 h).2

theorem isQuiet_of_mem_cleanItems {uses : Uses} {items : List Value}
    (h : v ∈ cleanItems uses (fun _ => true) (fun _ _ => true) items) :
    ∃ group, v = .object group ∧ IsQuiet uses group := by
  obtain ⟨⟨item, i⟩, -, hitem⟩ := List.mem_filterMap.1 h
  cases item with
  | object group =>
    cases hitem
    exact ⟨_, rfl, isQuiet_withoutNoise uses group⟩
  | _ => cases hitem

theorem cleanField_eq_array {uses : Uses} (huses : lookup key groupUses = some uses)
    (h : cleanField picked key v = .array items) :
    ∃ given, v = .array given ∧ items = cleanItems uses (fun i => picked (.item key i))
      (fun i name => picked (.member key i name)) given := by
  cases v with
  | array given =>
    simp only [cleanField, huses, Value.array.injEq] at h
    exact ⟨given, rfl, h.symm⟩
  | _ => simp [cleanField, huses] at h

/-- With all places picked, no noise is left. -/
theorem isQuietSubmission_clean (submission : Value) :
    IsQuietSubmission (clean (fun _ => true) submission) := by
  cases submission with
  | object fields =>
    refine ⟨_, rfl, isQuiet_withoutNoise _ _, fun key uses items huses hitems v hv => ?_⟩
    rw [lookup_cleanFields] at hitems
    obtain ⟨given, -, hgiven⟩ := Option.map_eq_some_iff.1 (Option.filter_eq_some_iff.1 hitems).1
    obtain ⟨items, -, rfl⟩ := cleanField_eq_array huses hgiven
    exact isQuiet_of_mem_cleanItems hv
  | _ => exact ⟨[], rfl, nofun, nofun⟩

theorem withoutNoise_none (uses : Uses) (fields : Members) :
    withoutNoise uses (fun _ => false) fields = fields :=
  List.filter_eq_self.2 fun _ _ => rfl

theorem cleanItems_none (uses : Uses) (items : List Value) :
    cleanItems uses (fun _ => false) (fun _ _ => false) items = items := by
  have hitem : ∀ v : Value, cleanItem? uses false (fun _ => false) v = some v := by
    intro v
    cases v with
    | object group => rw [cleanItem?, withoutNoise_none]
    | _ => rfl
  calc cleanItems uses (fun _ => false) (fun _ _ => false) items
      = items.zipIdx.filterMap (some ∘ Prod.fst) := by
        simp only [cleanItems, hitem]
        rfl
    _ = items := by rw [List.filterMap_eq_map, List.zipIdx_map_fst]

theorem cleanField_none (key : Text) (v : Value) : cleanField (fun _ => false) key v = v := by
  unfold cleanField
  split
  · rw [cleanItems_none]
  · rfl

/-- With no place picked, an object is left as it is. -/
theorem clean_none (fields : Members) :
    clean (fun _ => false) (.object fields) = .object fields := by
  simp only [clean, cleanFields, withoutNoise_none, cleanField_none, List.map_id']

end Resume

end Curriculum
