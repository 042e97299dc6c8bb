import Curriculum.Proofs.Resume.Build
import Curriculum.Resume.Value

/-! # Submitting a résumé

Every résumé in normal form is what some submission makes: written down field by field it is made
again (`Resume.build_toSubmission`). So the normal form of a submission is its own normal form. -/

namespace Curriculum

open Json (Members Value)

/-- The fields of a submission that tell of an education. What its items of coursework are follows
from the coursework. -/
def Education.toFields (e : Education) : Members :=
  [("edu_institute", .string e.institute), ("edu_location", .string e.location),
    ("edu_degree", .string e.degree), ("edu_year", .string e.year),
    ("edu_coursework", .string e.coursework)]

def Experience.toGroup (e : Experience) : Members :=
  [("company", .string e.company), ("location", .string e.location), ("role", .string e.role),
    ("duration", .string e.duration), ("points", Text.listValue e.points)]

def Project.toGroup (p : Project) : Members :=
  [("name", .string p.name), ("date", .string p.date), ("points", Text.listValue p.points)]

namespace Resume

/-- The fields that hold a single text. -/
def toScalars (r : Resume) : Members :=
  [("full_name", .string r.fullName), ("location", .string r.location),
    ("phone", .string r.phone), ("email", .string r.email), ("website", .string r.website),
    ("website_display", .string r.websiteDisplay), ("summary", .string r.summary),
    ("skills_expert", .string r.skillsExpert), ("skills_proficient", .string r.skillsProficient),
    ("skills_familiar", .string r.skillsFamiliar), ("languages", .string r.languages)]

/-- The lists of groups. -/
def toLists (r : Resume) : Members :=
  [("experience", .array (r.experience.map fun e => .object e.toGroup)),
    ("projects", .array (r.projects.map fun p => .object p.toGroup))]

def toFields (r : Resume) : Members :=
  r.toScalars ++ r.education.flatMap Education.toFields ++ r.toLists

/-- A submission that tells of a résumé. -/
def toSubmission (r : Resume) : Value := .object r.toFields

/-! ## Points and groups -/

theorem candidates_listValue (ts : List Text) : candidates (some (Text.listValue ts)) = ts := by
  rw [Text.listValue, candidates, List.filterMap_map]
  exact List.filterMap_some

theorem points_eq_of_listValue {group : Members} {ps : List Text}
    (hgroup : lookup "points" group = some (Text.listValue ps)) (hps : ∀ p ∈ ps, ¬p.IsBlank) :
    points group = ps := by
  rw [points, hgroup, candidates_listValue, List.filter_eq_self]
  intro p hp
  rw [Text.allBlank_eq_decide, Bool.not_eq_true', decide_eq_false_iff_not]
  exact hps p hp

theorem experienceOf_toGroup (e : Experience) (h : ∀ p ∈ e.points, ¬p.IsBlank) :
    experienceOf e.toGroup = e := by
  rw [experienceOf, points_eq_of_listValue (by rfl) h]
  rfl

theorem projectOf_toGroup (p : Project) (h : ∀ q ∈ p.points, ¬q.IsBlank) :
    projectOf p.toGroup = p := by
  rw [projectOf, points_eq_of_listValue (by rfl) h]
  rfl

/-- Groups that are written one by one are read one by one. -/
theorem map_groups_of_array {f : Members → α} {toGroup : α → Members} {fields : Members}
    {key : Text} {as : List α}
    (hfield : lookup key fields = some (.array (as.map fun a => .object (toGroup a))))
    (hf : ∀ a ∈ as, f (toGroup a) = a) : (groups fields key).map f = as := by
  have hgroups : groups fields key = as.map toGroup := by
    rw [groups_eq, itemsAt, hfield]
    simp [Value.items?, Value.members?, List.filterMap_map, Function.comp_def]
  rw [hgroups, List.map_map]
  exact (List.map_congr_left hf).trans (List.map_id _)

/-! ## The résumé again -/

variable {r : Resume} {e : Education}

theorem educationOf_toFields (hr : r.education = [e]) (h : e.IsNormal) :
    educationOf r.toFields = e := by
  have hitems :
      (if Text.allBlank e.coursework then [] else [e.coursework]) = e.courseworkItems := by
    simp only [h.courseworkItems, Text.allBlank_eq_decide, decide_eq_true_eq]
  rw [toFields, hr]
  change { e with courseworkItems := if Text.allBlank e.coursework then [] else [e.coursework] } = e
  rw [hitems]

/-- The fields tell of an education just when the résumé has one. -/
theorem education_toFields (h : r.IsNormal) :
    (if hasEducation r.toFields then [educationOf r.toFields] else []) = r.education := by
  match hr : r.education, h.education with
  | [], _ =>
    rw [toFields, hr]
    rfl
  | [e], h =>
    have he : e.IsNormal := h e (List.mem_singleton_self e)
    have htelling : hasEducation r.toFields = true := by
      rw [hasEducation_iff, educationOf_toFields hr he]
      exact he.telling
    rw [if_pos htelling, educationOf_toFields hr he]
  | _ :: _ :: _, _ => simpa [hr] using h.atMostOne

/-- The lists of groups are not hidden by the fields before them. -/
theorem lookup_toFields_of_toLists {key : Text} (hscalars : lookup key r.toScalars = none)
    (heducation : ∀ e : Education, lookup key e.toFields = none) :
    lookup key r.toFields = lookup key r.toLists := by
  have hnone : ∀ es : List Education, lookup key (es.flatMap Education.toFields) = none := by
    intro es
    induction es with
    | nil => rfl
    | cons e es ih => rw [List.flatMap_cons, lookup_append, heducation, ih, Option.or_none]
  rw [toFields, lookup_append, lookup_append, hscalars, hnone, Option.or_none, Option.none_or]

/-- A résumé in normal form is what the submission that tells of it makes. -/
theorem build_toSubmission (h : r.IsNormal) : build r.toSubmission = r := by
  have hexperience : (groups r.toFields "experience").map experienceOf = r.experience :=
    map_groups_of_array (lookup_toFields_of_toLists rfl fun _ => rfl)
      fun e he => experienceOf_toGroup e (h.experience e he)
  have hprojects : (groups r.toFields "projects").map projectOf = r.projects :=
    map_groups_of_array (lookup_toFields_of_toLists rfl fun _ => rfl)
      fun p hp => projectOf_toGroup p (h.projects p hp)
  change ofFields r.toFields = r
  rw [ofFields, education_toFields h, hexperience, hprojects]
  -- the fields that hold a single text come first, so each is found by its name
  rfl

/-- Every résumé in normal form is restored from the submission that tells of it, and so is the
résumé of every submission. -/
theorem build_restores :
    (∀ r : Resume, r.IsNormal → build r.toSubmission = r) ∧
      ∀ submission, build (build submission).toSubmission = build submission :=
  ⟨fun _ h => build_toSubmission h, fun _ => build_toSubmission (isNormal_ofFields _)⟩

/-- A résumé with fields that share their names: a location of its own, one in its education and
one in its experience, and points in two places. -/
def apprentice : Resume where
  fullName := "Tess T. Setter"
  location := "Leiden"
  education := [{ location := "Delft", coursework := "Type", courseworkItems := ["Type"] }]
  experience := [{ location := "Ghent", points := ["Set type.", " Cut\npunches."] }, {}]
  projects := [{ name := "Specimen", points := ["Printed it."] }]

theorem build_restores_apprentice :
    apprentice.IsNormal ∧ build apprentice.toSubmission = apprentice := by
  have h : apprentice.IsNormal := by
    constructor
    case education =>
      intro e he
      rw [List.mem_singleton.1 he]
      exact ⟨.inr (.inl (by decide)), by decide⟩
    all_goals decide
  exact ⟨h, build_restores.1 apprentice h⟩

end Resume

end Curriculum
