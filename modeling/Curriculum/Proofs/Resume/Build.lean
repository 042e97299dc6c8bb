import Curriculum.Proofs.Picks
import Curriculum.Proofs.Text.Lines
import Curriculum.Resume.Build

/-! # What a submission makes of a résumé

Whatever is submitted, the résumé is in normal form (`Resume.IsNormal`) and has the parts that the
submission tells of, in its order (`Resume.Represents`). -/

namespace Curriculum

/-- Text of blanks only. -/
def Text.IsBlank (t : Text) : Prop := ∀ c ∈ t, isBlank c = true

instance (t : Text) : Decidable t.IsBlank := List.decidableBAll (fun c => isBlank c = true) t

theorem Text.allBlank_eq_decide (t : Text) : allBlank t = decide t.IsBlank := by
  rw [Bool.eq_iff_iff, decide_eq_true_iff, allBlank, List.all_eq_true, IsBlank]

theorem Json.Value.members?_eq_some_iff {v : Json.Value} :
    v.members? = some members ↔ v = .object members := by
  cases v <;> simp [Json.Value.members?]

/-! ## Normal form -/

/-- Something is said about the education. -/
def Education.IsTelling (e : Education) : Prop :=
  e.institute ≠ [] ∨ e.location ≠ [] ∨ e.degree ≠ [] ∨ e.year ≠ [] ∨ e.coursework ≠ []

structure Education.IsNormal (e : Education) : Prop where
  telling : e.IsTelling
  courseworkItems : e.courseworkItems = if e.coursework.IsBlank then [] else [e.coursework]

namespace Resume

structure IsNormal (r : Resume) : Prop where
  atMostOne : r.education.length ≤ 1
  education : ∀ e ∈ r.education, e.IsNormal
  experience : ∀ e ∈ r.experience, ∀ p ∈ e.points, ¬p.IsBlank
  projects : ∀ e ∈ r.projects, ∀ p ∈ e.points, ¬p.IsBlank

/-! ## Parts of a submission -/

open Json (Members Value)

/-- What an item of a list says. Only strings and numbers say something. -/
inductive IsItemText : Value → Text → Prop where
  | string (t : Text) : IsItemText (.string t) t
  | number (n : Number) : IsItemText (.number n) n.display

/-- What may become a point. -/
inductive AreCandidates : Option Value → List Text → Prop where
  | items (h : Picks IsItemText items ts) : AreCandidates (some (.array items)) ts
  | lines (h : Text.IsLines t ts) : AreCandidates (some (.string t)) ts
  | other (harray : ∀ items, v ≠ some (.array items)) (hstring : ∀ t, v ≠ some (.string t)) :
    AreCandidates v []

/-- The points of a group are its candidates that are not blank, unchanged and in their order. -/
def ArePoints (group : Members) (ps : List Text) : Prop :=
  ∃ ts, AreCandidates (lookup "points" group) ts ∧ ps = ts.filter fun t => ¬t.IsBlank

structure IsEducation (fields : Members) (e : Education) : Prop where
  institute : e.institute = scalar fields "edu_institute"
  location : e.location = scalar fields "edu_location"
  degree : e.degree = scalar fields "edu_degree"
  year : e.year = scalar fields "edu_year"
  coursework : e.coursework = scalar fields "edu_coursework"
  courseworkItems : e.courseworkItems = if e.coursework.IsBlank then [] else [e.coursework]

structure IsExperience (group : Members) (e : Experience) : Prop where
  company : e.company = scalar group "company"
  location : e.location = scalar group "location"
  role : e.role = scalar group "role"
  duration : e.duration = scalar group "duration"
  points : ArePoints group e.points

structure IsProject (group : Members) (p : Project) : Prop where
  name : p.name = scalar group "name"
  date : p.date = scalar group "date"
  points : ArePoints group p.points

/-- The items of a field that holds a list. -/
def itemsAt (fields : Members) (key : Text) : List Value :=
  ((lookup key fields).bind Value.items?).getD []

/-- A résumé has the parts that the fields of a submission tell of. Each object in a list makes a
part of its own, and what is no object makes none. -/
structure Represents (fields : Members) (r : Resume) : Prop where
  education : ∃ e, IsEducation fields e ∧ (e.IsTelling → r.education = [e]) ∧
    (¬e.IsTelling → r.education = [])
  experience : Picks (fun v e => ∃ group, v = .object group ∧ IsExperience group e)
    (itemsAt fields "experience") r.experience
  projects : Picks (fun v p => ∃ group, v = .object group ∧ IsProject group p)
    (itemsAt fields "projects") r.projects

theorem isItemText_of_itemText? (h : itemText? v = some t) : IsItemText v t := by
  unfold itemText? at h
  split at h
  · cases h
    exact .string _
  · cases h
    exact .number _
  · cases h

theorem areCandidates_candidates (v : Option Value) : AreCandidates v (candidates v) := by
  unfold candidates
  split
  · next items =>
    refine .items (picks_filterMap (fun _ _ => isItemText_of_itemText?) (fun v t h => ?_) items)
    cases h <;> simp [itemText?]
  · exact .lines (Text.lines_eq_iff.1 rfl)
  · next harray hstring => exact .other harray hstring

theorem arePoints_points (group : Members) : ArePoints group (points group) := by
  refine ⟨_, areCandidates_candidates _, ?_⟩
  simp only [points, Text.allBlank_eq_decide, decide_not]

theorem isEducation_educationOf (fields : Members) : IsEducation fields (educationOf fields) := by
  constructor <;> simp only [educationOf, Text.allBlank_eq_decide, decide_eq_true_eq]

theorem isExperience_experienceOf (group : Members) : IsExperience group (experienceOf group) :=
  ⟨rfl, rfl, rfl, rfl, arePoints_points group⟩

theorem isProject_projectOf (group : Members) : IsProject group (projectOf group) :=
  ⟨rfl, rfl, arePoints_points group⟩

/-- The fields that are asked for an education are those that make it up. -/
theorem hasEducation_iff (fields : Members) :
    hasEducation fields = true ↔ (educationOf fields).IsTelling := by
  simp only [hasEducation, educationKeys, List.any_cons, List.any_nil, Bool.or_false,
    Bool.or_eq_true, Bool.not_eq_true', List.isEmpty_eq_false_iff, Education.IsTelling, educationOf]

theorem groups_eq (fields : Members) (key : Text) :
    groups fields key = (itemsAt fields key).filterMap Value.members? := by
  rw [groups, itemsAt]
  split
  · next items h => rw [h]; rfl
  · next h =>
    cases hfield : lookup key fields with
    | none => rfl
    | some v =>
      cases v with
      | array items => exact absurd hfield (h items)
      | _ => rfl

/-- The objects of a list make parts of a résumé one by one. -/
theorem picks_groups {R : Members → α → Prop} {f : Members → α} (hf : ∀ group, R group (f group))
    (fields : Members) (key : Text) :
    Picks (fun v a => ∃ group, v = .object group ∧ R group a) (itemsAt fields key)
      ((groups fields key).map f) := by
  rw [groups_eq, List.map_filterMap]
  refine picks_filterMap (fun v a h => ?_) (fun v a h => ?_) _
  · obtain ⟨group, hgroup, rfl⟩ := Option.map_eq_some_iff.1 h
    exact ⟨group, Value.members?_eq_some_iff.1 hgroup, hf group⟩
  · obtain ⟨group, rfl, -⟩ := h
    nofun

theorem represents_ofFields (fields : Members) : Represents fields (ofFields fields) where
  education := by
    refine ⟨educationOf fields, isEducation_educationOf fields, fun h => ?_, fun h => ?_⟩
    · exact if_pos ((hasEducation_iff fields).2 h)
    · exact if_neg (mt (hasEducation_iff fields).1 h)
  experience := picks_groups isExperience_experienceOf fields "experience"
  projects := picks_groups isProject_projectOf fields "projects"

theorem ArePoints.not_isBlank (h : ArePoints group ps) : ∀ p ∈ ps, ¬p.IsBlank := by
  obtain ⟨ts, -, rfl⟩ := h
  intro p hp
  simpa using (List.mem_filter.1 hp).2

theorem isNormal_ofFields (fields : Members) : (ofFields fields).IsNormal where
  atMostOne := by
    rw [ofFields]
    split <;> simp
  education e he := by
    obtain ⟨e', h, htelling, hvoid⟩ := (represents_ofFields fields).education
    by_cases he' : e'.IsTelling
    · rw [htelling he', List.mem_singleton] at he
      exact ⟨he ▸ he', he ▸ h.courseworkItems⟩
    · rw [hvoid he'] at he
      cases he
  experience e he := by
    obtain ⟨v, -, group, -, h⟩ := (represents_ofFields fields).experience.exists_of_mem he
    exact h.points.not_isBlank
  projects p hp := by
    obtain ⟨v, -, group, -, h⟩ := (represents_ofFields fields).projects.exists_of_mem hp
    exact h.points.not_isBlank

/-- Every submission makes a résumé in normal form with the parts that the submission tells of. -/
theorem build_represents (submission : Value) :
    (build submission).IsNormal ∧
      Represents (submission.members?.getD []) (build submission) :=
  ⟨isNormal_ofFields _, represents_ofFields _⟩

end Resume

end Curriculum
