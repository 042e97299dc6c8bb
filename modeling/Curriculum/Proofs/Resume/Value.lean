import Curriculum.Proofs.Json.Strings
import Curriculum.Proofs.Resume.Texts
import Curriculum.Resume.Value

/-! # Reading a résumé back from its value

The value of a résumé is read back as that résumé (`Resume.ofValue?_toValue`), and changing the
strings of the value is changing the texts of the résumé (`Resume.mapStrings_toValue`). So a
sanitized value is read back as well, as the résumé with its texts escaped. -/

namespace Curriculum

open Json.Value (mapStrings mapStringsItems_eq_map)

/-! ## Reading back -/

/-- What is written one by one is read one by one. -/
theorem mapM_map_eq_some (write : α → β) {read : β → Option α} (h : ∀ a, read (write a) = some a)
    (as : List α) : (as.map write).mapM read = some as := by
  induction as with
  | nil => rfl
  | cons a as ih =>
    rw [List.map_cons, List.mapM_cons, h, ih]
    rfl

theorem Text.texts?_listValue (ts : List Text) : (listValue ts).texts? = some ts :=
  mapM_map_eq_some Json.Value.string (fun _ => rfl) ts

theorem Education.ofValue?_toValue (e : Education) : ofValue? e.toValue = some e := by
  have hread : ofValue? e.toValue =
      (do some { e with courseworkItems := ← (Text.listValue e.courseworkItems).texts? }) := rfl
  rw [hread, Text.texts?_listValue]
  rfl

theorem Experience.ofValue?_toValue (e : Experience) : ofValue? e.toValue = some e := by
  have hread : ofValue? e.toValue =
      (do some { e with points := ← (Text.listValue e.points).texts? }) := rfl
  rw [hread, Text.texts?_listValue]
  rfl

theorem Project.ofValue?_toValue (p : Project) : ofValue? p.toValue = some p := by
  have hread : ofValue? p.toValue =
      (do some { p with points := ← (Text.listValue p.points).texts? }) := rfl
  rw [hread, Text.texts?_listValue]
  rfl

theorem Resume.ofValue?_toValue (r : Resume) : ofValue? r.toValue = some r := by
  have hread : ofValue? r.toValue = (do
      some { r with
        education := ← (r.education.map Education.toValue).mapM Education.ofValue?
        experience := ← (r.experience.map Experience.toValue).mapM Experience.ofValue?
        projects := ← (r.projects.map Project.toValue).mapM Project.ofValue? }) := rfl
  rw [hread, mapM_map_eq_some _ Education.ofValue?_toValue,
    mapM_map_eq_some _ Experience.ofValue?_toValue, mapM_map_eq_some _ Project.ofValue?_toValue]
  rfl

/-! ## Other texts -/

section
variable (f : Text → Text)

theorem Text.mapStrings_listValue (ts : List Text) :
    (listValue ts).mapStrings f = listValue (ts.map f) := by
  simp only [listValue, mapStrings, mapStringsItems_eq_map, List.map_map]
  rfl

theorem mapStrings_array_map {toValue : α → Json.Value} {mapTexts : α → α}
    (h : ∀ a, (toValue a).mapStrings f = toValue (mapTexts a)) (as : List α) :
    (Json.Value.array (as.map toValue)).mapStrings f =
      .array ((as.map mapTexts).map toValue) := by
  simp only [mapStrings, mapStringsItems_eq_map, List.map_map, Function.comp_def, h]

theorem Education.mapStrings_toValue (e : Education) :
    e.toValue.mapStrings f = (e.mapTexts f).toValue := by
  simp only [toValue, mapStrings, Json.Value.mapStringsMembers, Text.mapStrings_listValue, mapTexts]

theorem Experience.mapStrings_toValue (e : Experience) :
    e.toValue.mapStrings f = (e.mapTexts f).toValue := by
  simp only [toValue, mapStrings, Json.Value.mapStringsMembers, Text.mapStrings_listValue, mapTexts]

theorem Project.mapStrings_toValue (p : Project) :
    p.toValue.mapStrings f = (p.mapTexts f).toValue := by
  simp only [toValue, mapStrings, Json.Value.mapStringsMembers, Text.mapStrings_listValue, mapTexts]

theorem Resume.mapStrings_toValue (r : Resume) :
    r.toValue.mapStrings f = (r.mapTexts f).toValue := by
  simp only [toValue, mapStrings, Json.Value.mapStringsMembers, mapTexts,
    ← mapStrings_array_map f (Education.mapStrings_toValue f),
    ← mapStrings_array_map f (Experience.mapStrings_toValue f),
    ← mapStrings_array_map f (Project.mapStrings_toValue f)]

end

/-! ## The sanitized value -/

theorem Resume.sanitize_toValue (r : Resume) :
    Latex.sanitize r.toValue = (r.mapTexts Latex.escape).toValue := by
  rw [Latex.sanitize_eq_mapStrings, mapStrings_toValue]

/-- A résumé is read back from its value. It has a sanitized value as well, whatever its texts are,
and that is read back as the résumé with every text escaped, with as many entries and points. -/
theorem Resume.readsBack_sanitize (r : Resume) :
    ofValue? r.toValue = some r ∧
      ∃ s : Resume, ofValue? (Latex.sanitize r.toValue) = some s ∧
        s = r.mapTexts Latex.escape ∧ s.texts = r.texts.map Latex.escape ∧
        s.education.length = r.education.length ∧
        s.experience.length = r.experience.length ∧ s.projects.length = r.projects.length ∧
        s.experience.map (·.points.length) = r.experience.map (·.points.length) ∧
        s.projects.map (·.points.length) = r.projects.map (·.points.length) := by
  have hread : ofValue? (Latex.sanitize r.toValue) = some (r.mapTexts Latex.escape) := by
    rw [sanitize_toValue, ofValue?_toValue]
  refine ⟨ofValue?_toValue r, r.mapTexts Latex.escape, hread, rfl, texts_mapTexts _ r, ?_⟩
  simp [mapTexts, Experience.mapTexts, Project.mapTexts]

end Curriculum
