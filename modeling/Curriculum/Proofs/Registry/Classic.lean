import Curriculum.Proofs.Template.Balance
import Curriculum.Proofs.Template.Site
import Curriculum.Registry.BuiltIn
import Curriculum.Render

/-! # Sources in the built-in template

The literals of the built-in template keep their groups together, and none of them completes a word
that the text before it begins. A submission of any kind therefore gives a source whose braces match
and in which no tag is left, with one bullet for each point and each coursework item
(`render_source`). The template itself is what its two files hold (`ofTexts_eq_builtIn`). -/

namespace Curriculum

open Json (Value)
open Latex (Contained depth EndsBare)
open Template (Balanced levels literals opening parse repeated resolve runs sites)
open Text (Detached occurrences)

/-! ## Literal lines -/

/-- Strings beside their characters. -/
inductive Spells : List String → List Text → Prop
  | nil : Spells [] []
  | cons (t : Text) (h : Spells lines ts) : Spells (String.ofList t :: lines) (t :: ts)

/-- What holds of the characters of some lines is checked on characters only, without taking any
string apart. -/
theorem Spells.of {P : List Text → Prop} (h : Spells lines ts) (hP : P ts) :
    P (lines.map String.toList) := by
  suffices lines.map String.toList = ts from this ▸ hP
  clear hP
  induction h with
  | nil => rfl
  | cons t h ih => rw [List.map_cons, String.toList_ofList, ih]

namespace Classic

/-- The command of a bullet with the brace of its argument. -/
def bullet : Text := "\\resumeItem\x7b"

/-- The blocks around each bullet of the template. -/
def bulletBlocks : List (List Text) :=
  [["education", "coursework_items"], ["experience", "points"], ["projects", "points"]]

set_option maxRecDepth 100000 in
/-- What there is to check about the template. -/
theorem parse_body :
    (∀ level ∈ levels (parse body), Balanced level) ∧
      (∀ t ∈ literals (parse body), Detached opening t ∧ Detached bullet t) ∧
      sites opening (parse body) = [] ∧
      sites bullet (parse body) = bulletBlocks := by
  apply Spells.of (P := fun ts =>
    have nodes := parse (bracesFor (Text.join ['\n'] ts))
    (∀ level ∈ levels nodes, Balanced level) ∧
      (∀ t ∈ literals nodes, Detached opening t ∧ Detached bullet t) ∧
      sites opening nodes = [] ∧
      sites bullet nodes = bulletBlocks)
  · dsimp only [lines]
    repeat constructor
  · decide +kernel

/-! ## The files of the template -/

set_option maxRecDepth 100000 in
theorem parse?_schema : Descriptor.parse? schema = some ⟨"Classic Resume", fields⟩ := by
  apply Spells.of (P := fun ts =>
    Descriptor.parse? (Text.join ['\n'] ts) = some ⟨"Classic Resume", fields⟩)
  · dsimp only [schemaLines]
    repeat constructor
  · decide +kernel

set_option maxRecDepth 100000 in
theorem unifyLineEnds_body : Text.unifyLineEnds body = body := by
  apply Spells.of (P := fun ts =>
    have body := bracesFor (Text.join ['\n'] ts)
    Text.unifyLineEnds body = body)
  · dsimp only [lines]
    repeat constructor
  · decide +kernel

/-- The built-in template is what its two files hold, for every reader that reads the schema file as
it is meant. -/
theorem ofTexts_eq_template {read : SchemaReader}
    (h : read schema = some ⟨"Classic Resume", fields⟩) (schemaPath : Text) :
    Template.ofTexts read id schemaPath schema body = .ok template := by
  have hplaced : misplacedIn? fields = none := by decide +kernel
  simp only [Template.ofTexts, h, hplaced, unifyLineEnds_body]
  rfl

/-- So is the registry of the built-in template. -/
theorem ofTexts_eq_builtIn (schemaPath : Text) :
    (Template.ofTexts Descriptor.parse? id schemaPath schema body).map
      (fun t => Registry.insertAll {} [t]) = .ok Registry.builtIn := by
  rw [ofTexts_eq_template parse?_schema]
  rfl

/-! ## Openings and bullets -/

theorem endsBare_opening : EndsBare opening := ⟨[], '\x7b', by decide⟩

theorem endsBare_bullet : EndsBare bullet := ⟨"\\resumeIte", 'm', by decide +kernel⟩

/-! ## Runs of the blocks -/

/-- A block over the texts of each record of a list runs once for each of the texts. -/
theorem runs_records {scope : Value} {outer inner : Text} {records : List α} {toValue : α → Value}
    {texts : α → List Text} (houter : resolve scope outer = some (.array (records.map toValue)))
    (hinner : ∀ r, resolve (toValue r) inner = some (Text.listValue (texts r))) :
    runs [outer, inner] scope = (records.flatMap texts).map .string := by
  simp only [runs, houter, repeated, List.flatMap_map, hinner, Text.listValue, List.map_flatMap,
    List.flatMap_singleton']

section
variable (m : Resume)

theorem runs_courseworkItems :
    runs ["education", "coursework_items"] m.toValue =
      (m.education.flatMap (·.courseworkItems)).map .string :=
  runs_records rfl fun _ => rfl

theorem runs_experience_points :
    runs ["experience", "points"] m.toValue = (m.experience.flatMap (·.points)).map .string :=
  runs_records rfl fun _ => rfl

theorem runs_project_points :
    runs ["projects", "points"] m.toValue = (m.projects.flatMap (·.points)).map .string :=
  runs_records rfl fun _ => rfl

/-- How often the blocks around the bullets run. -/
theorem length_flatMap_runs :
    (bulletBlocks.flatMap fun paths => runs paths m.toValue).length =
      (m.experience.flatMap (·.points)).length + (m.projects.flatMap (·.points)).length +
        (m.education.flatMap (·.courseworkItems)).length := by
  rw [bulletBlocks, List.flatMap_cons, List.flatMap_cons, List.flatMap_cons, List.flatMap_nil,
    runs_courseworkItems, runs_experience_points, runs_project_points]
  simp only [List.length_append, List.length_map, List.length_nil]
  omega

end

/-- In the source of any submission no tag is left, every brace has its other one, and there is a
bullet for each point of the experience and the projects and for each coursework item. -/
theorem render_source (c : Compiler) (submission : Value) :
    ∃ text, Registry.builtIn.render c "classic" submission .source =
        .done (.ok ⟨"classic", .source text⟩) ∧
      ¬opening <:+: text ∧ (depth text = 0 ∧ ∀ u, u <+: text → 0 ≤ depth u) ∧
      occurrences bullet text =
        ((Resume.build submission).experience.flatMap (·.points)).length +
          ((Resume.build submission).projects.flatMap (·.points)).length +
          ((Resume.build submission).education.flatMap (·.courseworkItems)).length := by
  obtain ⟨hbalanced, hdetached, hopening, hbullet⟩ := parse_body
  have hcontained : Contained (Template.source body submission) :=
    Template.contained_expand_sanitize hbalanced _
  refine ⟨Template.source body submission, rfl, ?_, ⟨?_, ?_⟩, ?_⟩
  · rw [← Text.occurrences_eq_zero_iff, Template.source,
      Template.occurrences_expand_sanitize endsBare_opening fun t ht => (hdetached t ht).1, hopening]
    rfl
  · rw [depth, hcontained.read_eq]
  · exact fun u hu => hcontained.le_depth 0 u hu
  · rw [Template.source,
      Template.occurrences_expand_sanitize endsBare_bullet fun t ht => (hdetached t ht).2, hbullet,
      length_flatMap_runs]

end Classic

end Curriculum
