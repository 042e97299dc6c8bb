import Curriculum.Proofs.Resume.Texts
import Curriculum.Proofs.Text.Split
import Curriculum.Resume.Summary
import Mathlib.Data.List.Basic

/-! # The lines of a summary

A summary is its two header lines and, for each part of the résumé that is there, an empty line and
a section of lines that are not empty. So where the texts of a résumé are lines, its sections are
read back from the summary by splitting it at empty lines (`Resume.summarize_lines`). -/

namespace Curriculum

/-! ## Parts -/

/-- The parts of a résumé that have a section of their own. -/
inductive Part where
  | summary
  | education
  | experience
  | projects
  | skills
  deriving DecidableEq

namespace Part

open Resume (educationLines experienceLines projectLines skillLines)

def all : List Part := [.summary, .education, .experience, .projects, .skills]

def title : Part → Text
  | .summary => "SUMMARY"
  | .education => "EDUCATION"
  | .experience => "WORK EXPERIENCE"
  | .projects => "PROJECTS"
  | .skills => "SKILLS"

/-- The text or the list of the part is not empty, or one of the texts about skills. -/
def IsPresent (r : Resume) : Part → Prop
  | .summary => r.summary ≠ []
  | .education => r.education ≠ []
  | .experience => r.experience ≠ []
  | .projects => r.projects ≠ []
  | .skills =>
    r.skillsExpert ≠ [] ∨ r.skillsProficient ≠ [] ∨ r.skillsFamiliar ≠ [] ∨ r.languages ≠ []

instance (r : Resume) : DecidablePred (IsPresent r)
  | .summary => inferInstanceAs (Decidable (r.summary ≠ []))
  | .education => inferInstanceAs (Decidable (r.education ≠ []))
  | .experience => inferInstanceAs (Decidable (r.experience ≠ []))
  | .projects => inferInstanceAs (Decidable (r.projects ≠ []))
  | .skills => inferInstanceAs (Decidable (_ ∨ _))

def lines (r : Resume) : Part → List Text
  | .summary => [r.summary]
  | .education => r.education.flatMap educationLines
  | .experience => r.experience.flatMap experienceLines
  | .projects => r.projects.flatMap projectLines
  | .skills => skillLines r

end Part

namespace Resume

variable {r : Resume} {line t label : Text}

/-! ## The sections in order -/

theorem labelled_eq_nil_iff : labelled label t = [] ↔ t = [] := by
  unfold labelled
  split <;> simp_all

theorem not_isEmpty_eq_decide (l : List α) [DecidableEq α] : (!l.isEmpty) = decide (l ≠ []) := by
  cases l <;> rfl

theorem not_isEmpty_skillLines (r : Resume) :
    (!(skillLines r).isEmpty) = decide (Part.skills.IsPresent r) := by
  rw [not_isEmpty_eq_decide, decide_eq_decide]
  simp only [skillLines, ne_eq, List.append_eq_nil_iff, labelled_eq_nil_iff, Part.IsPresent,
    Classical.not_and_iff_not_or_not, or_assoc]

theorem titled_eq (p : Part) (h : present = decide (p.IsPresent r)) :
    titled p.title present (p.lines r) =
      ([p].filter (·.IsPresent r)).map fun p => p.title :: p.lines r := by
  subst h
  by_cases hp : p.IsPresent r <;> simp [titled, hp]

/-- The sections below the header. -/
def blocks (r : Resume) : List (List Text) :=
  (Part.all.filter (·.IsPresent r)).map fun p => p.title :: p.lines r

theorem exists_of_mem_blocks {s : List Text} (hs : s ∈ r.blocks) :
    ∃ p : Part, p.IsPresent r ∧ s = p.title :: p.lines r := by
  obtain ⟨p, hp, rfl⟩ := List.mem_map.1 hs
  exact ⟨p, of_decide_eq_true (List.mem_filter.1 hp).2, rfl⟩

theorem ne_nil_of_mem_blocks {s : List Text} (hs : s ∈ r.blocks) : s ≠ [] := by
  obtain ⟨p, -, rfl⟩ := exists_of_mem_blocks hs
  exact List.cons_ne_nil _ _

theorem sections_eq (r : Resume) : sections r = [r.fullName, contactLine r] :: blocks r := by
  have hall : Part.all = [.summary] ++ [.education] ++ [.experience] ++ [.projects] ++ [.skills] :=
    rfl
  rw [blocks, hall]
  simp only [List.filter_append, List.map_append,
    ← titled_eq .summary (not_isEmpty_eq_decide r.summary),
    ← titled_eq .education (not_isEmpty_eq_decide r.education),
    ← titled_eq .experience (not_isEmpty_eq_decide r.experience),
    ← titled_eq .projects (not_isEmpty_eq_decide r.projects),
    ← titled_eq .skills (not_isEmpty_skillLines r)]
  rfl

/-! ## One line after the other -/

/-- Sections with an empty line between them, as lines. -/
theorem join_sections {s : List Text} {ss : List (List Text)} (hs : s ≠ [])
    (hss : ∀ s ∈ ss, s ≠ []) :
    Text.join ['\n', '\n'] ((s :: ss).map (Text.join ['\n'])) =
      Text.join ['\n'] (s ++ ss.flatMap ([] :: ·)) := by
  obtain ⟨first, rest, rfl⟩ := List.exists_cons_of_ne_nil hs
  have hsections : (ss.map (Text.join ['\n'])).flatMap (['\n', '\n'] ++ ·) =
      (ss.flatMap ([] :: ·)).flatMap (['\n'] ++ ·) := by
    rw [List.flatMap_map, List.flatMap_assoc]
    refine List.flatMap_congr fun s hmem => ?_
    obtain ⟨title, lines, rfl⟩ := List.exists_cons_of_ne_nil (hss s hmem)
    simp [Text.join_cons]
  rw [List.map_cons, Text.join_cons, hsections, List.cons_append, Text.join_cons, Text.join_cons,
    List.flatMap_append, List.append_assoc]

def summaryLines (r : Resume) : List Text :=
  r.fullName :: contactLine r :: r.blocks.flatMap ([] :: ·)

theorem summarize_eq_join (r : Resume) :
    r.summarize = Text.join ['\n'] r.summaryLines ++ ['\n'] := by
  rw [summarize, sections_eq, join_sections (List.cons_ne_nil _ _) fun _ => ne_nil_of_mem_blocks]
  rfl

/-! ## What the lines hold -/

/-- A line that is not empty. -/
def IsFilled (line : Text) : Prop := line ≠ [] ∧ '\n' ∉ line

theorem feed_not_mem_joinPresent (sep : Text) {parts : List Text} (hsep : '\n' ∉ sep)
    (hparts : ∀ t ∈ parts, '\n' ∉ t) : '\n' ∉ joinPresent sep parts := by
  have hpresent : ∀ t ∈ parts.filter (!·.isEmpty), '\n' ∉ t :=
    fun t ht => hparts t (List.mem_filter.1 ht).1
  rw [joinPresent]
  cases hts : parts.filter (!·.isEmpty) with
  | nil => exact List.not_mem_nil
  | cons t ts =>
    rw [hts] at hpresent
    rw [Text.join_cons]
    simp_all

/-- A heading is its parts and its trailer with some signs around the trailer. -/
theorem heading_eq_append (parts : List Text) (trailer : Text) :
    ∃ opening closing : Text, '\n' ∉ opening ∧ '\n' ∉ closing ∧
      heading parts trailer = joinPresent ", " parts ++ opening ++ trailer ++ closing := by
  unfold heading
  dsimp only
  generalize joinPresent ", " parts = line
  by_cases htrailer : trailer = []
  · exact ⟨[], [], by simp [htrailer]⟩
  by_cases hline : line = []
  · exact ⟨['('], [')'], by simp [htrailer, hline]⟩
  · exact ⟨[' ', '('], [')'], by simp [htrailer, hline]⟩

theorem feed_not_mem_heading {parts : List Text} {trailer : Text}
    (hparts : ∀ t ∈ parts, '\n' ∉ t) (htrailer : '\n' ∉ trailer) :
    '\n' ∉ heading parts trailer := by
  obtain ⟨opening, closing, hopening, hclosing, heq⟩ := heading_eq_append parts trailer
  have hline := feed_not_mem_joinPresent ", " (by decide) hparts
  rw [heq]
  simp only [List.mem_append, not_or]
  exact ⟨⟨⟨hline, hopening⟩, htrailer⟩, hclosing⟩

theorem isFilled_presentLine (ht : '\n' ∉ t) : ∀ line ∈ presentLine t, IsFilled line := by
  unfold presentLine
  split
  · exact List.forall_mem_nil _
  · simp_all [IsFilled]

theorem isFilled_labelled (hlabel : '\n' ∉ label) (ht : '\n' ∉ t) :
    ∀ line ∈ labelled label t, IsFilled line := by
  unfold labelled
  split
  · exact List.forall_mem_nil _
  · simp_all [IsFilled]

theorem isFilled_bullets {ps : List Text} (hps : ∀ p ∈ ps, '\n' ∉ p) :
    ∀ line ∈ ps.map bullet, IsFilled line := by
  intro line hline
  obtain ⟨p, hp, rfl⟩ := List.mem_map.1 hline
  simp [IsFilled, bullet, hps p hp]

theorem isFilled_educationLines {e : Education} (h : ∀ t ∈ e.texts, '\n' ∉ t) :
    ∀ line ∈ educationLines e, IsFilled line := by
  simp only [Education.texts, List.forall_mem_append, List.forall_mem_cons] at h
  obtain ⟨⟨hinstitute, hlocation, hdegree, hyear, hcoursework, -⟩, -⟩ := h
  rw [educationLines, List.forall_mem_append, List.forall_mem_append]
  refine ⟨⟨isFilled_presentLine (feed_not_mem_heading ?_ hyear),
    isFilled_labelled (by decide) hlocation⟩, isFilled_labelled (by decide) hcoursework⟩
  simp [hdegree, hinstitute]

theorem isFilled_experienceLines {e : Experience} (h : ∀ t ∈ e.texts, '\n' ∉ t) :
    ∀ line ∈ experienceLines e, IsFilled line := by
  simp only [Experience.texts, List.forall_mem_append, List.forall_mem_cons] at h
  obtain ⟨⟨hcompany, hlocation, hrole, hduration, -⟩, hpoints⟩ := h
  rw [experienceLines, List.forall_mem_append, List.forall_mem_append]
  refine ⟨⟨isFilled_presentLine (feed_not_mem_heading ?_ hduration),
    isFilled_labelled (by decide) hlocation⟩, isFilled_bullets hpoints⟩
  simp [hrole, hcompany]

theorem isFilled_projectLines {p : Project} (h : ∀ t ∈ p.texts, '\n' ∉ t) :
    ∀ line ∈ projectLines p, IsFilled line := by
  simp only [Project.texts, List.forall_mem_append, List.forall_mem_cons] at h
  obtain ⟨⟨hname, hdate, -⟩, hpoints⟩ := h
  rw [projectLines, List.forall_mem_append]
  refine ⟨isFilled_presentLine (feed_not_mem_heading ?_ hdate), isFilled_bullets hpoints⟩
  simp [hname]

theorem isFilled_lines (h : ∀ t ∈ r.texts, '\n' ∉ t) {p : Part} (hp : p.IsPresent r) :
    ∀ line ∈ p.lines r, IsFilled line := by
  simp only [texts, List.forall_mem_append, List.forall_mem_cons, List.forall_mem_flatMap] at h
  obtain ⟨⟨⟨⟨-, -, -, -, -, -, hsummary, hexpert, hproficient, hfamiliar, hlanguages, -⟩,
    heducation⟩, hexperience⟩, hprojects⟩ := h
  cases p with
  | summary => exact List.forall_mem_singleton.2 ⟨hp, hsummary⟩
  | education =>
    exact List.forall_mem_flatMap.2 fun e he => isFilled_educationLines (heducation e he)
  | experience =>
    exact List.forall_mem_flatMap.2 fun e he => isFilled_experienceLines (hexperience e he)
  | projects =>
    exact List.forall_mem_flatMap.2 fun p hp => isFilled_projectLines (hprojects p hp)
  | skills =>
    rw [Part.lines, skillLines, List.forall_mem_append, List.forall_mem_append,
      List.forall_mem_append]
    exact ⟨⟨⟨isFilled_labelled (by decide) hexpert, isFilled_labelled (by decide) hproficient⟩,
      isFilled_labelled (by decide) hfamiliar⟩, isFilled_labelled (by decide) hlanguages⟩

theorem isFilled_title (p : Part) : IsFilled p.title := by
  cases p <;> exact ⟨by decide, by decide⟩

theorem isFilled_of_mem_blocks (h : ∀ t ∈ r.texts, '\n' ∉ t) :
    ∀ s ∈ r.blocks, ∀ line ∈ s, IsFilled line := by
  intro s hs
  obtain ⟨p, hpresent, rfl⟩ := exists_of_mem_blocks hs
  exact List.forall_mem_cons.2 ⟨isFilled_title p, isFilled_lines h hpresent⟩

theorem feed_not_mem_contactLine (h : ∀ t ∈ r.texts, '\n' ∉ t) : '\n' ∉ contactLine r := by
  have hwebsite : '\n' ∉ if r.websiteDisplay.isEmpty then r.website else r.websiteDisplay := by
    split <;> exact h _ (by simp [texts])
  refine feed_not_mem_joinPresent " | " (by decide) ?_
  simp only [List.forall_mem_cons]
  exact ⟨h _ (by simp [texts]), h _ (by simp [texts]), h _ (by simp [texts]), hwebsite,
    List.forall_mem_nil _⟩

theorem feed_not_mem_summaryLines (h : ∀ t ∈ r.texts, '\n' ∉ t) :
    ∀ line ∈ r.summaryLines, '\n' ∉ line := by
  refine List.forall_mem_cons.2 ⟨h _ (by simp [texts]), List.forall_mem_cons.2
    ⟨feed_not_mem_contactLine h, List.forall_mem_flatMap.2 fun s hs => ?_⟩⟩
  exact List.forall_mem_cons.2
    ⟨List.not_mem_nil, fun line hline => (isFilled_of_mem_blocks h s hs line hline).2⟩

/-- Where the texts of a résumé are lines, its summary ends in a line feed, and the lines before it
are the name, the contact line and a section for each part that is there, each behind an empty line
and with a title and lines that are not empty. -/
theorem summarize_lines (h : ∀ t ∈ r.texts, '\n' ∉ t) :
    ∃ body groups, r.summarize = body ++ ['\n'] ∧
      Text.split '\n' body = r.fullName :: contactLine r :: groups.flatMap ([] :: ·) ∧
      (∀ g ∈ groups, g ≠ [] ∧ ∀ line ∈ g, line ≠ []) ∧
      groups.map List.head? = (Part.all.filter (·.IsPresent r)).map (some ·.title) ∧
      ((Text.split '\n' body).drop 2).splitOn [] = [] :: groups ∧
      r.sections = [r.fullName, contactLine r] :: groups := by
  have hfilled := isFilled_of_mem_blocks h
  have hlines : Text.split '\n' (Text.join ['\n'] r.summaryLines) = r.summaryLines :=
    Text.split_join_of_not_mem _ (List.cons_ne_nil _ _) (feed_not_mem_summaryLines h)
  refine ⟨Text.join ['\n'] r.summaryLines, r.blocks, summarize_eq_join r, hlines, ?_, ?_, ?_,
    sections_eq r⟩
  · intro g hg
    exact ⟨ne_nil_of_mem_blocks hg, fun line hline => (hfilled g hg line hline).1⟩
  · rw [blocks, List.map_map]
    rfl
  · -- the empty line before each section is what parts it from the one before
    have hempty : ∀ s ∈ [] :: r.blocks, [] ∉ s :=
      List.forall_mem_cons.2 ⟨List.not_mem_nil, fun s hs hmem => (hfilled s hs [] hmem).1 rfl⟩
    have hsections := List.splitOn_intercalate [] hempty (List.cons_ne_nil _ _)
    rw [Text.intercalate_cons] at hsections
    rw [hlines]
    exact hsections

/-- A résumé without a name, in which most entries have nothing to say. -/
def blankSheet : Resume where
  location := "Leiden"
  summary := "Sets type."
  education := [{}]
  experience := [{}, { points := [[]] }]
  languages := "Dutch"

theorem summarize_lines_blankSheet :
    (∀ t ∈ blankSheet.texts, '\n' ∉ t) ∧
      ∃ body groups, blankSheet.summarize = body ++ ['\n'] ∧
        ((Text.split '\n' body).drop 2).splitOn [] = [] :: groups ∧
        groups.map List.head? = [some "SUMMARY".toList, some "EDUCATION".toList,
          some "WORK EXPERIENCE".toList, some "SKILLS".toList] := by
  have htexts : ∀ t ∈ blankSheet.texts, '\n' ∉ t := by decide +kernel
  obtain ⟨body, groups, hbody, -, -, htitles, hgroups, -⟩ := summarize_lines htexts
  exact ⟨htexts, body, groups, hbody, hgroups, htitles.trans (by decide +kernel)⟩

end Resume

end Curriculum
