import Curriculum.Proofs.Resume.Layout

/-! # What a summary mentions

Everything that a summary is about stands in it word for word, in the order of the parts, and each
point behind a bullet at the start of a line (`Resume.mentions_summarize`). -/

namespace Curriculum

/-! ## Texts one behind the other -/

/-- A text that is to be met, and what has to stand directly in front of it. -/
structure Mention where
  lead : Text
  text : Text

/-- The mentions are met in a text one behind the other, with any gaps between them. -/
inductive Mentions : List Mention → Text → Prop where
  | nil (t : Text) : Mentions [] t
  | cons (gap : Text) (m : Mention) (hrest : Mentions ms rest) :
    Mentions (m :: ms) (gap ++ m.lead ++ m.text ++ rest)

/-- A text anywhere. -/
def Mention.plain (t : Text) : Mention := ⟨[], t⟩

/-- A text behind a bullet at the start of a line. -/
def Mention.point (t : Text) : Mention := ⟨"\n  - ", t⟩

open Mention (plain point)

namespace Mentions

variable {ms ns : List Mention} {t u rest : Text}

theorem cons_plain (gap t : Text) (hrest : Mentions ms rest) :
    Mentions (plain t :: ms) (gap ++ t ++ rest) := by
  have h := Mentions.cons gap (plain t) hrest
  rwa [plain, List.append_nil] at h

/-- The empty text is met everywhere. -/
theorem cons_nil (h : Mentions ms t) : Mentions (plain [] :: ms) t := cons_plain [] [] h

theorem plain_self (t : Text) : Mentions [plain t] t := by
  have h := cons_plain [] t (.nil [])
  rwa [List.append_nil] at h

theorem append_left (h : Mentions ms t) (u : Text) : Mentions ms (u ++ t) := by
  cases h with
  | nil => exact .nil _
  | cons gap m hrest =>
    simp only [← List.append_assoc]
    exact .cons (u ++ gap) m hrest

theorem append (hms : Mentions ms t) (hns : Mentions ns u) : Mentions (ms ++ ns) (t ++ u) := by
  induction hms with
  | nil t => exact hns.append_left t
  | cons gap m hrest ih =>
    rw [List.append_assoc]
    exact .cons gap m ih

theorem append_right (h : Mentions ms t) (u : Text) : Mentions ms (t ++ u) := by
  have happend := h.append (.nil u)
  rwa [List.append_nil] at happend

theorem flatMap {f : α → List Mention} {g : α → Text} (h : ∀ a, Mentions (f a) (g a))
    (as : List α) : Mentions (as.flatMap f) (as.flatMap g) := by
  induction as with
  | nil => exact .nil []
  | cons a as ih => exact (h a).append ih

end Mentions

/-! ## What there is to mention -/

def Education.mentions (e : Education) : List Mention :=
  [e.degree, e.institute, e.year, e.location, e.coursework].map plain

def Experience.mentions (e : Experience) : List Mention :=
  [e.role, e.company, e.duration, e.location].map plain ++ e.points.map point

def Project.mentions (p : Project) : List Mention :=
  [p.name, p.date].map plain ++ p.points.map point

def Part.mentions (r : Resume) : Part → List Mention
  | .summary => [plain r.summary]
  | .education => r.education.flatMap Education.mentions
  | .experience => r.experience.flatMap Experience.mentions
  | .projects => r.projects.flatMap Project.mentions
  | .skills =>
    [r.skillsExpert, r.skillsProficient, r.skillsFamiliar, r.languages].map plain

namespace Resume

/-- What a summary is about: the texts of the header, then those of the parts in their order. -/
def mentions (r : Resume) : List Mention :=
  [r.fullName, r.location, r.phone, r.email,
    if r.websiteDisplay = [] then r.website else r.websiteDisplay].map plain ++
    Part.all.flatMap (·.mentions r)

/-! ## Lines -/

variable {r : Resume} {ms : List Mention}

theorem mentions_filter (sep : Text) (parts : List Text) :
    Mentions (parts.map plain) ((parts.filter (!·.isEmpty)).flatMap (sep ++ ·)) := by
  induction parts with
  | nil => exact .nil []
  | cons t parts ih =>
    rw [List.filter_cons]
    split
    · exact .cons_plain sep t ih
    · next ht =>
      have ht : t = [] := by simpa using ht
      exact ht ▸ .cons_nil ih

theorem mentions_joinPresent (sep : Text) (parts : List Text) :
    Mentions (parts.map plain) (joinPresent sep parts) := by
  induction parts with
  | nil => exact .nil []
  | cons t parts ih =>
    rw [joinPresent, List.filter_cons]
    split
    · rw [Text.join_cons]
      exact .cons_plain [] t (mentions_filter sep parts)
    · next ht =>
      have ht : t = [] := by simpa using ht
      exact ht ▸ .cons_nil ih

theorem mentions_heading (parts : List Text) (trailer : Text) :
    Mentions (parts.map plain ++ [plain trailer]) (heading parts trailer) := by
  obtain ⟨opening, closing, -, -, heq⟩ := heading_eq_append parts trailer
  rw [heq, List.append_assoc, List.append_assoc, ← List.append_assoc opening]
  exact (mentions_joinPresent ", " parts).append (.cons_plain opening trailer (.nil closing))

theorem mentions_presentLine {line : Text} (h : Mentions ms line) :
    Mentions ms ((presentLine line).flatMap (['\n'] ++ ·)) := by
  unfold presentLine
  split
  · next hline =>
    rw [List.isEmpty_iff] at hline
    subst hline
    exact h
  · rw [List.flatMap_singleton]
    exact h.append_left ['\n']

theorem mentions_labelled (label t : Text) :
    Mentions [plain t] ((labelled label t).flatMap (['\n'] ++ ·)) := by
  unfold labelled
  split
  · next ht =>
    rw [List.isEmpty_iff] at ht
    subst ht
    exact .plain_self []
  · rw [List.flatMap_singleton, ← List.append_assoc]
    exact (Mentions.plain_self t).append_left _

theorem mentions_bullets (ps : List Text) :
    Mentions (ps.map point) ((ps.map bullet).flatMap (['\n'] ++ ·)) := by
  induction ps with
  | nil => exact .nil []
  | cons p ps ih => exact .cons [] (point p) ih

theorem mentions_educationLines (e : Education) :
    Mentions e.mentions ((educationLines e).flatMap (['\n'] ++ ·)) := by
  rw [educationLines, List.flatMap_append, List.flatMap_append]
  exact ((mentions_presentLine (mentions_heading [e.degree, e.institute] e.year)).append
    (mentions_labelled "  " e.location)).append (mentions_labelled "  Coursework: " e.coursework)

theorem mentions_experienceLines (e : Experience) :
    Mentions e.mentions ((experienceLines e).flatMap (['\n'] ++ ·)) := by
  rw [experienceLines, List.flatMap_append, List.flatMap_append]
  exact ((mentions_presentLine (mentions_heading [e.role, e.company] e.duration)).append
    (mentions_labelled "  " e.location)).append (mentions_bullets e.points)

theorem mentions_projectLines (p : Project) :
    Mentions p.mentions ((projectLines p).flatMap (['\n'] ++ ·)) := by
  rw [projectLines, List.flatMap_append]
  exact (mentions_presentLine (mentions_heading [p.name] p.date)).append
    (mentions_bullets p.points)

theorem mentions_skillLines (r : Resume) :
    Mentions (Part.skills.mentions r) ((skillLines r).flatMap (['\n'] ++ ·)) := by
  simp only [skillLines, List.flatMap_append]
  exact (((mentions_labelled "Expert: " r.skillsExpert).append
    (mentions_labelled "Proficient: " r.skillsProficient)).append
    (mentions_labelled "Familiar: " r.skillsFamiliar)).append
    (mentions_labelled "Languages: " r.languages)

/-! ## Sections -/

theorem mentions_lines (p : Part) :
    Mentions (p.mentions r) ((p.lines r).flatMap (['\n'] ++ ·)) := by
  cases p with
  | summary => exact .cons_plain ['\n'] r.summary (.nil [])
  | education =>
    rw [Part.lines, List.flatMap_assoc]
    exact .flatMap mentions_educationLines r.education
  | experience =>
    rw [Part.lines, List.flatMap_assoc]
    exact .flatMap mentions_experienceLines r.experience
  | projects =>
    rw [Part.lines, List.flatMap_assoc]
    exact .flatMap mentions_projectLines r.projects
  | skills => exact mentions_skillLines r

/-- Of a part that is not there, nothing but empty texts is to be met. -/
theorem mentions_of_not_isPresent {p : Part} (h : ¬p.IsPresent r) :
    Mentions (p.mentions r) [] := by
  cases p <;> simp only [Part.IsPresent, ne_eq, not_or, Classical.not_not] at h
  case summary => exact h ▸ .cons_nil (.nil [])
  case skills =>
    obtain ⟨hexpert, hproficient, hfamiliar, hlanguages⟩ := h
    rw [Part.mentions, hexpert, hproficient, hfamiliar, hlanguages]
    exact .cons_nil (.cons_nil (.cons_nil (.cons_nil (.nil []))))
  all_goals
    rw [Part.mentions, h]
    exact .nil []

theorem mentions_sections (ps : List Part) :
    Mentions (ps.flatMap (·.mentions r))
      ((((ps.filter (·.IsPresent r)).map fun p => p.title :: p.lines r).flatMap ([] :: ·)).flatMap
        (['\n'] ++ ·)) := by
  induction ps with
  | nil => exact .nil []
  | cons p ps ih =>
    rw [List.filter_cons]
    split
    · rw [List.map_cons, List.flatMap_cons, List.flatMap_cons, List.flatMap_append,
        List.flatMap_cons, List.flatMap_cons]
      exact (((mentions_lines p).append_left _).append_left _).append ih
    · next hp => exact (mentions_of_not_isPresent (by simpa using hp)).append ih

theorem mentions_contactLine (r : Resume) :
    Mentions ([r.location, r.phone, r.email,
      if r.websiteDisplay = [] then r.website else r.websiteDisplay].map plain) (contactLine r) := by
  rw [contactLine]
  simp only [List.isEmpty_iff]
  exact mentions_joinPresent " | " _

/-- A summary mentions everything that it is about, in order, and each point behind a bullet. -/
theorem mentions_summarize (r : Resume) : Mentions r.mentions r.summarize := by
  have hheader := (mentions_contactLine r).append_left ['\n']
  have hbelow : Mentions (Part.all.flatMap (·.mentions r))
      ((r.blocks.flatMap ([] :: ·)).flatMap (['\n'] ++ ·)) := mentions_sections Part.all
  rw [summarize_eq_join, summaryLines, Text.join_cons, List.flatMap_cons]
  exact ((Mentions.plain_self r.fullName).append (hheader.append hbelow)).append_right ['\n']

end Resume

end Curriculum
