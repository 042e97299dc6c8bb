import Curriculum.Resume.Basic

/-! # The text summary

A summary is a header of two lines and a section for each part of the résumé that is not empty,
with an empty line between them. Nothing in it is escaped. -/

namespace Curriculum.Resume

/-- The texts that are not empty, with `sep` between them. -/
def joinPresent (sep : Text) (parts : List Text) : Text :=
  Text.join sep (parts.filter fun p => !p.isEmpty)

def presentLine (line : Text) : List Text := if line.isEmpty then [] else [line]

/-- `label` and the text, unless the text is empty. -/
def labelled (label t : Text) : List Text := if t.isEmpty then [] else [label ++ t]

/-- The parts with commas, and the trailer in parentheses; what is empty is left out. -/
def heading (parts : List Text) (trailer : Text) : Text :=
  let line := joinPresent ", " parts
  if trailer.isEmpty then line
  else (if line.isEmpty then [] else line ++ [' ']) ++ ['('] ++ trailer ++ [')']

/-- A point as a line. -/
def bullet (point : Text) : Text := "  - ".toList ++ point

def contactLine (m : Resume) : Text :=
  joinPresent " | "
    [m.location, m.phone, m.email,
      if m.websiteDisplay.isEmpty then m.website else m.websiteDisplay]

def educationLines (e : Education) : List Text :=
  presentLine (heading [e.degree, e.institute] e.year) ++ labelled "  " e.location ++
    labelled "  Coursework: " e.coursework

def experienceLines (e : Experience) : List Text :=
  presentLine (heading [e.role, e.company] e.duration) ++ labelled "  " e.location ++
    e.points.map bullet

def projectLines (p : Project) : List Text :=
  presentLine (heading [p.name] p.date) ++ p.points.map bullet

def skillLines (m : Resume) : List Text :=
  labelled "Expert: " m.skillsExpert ++ labelled "Proficient: " m.skillsProficient ++
    labelled "Familiar: " m.skillsFamiliar ++ labelled "Languages: " m.languages

/-- A titled section, unless there is nothing to say. -/
def titled (title : Text) (present : Bool) (lines : List Text) : List (List Text) :=
  if present then [title :: lines] else []

/-- The header and the sections in their order, each as its lines. -/
def sections (m : Resume) : List (List Text) :=
  [[m.fullName, contactLine m]] ++
    titled "SUMMARY" (!m.summary.isEmpty) [m.summary] ++
    titled "EDUCATION" (!m.education.isEmpty) (m.education.flatMap educationLines) ++
    titled "WORK EXPERIENCE" (!m.experience.isEmpty) (m.experience.flatMap experienceLines) ++
    titled "PROJECTS" (!m.projects.isEmpty) (m.projects.flatMap projectLines) ++
    titled "SKILLS" (!(skillLines m).isEmpty) (skillLines m)

def summarize (m : Resume) : Text :=
  Text.join ['\n', '\n'] ((sections m).map (Text.join ['\n'])) ++ ['\n']

end Curriculum.Resume
