import Curriculum.Resume.Basic

/-! # Résumés as JSON

Templates see a résumé as a JSON value with a member for each field. Reading is strict: every field
has to be there and of the right kind, and members with other names are passed over. -/

namespace Curriculum

open Json (Record Value)

/-- A list of texts as an array of strings. -/
def Text.listValue (ts : List Text) : Value := .array (ts.map .string)

namespace Education

def toValue (e : Education) : Value :=
  .object [("institute", .string e.institute), ("location", .string e.location),
    ("degree", .string e.degree), ("year", .string e.year), ("coursework", .string e.coursework),
    ("coursework_items", Text.listValue e.courseworkItems)]

def ofValue? (v : Value) : Option Education := do
  let r ← Record.ofValue? 6 v
  some {
    institute := ← r.text? 0 "institute"
    location := ← r.text? 1 "location"
    degree := ← r.text? 2 "degree"
    year := ← r.text? 3 "year"
    coursework := ← r.text? 4 "coursework"
    courseworkItems := ← (← r.get? 5 "coursework_items").texts? }

end Education

namespace Experience

def toValue (e : Experience) : Value :=
  .object [("company", .string e.company), ("location", .string e.location),
    ("role", .string e.role), ("duration", .string e.duration),
    ("points", Text.listValue e.points)]

def ofValue? (v : Value) : Option Experience := do
  let r ← Record.ofValue? 5 v
  some {
    company := ← r.text? 0 "company"
    location := ← r.text? 1 "location"
    role := ← r.text? 2 "role"
    duration := ← r.text? 3 "duration"
    points := ← (← r.get? 4 "points").texts? }

end Experience

namespace Project

def toValue (p : Project) : Value :=
  .object [("name", .string p.name), ("date", .string p.date), ("points", Text.listValue p.points)]

def ofValue? (v : Value) : Option Project := do
  let r ← Record.ofValue? 3 v
  some {
    name := ← r.text? 0 "name"
    date := ← r.text? 1 "date"
    points := ← (← r.get? 2 "points").texts? }

end Project

namespace Resume

def toValue (m : Resume) : Value :=
  .object [("full_name", .string m.fullName), ("location", .string m.location),
    ("phone", .string m.phone), ("email", .string m.email), ("website", .string m.website),
    ("website_display", .string m.websiteDisplay), ("summary", .string m.summary),
    ("skills_expert", .string m.skillsExpert), ("skills_proficient", .string m.skillsProficient),
    ("skills_familiar", .string m.skillsFamiliar), ("languages", .string m.languages),
    ("education", .array (m.education.map Education.toValue)),
    ("experience", .array (m.experience.map Experience.toValue)),
    ("projects", .array (m.projects.map Project.toValue))]

/-- The list in a field of a record, each item read by `read`. -/
private def listField? (r : Record Value) (position : Nat) (name : Text) (read : Value → Option α) :
    Option (List α) := do
  (← (← r.get? position name).items?).mapM read

def ofValue? (v : Value) : Option Resume := do
  let r ← Record.ofValue? 14 v
  some {
    fullName := ← r.text? 0 "full_name"
    location := ← r.text? 1 "location"
    phone := ← r.text? 2 "phone"
    email := ← r.text? 3 "email"
    website := ← r.text? 4 "website"
    websiteDisplay := ← r.text? 5 "website_display"
    summary := ← r.text? 6 "summary"
    skillsExpert := ← r.text? 7 "skills_expert"
    skillsProficient := ← r.text? 8 "skills_proficient"
    skillsFamiliar := ← r.text? 9 "skills_familiar"
    languages := ← r.text? 10 "languages"
    education := ← listField? r 11 "education" Education.ofValue?
    experience := ← listField? r 12 "experience" Experience.ofValue?
    projects := ← listField? r 13 "projects" Project.ofValue? }

end Resume

end Curriculum
