import Curriculum.Resume.Basic
import Curriculum.Text.Blank
import Curriculum.Text.Lines

/-! # From a submission to a résumé

A submission is never refused. Scalars of any kind become text, missing ones are empty, what is no
object is an empty submission, and blank points are dropped. -/

namespace Curriculum.Resume

open Json (Members Value)

/-- The text of an item of a list: strings as they are, numbers as they are written. -/
def itemText? : Value → Option Text
  | .string s => some s
  | .number n => some n.display
  | _ => none

/-- The text of a field that holds a single value. A list becomes its items with commas between
them; null and objects are empty. -/
def scalarText : Option Value → Text
  | some (.string s) => s
  | some (.number n) => n.display
  | some (.bool true) => "true"
  | some (.bool false) => "false"
  | some (.array items) => Text.join ", " (items.filterMap itemText?)
  | _ => []

def scalar (fields : Members) (key : Text) : Text := scalarText (lookup key fields)

/-- The objects of a list that is a field of a submission. -/
def groups (fields : Members) (key : Text) : List Members :=
  match lookup key fields with
  | some (.array items) => items.filterMap Value.members?
  | _ => []

/-- What may become a point: the texts of a list, or the lines of a text. -/
def candidates : Option Value → List Text
  | some (.array items) => items.filterMap itemText?
  | some (.string s) => Text.lines s
  | _ => []

/-- The points of a group. -/
def points (group : Members) : List Text :=
  (candidates (lookup "points" group)).filter fun p => !Text.allBlank p

def educationOf (fields : Members) : Education :=
  let coursework := scalar fields "edu_coursework"
  { institute := scalar fields "edu_institute"
    location := scalar fields "edu_location"
    degree := scalar fields "edu_degree"
    year := scalar fields "edu_year"
    coursework
    courseworkItems := if Text.allBlank coursework then [] else [coursework] }

def educationKeys : List Text :=
  ["edu_institute", "edu_location", "edu_degree", "edu_year", "edu_coursework"]

/-- Something is said about the education. -/
def hasEducation (fields : Members) : Bool :=
  educationKeys.any fun key => !(scalar fields key).isEmpty

def experienceOf (group : Members) : Experience where
  company := scalar group "company"
  location := scalar group "location"
  role := scalar group "role"
  duration := scalar group "duration"
  points := points group

def projectOf (group : Members) : Project where
  name := scalar group "name"
  date := scalar group "date"
  points := points group

def ofFields (fields : Members) : Resume where
  fullName := scalar fields "full_name"
  location := scalar fields "location"
  phone := scalar fields "phone"
  email := scalar fields "email"
  website := scalar fields "website"
  websiteDisplay := scalar fields "website_display"
  summary := scalar fields "summary"
  skillsExpert := scalar fields "skills_expert"
  skillsProficient := scalar fields "skills_proficient"
  skillsFamiliar := scalar fields "skills_familiar"
  languages := scalar fields "languages"
  education := if hasEducation fields then [educationOf fields] else []
  experience := (groups fields "experience").map experienceOf
  projects := (groups fields "projects").map projectOf

/-- The résumé of any submission. -/
def build (submission : Value) : Resume := ofFields (submission.members?.getD [])

end Curriculum.Resume
