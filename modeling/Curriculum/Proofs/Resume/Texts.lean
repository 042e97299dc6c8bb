import Curriculum.Resume.Basic

/-! # The texts of a résumé

`texts` lists every text of a résumé, at every level and in the order of the fields, and `mapTexts`
changes each of them and nothing else. -/

namespace Curriculum

namespace Education

def texts (e : Education) : List Text :=
  [e.institute, e.location, e.degree, e.year, e.coursework] ++ e.courseworkItems

def mapTexts (f : Text → Text) (e : Education) : Education where
  institute := f e.institute
  location := f e.location
  degree := f e.degree
  year := f e.year
  coursework := f e.coursework
  courseworkItems := e.courseworkItems.map f

theorem texts_mapTexts (f : Text → Text) (e : Education) :
    (e.mapTexts f).texts = e.texts.map f := by
  simp [texts, mapTexts]

end Education

namespace Experience

def texts (e : Experience) : List Text := [e.company, e.location, e.role, e.duration] ++ e.points

def mapTexts (f : Text → Text) (e : Experience) : Experience where
  company := f e.company
  location := f e.location
  role := f e.role
  duration := f e.duration
  points := e.points.map f

theorem texts_mapTexts (f : Text → Text) (e : Experience) :
    (e.mapTexts f).texts = e.texts.map f := by
  simp [texts, mapTexts]

end Experience

namespace Project

def texts (p : Project) : List Text := [p.name, p.date] ++ p.points

def mapTexts (f : Text → Text) (p : Project) : Project where
  name := f p.name
  date := f p.date
  points := p.points.map f

theorem texts_mapTexts (f : Text → Text) (p : Project) :
    (p.mapTexts f).texts = p.texts.map f := by
  simp [texts, mapTexts]

end Project

namespace Resume

/-- Every text of a résumé. -/
def texts (r : Resume) : List Text :=
  [r.fullName, r.location, r.phone, r.email, r.website, r.websiteDisplay, r.summary,
    r.skillsExpert, r.skillsProficient, r.skillsFamiliar, r.languages] ++
    r.education.flatMap Education.texts ++ r.experience.flatMap Experience.texts ++
    r.projects.flatMap Project.texts

/-- The résumé with `f` applied to each of its texts. -/
def mapTexts (f : Text → Text) (r : Resume) : Resume where
  fullName := f r.fullName
  location := f r.location
  phone := f r.phone
  email := f r.email
  website := f r.website
  websiteDisplay := f r.websiteDisplay
  summary := f r.summary
  skillsExpert := f r.skillsExpert
  skillsProficient := f r.skillsProficient
  skillsFamiliar := f r.skillsFamiliar
  languages := f r.languages
  education := r.education.map (Education.mapTexts f)
  experience := r.experience.map (Experience.mapTexts f)
  projects := r.projects.map (Project.mapTexts f)

theorem texts_mapTexts (f : Text → Text) (r : Resume) :
    (r.mapTexts f).texts = r.texts.map f := by
  simp only [texts, mapTexts, List.map_append, List.map_cons, List.map_nil, List.flatMap_map,
    List.map_flatMap, Education.texts_mapTexts, Experience.texts_mapTexts, Project.texts_mapTexts]

end Resume

end Curriculum
