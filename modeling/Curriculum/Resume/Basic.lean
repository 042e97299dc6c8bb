import Curriculum.Json.Value

/-! # Résumés

A résumé holds what every template is rendered from. All of its fields are present; what a
submission leaves out is empty. -/

namespace Curriculum

structure Education where
  institute : Text := []
  location : Text := []
  degree : Text := []
  year : Text := []
  coursework : Text := []
  /-- The coursework as a list of at most one item, so that a template can leave it out. -/
  courseworkItems : List Text := []
  deriving DecidableEq, Inhabited, Repr

structure Experience where
  company : Text := []
  location : Text := []
  role : Text := []
  duration : Text := []
  points : List Text := []
  deriving DecidableEq, Inhabited, Repr

structure Project where
  name : Text := []
  date : Text := []
  points : List Text := []
  deriving DecidableEq, Inhabited, Repr

structure Resume where
  fullName : Text := []
  location : Text := []
  phone : Text := []
  email : Text := []
  website : Text := []
  websiteDisplay : Text := []
  summary : Text := []
  skillsExpert : Text := []
  skillsProficient : Text := []
  skillsFamiliar : Text := []
  languages : Text := []
  education : List Education := []
  experience : List Experience := []
  projects : List Project := []
  deriving DecidableEq, Inhabited, Repr

end Curriculum
