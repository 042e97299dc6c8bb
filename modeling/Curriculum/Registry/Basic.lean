import Curriculum.Files.Path
import Curriculum.Schema.Definition

/-! # Registries

A registry holds templates by id, in the order of the ids' bytes, each id once. -/

namespace Curriculum

/-- A template: what is published of it, and its body. -/
structure Template where
  definition : Definition
  body : Text

/-- Why a registry cannot be built or asked. -/
inductive RegistryError where
  /-- A directory or file cannot be read. -/
  | io (path : Text)
  /-- A schema file is malformed. -/
  | parse (path : Text)
  /-- A field of a schema has sub fields and is not repeatable. -/
  | invalidSchema (template field : Text)
  /-- No template has the id. -/
  | notFound (id : Text)
  deriving DecidableEq, Repr

def RegistryError.message : RegistryError → Text
  | .io path => "template io error at ".toList ++ Path.display path
  | .parse path => "failed to parse schema at ".toList ++ Path.display path
  | .invalidSchema template field =>
    "invalid schema for template '".toList ++ template ++ "': field '".toList ++ field ++
      "' declares sub_fields but is not repeatable".toList
  | .notFound id => "template not found: ".toList ++ id

structure Registry where
  templates : List Template := []

namespace Registry

/-- The templates with one more, which replaces the one of its id. -/
def insertOrdered (new : Template) : List Template → List Template
  | [] => [new]
  | t :: ts =>
    if new.definition.id = t.definition.id then new :: ts
    else if Text.before new.definition.id.text t.definition.id.text then new :: t :: ts
    else t :: insertOrdered new ts

def insert (r : Registry) (new : Template) : Registry := ⟨insertOrdered new r.templates⟩

/-- The registry with all of the templates, later ones replacing earlier ones of their id. -/
def insertAll (r : Registry) (new : List Template) : Registry := new.foldl insert r

/-- The template that text asks for. Text that is no id asks for nothing that could be there. -/
def template (r : Registry) (id : Text) : Except RegistryError Template :=
  match (TemplateId.ofText? id).bind fun id => r.templates.find? (·.definition.id = id) with
  | some t => .ok t
  | none => .error (.notFound id)

def definition (r : Registry) (id : Text) : Except RegistryError Definition :=
  (r.template id).map Template.definition

def body (r : Registry) (id : Text) : Except RegistryError Text :=
  (r.template id).map Template.body

/-- The definitions in the order of their ids. -/
def list (r : Registry) : List Definition := r.templates.map Template.definition

def size (r : Registry) : Nat := r.templates.length

end Registry

end Curriculum
