import Curriculum.Files.Tree
import Curriculum.Registry.Basic
import Curriculum.Schema.Descriptor
import Curriculum.Warning

/-! # Templates in directories

A directory of templates has a directory for each template, named by its id, with a schema file and
a body. Directories that lack one of these are passed over with a warning; a schema or a body that
cannot be read fails the whole load.

What a schema file says is left to a reader. `Descriptor.parse?` is one that knows plain YAML: it
reads no block scalars, anchors, aliases, tags or directives. An entry whose kind cannot be learned
is not among the directories of a listing, and there are no links. -/

namespace Curriculum

/-- The schema files of a template, the preferred one first. -/
def schemaFiles : List Text := ["schema.yaml", "schema.json"]

/-- The file of a template's body. -/
def bodyFile : Text := "template.tex"

def FileView.text? (view : FileView) (path : Text) : Option Text :=
  match view.read path with
  | .ok bytes => Utf8.decode? bytes
  | .error _ => none

/-- How the text of a schema file is read. -/
abbrev SchemaReader := Text → Option Descriptor

def Template.ofTexts (read : SchemaReader) (id : TemplateId) (schemaPath schema body : Text) :
    Except RegistryError Template :=
  match read schema with
  | none => .error (.parse schemaPath)
  | some d =>
    match misplacedIn? d.fields with
    | some field => .error (.invalidSchema id.text field.name)
    | none => .ok ⟨⟨id, d.name, d.fields⟩, Text.unifyLineEnds body⟩

inductive Finding where
  | skipped (warning : Warning)
  | failed (error : RegistryError)
  | loaded (template : Template)

/-- What becomes of the directory `name` in `dir`. -/
def FileView.inspect (view : FileView) (read : SchemaReader) (dir name : Text) : Finding :=
  let root := Path.join dir name
  match TemplateId.ofText? (Path.display name) with
  | none => .skipped (.invalidId root)
  | some id =>
    match (schemaFiles.map (Path.join root)).find? view.isFile with
    | none => .skipped (.noSchema name)
    | some schemaPath =>
      let bodyPath := Path.join root bodyFile
      if view.isFile bodyPath then
        match view.text? schemaPath, view.text? bodyPath with
        | none, _ => .failed (.io schemaPath)
        | some _, none => .failed (.io bodyPath)
        | some schema, some body =>
          match Template.ofTexts read id schemaPath schema body with
          | .ok t => .loaded t
          | .error e => .failed e
      else .skipped (.noBody name)

/-- The templates of several directories in turn, up to the first failure, and the warnings on the
way. -/
def FileView.inspectAll (view : FileView) (read : SchemaReader) (dir : Text) :
    List Text → Except RegistryError (List Template) × List Warning
  | [] => (.ok [], [])
  | name :: names =>
    match view.inspect read dir name with
    | .failed e => (.error e, [])
    | .skipped w =>
      let (result, warnings) := view.inspectAll read dir names
      (result, w :: warnings)
    | .loaded t =>
      let (result, warnings) := view.inspectAll read dir names
      (result.map (t :: ·), warnings)

/-- The templates of a directory. A directory that is not there has none. -/
def FileView.templates (view : FileView) (read : SchemaReader) (dir : Text) :
    Except RegistryError (List Template) × List Warning :=
  if view.present dir then
    match view.list dir with
    | .error _ => (.error (.io dir), [])
    | .ok entries =>
      let names := (entries.filter fun e => e.2).map fun e => e.1
      view.inspectAll read dir (names.mergeSort fun a b => !Path.before b a)
  else (.ok [], [])

namespace Registry

def ofDirectoryBy (read : SchemaReader) (view : FileView) (dir : Text) :
    Except RegistryError Registry × List Warning :=
  let (result, warnings) := view.templates read dir
  (result.map fun ts => insertAll {} ts, warnings)

def ofDirectory (view : FileView) (dir : Text) : Except RegistryError Registry × List Warning :=
  ofDirectoryBy Descriptor.parse? view dir

/-- A registry overlaid with the templates of a directory, if there is one. -/
def overlay (base : Registry) (read : SchemaReader) (view : FileView) (dir : Option Text) :
    Except RegistryError Registry × List Warning :=
  match dir with
  | none => (.ok base, [])
  | some dir =>
    let (result, warnings) := view.templates read dir
    (result.map fun ts => base.insertAll ts, warnings)

end Registry

end Curriculum
