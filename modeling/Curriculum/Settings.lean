import Curriculum.Files.Tree
import Curriculum.Text.Blank
import Curriculum.Yaml.Document
import Curriculum.Schema.Field

/-! # Settings

Settings come from a file in the home directory. Whatever the file leaves out has a default, and so
has everything when there is no file. Its text is read as schema files are. -/

namespace Curriculum

structure CompilerSettings where
  /-- The program that turns LaTeX source into a pdf. -/
  program : Text := "pdflatex"
  /-- How long the program may take, in seconds. -/
  timeoutSecs : Nat := 60
  deriving DecidableEq, Repr

structure Settings where
  /-- The directory of the user's templates. -/
  templatesDir : Option Text := none
  compiler : CompilerSettings := {}
  deriving DecidableEq, Repr

/-- Why settings cannot be had. -/
inductive SettingsError where
  | io (path : Text)
  | parse (path : Text)
  deriving DecidableEq, Repr

def SettingsError.message : SettingsError → Text
  | .io path => "config io error at ".toList ++ Path.display path
  | .parse path => "failed to parse config at ".toList ++ Path.display path

open Yaml (Node)

def CompilerSettings.ofNode? (n : Node) : Option CompilerSettings := do
  let entries ← n.entries?
  if Node.distinct ["program", "timeout_secs"] entries then
    let standard : CompilerSettings := {}
    some {
      program := ← optional (lookup "program" entries) standard.program fun n =>
        n.text?.map Path.ofText
      timeoutSecs := ← optional (lookup "timeout_secs" entries) standard.timeoutSecs Node.word64? }
  else none

namespace Settings

def ofNode? (n : Node) : Option Settings := do
  let entries ← n.entries?
  if Node.distinct ["templates_dir", "compiler"] entries then
    some {
      templatesDir := ← optional (lookup "templates_dir" entries) none fun n =>
        if n.isNothing then some none else n.text?.map fun t => some (Path.ofText t)
      compiler := ← optional (lookup "compiler" entries) {} CompilerSettings.ofNode? }
  else none

/-- The directory of all that is the user's own. -/
def directory (home : Text) : Text := Path.join home ".vitae"

/-- The settings file. -/
def file (home : Text) : Text := Path.join (directory home) "config.yaml"

/-- Where the user's templates are unless the settings say otherwise. -/
def defaultTemplatesDir (home : Text) : Text := Path.join (directory home) "templates"

def parse? (t : Text) : Option Settings := (Node.parse? t).bind ofNode?

/-- The settings of a user. A blank file says nothing. -/
def loadBy (read : Text → Option Settings) (view : FileView) (home : Text) :
    Except SettingsError Settings :=
  let path := file home
  if view.present path then
    match view.read path with
    | .error _ => .error (.io path)
    | .ok bytes =>
      match Utf8.decode? bytes with
      | none => .error (.io path)
      | some t =>
        if Text.allBlank t then .ok {}
        else match read t with
          | some s => .ok s
          | none => .error (.parse path)
  else .ok {}

def load (view : FileView) (home : Text) : Except SettingsError Settings := loadBy parse? view home

end Settings

end Curriculum
