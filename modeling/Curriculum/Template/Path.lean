import Curriculum.Json.Value
import Curriculum.Template.Node

/-! # Paths

A path names a position below a scope: keys of objects and positions in arrays with points between
them, or the scope itself. -/

namespace Curriculum.Template

/-- The value one segment below a value. -/
def child (v : Json.Value) (segment : Text) : Option Json.Value :=
  match v with
  | .object members => lookup segment members
  | .array items => (Text.word64? segment).bind fun i => items[i]?
  | _ => none

/-- The value that a path names below a scope, if there is one. Blanks around the path do not
count. -/
def resolve (scope : Json.Value) (path : Text) : Option Json.Value :=
  let path := Text.trim path
  if path = thisWord then some scope
  else (Text.split '.' path).foldlM child scope

end Curriculum.Template
