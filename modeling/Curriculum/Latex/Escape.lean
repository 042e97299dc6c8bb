import Curriculum.Json.Value

/-! # Escaping for LaTeX

LaTeX gives nine of its reserved characters a written form of their own. `escape` replaces them one
after the other; the backslash comes first, so that the backslashes of the other forms stay. -/

namespace Curriculum.Latex

/-- The reserved characters with their written forms, in the order of replacement. -/
def replacements : List (Char × Text) :=
  [('\\', ['\\', '\\']), ('#', ['\\', '#']), ('%', ['\\', '%']), ('&', ['\\', '&']),
    ('_', ['\\', '_']), ('\x7b', ['\\', '\x7b']), ('\x7d', ['\\', '\x7d']),
    ('^', ['\\', '^', '\x7b', '\x7d']), ('~', ['\\', '~', '\x7b', '\x7d'])]

/-- The text with every reserved character in its written form. -/
def escape (t : Text) : Text :=
  replacements.foldl (fun done (c, image) => Text.substitute c image done) t

/-- The written form of a single character. -/
def escapeChar (c : Char) : Text := (replacements.lookup c).getD [c]

mutual
/-- The value with its strings escaped. Keys, numbers and the shape of the value stay. -/
def sanitize : Json.Value → Json.Value
  | .string s => .string (escape s)
  | .array items => .array (sanitizeItems items)
  | .object members => .object (sanitizeMembers members)
  | .null => .null
  | .bool b => .bool b
  | .number n => .number n

def sanitizeItems : List Json.Value → List Json.Value
  | [] => []
  | v :: vs => sanitize v :: sanitizeItems vs

def sanitizeMembers : List (Text × Json.Value) → List (Text × Json.Value)
  | [] => []
  | (k, v) :: ms => (k, sanitize v) :: sanitizeMembers ms
end

end Curriculum.Latex
