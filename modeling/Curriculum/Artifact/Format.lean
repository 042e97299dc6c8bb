import Curriculum.Json.Value
import Curriculum.Text.Blank

/-! # Output formats -/

namespace Curriculum

/-- What a résumé can be rendered to. -/
inductive Format where
  | source
  | summary
  | pdf
  deriving DecidableEq, Inhabited, Repr

namespace Format

def name : Format → Text
  | .source => "source"
  | .summary => "summary"
  | .pdf => "pdf"

def extension : Format → Text
  | .source => "tex"
  | .summary => "txt"
  | .pdf => "pdf"

def sourceWords : List Text := ["source", "tex"]

def summaryWords : List Text := ["summary", "text", "txt"]

/-- The format that a request asks for. Blanks around the word and the case of ASCII letters do not
count; what is no word for a format asks for a pdf. -/
def ofRequest (raw : Text) : Format :=
  let word := Text.lowerAscii (Text.trim raw)
  if sourceWords.contains word then .source
  else if summaryWords.contains word then .summary
  else .pdf

/-- The format of a request that may leave it out. -/
def ofRequest? (raw : Option Text) : Format := (raw.map ofRequest).getD .pdf

/-- The format that a JSON value names exactly. -/
def ofValue? (v : Json.Value) : Option Format :=
  v.choice?.bind fun word => [source, summary, pdf].find? fun format => format.name = word

end Format

end Curriculum
