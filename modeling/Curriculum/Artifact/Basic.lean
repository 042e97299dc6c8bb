import Curriculum.Artifact.Format
import Curriculum.Text.Utf8

/-! # Artifacts

The result of a render: LaTeX source or a text summary, which are text, or a compiled pdf, which is
bytes. Each comes with the name and the type under which it is offered for download. -/

namespace Curriculum

inductive Content where
  | source (text : Text)
  | summary (text : Text)
  | pdf (bytes : Bytes)
  deriving DecidableEq, Repr

structure Artifact where
  stem : Text
  content : Content
  deriving DecidableEq, Repr

namespace Artifact

/-- The format of which the content is. -/
def format (a : Artifact) : Format :=
  match a.content with
  | .source _ => .source
  | .summary _ => .summary
  | .pdf _ => .pdf

/-- The content as the bytes of a file. -/
def body (a : Artifact) : Bytes :=
  match a.content with
  | .source t | .summary t => Utf8.encode t
  | .pdf bytes => bytes

def isBinary (a : Artifact) : Bool := a.format = .pdf

def contentType (a : Artifact) : Text :=
  match a.format with
  | .source => "application/x-tex"
  | .summary => "text/plain; charset=utf-8"
  | .pdf => "application/pdf"

def filename (a : Artifact) : Text := a.stem ++ '.' :: a.format.extension

def contentDisposition (a : Artifact) : Text :=
  "attachment; filename=\"".toList ++ a.filename ++ ['"']

end Artifact

end Curriculum
