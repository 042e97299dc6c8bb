import Curriculum.Files.Path

/-! # Warnings

What is reported beside a result without changing it. -/

namespace Curriculum

inductive Warning where
  /-- A directory whose name is no template id. -/
  | invalidId (path : Text)
  /-- A template directory without a schema file. -/
  | noSchema (template : Text)
  /-- A template directory with a schema file and without a body. -/
  | noBody (template : Text)
  /-- The compiler could not run, failed, hung or left nothing, with the end of what it said. -/
  | compilerFailed (log : Text)
  /-- The LaTeX source takes the place of a pdf. -/
  | sourceReturned (template : Text)
  /-- Files around the compiler could not be handled. -/
  | renderFailed (template : Text)
  /-- A compile directory stays behind. -/
  | directoryLeft
  deriving DecidableEq, Repr

namespace Warning

def message : Warning → Text
  | .invalidId _ => "skipping template directory with invalid id"
  | .noSchema _ => "skipping template without schema descriptor"
  | .noBody _ => "skipping template without template.tex"
  | .compilerFailed _ => "compiler failed"
  | .sourceReturned _ => "pdf compile failed; returning source"
  | .renderFailed _ => "render failed"
  | .directoryLeft => "failed to remove compile directory"

/-- What the warning is about, under the name of its kind. -/
def detail? : Warning → Option (Text × Text)
  | .invalidId path => some ("dir", Path.display path)
  | .noSchema template | .noBody template | .sourceReturned template | .renderFailed template =>
    some ("template", template)
  | .compilerFailed log => some ("log", log)
  | .directoryLeft => none

end Warning

end Curriculum
