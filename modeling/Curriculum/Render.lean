import Curriculum.Artifact.Basic
import Curriculum.Compiler.Pdf
import Curriculum.Latex.Escape
import Curriculum.Registry.Basic
import Curriculum.Resume.Build
import Curriculum.Resume.Summary
import Curriculum.Resume.Value
import Curriculum.Template.Expand
import Curriculum.Template.Parse

/-! # Rendering

A submission becomes a résumé, and the résumé becomes a summary, LaTeX source or a pdf made from
that source. Where the compiler fails to make the pdf, the source is the result. -/

namespace Curriculum

inductive RenderError where
  | notFound (id : Text)
  /-- The files around the compiler cannot be handled. -/
  | unexpected
  /-- The compiler has been left behind without a deadline. -/
  | aborted
  deriving DecidableEq, Repr

def RenderError.message : RenderError → Text
  | .notFound id => "template not found: ".toList ++ id
  | .unexpected => "internal render failure"
  | .aborted => CompileError.message .noDeadline

/-- The LaTeX source of a submission in a template's body. -/
def Template.source (body : Text) (submission : Json.Value) : Text :=
  Template.expand (Template.parse body) (Latex.sanitize (Resume.build submission).toValue)

def Resume.summaryOf (submission : Json.Value) : Text := (Resume.build submission).summarize

open Program

/-- The pdf of a source, or else what becomes of the failure. -/
def Compiler.artifact (c : Compiler) (stem source : Text) : Program (Except RenderError Artifact) :=
  (c.pdf stem source).bind fun
    | .ok bytes => done (.ok ⟨stem, .pdf bytes⟩)
    | .error .noDeadline => done (.error .aborted)
    | .error e =>
      if e.isCompilerFailure then
        ask (.warn (.sourceReturned stem)) fun _ => done (.ok ⟨stem, .source source⟩)
      else ask (.warn (.renderFailed stem)) fun _ => done (.error .unexpected)

/-- Renders a submission with a template in a format. -/
def Template.render (t : Template) (c : Compiler) (submission : Json.Value) :
    Format → Program (Except RenderError Artifact)
  | .summary => done (.ok ⟨t.definition.id.text, .summary (Resume.summaryOf submission)⟩)
  | .source => done (.ok ⟨t.definition.id.text, .source (Template.source t.body submission)⟩)
  | .pdf => c.artifact t.definition.id.text (Template.source t.body submission)

def Registry.render (r : Registry) (c : Compiler) (id : Text) (submission : Json.Value)
    (format : Format) : Program (Except RenderError Artifact) :=
  match r.template id with
  | .ok t => t.render c submission format
  | .error _ => done (.error (.notFound id))

end Curriculum
