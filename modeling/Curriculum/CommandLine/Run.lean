import Curriculum.Artifact.Write
import Curriculum.CommandLine.Request
import Curriculum.Json.Printer
import Curriculum.Json.Reader
import Curriculum.Registry.BuiltIn
import Curriculum.Render
import Curriculum.Table

/-! # Running requests

A request is carried out as a program that ends with what is printed and with an exit code: 0 for
success, 1 for a failure that is named, 2 for a command line that is not understood. -/

namespace Curriculum.CommandLine

open Program

/-- What a run prints, and its exit code. -/
structure Report where
  code : Nat := 0
  output : Bytes := []
  errors : Text := []
  deriving DecidableEq, Repr

/-- Why a request fails. -/
inductive Failure where
  | settings (path : Text)
  | registry
  | readInput
  | readFields (path : Text)
  | notJson
  | notFound (id : Text)
  | render (e : RenderError)
  | write (dir : Text)
  deriving DecidableEq, Repr

namespace Failure

def message : Failure → Text
  | settings path => "failed to load ".toList ++ Path.display path
  | registry => "failed to load templates"
  | readInput => "failed to read submission from stdin"
  | readFields path => "failed to read ".toList ++ Path.display path
  | notJson => "submission is not valid JSON"
  | notFound id => (RegistryError.notFound id).message
  | render e => e.message
  | write dir => "failed to write artifact to ".toList ++ Path.display dir

/-- A run that is aborted does not end as other failures do. -/
def code : Failure → Nat
  | render .aborted => 101
  | _ => 1

def report (f : Failure) : Report :=
  { code := f.code, errors := "Error: ".toList ++ f.message ++ ['\n'] }

end Failure

/-- The report of a run that succeeds. -/
def printed (lines : Text) : Report := { output := Utf8.encode (lines ++ ['\n']) }

/-- A text in a style, which a terminal knows by numbers, and plain text without colors. -/
def styled (colors : Bool) (style t : Text) : Text :=
  if colors then "\x1b[".toList ++ style ++ 'm' :: t ++ "\x1b[0m".toList else t

def version : Text := "vitae 0.1.0"

/-! ## Templates -/

/-- What is made of texts that the readers of others understand. -/
structure Readers where
  commandLine : List Text → Option Invocation
  settings : Text → Option Settings
  schema : SchemaReader

def settingsOf (readers : Readers) (home : Option Text) : Program (Except Failure Settings) :=
  match home with
  | none => done (.ok {})
  | some home => ask (.survey (Settings.file home)) fun view =>
    done ((Settings.loadBy readers.settings view home).mapError fun _ =>
      .settings (Settings.file home))

def Shared.override (o : Shared) (s : Settings) : Settings where
  templatesDir := o.templatesDir <|> s.templatesDir
  compiler := {
    program := o.compiler.getD s.compiler.program
    timeoutSecs := o.timeoutSecs.getD s.compiler.timeoutSecs }

def warnAll : List Warning → Program Unit
  | [] => done ()
  | w :: ws => ask (.warn w) fun _ => warnAll ws

/-- The templates of a directory over the built-in ones. -/
def registryOf (readers : Readers) (dir : Option Text) : Program (Except Failure Registry) :=
  match dir with
  | none => done (.ok .builtIn)
  | some dir => ask (.survey dir) fun view =>
    let (result, warnings) := Registry.loadBy readers.schema view (some dir)
    (warnAll warnings).bind fun _ => done (result.mapError fun _ => .registry)

/-- What all requests work with. -/
structure Workshop where
  registry : Registry
  compiler : Compiler
  /-- What is printed has colors. -/
  colors : Bool

def workshop (readers : Readers) (e : Environment) (o : Shared) : Program (Except Failure Workshop) :=
  (settingsOf readers e.home).bind fun
    | .error f => done (.error f)
    | .ok s =>
      let s := o.override s
      let dir := s.templatesDir <|> e.home.map Settings.defaultTemplatesDir
      (registryOf readers dir).bind fun result =>
        done (result.map fun registry => ⟨registry, .ofSettings s.compiler, e.colors⟩)

/-! ## Listings -/

/-- The row of a template in the table: id, name, number of fields, names of repeatable fields. -/
def row (d : Definition) : List Text :=
  let repeatable := d.fields.filter fun f => f.type = .repeatable
  [d.id.text, d.name, Number.digits d.fields.length,
    Text.join ", ".toList (repeatable.map FieldSpec.name)]

def head : List Text := ["id", "name", "fields", "repeatable"]

def listing (json colors : Bool) (r : Registry) : Text :=
  if json then (Json.Value.array (r.list.map Definition.summary)).pretty
  else if r.list.isEmpty then "No templates available."
  else Text.join ['\n'] (Table.draw head (r.list.map row)) ++ '\n' ::
    styled colors ['1'] (Number.digits r.size) ++ " template(s)".toList

def describe (id : Text) (r : Registry) : Report :=
  match r.definition id with
  | .ok d => printed d.toValue.pretty
  | .error _ => (Failure.notFound id).report

/-! ## Rendering -/

/-- How deep the values of a submission may be nested. -/
def submissionDepth : Nat := 127

/-- A submission is an object of fields, or an object with such an object under `fields`. -/
def unwrap (v : Json.Value) : Json.Value :=
  match v with
  | .object members =>
    match lookup "fields" members with
    | some (.object fields) => .object fields
    | _ => v
  | _ => v

/-- The submission that a text is. A blank text is an empty one. -/
def submissionOf (t : Text) : Except Failure Json.Value :=
  if Text.allBlank t then .ok (.object [])
  else match Json.Value.parse? t submissionDepth with
    | some v => .ok (unwrap v)
    | none => .error .notJson

/-- The submission in some bytes, which may not be text. -/
def submissionOfBytes (failure : Failure) (bytes : Bytes) : Except Failure Json.Value :=
  match Utf8.decode? bytes with
  | some t => submissionOf t
  | none => .error failure

/-- Reads the submission from a file, or from the input where a dash stands for it. -/
def readSubmission : Option Text → Program (Except Failure Json.Value)
  | none => done (.ok (.object []))
  | some ['-'] => ask .readInput fun bytes => done (submissionOfBytes .readInput bytes)
  | some path => ask (.read path) fun
    | .ok bytes => done (submissionOfBytes (.readFields path) bytes)
    | .error _ => done (.error (.readFields path))

/-- Told when the source stands in for a pdf. -/
def fallbackNotice (colors : Bool) : Text :=
  styled colors "1;33" "warning:" ++
    " pdf compile failed; produced LaTeX source instead (set RUST_LOG=debug for details)\n".toList

def noticeOf (colors : Bool) (format : Format) (a : Artifact) : Text :=
  if format = .pdf && !a.isBinary then fallbackNotice colors else []

/-- Told when an artifact is in its place. -/
def writtenLine (w : Written) (a : Artifact) : Text :=
  let state : Text := match w with
    | .fresh _ => "wrote"
    | .unchanged _ => "unchanged"
  "✓ ".toList ++ state ++ ' ' :: Path.display w.path ++ " (".toList ++ a.contentType ++ [')']

/-- Delivers an artifact to its destination, with a notice about it. -/
def deliver (notice : Text) (a : Artifact) : Destination → Program Report
  | .standardOutput => done { output := a.body, errors := notice }
  | .directory dir => (a.write dir).bind fun
    | .ok w => done { printed (writtenLine w a) with errors := notice }
    | .error _ => done (Failure.write dir).report

def render (w : Workshop) (id : Text) (fields : Option Text) (format : Format)
    (destination : Destination) : Program Report :=
  (readSubmission fields).bind fun
    | .error f => done f.report
    | .ok submission => (w.registry.render w.compiler id submission format).bind fun
      | .error e => done (Failure.render e).report
      | .ok a => deliver (noticeOf w.colors format a) a destination

/-! ## Requests -/

def Workshop.carryOut (w : Workshop) : Request → Program Report
  | .version => done (printed version)
  | .list json => done (printed (listing json w.colors w.registry))
  | .describe id => done (describe id w.registry)
  | .render id fields format destination =>
    render w id fields (Format.ofRequest format) destination

def Invocation.run (readers : Readers) (e : Environment) (i : Invocation) : Program Report :=
  if i.request = .version then done (printed version)
  else (workshop readers e i.shared).bind fun
    | .error f => done f.report
    | .ok w => w.carryOut i.request

/-- Carries out a command line, which may not be understood. -/
def runBy (readers : Readers) (e : Environment) (arguments : List Text) : Program Report :=
  match readers.commandLine arguments with
  | none => done { code := 2 }
  | some i => i.run readers e

def ownReaders (e : Environment) : Readers := ⟨parse? e, Settings.parse?, Descriptor.parse?⟩

def run (e : Environment) (arguments : List Text) : Program Report :=
  runBy (ownReaders e) e arguments

end Curriculum.CommandLine
