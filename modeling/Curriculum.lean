import Curriculum.Main
import Curriculum.Proofs.Compiler.Blame
import Curriculum.Proofs.Compiler.Conduct
import Curriculum.Proofs.Compiler.Confinement
import Curriculum.Proofs.Compiler.Deadline
import Curriculum.Proofs.Compiler.Exits
import Curriculum.Proofs.Compiler.Session
import Curriculum.Proofs.Compiler.Verdict
import Curriculum.Proofs.Json.Strings
import Curriculum.Proofs.Latex.Brace
import Curriculum.Proofs.Latex.Escape
import Curriculum.Proofs.Latex.Group
import Curriculum.Proofs.Program.History
import Curriculum.Proofs.Registry.Classic
import Curriculum.Proofs.Render
import Curriculum.Proofs.Template.Balance
import Curriculum.Proofs.Template.Forest
import Curriculum.Proofs.Template.Group
import Curriculum.Proofs.Template.Lossless
import Curriculum.Proofs.Template.Normal
import Curriculum.Proofs.Template.Path
import Curriculum.Proofs.Template.Print
import Curriculum.Proofs.Template.RoundTrip
import Curriculum.Proofs.Template.Sanitize
import Curriculum.Proofs.Template.Scan
import Curriculum.Proofs.Template.Site
import Curriculum.Proofs.Template.Step
import Curriculum.Proofs.Template.Stray
import Curriculum.Proofs.Template.Unroll
import Curriculum.Proofs.Text.Occurrence
import Curriculum.Proofs.Text.Trim
import Curriculum.Proofs.Files.Place
import Curriculum.Proofs.Files.Reach
import Curriculum.Proofs.Artifact.Atomic
import Curriculum.Proofs.Registry.Lookup
import Curriculum.Proofs.Registry.Directory
import Curriculum.Proofs.Picks
import Curriculum.Proofs.Resume.Build
import Curriculum.Proofs.Resume.Clean
import Curriculum.Proofs.Resume.Submit
import Curriculum.Proofs.Registry.Overlay
import Curriculum.Proofs.Files.Locate
import Curriculum.Proofs.Compiler.Calls
import Curriculum.Proofs.Artifact.Stages
import Curriculum.Proofs.Artifact.Name
import Curriculum.Proofs.Artifact.Series
import Curriculum.Proofs.Artifact.Leftover
import Curriculum.Proofs.Latex.Command
import Curriculum.Proofs.Latex.List
import Curriculum.Proofs.Template.Skeleton
import Curriculum.Proofs.Registry.Lists
import Curriculum.Proofs.Program.Mirror
import Curriculum.Proofs.CommandLine.Modes
import Curriculum.Proofs.Template.Block
import Curriculum.Proofs.Latex.Unescape
import Curriculum.Proofs.Latex.Reserved
import Curriculum.Proofs.Template.Reserved
import Curriculum.Proofs.Resume.Texts
import Curriculum.Proofs.Resume.Value
import Curriculum.Proofs.Resume.Highlights
import Curriculum.Proofs.Resume.Layout
import Curriculum.Proofs.Resume.Mention
import Curriculum.Proofs.Template.Position
import Curriculum.Proofs.Compiler.Timeline
import Curriculum.Proofs.Registry.Placement
import Curriculum.Proofs.Schema.Value
import Curriculum.Proofs.Schema.Revision
