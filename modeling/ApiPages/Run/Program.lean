import ApiPages.Markdown.Standard
import ApiPages.Run.CommandLine
import ApiPages.Run.Parameters
import ApiPages.Run.Publish

/-!
# The program

From arguments to an outcome: what is printed and whether all went well.
Nothing is written before the command line, the parameter file and every
input have been read.
-/

namespace ApiPages

/-- What the program leaves: its two streams, and whether it succeeded. -/
structure Outcome where
  success : Bool
  stdout : String
  stderr : String
  deriving DecidableEq, Repr

namespace Outcome

/-- An outcome that says nothing but why it failed. -/
def failure (stderr : String) : Outcome := ⟨false, "", stderr⟩

/-- The outcome of a failure in some context. -/
def ofFailure (context : String) (f : Failure) : Outcome :=
  let cause := match f with
    | .write _ reason => ": " ++ reason
    | _ => ""
  failure ("error: " ++ context ++ ": " ++ f.message ++ cause ++ "\n")

/-- The outcome of a run over a number of entries. -/
def ofReport (coloured : Bool) (total : Nat) (r : Run.Report) : Outcome where
  success := !r.hasFailures
  stdout := "Rendered " ++ toString r.written.length ++ " of " ++ toString total
    ++ " entries to " ++ r.out ++ "\n"
  stderr :=
    let line (d : Diagnostic) : String := (if coloured then d.coloured else d.text) ++ "\n"
    String.join (r.diagnostics.map line) ++ Diagnostic.summary r.diagnostics

end Outcome

namespace Program

open Files (Disk)

variable {m : Type → Type} [Monad m]

/-- Whether diagnostics are coloured, by the name of the terminal and by
whether the user refuses colours. -/
def wantsColour (terminal : Option String) (refused : Bool) : Bool :=
  terminal.any (· != "dumb") && !refused

/-- Renders what parameters ask for. -/
def renderInputs (disk : Disk m) (markdown : Markdown.Engine) (coloured : Bool)
    (style : PageStyle) (ps : Parameters) : m Outcome := do
  match ← Run.readAll disk ps.sources with
  | .error e => pure (.ofFailure "failed to load doc entries" e)
  | .ok collections =>
    match ← Run.publishAll disk markdown style ps.out collections with
    | .error e => pure (.ofFailure ("cannot write to " ++ ps.out) e)
    | .ok report =>
      pure (.ofReport coloured (collections.flatMap (·.entries)).length report)

/-- Renders what a request asks for. -/
def render (disk : Disk m) (markdown : Markdown.Engine) (coloured : Bool) (r : Request) :
    m Outcome := do
  match ← Parameters.read disk r.file with
  | .error e => pure (.ofFailure ("invalid parameter file " ++ r.file) e)
  | .ok ps => renderInputs disk markdown coloured ⟨r.standalone, r.stylesheet⟩ ps

/-- Runs the program with arguments, on its own engine unless there is another
one. -/
def run (disk : Disk m) (coloured : Bool) (arguments : List String)
    (markdown : Markdown.Engine := .standard true) : m Outcome :=
  match Request.parse arguments with
  | .error e => pure (.failure ("error: " ++ e.message ++ "\n\n" ++ usage ++ "\n"))
  | .ok none => pure ⟨true, usage ++ "\n", ""⟩
  | .ok (some request) => render disk markdown coloured request

end Program

end ApiPages
