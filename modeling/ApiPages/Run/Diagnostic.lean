import ApiPages.Failure

/-!
# Diagnostics

What a run reports about one entry or file: how severe it is, what
happened, and where. On a terminal the place is dimmed and the severity
coloured.
-/

namespace ApiPages

/-- How severe a diagnostic is. -/
inductive Severity where
  /-- Something was not written. -/
  | error
  /-- Something was written, but is off. -/
  | warning
  | info
  deriving DecidableEq, Repr

namespace Severity

/-- The word for a severity. -/
def word : Severity → String
  | error => "error"
  | warning => "warning"
  | info => "info"

/-- The number of a severity's colour on a terminal: red, yellow or
blue. -/
def colour : Severity → Nat
  | error => 31
  | warning => 33
  | info => 34

end Severity

/-- A report about one entry or file. -/
structure Diagnostic where
  severity : Severity
  message : String
  moduleName : Option String
  entry : Option String
  /-- The file that could not be written. -/
  file : Option String
  deriving DecidableEq, Repr

namespace Diagnostic

/-- A diagnostic that says nothing of its place. -/
def plain (severity : Severity) (message : String) : Diagnostic :=
  ⟨severity, message, none, none, none⟩

/-- The diagnostic about an entry of a module. -/
def forEntry (d : Diagnostic) (moduleName entry : String) : Diagnostic :=
  { d with moduleName := some moduleName, entry := some entry }

/-- The diagnostic about a file. -/
def inFile (d : Diagnostic) (file : String) : Diagnostic := { d with file := some file }

/-- The entry that a diagnostic is about. -/
def subject? (d : Diagnostic) : Option String :=
  d.entry.map fun e =>
    match d.moduleName with
    | some m => m ++ "#" ++ e
    | none => e

/-- Where a diagnostic stands: the entry, with the file in parentheses, or
the file. -/
def location? (d : Diagnostic) : Option String :=
  match d.subject?, d.file with
  | some e, some f => some (e ++ " (" ++ f ++ ")")
  | some e, none => some e
  | none, f => f

/-- A diagnostic as plain text. -/
def text (d : Diagnostic) : String :=
  (match d.location? with | some l => l ++ ": " | none => "")
    ++ d.severity.word ++ ": " ++ d.message

/-- The code that sets a rendition of a terminal. -/
def rendition (n : Nat) : String := "\x1b[" ++ toString n ++ "m"

/-- Text in some renditions, between two resets. -/
def rendered (codes : List Nat) (s : String) : String :=
  rendition 0 ++ String.join (codes.map rendition) ++ s ++ rendition 0

/-- A diagnostic for a terminal: the place dimmed, the severity bold and in
its colour. -/
def coloured (d : Diagnostic) : String :=
  (match d.location? with | some l => rendered [2] l ++ ": " | none => "")
    ++ rendered [1, d.severity.colour] d.severity.word ++ ": " ++ d.message

/-- How many diagnostics have a severity. -/
def count (severity : Severity) (ds : List Diagnostic) : Nat :=
  ds.countP (·.severity == severity)

/-- Whether there is an error among the diagnostics. -/
def anyError (ds : List Diagnostic) : Bool := ds.any (·.severity == .error)

/-- How many errors and warnings there are; nothing when there are
none. -/
def summary (ds : List Diagnostic) : String :=
  let errors := count .error ds
  let warnings := count .warning ds
  if errors + warnings == 0 then ""
  else "\n" ++ toString errors ++ " error(s), " ++ toString warnings ++ " warning(s)\n"

/-- The diagnostic of a failure that concerns one entry. -/
def ofFailure (moduleName entry : String) (f : Failure) : Diagnostic :=
  let d := (plain .error f.message).forEntry moduleName entry
  match f with
  | .write path _ => d.inFile path
  | _ => d

end Diagnostic

end ApiPages
