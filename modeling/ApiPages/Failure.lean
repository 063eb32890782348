/-!
# Failures

What can go wrong, from the parameter file to the last page. A failure
either concerns one entry or one page (`perEntry`), and the run goes on
without it, or it ends the run.
-/

namespace ApiPages

/-- A failure, with what its message shows. -/
inductive Failure where
  /-- An operation on files outside a page or an input. -/
  | io (reason : String)
  /-- A text that is not JSON, or not the value it should be. -/
  | json (reason : String)
  /-- An input that could not be read as a document. -/
  | document (file reason : String)
  /-- A document that holds no collection. -/
  | collection (file reason : String)
  /-- A bad parameter file. -/
  | parameters (reason : String)
  /-- An entry of a kind that has no page. -/
  | unsupported (name tag : String)
  /-- An entry, or a part of one, whose shape is not its kind's. -/
  | malformed (name tag reason : String)
  /-- A template that could not be rendered. -/
  | template (reason : String)
  /-- A page that could not be written. -/
  | write (path reason : String)
  deriving DecidableEq, Repr

namespace Failure

/-- The wording of a failure. -/
def message : Failure → String
  | io reason => "IO error: " ++ reason
  | json reason => "JSON error: " ++ reason
  | document file reason => "Parse error in " ++ file ++ ": " ++ reason
  | collection file reason => "Invalid collection in " ++ file ++ ": " ++ reason
  | parameters reason => "Invalid parameter file: " ++ reason
  | unsupported name tag => "Unsupported entry `" ++ name ++ "` with entry type `" ++ tag ++ "`"
  | malformed name tag reason => "Malformed entry `" ++ name ++ "` (" ++ tag ++ "): " ++ reason
  | template reason => "Template error: " ++ reason
  | write path reason => "Failed to write " ++ path ++ ": " ++ reason

/-- Whether the failure concerns one entry or one page alone. -/
def perEntry : Failure → Bool
  | unsupported .. | malformed .. | template _ | write .. => true
  | _ => false

end Failure

end ApiPages
