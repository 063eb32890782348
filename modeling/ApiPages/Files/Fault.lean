/-!
# Faults of a file system

Why an operation on a file fails, and how the system words it.
-/

namespace ApiPages.Files

/-- Why an operation on a file fails. -/
inductive Fault where
  | notFound
  | alreadyExists
  | notDirectory
  | isDirectory
  | nameTooLong
  /-- A path with a NUL names nothing. -/
  | nulInPath
  /-- The bytes of the file are no text. -/
  | notText
  /-- Any other fault, with the system's words and number for it. -/
  | other (words : String) (number : Nat)
  deriving DecidableEq, Repr

namespace Fault

/-- A fault that the system numbers. -/
def numbered (words : String) (number : Nat) : String :=
  words ++ " (os error " ++ toString number ++ ")"

/-- The wording of a fault. -/
def message : Fault → String
  | notFound => numbered "No such file or directory" 2
  | alreadyExists => numbered "File exists" 17
  | notDirectory => numbered "Not a directory" 20
  | isDirectory => numbered "Is a directory" 21
  | nameTooLong => numbered "File name too long" 36
  | nulInPath => "file name contained an unexpected NUL byte"
  | notText => "stream did not contain valid UTF-8"
  | other words number => numbered words number

end Fault

end ApiPages.Files
