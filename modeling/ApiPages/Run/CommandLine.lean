/-!
# The command line

One file name, and flags in any order around it.
-/

namespace ApiPages

/-- What the command line asks for. -/
structure Request where
  /-- The parameter file. -/
  file : String
  standalone : Bool
  stylesheet : Option String
  deriving DecidableEq, Repr

/-- What is wrong with a command line. -/
inductive UsageFault where
  | noStylesheet
  | secondFile (argument : String)
  | unknownFlag (argument : String)
  | noFile
  deriving DecidableEq, Repr

/-- The wording of a fault. -/
def UsageFault.message : UsageFault → String
  | noStylesheet => "--stylesheet requires a value"
  | secondFile argument => "Unexpected argument: " ++ argument
  | unknownFlag argument => "Unknown flag: " ++ argument
  | noFile => "missing <param-file> argument"

namespace Request

/-- The arguments read so far. -/
structure Draft where
  file : Option String
  standalone : Bool
  stylesheet : Option String
  deriving DecidableEq, Repr

/-- Whether an argument is a flag. -/
def isFlag (argument : String) : Bool := argument.toList.head? == some '-'

/-- Reads the arguments that are left. -/
def parseFrom (d : Draft) : List String → Except UsageFault (Option Request)
  | [] =>
    match d.file with
    | some file => .ok (some ⟨file, d.standalone, d.stylesheet⟩)
    | none => .error .noFile
  | argument :: more =>
    if argument == "--help" || argument == "-h" then .ok none
    else if argument == "--standalone" then parseFrom { d with standalone := true } more
    else if argument == "--stylesheet" then
      match more with
      | value :: more => parseFrom { d with stylesheet := some value } more
      | [] => .error .noStylesheet
    else if isFlag argument then .error (.unknownFlag argument)
    else if d.file.isSome then .error (.secondFile argument)
    else parseFrom { d with file := some argument } more

/-- Reads a command line; `none` when it asks for help. -/
def parse (arguments : List String) : Except UsageFault (Option Request) :=
  parseFrom ⟨none, false, none⟩ arguments

end Request

/-- What the program says about its command line. -/
def usage : String := "\n".intercalate [
  "refdocs - render API reference pages from doc-entry JSON",
  "",
  "USAGE:",
  "    refdocs [OPTIONS] <param-file>",
  "",
  "ARGS:",
  "    <param-file>    Line 1: comma-separated input JSON files",
  "                    Line 2: output directory",
  "",
  "OPTIONS:",
  "    --standalone           Wrap each page in a complete HTML document",
  "    --stylesheet <href>    Stylesheet linked from standalone pages",
  "    -h, --help             Print this help",
  "",
  "ENVIRONMENT:",
  "    REFDOCS_LOG            Log filter (default: info)"]

end ApiPages
