import ApiPages.Run.Program

/-!
# The executable

The real file system as a disk, and the program on it.
-/

namespace ApiPages

/-- The fault that the system's number stands for. -/
def Files.Fault.ofNumber (number : UInt32) (words : String) : Files.Fault :=
  match number.toNat with
  | 2 => .notFound
  | 17 => .alreadyExists
  | 20 => .notDirectory
  | 21 => .isDirectory
  | 36 => .nameTooLong
  | n => .other words n

/-- The fault that an exception of the system stands for. -/
def Files.Fault.ofError : IO.Error → Files.Fault
  | .noFileOrDirectory _ n s | .interrupted _ n s | .alreadyExists _ n s
  | .invalidArgument _ n s | .permissionDenied _ n s | .resourceExhausted _ n s
  | .inappropriateType _ n s | .noSuchThing _ n s | .otherError n s | .resourceBusy n s
  | .resourceVanished n s | .unsupportedOperation n s | .hardwareFault n s
  | .unsatisfiedConstraints n s | .illegalOperation n s | .protocolError n s
  | .timeExpired n s => .ofNumber n s
  | .userError _ | .unexpectedEof => .notText

/-- An action with its exceptions as faults; a path with a NUL is refused
before the system sees it. -/
def guarded (path : String) (action : IO α) : IO (Except Files.Fault α) :=
  if path.toList.contains '\x00' then return .error .nulInPath
  else
    try
      return .ok (← action)
    catch e => return .error (.ofError e)

/-- The real file system. -/
def realDisk : Files.Disk IO where
  read path := guarded path (IO.FS.readFile path)
  makeDirectory path := guarded path (IO.FS.createDir path)
  isDirectory path := do
    match ← guarded path (IO.FS.realPath path) with
    | .ok real => real.isDir
    | .error _ => return false
  write path text := guarded path (IO.FS.writeFile path text)

end ApiPages

open ApiPages in
/-- Runs the program on the real file system. -/
def main (arguments : List String) : IO UInt32 := do
  let terminal ← IO.getEnv "TERM"
  let refused ← IO.getEnv "NO_COLOR"
  let coloured := Program.wantsColour terminal refused.isSome
  let outcome ← Program.run realDisk coloured arguments (.standard true)
  IO.print outcome.stdout
  IO.eprint outcome.stderr
  return if outcome.success then 0 else 1
