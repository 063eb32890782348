import ApiPages.Files.Tree

/-!
# Disks

What the program asks of a file system: four operations. The program is
written against a `Disk`, so that one text of it works on the real one and
on a file tree, which is a value and can be reasoned about.

`makeDirectories` is built on them: it makes a directory and what is
missing around it, from the outside in.
-/

namespace ApiPages.Files

/-- The operations of a file system, in a monad. -/
structure Disk (m : Type → Type) where
  /-- The text of a file. -/
  read : String → m (Except Fault String)
  /-- Makes one directory. -/
  makeDirectory : String → m (Except Fault Unit)
  /-- Whether a path leads to a directory. -/
  isDirectory : String → m Bool
  /-- Writes a text to a file. -/
  write : String → String → m (Except Fault Unit)

/-- Keeps a new tree, or the old one when there is a fault. -/
def keep (step : Tree → Except Fault Tree) : StateM Tree (Except Fault Unit) := fun t =>
  match step t with
  | .ok t' => (.ok (), t')
  | .error e => (.error e, t)

/-- A file tree as a disk. -/
def Disk.ofTree : Disk (StateM Tree) where
  read path := fun t => (t.read path, t)
  makeDirectory path := keep fun t => t.makeDirectory path
  isDirectory path := fun t => (t.isDirectory path, t)
  write path text := keep fun t => t.write path text

namespace Disk

variable {m : Type → Type} [Monad m]

/-- The outcome of making a directory: that one is there already is no
fault. -/
def settled (disk : Disk m) (path : String) : Except Fault Unit → m (Except Fault Unit)
  | .ok () => pure (.ok ())
  | .error e => do
    if ← disk.isDirectory path then pure (.ok ()) else pure (.error e)

/-- Makes the first of some directories, each of which lies in the next;
the empty path is the working directory and there already. -/
def makeFirst (disk : Disk m) : List String → m (Except Fault Unit)
  | [] => pure (.error .notFound)
  | path :: around => do
    if path.isEmpty then pure (.ok ())
    else
      match ← disk.makeDirectory path with
      | .error .notFound =>
        match ← disk.makeFirst around with
        | .error e => pure (.error e)
        | .ok () => disk.settled path (← disk.makeDirectory path)
      | outcome => disk.settled path outcome

/-- Makes a directory and what is missing around it. -/
def makeDirectories (disk : Disk m) (path : String) : m (Except Fault Unit) :=
  disk.makeFirst (path :: parents path)

end Disk

end ApiPages.Files
