import ApiPages.Article.OfEntry
import ApiPages.Article.Html
import ApiPages.Files.Disk
import ApiPages.Run.Diagnostic

/-!
# A run — from inputs to pages

A run reads all its inputs before it touches the output directory, plans
the pages, and then writes them one by one in run order. A failure that
concerns one entry is reported and the run goes on; any other ends it.
-/

namespace ApiPages.Run

open Files (Disk)

variable {m : Type → Type} [Monad m]

/-! ## Inputs -/

/-- The text of an input file. -/
def readInput (disk : Disk m) (file : String) : m (Except Failure String) := do
  let outcome ← disk.read file
  pure (outcome.mapError fun e => .document file ("failed to read file: " ++ e.message))

/-- The collections of some input files, after those there are; the first
failure ends it. -/
def readOnto (disk : Disk m) (collections : List Collection) :
    List String → m (Except Failure (List Collection))
  | [] => pure (.ok collections)
  | file :: more => do
    match (← readInput disk file).bind (Collection.append collections file) with
    | .error e => pure (.error e)
    | .ok collections => readOnto disk collections more

/-- The collections of some input files. -/
def readAll (disk : Disk m) (files : List String) : m (Except Failure (List Collection)) :=
  readOnto disk [] files

/-! ## Pages -/

/-- Makes the output directory, if it is not there yet. -/
def prepare (disk : Disk m) (out : String) : m (Except Failure Unit) := do
  let outcome ← disk.makeDirectories out
  pure (outcome.mapError fun e => .write out e.message)

/-- Writes a page to a path and makes the directories around it; answers
the path. -/
def writeTo (disk : Disk m) (path : String) (html : Html) : m (Except Failure String) := do
  let outcome ← disk.write path html
  pure (match outcome with
    | .ok () => .ok path
    | .error e => .error (.write path e.message))

/-- Writes a page below the output directory. -/
def writePage (disk : Disk m) (out page : String) (html : Html) : m (Except Failure String) := do
  let path := Files.join out page
  match (Files.parents path).head? with
  | none => writeTo disk path html
  | some parent =>
    match ← disk.makeDirectories parent with
    | .error e => pure (.error (.write parent e.message))
    | .ok () => writeTo disk path html

/-! ## Entries -/

/-- An entry with its place and the name of its module. -/
structure Item where
  place : Article.Place
  moduleName : String
  entry : Entry

/-- The entries of a run, in order. -/
def items (collections : List Collection) : List Item :=
  collections.zipIdx.flatMap fun (c, i) =>
    c.entries.zipIdx.map fun (e, j) => ⟨⟨i, j⟩, c.moduleName, e⟩

/-- The page of an entry with its HTML. -/
def draft (ctx : Article.Context) (style : PageStyle) (item : Item) :
    Except Failure (String × Html) := do
  let article ← ctx.article item.place item.moduleName item.entry
  match ctx.index.plan.page? item.place.collection item.place.entry with
  | none => .error (.unsupported item.entry.name item.entry.tag)
  | some page =>
    let html ← article.render style
    .ok (page, html)

/-- Renders and writes one entry; answers the path. -/
def publish (disk : Disk m) (out : String) (ctx : Article.Context) (style : PageStyle)
    (item : Item) : m (Except Failure String) :=
  match draft ctx style item with
  | .error e => pure (.error e)
  | .ok (page, html) => writePage disk out page html

/-- What a run did. -/
structure Report where
  /-- The output directory. -/
  out : String
  /-- The paths that were written, in order. -/
  written : List String
  diagnostics : List Diagnostic
  deriving DecidableEq, Repr

namespace Report

/-- Whether something was not written. -/
def hasFailures (r : Report) : Bool := Diagnostic.anyError r.diagnostics

/-- The paths that were written, relative to the output directory. -/
def relativePaths (r : Report) : List String := r.written.map (Files.relative r.out)

/-- The report with one more path. -/
def wrote (r : Report) (path : String) : Report := { r with written := r.written ++ [path] }

/-- The report with one more failure. -/
def failed (r : Report) (item : Item) (f : Failure) : Report :=
  { r with
    diagnostics := r.diagnostics ++ [Diagnostic.ofFailure item.moduleName item.entry.name f] }

end Report

/-- Publishes entries one by one. -/
def publishEach (disk : Disk m) (ctx : Article.Context) (style : PageStyle) (r : Report) :
    List Item → m (Except Failure Report)
  | [] => pure (.ok r)
  | item :: more => do
    match ← publish disk r.out ctx style item with
    | .ok path => publishEach disk ctx style (r.wrote path) more
    | .error f =>
      if f.perEntry then publishEach disk ctx style (r.failed item f) more
      else pure (.error f)

/-- Renders every entry of some collections below an output directory. -/
def publishAll (disk : Disk m) (markdown : Markdown.Engine) (style : PageStyle) (out : String)
    (collections : List Collection) : m (Except Failure Report) := do
  match ← prepare disk out with
  | .error e => pure (.error e)
  | .ok () =>
    publishEach disk (Article.Context.ofRun markdown collections) style ⟨out, [], []⟩
      (items collections)

end ApiPages.Run
