import ApiPages.Proofs.Run.Inputs
import ApiPages.Run.Program

/-!
# When the program stops and when it succeeds

All that can stop the program before it writes is found by reading
(`Stopped`), and reading leaves the disk as it is; so a program that stops
has changed nothing, however many inputs it had read by then. Otherwise it
has its parameters and the collections of all its inputs (`Ready`), and what
is left is one run: it succeeds when the output directory can be made and
the entries are written one after another (`Written`).
-/

namespace ApiPages

open Files (Disk)

/-! ## Inputs -/

namespace Collection

/-- Whether a text is a document that holds a collection. -/
def IsDocument (content : String) : Prop :=
  ∃ v more, Json.read content = .ok v ∧ ofDocument 0 v = .ok more

/-- What came before a document does not decide whether it is one. -/
theorem append_of_isDocument {content : String} (h : IsDocument content)
    (cs : List Collection) (file : String) :
    append cs file content = .ok (afterDocument cs (file, content)) := by
  obtain ⟨v, more, hread, hmore⟩ := h
  have hfirst : append [] file content = .ok more := by
    unfold append
    rw [hread]
    dsimp only
    rw [List.length_nil, hmore]
    rfl
  have happend : append cs file content = .ok (cs ++ more.map (renumbered cs.length)) := by
    rw [append_eq_renumbered, hfirst]
    rfl
  rw [afterDocument, happend]

/-- A text that is no JSON is refused, whatever came before. -/
theorem append_of_read_error {content : String} {fault : Json.Fault}
    (h : Json.read content = .error fault) (cs : List Collection) (file : String) :
    ∃ f, append cs file content = .error f := by
  rw [append, h]
  exact ⟨_, rfl⟩

/-- So is JSON that is no document. -/
theorem append_of_ofDocument_error {content : String} {v : Json} {fault : CollectionFault}
    (hread : Json.read content = .ok v) (h : ofDocument 0 v = .error fault)
    (cs : List Collection) (file : String) : ∃ f, append cs file content = .error f := by
  have hadd := ofDocument_add 0 cs.length v
  rw [Nat.zero_add, h] at hadd
  rw [append, hread]
  dsimp only
  rw [hadd]
  exact ⟨_, rfl⟩

end Collection

namespace Run

open Collection (IsDocument afterDocument afterAll append_of_isDocument append_of_read_error
  append_of_ofDocument_error)
open Article (Context)

section

variable {σ : Type} {disk : Disk (StateM σ)} {s : σ}

/-- What can be wrong with an input. -/
inductive Refused (disk : Disk (StateM σ)) (s : σ) (file : String) : Prop
  | unreadable {e : Files.Fault} (read : (disk.read file s).1 = .error e) : Refused disk s file
  | unparsable {content : String} {fault : Json.Fault}
      (read : (disk.read file s).1 = .ok content) (parse : Json.read content = .error fault) :
      Refused disk s file
  | invalid {content : String} {v : Json} {fault : CollectionFault}
      (read : (disk.read file s).1 = .ok content) (parse : Json.read content = .ok v)
      (collection : Collection.ofDocument 0 v = .error fault) : Refused disk s file

/-- A file with its text, which is a document. -/
def IsInput (disk : Disk (StateM σ)) (s : σ) (document : String × String) : Prop :=
  (disk.read document.1 s).1 = .ok document.2 ∧ IsDocument document.2

/-- A file is refused or is an input. -/
theorem refused_or_isInput (disk : Disk (StateM σ)) (s : σ) (file : String) :
    Refused disk s file ∨ ∃ content, IsInput disk s (file, content) := by
  cases hread : (disk.read file s).1 with
  | error e => exact .inl (.unreadable hread)
  | ok content =>
    cases hparse : Json.read content with
    | error fault => exact .inl (.unparsable hread hparse)
    | ok v =>
      cases hmore : Collection.ofDocument 0 v with
      | error fault => exact .inl (.invalid hread hparse hmore)
      | ok more => exact .inr ⟨content, hread, v, more, hparse, hmore⟩

/-- Either one of some files is refused or all are documents. -/
theorem exists_refused_or_documents (disk : Disk (StateM σ)) (s : σ) (files : List String) :
    (∃ file ∈ files, Refused disk s file)
    ∨ ∃ documents : List (String × String), documents.map Prod.fst = files
      ∧ ∀ d ∈ documents, IsInput disk s d := by
  induction files with
  | nil => exact .inr ⟨[], rfl, fun d hd => by cases hd⟩
  | cons file files ih =>
    rcases refused_or_isInput disk s file with hrefused | ⟨content, hinput⟩
    · exact .inl ⟨file, List.mem_cons_self, hrefused⟩
    rcases ih with ⟨other, hmem, hrefused⟩ | ⟨documents, hfiles, hinputs⟩
    · exact .inl ⟨other, List.mem_cons_of_mem _ hmem, hrefused⟩
    · refine .inr ⟨(file, content) :: documents, by rw [List.map_cons, hfiles], fun d hd => ?_⟩
      rcases List.mem_cons.mp hd with rfl | hd
      · exact hinput
      · exact hinputs d hd

/-- A refused file adds no collections. -/
theorem Refused.bind_append {file : String} (h : Refused disk s file) (cs : List Collection) :
    ∃ f, (readInput disk file s).1.bind (Collection.append cs file) = .error f := by
  show ∃ f, ((disk.read file s).1.mapError _).bind (Collection.append cs file) = .error f
  cases h with
  | unreadable hread =>
    rw [hread]
    exact ⟨_, rfl⟩
  | unparsable hread hparse =>
    rw [hread]
    exact append_of_read_error hparse cs file
  | invalid hread hparse hfault =>
    rw [hread]
    exact append_of_ofDocument_error hparse hfault cs file

/-- An input is appended to what came before it. -/
theorem IsInput.bind_append {document : String × String} (h : IsInput disk s document)
    (cs : List Collection) :
    (readInput disk document.1 s).1.bind (Collection.append cs document.1)
      = .ok (afterDocument cs document) := by
  show ((disk.read document.1 s).1.mapError _).bind (Collection.append cs document.1) = _
  rw [h.1]
  exact append_of_isDocument h.2 cs document.1

/-- Every file is read from the disk as it is at first. -/
theorem readOnto_cons_of_still (h : Still disk) (cs : List Collection) (file : String)
    (files : List String) :
    readOnto disk cs (file :: files) s
      = match (readInput disk file s).1.bind (Collection.append cs file) with
        | .error f => (.error f, s)
        | .ok more => readOnto disk more files s := by
  have hstate : (readInput disk file s).2 = s := h file s
  rw [readOnto, bind_run, hstate]
  cases (readInput disk file s).1.bind (Collection.append cs file) <;> rfl

/-- A refused file ends the reading, wherever it stands. -/
theorem readOnto_of_refused (h : Still disk) {file : String} (hrefused : Refused disk s file) :
    ∀ (files : List String) (cs : List Collection), file ∈ files →
      ∃ f, readOnto disk cs files s = (.error f, s)
  | first :: files, cs, hmem => by
    rw [readOnto_cons_of_still h]
    cases hfirst : (readInput disk first s).1.bind (Collection.append cs first) with
    | error f => exact ⟨f, rfl⟩
    | ok more =>
      rcases List.mem_cons.mp hmem with rfl | hmem
      · obtain ⟨f, hf⟩ := hrefused.bind_append cs
        rw [hfirst] at hf
        cases hf
      · exact readOnto_of_refused h hrefused files more hmem

/-- Documents are read one after another. -/
theorem readOnto_of_documents (h : Still disk) :
    ∀ (documents : List (String × String)) (cs : List Collection),
      (∀ d ∈ documents, IsInput disk s d) →
        readOnto disk cs (documents.map Prod.fst) s = (.ok (documents.foldl afterDocument cs), s)
  | [], cs, _ => rfl
  | document :: documents, cs, hinputs => by
    rw [List.map_cons, readOnto_cons_of_still h,
      (hinputs document List.mem_cons_self).bind_append cs]
    exact readOnto_of_documents h documents _ fun d hd => hinputs d (List.mem_cons_of_mem _ hd)

/-! ## Entries that are written -/

variable {out : String} {ctx : Context} {style : PageStyle}

/-- The directory around a path is made, from one state of the disk to
another. -/
inductive MadeAround (disk : Disk (StateM σ)) (path : String) : σ → σ → Prop
  /-- Nothing lies around the path. -/
  | nothing (s : σ) (outermost : (Files.parents path).head? = none) : MadeAround disk path s s
  | directory {parent : String} {s s' : σ} (around : (Files.parents path).head? = some parent)
      (made : disk.makeDirectories parent s = (.ok (), s')) : MadeAround disk path s s'

/-- Entries that are all written, one after another, to some paths: each has
a draft, and the directory around its page is made before the page is
written. -/
inductive Written (disk : Disk (StateM σ)) (out : String) (ctx : Context) (style : PageStyle) :
    List Item → List String → σ → σ → Prop
  | nil (s : σ) : Written disk out ctx style [] [] s s
  | cons {item : Item} {items : List Item} {paths : List String} {page : String} {html : Html}
      {s s₁ s₂ s' : σ} (drafted : draft ctx style item = .ok (page, html))
      (around : MadeAround disk (Files.join out page) s s₁)
      (written : disk.write (Files.join out page) html s₁ = (.ok (), s₂))
      (more : Written disk out ctx style items paths s₂ s') :
      Written disk out ctx style (item :: items) (Files.join out page :: paths) s s'

/-- Writing a page answers its path exactly when the disk writes it. -/
theorem writeTo_eq_ok_iff {path path' : String} {html : Html} {s s' : σ} :
    writeTo disk path html s = (.ok path', s')
      ↔ path' = path ∧ disk.write path html s = (.ok (), s') := by
  rw [writeTo, bind_run]
  generalize disk.write path html s = answer
  obtain ⟨outcome, s₁⟩ := answer
  cases outcome with
  | error e => exact ⟨fun h => (by cases h), fun h => (by cases h.2)⟩
  | ok u =>
    constructor
    · intro h
      cases h
      exact ⟨rfl, rfl⟩
    · rintro ⟨rfl, h⟩
      cases h
      rfl

/-- A page is written exactly when the directory around it is made and the disk then
writes it. -/
theorem writePage_eq_ok_iff {page path : String} {html : Html} {s s' : σ} :
    writePage disk out page html s = (.ok path, s')
      ↔ path = Files.join out page ∧ ∃ s₁, MadeAround disk (Files.join out page) s s₁
        ∧ disk.write (Files.join out page) html s₁ = (.ok (), s') := by
  dsimp only [writePage]
  cases haround : (Files.parents (Files.join out page)).head? with
  | none =>
    dsimp only
    rw [writeTo_eq_ok_iff]
    refine and_congr_right fun _ => ⟨fun h => ⟨s, .nothing s haround, h⟩, ?_⟩
    rintro ⟨s₁, hmade, h⟩
    cases hmade with
    | nothing => exact h
    | directory hparent => cases haround.symm.trans hparent
  | some parent =>
    dsimp only
    rw [bind_run]
    have hmade_iff {s₁ : σ} : MadeAround disk (Files.join out page) s s₁
        ↔ disk.makeDirectories parent s = (.ok (), s₁) := by
      refine ⟨fun h => ?_, .directory haround⟩
      cases h with
      | nothing _ hnone => cases haround.symm.trans hnone
      | directory hparent hmade =>
        cases haround.symm.trans hparent
        exact hmade
    simp only [hmade_iff]
    generalize disk.makeDirectories parent s = made
    obtain ⟨outcome, s₁⟩ := made
    cases outcome with
    | error e => exact ⟨fun h => (by cases h), fun ⟨_, _, h, _⟩ => (by cases h)⟩
    | ok u =>
      dsimp only
      rw [writeTo_eq_ok_iff]
      refine and_congr_right fun _ => ⟨fun h => ⟨s₁, rfl, h⟩, ?_⟩
      rintro ⟨_, hmade, h⟩
      cases hmade
      exact h

/-- An entry is published when it has a draft that can be written. -/
theorem publish_eq_ok_iff {item : Item} {path : String} {s s' : σ} :
    publish disk out ctx style item s = (.ok path, s')
      ↔ ∃ page html s₁, draft ctx style item = .ok (page, html) ∧ path = Files.join out page
        ∧ MadeAround disk (Files.join out page) s s₁
        ∧ disk.write (Files.join out page) html s₁ = (.ok (), s') := by
  unfold publish
  cases draft ctx style item with
  | error f => exact ⟨fun h => (by cases h), fun ⟨_, _, _, h, _⟩ => (by cases h)⟩
  | ok both =>
    obtain ⟨page, html⟩ := both
    dsimp only
    rw [writePage_eq_ok_iff]
    constructor
    · rintro ⟨hpath, s₁, haround, hwrite⟩
      exact ⟨page, html, s₁, rfl, hpath, haround, hwrite⟩
    · rintro ⟨_, _, s₁, h, hpath, haround, hwrite⟩
      cases h
      exact ⟨hpath, s₁, haround, hwrite⟩

/-- Entries are all written exactly when publishing them answers nothing but
paths. -/
theorem written_iff_mapM :
    ∀ {items : List Item} {paths : List String} {s s' : σ},
      Written disk out ctx style items paths s s'
        ↔ items.mapM (publish disk out ctx style) s = (paths.map .ok, s')
  | [], paths, s, s' => by
    constructor
    · rintro ⟨⟩
      rfl
    · intro h
      obtain ⟨hpaths, rfl⟩ := Prod.mk.inj h
      rw [List.map_eq_nil_iff.mp hpaths.symm]
      exact .nil s
  | item :: items, paths, s, s' => by
    rw [mapM_cons_run]
    constructor
    · intro h
      cases h with
      | cons drafted around written more =>
        rw [publish_eq_ok_iff.mpr ⟨_, _, _, drafted, rfl, around, written⟩,
          written_iff_mapM.mp more]
        rfl
    · intro h
      obtain ⟨hpaths, hstate⟩ := Prod.mk.inj h
      cases paths with
      | nil => cases hpaths
      | cons path paths =>
        obtain ⟨hpath, hmore⟩ := List.cons.inj hpaths
        obtain ⟨page, html, s₁, drafted, rfl, around, written⟩ :=
          publish_eq_ok_iff.mp (Prod.ext hpath rfl)
        exact .cons drafted around written (written_iff_mapM.mpr (Prod.ext hmore hstate))

/-! ## Reports -/

/-- Outcomes without a failure are paths. -/
theorem eq_map_ok_of_forall {outcomes : List (Except Failure String)}
    (h : ∀ f, Except.error f ∉ outcomes) : ∃ paths : List String, outcomes = paths.map .ok := by
  induction outcomes with
  | nil => exact ⟨[], rfl⟩
  | cons outcome outcomes ih =>
    obtain ⟨paths, rfl⟩ := ih fun f hf => h f (List.mem_cons_of_mem _ hf)
    cases outcome with
    | ok path => exact ⟨path :: paths, rfl⟩
    | error f => exact absurd List.mem_cons_self (h f)

/-- A report has no failures exactly when all outcomes are paths, and then it
has a path for each entry. -/
theorem hasFailures_eq_false_iff {items : List Item} {outcomes : List (Except Failure String)}
    (h : List.Forall₂ (Ending ctx style out) items outcomes) :
    let r := (Report.mk out [] []).tally items outcomes
    (r.hasFailures = false ↔ ∃ paths : List String, outcomes = paths.map .ok)
    ∧ (r.hasFailures = false ↔ r.written.length = items.length) := by
  intro r
  have hcount : r.written.length + r.diagnostics.length = items.length := by
    rw [Report.length_tally h]
    simp
  have herror : r.hasFailures = true ↔ ∃ f, Except.error f ∈ outcomes := by
    rw [Report.hasFailures_tally h]
    simp [Report.hasFailures, Diagnostic.anyError]
  have hpaths : r.hasFailures = false ↔ ∃ paths : List String, outcomes = paths.map .ok := by
    rw [← Bool.not_eq_true, herror]
    constructor
    · intro hnone
      exact eq_map_ok_of_forall fun f hf => hnone ⟨f, hf⟩
    · rintro ⟨paths, rfl⟩ ⟨f, hf⟩
      simp at hf
  refine ⟨hpaths, fun hclean => ?_, fun hlength => ?_⟩
  · obtain ⟨paths, rfl⟩ := hpaths.mp hclean
    rw [h.length_eq]
    simp [r, Report.tally, Except.toOption]
  · have hnone : r.diagnostics = [] := List.length_eq_zero_iff.mp (by omega)
    rw [Report.hasFailures, hnone]
    rfl

end

end Run

/-! ## The program -/

namespace Program

open Collection (afterAll)
open Article (Context)
open Run (IsInput Refused Still Written items publishAll)

variable {σ : Type} {disk : Disk (StateM σ)} {s : σ} {arguments : List String}
  {markdown : Markdown.Engine}

/-- What stops the program before it writes. -/
inductive Stopped (disk : Disk (StateM σ)) (s : σ) (arguments : List String) : Prop
  | badArguments {fault : UsageFault} (parse : Request.parse arguments = .error fault) :
      Stopped disk s arguments
  /-- It is asked for help. -/
  | help (parse : Request.parse arguments = .ok none) : Stopped disk s arguments
  | noParameters {request : Request} {e : Files.Fault}
      (parse : Request.parse arguments = .ok (some request))
      (read : (disk.read request.file s).1 = .error e) : Stopped disk s arguments
  | badParameters {request : Request} {text : String} {f : Failure}
      (parse : Request.parse arguments = .ok (some request))
      (read : (disk.read request.file s).1 = .ok text)
      (malformed : Parameters.parse text = .error f) : Stopped disk s arguments
  | badInput {request : Request} {text : String} {ps : Parameters} {file : String}
      (parse : Request.parse arguments = .ok (some request))
      (read : (disk.read request.file s).1 = .ok text) (parameters : Parameters.parse text = .ok ps)
      (listed : file ∈ ps.sources) (refused : Refused disk s file) : Stopped disk s arguments

/-- What the program has when nothing stops it: its parameters, and its
inputs with their texts, all of which are documents. -/
structure Ready (disk : Disk (StateM σ)) (s : σ) (arguments : List String) (request : Request)
    (ps : Parameters) (documents : List (String × String)) : Prop where
  parse : Request.parse arguments = .ok (some request)
  parameters : ∃ text, (disk.read request.file s).1 = .ok text ∧ Parameters.parse text = .ok ps
  sources : documents.map Prod.fst = ps.sources
  inputs : ∀ document ∈ documents, IsInput disk s document

/-- Nothing else can happen. -/
theorem stopped_or_ready (disk : Disk (StateM σ)) (s : σ) (arguments : List String) :
    Stopped disk s arguments
      ∨ ∃ request ps documents, Ready disk s arguments request ps documents := by
  cases hparse : Request.parse arguments with
  | error fault => exact .inl (.badArguments hparse)
  | ok asked =>
    cases asked with
    | none => exact .inl (.help hparse)
    | some request =>
      cases hread : (disk.read request.file s).1 with
      | error e => exact .inl (.noParameters hparse hread)
      | ok text =>
        cases hps : Parameters.parse text with
        | error f => exact .inl (.badParameters hparse hread hps)
        | ok ps =>
          rcases Run.exists_refused_or_documents disk s ps.sources with
            ⟨file, hlisted, hrefused⟩ | ⟨documents, hfiles, hinputs⟩
          · exact .inl (.badInput hparse hread hps hlisted hrefused)
          · exact .inr ⟨request, ps, documents, hparse, ⟨text, hread, hps⟩, hfiles, hinputs⟩

section Parameters

variable {path text : String}

/-- Reading parameters does not change the disk. -/
theorem read_parameters_still (h : Still disk) : (Parameters.read disk path s).2 = s := by
  have hstate : (disk.read path s).2 = s := h path s
  rw [Parameters.read, Run.bind_run, hstate]
  cases (disk.read path s).1 <;> rfl

/-- A file that is read holds what its text parses to. -/
theorem read_parameters_of_ok (hread : (disk.read path s).1 = .ok text) :
    (Parameters.read disk path s).1 = Parameters.parse text := by
  rw [Parameters.read, Run.bind_run, hread]
  rfl

/-- One that cannot be read is a failure. -/
theorem read_parameters_of_error {e : Files.Fault} (hread : (disk.read path s).1 = .error e) :
    ∃ f, (Parameters.read disk path s).1 = .error f := by
  rw [Parameters.read, Run.bind_run, hread]
  exact ⟨_, rfl⟩

end Parameters

/-- With a request, the program reads its parameters and goes on to its
inputs. -/
theorem run_of_request (h : Still disk) {request : Request}
    (hparse : Request.parse arguments = .ok (some request)) (coloured : Bool) :
    run disk coloured arguments markdown s
      = match (Parameters.read disk request.file s).1 with
        | .error f => (.ofFailure ("invalid parameter file " ++ request.file) f, s)
        | .ok ps =>
          renderInputs disk markdown coloured ⟨request.standalone, request.stylesheet⟩ ps s := by
  rw [run, hparse]
  dsimp only
  rw [render, Run.bind_run, read_parameters_still h]
  cases (Parameters.read disk request.file s).1 <;> rfl

/-- A program that is stopped leaves the disk as it is, and succeeds when it
was asked for help. -/
theorem run_of_stopped (h : Still disk) (hstopped : Stopped disk s arguments) (coloured : Bool) :
    (run disk coloured arguments markdown s).2 = s
      ∧ ((run disk coloured arguments markdown s).1.success = true
        ↔ Request.parse arguments = .ok none) := by
  -- With a request the program does not succeed here, whichever step fails.
  have hfailed {request : Request} (hparse : Request.parse arguments = .ok (some request))
      (hrun : ∃ context f, run disk coloured arguments markdown s = (.ofFailure context f, s)) :
      (run disk coloured arguments markdown s).2 = s
        ∧ ((run disk coloured arguments markdown s).1.success = true
          ↔ Request.parse arguments = .ok none) := by
    obtain ⟨context, f, hrun⟩ := hrun
    rw [hrun, hparse]
    simp [Outcome.ofFailure, Outcome.failure]
  cases hstopped with
  | badArguments hparse =>
    rw [run, hparse]
    exact ⟨rfl, fun h => (by cases h), fun h => (by cases h)⟩
  | help hparse =>
    rw [run, hparse]
    exact ⟨rfl, fun _ => rfl, fun _ => rfl⟩
  | noParameters hparse hread =>
    obtain ⟨f, hf⟩ := read_parameters_of_error hread
    refine hfailed hparse ?_
    rw [run_of_request h hparse, hf]
    exact ⟨_, f, rfl⟩
  | badParameters hparse hread hmalformed =>
    refine hfailed hparse ?_
    rw [run_of_request h hparse, read_parameters_of_ok hread, hmalformed]
    exact ⟨_, _, rfl⟩
  | badInput hparse hread hps hlisted hrefused =>
    obtain ⟨f, hf⟩ := Run.readOnto_of_refused h hrefused _ [] hlisted
    refine hfailed hparse ?_
    rw [run_of_request h hparse, read_parameters_of_ok hread, hps]
    dsimp only
    rw [renderInputs, Run.bind_run, Run.readAll, hf]
    exact ⟨_, f, rfl⟩

/-- A program that is not stopped does one run over its inputs. -/
theorem run_of_ready (h : Still disk) {request : Request} {ps : Parameters}
    {documents : List (String × String)} (hready : Ready disk s arguments request ps documents)
    (coloured : Bool) :
    run disk coloured arguments markdown s
      = match publishAll disk markdown ⟨request.standalone, request.stylesheet⟩ ps.out
          (afterAll documents) s with
        | (.error e, s') => (.ofFailure ("cannot write to " ++ ps.out) e, s')
        | (.ok r, s') =>
          (.ofReport coloured ((afterAll documents).flatMap (·.entries)).length r, s') := by
  obtain ⟨text, hread, hps⟩ := hready.parameters
  have hinputs : Run.readAll disk ps.sources s = (.ok (afterAll documents), s) := by
    rw [← hready.sources]
    exact Run.readOnto_of_documents h documents [] hready.inputs
  rw [run_of_request h hready.parse, read_parameters_of_ok hread, hps]
  dsimp only
  rw [renderInputs, Run.bind_run, hinputs]
  dsimp only
  rw [Run.bind_run]
  generalize publishAll disk markdown ⟨request.standalone, request.stylesheet⟩ ps.out
    (afterAll documents) s = answer
  obtain ⟨outcome, s'⟩ := answer
  cases outcome <;> rfl

/-- A run that is reported succeeds exactly when nothing failed. -/
theorem success_ofReport_iff {outcome : Outcome} {coloured : Bool} {total : Nat} {r : Run.Report}
    (h : outcome = .ofReport coloured total r) :
    outcome.success = true ↔ r.hasFailures = false := by
  rw [h, Outcome.ofReport, Bool.not_eq_true']

/-- The report that the program answers once the output directory is made. -/
theorem exists_report (h : Still disk) {request : Request} {ps : Parameters}
    {documents : List (String × String)} (hready : Ready disk s arguments request ps documents)
    {s₁ : σ} (hmade : disk.makeDirectories ps.out s = (.ok (), s₁)) (coloured : Bool) :
    ∃ r, (run disk coloured arguments markdown s).1
        = .ofReport coloured ((afterAll documents).flatMap (·.entries)).length r
      ∧ r.out = ps.out
      ∧ (r.hasFailures = false
        ↔ r.written.length = ((afterAll documents).flatMap (·.entries)).length)
      ∧ (r.hasFailures = false ↔ ∃ paths,
        Written disk ps.out (Context.ofRun markdown (afterAll documents))
          ⟨request.standalone, request.stylesheet⟩ (items (afterAll documents)) paths s₁
          (run disk coloured arguments markdown s).2) := by
  rw [run_of_ready h hready]
  rcases Run.publishAll_cases disk ⟨request.standalone, request.stylesheet⟩ markdown ps.out
    (afterAll documents) s with ⟨e, s', hfailed, -⟩ | ⟨s₂, outcomes, s', hmade', hmap, hall⟩
  · rw [hmade] at hfailed
    cases hfailed
  · rw [hmade] at hmade'
    cases hmade'
    have hendings := Run.endings_of_mapM disk (Context.ofRun markdown (afterAll documents))
      ⟨request.standalone, request.stylesheet⟩ ps.out (items (afterAll documents)) s₁
    rw [hmap] at hendings
    obtain ⟨hpaths, hcount⟩ := Run.hasFailures_eq_false_iff hendings
    rw [hall]
    refine ⟨_, rfl, rfl, by rw [hcount, Run.length_items], hpaths.trans ?_⟩
    constructor
    · rintro ⟨paths, rfl⟩
      exact ⟨paths, Run.written_iff_mapM.mpr hmap⟩
    · rintro ⟨paths, hwritten⟩
      rw [Run.written_iff_mapM, hmap] at hwritten
      exact ⟨paths, congrArg Prod.fst hwritten⟩

/-- The program's outcome. Whatever stops it before it writes, be it the last
of its inputs, leaves the disk as it was. It succeeds exactly when it is asked
for help, or nothing stops it, the output directory can be made and the
entries of all inputs are written one after another, which leads to the disk
that it leaves. The line that it prints after a run counts the entries that
were written and all there are, and these numbers are equal exactly when it
succeeds. -/
theorem run_settled (h : Still disk) (coloured : Bool) (arguments : List String)
    (markdown : Markdown.Engine) (s : σ) :
    let answer := run disk coloured arguments markdown s
    (Stopped disk s arguments →
      answer.2 = s ∧ (answer.1.success = true ↔ Request.parse arguments = .ok none))
    ∧ (answer.1.success = true ↔ Request.parse arguments = .ok none
      ∨ ∃ request ps documents, Ready disk s arguments request ps documents
        ∧ ∃ s₁ paths, disk.makeDirectories ps.out s = (.ok (), s₁)
          ∧ Written disk ps.out (Context.ofRun markdown (afterAll documents))
            ⟨request.standalone, request.stylesheet⟩ (items (afterAll documents)) paths s₁ answer.2)
    ∧ ∀ request ps documents s₁, Ready disk s arguments request ps documents →
      disk.makeDirectories ps.out s = (.ok (), s₁) →
      let total := ((afterAll documents).flatMap (·.entries)).length
      ∃ written : Nat, answer.1.stdout = "Rendered " ++ toString written ++ " of "
          ++ toString total ++ " entries to " ++ ps.out ++ "\n"
        ∧ (answer.1.success = true ↔ written = total) := by
  intro answer
  refine ⟨fun hstopped => run_of_stopped h hstopped coloured, ⟨fun hsuccess => ?_, ?_⟩, ?_⟩
  · rcases stopped_or_ready disk s arguments with hstopped | ⟨request, ps, documents, hready⟩
    · exact .inl ((run_of_stopped h hstopped coloured).2.mp hsuccess)
    · refine .inr ⟨request, ps, documents, hready, ?_⟩
      cases hmade : disk.makeDirectories ps.out s with
      | mk outcome s₁ =>
        cases outcome with
        | error e =>
          -- Without an output directory the run answers a failure.
          have hanswer : answer.1.success = false := by
            show (run disk coloured arguments markdown s).1.success = false
            rw [run_of_ready h hready, publishAll, Run.prepare, Run.bind_run, Run.bind_run, hmade]
            rfl
          rw [hanswer] at hsuccess
          cases hsuccess
        | ok u =>
          obtain ⟨r, hanswer, -, -, hwritten⟩ := exists_report h hready hmade coloured
          obtain ⟨paths, hpaths⟩ := hwritten.mp ((success_ofReport_iff hanswer).mp hsuccess)
          exact ⟨s₁, paths, rfl, hpaths⟩
  · rintro (hhelp | ⟨request, ps, documents, hready, s₁, paths, hmade, hwritten⟩)
    · exact (run_of_stopped h (.help hhelp) coloured).2.mpr hhelp
    · obtain ⟨r, hanswer, -, -, hiff⟩ := exists_report h hready hmade coloured
      exact (success_ofReport_iff hanswer).mpr (hiff.mpr ⟨paths, hwritten⟩)
  · intro request ps documents s₁ hready hmade total
    obtain ⟨r, hanswer, hout, hcount, -⟩ := exists_report h hready hmade coloured
    refine ⟨r.written.length, ?_, (success_ofReport_iff hanswer).trans hcount⟩
    show (run disk coloured arguments markdown s).1.stdout = _
    rw [hanswer, Outcome.ofReport, hout]

/-- A parameter file that lists a module, and after it some other file when
there is one. -/
def listing (other : String) : Files.Tree where
  nodes := [(["ps"], .file (some ("m.json" ++ other ++ "\nout"))),
    (["m.json"], .file (some Collection.moduleDocument.2)),
    (["no.json"], .file (some "[1,"))]
  current := []

/-- A broken list after a good module stops the program with nothing written,
and without it the module's class is written. -/
theorem run_listing :
    Still Disk.ofTree ∧ Stopped Disk.ofTree (listing ",no.json") ["ps"]
    ∧ (run Disk.ofTree false ["ps"] (.standard true) (listing ",no.json")).2 = listing ",no.json"
    ∧ (run Disk.ofTree false ["ps"] (.standard true) (listing ",no.json")).1.success ≠ true
    ∧ (run Disk.ofTree false ["ps"] (.standard true) (listing "")).1.success = true
    ∧ ∃ request ps documents, Ready Disk.ofTree (listing "") ["ps"] request ps documents
      ∧ ∃ t₁ paths, Disk.ofTree.makeDirectories ps.out (listing "") = (.ok (), t₁)
        ∧ Written Disk.ofTree ps.out (Context.ofRun (.standard true) (afterAll documents))
          ⟨request.standalone, request.stylesheet⟩ (items (afterAll documents)) paths t₁
          (run Disk.ofTree false ["ps"] (.standard true) (listing "")).2 := by
  have hparse : Request.parse ["ps"] = .ok (some ⟨"ps", false, none⟩) := by decide
  have hread : (Disk.ofTree.read "ps" (listing ",no.json")).1 = .ok "m.json,no.json\nout" := by
    decide +kernel
  have hps : Parameters.parse "m.json,no.json\nout" = .ok ⟨["m.json", "no.json"], "out"⟩ := by
    decide +kernel
  have hrefused : Refused Disk.ofTree (listing ",no.json") "no.json" := by
    have hcontent : (Disk.ofTree.read "no.json" (listing ",no.json")).1 = .ok "[1," := by
      decide +kernel
    have hbroken : (Json.read "[1,").toBool = false := by decide +kernel
    cases hvalue : Json.read "[1," with
    | error fault => exact .unparsable hcontent hvalue
    | ok v =>
      rw [hvalue] at hbroken
      cases hbroken
  have hstopped : Stopped Disk.ofTree (listing ",no.json") ["ps"] :=
    .badInput hparse hread hps (by simp) hrefused
  have hsuccess : (run Disk.ofTree false ["ps"] (.standard true) (listing "")).1.success = true := by
    decide +kernel
  obtain ⟨hsame, hfails⟩ :=
    (run_settled Run.still_ofTree false ["ps"] (.standard true) (listing ",no.json")).1 hstopped
  rw [hparse] at hfails
  refine ⟨Run.still_ofTree, hstopped, hsame, fun h => (by cases hfails.mp h), hsuccess, ?_⟩
  obtain ⟨-, hiff, -⟩ := run_settled Run.still_ofTree false ["ps"] (.standard true) (listing "")
  rcases hiff.mp hsuccess with hhelp | hran
  · rw [hparse] at hhelp
    cases hhelp
  · exact hran

end Program

end ApiPages
