import ApiPages.Run.Publish
import ApiPages.Proofs.Article.Refusal
import ApiPages.Proofs.Page.Plan

/-!
# A run accounts for every entry

`Ending` says all that publishing one entry can come to: its page is
written, the entry has no page that could be written, or the writing fails.
Each of these leaves the run going, so a run is its entries published one
after another with the outcomes tallied behind them (`publishEach_eq`), and
nothing but the output directory can end it early.

A disk is any four operations on some state, so whatever the single writes
come to, in whatever order, is covered.
-/

namespace ApiPages.Run

open Files (Disk)

/-! ## Entries -/

/-- The entries of a run are those of its collections, each at its own
place. -/
theorem mem_items_iff {cs : List Collection} {item : Item} :
    item ∈ items cs ↔ ∃ c, cs[item.place.collection]? = some c
      ∧ c.entries[item.place.entry]? = some item.entry ∧ item.moduleName = c.moduleName := by
  simp only [items, List.mem_flatMap, List.mem_map, Prod.exists, List.mem_zipIdx_iff_getElem?]
  constructor
  · rintro ⟨c, i, hc, e, j, he, rfl⟩
    exact ⟨c, hc, he, rfl⟩
  · rintro ⟨c, hc, he, hname⟩
    obtain ⟨⟨i, j⟩, moduleName, e⟩ := item
    exact ⟨c, i, hc, e, j, he, by rw [← hname]⟩

/-- There are as many as the collections hold. -/
theorem length_items (cs : List Collection) :
    (items cs).length = (cs.flatMap (·.entries)).length := by
  have hall : (items cs).map Item.entry = cs.flatMap (·.entries) := by
    have hrow : ∀ c : Collection × Nat,
        (c.1.entries.zipIdx.map fun e : Entry × Nat => Item.entry ⟨⟨c.2, e.2⟩, c.1.moduleName, e.1⟩)
          = c.1.entries := fun c => List.zipIdx_map_fst 0 c.1.entries
    conv_rhs => rw [← List.zipIdx_map_fst 0 cs, List.flatMap_map]
    simp only [items, List.map_flatMap, List.map_map, Function.comp_def, hrow]
  rw [← hall, List.length_map]

variable {cs : List Collection} {markdown : Markdown.Engine} {style : PageStyle} {out : String}
  {item : Item}

/-- An entry with an article has a page in the plan. -/
theorem exists_page_of_article {article : Article} (hitem : item ∈ items cs)
    (h : (Article.Context.ofRun markdown cs).article item.place item.moduleName item.entry
      = .ok article) :
    ∃ page, (Page.Plan.assign cs).page? item.place.collection item.place.entry = some page := by
  obtain ⟨c, hc, he, -⟩ := mem_items_iff.mp hitem
  obtain ⟨taken, -, hpage⟩ :=
    Page.Plan.assign_page? hc he (Article.Context.isRenderable_of_article _ h)
  exact ⟨_, hpage⟩

/-! ## Drafts -/

/-- A draft is for the page that the plan has for the entry. -/
theorem page_of_draft {ctx : Article.Context} {page : String} {html : Html}
    (h : draft ctx style item = .ok (page, html)) :
    ctx.index.plan.page? item.place.collection item.place.entry = some page := by
  obtain ⟨article, -, h⟩ := exists_of_bind_eq_ok h
  split at h
  · cases h
  · next own hown =>
    obtain ⟨rendered, -, h⟩ := exists_of_bind_eq_ok h
    cases h
    exact hown

/-- A draft fails for what is wrong with the entry or with a template. -/
theorem draft_failsWith (ctx : Article.Context) :
    FailsWith (fun f => f.IsRefusal ∨ ∃ reason, f = .template reason)
      (draft ctx style item) := by
  unfold draft
  refine .bind ((ctx.article_failsWith _ _ _).mono fun f hf => Or.inl hf) fun article => ?_
  split
  · exact .error (Or.inl trivial)
  · exact .bind ((article.render_failsWith style).mono fun f hf => Or.inr hf) fun html => .ok _

/-- Such a failure concerns the entry alone, and is none to write. -/
theorem perEntry_of_draft_error {ctx : Article.Context} {f : Failure}
    (h : draft ctx style item = .error f) :
    f.perEntry = true ∧ ∀ path reason, f ≠ .write path reason := by
  rcases draft_failsWith ctx f h with hrefusal | ⟨reason, rfl⟩
  · cases f <;> first | exact hrefusal.elim | simp [Failure.perEntry]
  · simp [Failure.perEntry]

/-! ## One entry -/

/-- How the publishing of an entry can end. -/
inductive Ending (ctx : Article.Context) (style : PageStyle) (out : String) (item : Item) :
    Except Failure String → Prop where
  /-- Its page was written. -/
  | written {page : String} {html : Html} : draft ctx style item = .ok (page, html) →
      Ending ctx style out item (.ok (Files.join out page))
  /-- There was no page to write. -/
  | refused {f : Failure} : draft ctx style item = .error f →
      Ending ctx style out item (.error f)
  /-- Its page, or the directory for it, could not be written. -/
  | unwritten {page path : String} {html : Html} (reason : String) :
      draft ctx style item = .ok (page, html) →
      path = Files.join out page ∨ (Files.parents (Files.join out page)).head? = some path →
      Ending ctx style out item (.error (.write path reason))

namespace Ending

variable {ctx : Article.Context}

/-- No ending ends the run. -/
theorem perEntry {f : Failure} (h : Ending ctx style out item (.error f)) :
    f.perEntry = true := by
  cases h with
  | refused hdraft => exact (perEntry_of_draft_error hdraft).1
  | unwritten reason hdraft hpath => rfl

/-- The failures to write are those of entries that have a draft. -/
theorem write_iff {f : Failure} (h : Ending ctx style out item (.error f)) :
    (∃ path reason, f = .write path reason)
      ↔ ∃ page html, draft ctx style item = .ok (page, html) := by
  cases h with
  | refused hdraft =>
    constructor
    · rintro ⟨path, reason, rfl⟩
      exact absurd rfl ((perEntry_of_draft_error hdraft).2 path reason)
    · rintro ⟨page, html, hok⟩
      rw [hok] at hdraft
      cases hdraft
  | unwritten reason hdraft hpath =>
    exact ⟨fun _ => ⟨_, _, hdraft⟩, fun _ => ⟨_, _, rfl⟩⟩

end Ending

section

variable {σ : Type} (disk : Disk (StateM σ)) (ctx : Article.Context)

/-- The state of a bind. -/
theorem bind_run {α β : Type} (x : StateM σ α) (k : α → StateM σ β) (s : σ) :
    (x >>= k) s = k (x s).1 (x s).2 := rfl

/-- A write answers the path, or fails at it. -/
theorem writeTo_cases (path : String) (html : Html) (s : σ) :
    (writeTo disk path html s).1 = .ok path
      ∨ ∃ reason, (writeTo disk path html s).1 = .error (.write path reason) := by
  rw [writeTo, bind_run]
  cases (disk.write path html s).1 with
  | ok u => exact Or.inl rfl
  | error e => exact Or.inr ⟨e.message, rfl⟩

/-- A page is written to its path, or a write fails there or at the
directory around it. -/
theorem writePage_cases (out page : String) (html : Html) (s : σ) :
    (writePage disk out page html s).1 = .ok (Files.join out page)
      ∨ ∃ path reason, (path = Files.join out page
          ∨ (Files.parents (Files.join out page)).head? = some path)
        ∧ (writePage disk out page html s).1 = .error (.write path reason) := by
  have hwrite : ∀ s', (writeTo disk (Files.join out page) html s').1 = .ok (Files.join out page)
      ∨ ∃ path reason, (path = Files.join out page
          ∨ (Files.parents (Files.join out page)).head? = some path)
        ∧ (writeTo disk (Files.join out page) html s').1 = .error (.write path reason) := by
    intro s'
    rcases writeTo_cases disk (Files.join out page) html s' with h | ⟨reason, h⟩
    · exact Or.inl h
    · exact Or.inr ⟨_, reason, Or.inl rfl, h⟩
  dsimp only [writePage]
  cases hparent : (Files.parents (Files.join out page)).head? with
  | none => simpa only [hparent] using hwrite s
  | some parent =>
    simp only [bind_run]
    cases (disk.makeDirectories parent s).1 with
    | error e => exact Or.inr ⟨parent, e.message, Or.inr rfl, rfl⟩
    | ok u => simpa only [hparent] using hwrite (disk.makeDirectories parent s).2

/-- Publishing an entry ends in one of the ways there are. -/
theorem ending_of_publish (style : PageStyle) (out : String) (item : Item) (s : σ) :
    Ending ctx style out item (publish disk out ctx style item s).1 := by
  unfold publish
  cases hdraft : draft ctx style item with
  | error f => exact .refused hdraft
  | ok both =>
    obtain ⟨page, html⟩ := both
    dsimp only
    rcases writePage_cases disk out page html s with h | ⟨path, reason, hpath, h⟩
    · rw [h]
      exact .written hdraft
    · rw [h]
      exact .unwritten reason hdraft hpath

end

/-! ## All entries -/

/-- The diagnostic of an entry's outcome, if it has one. -/
def Item.diagnostic? (item : Item) : Except Failure String → Option Diagnostic
  | .ok _ => none
  | .error f => some (Diagnostic.ofFailure item.moduleName item.entry.name f)

/-- A report with the outcomes of some more entries. -/
def Report.tally (r : Report) (items : List Item) (outcomes : List (Except Failure String)) :
    Report :=
  { r with
    written := r.written ++ outcomes.filterMap Except.toOption
    diagnostics := r.diagnostics
      ++ (items.zip outcomes).filterMap fun (item, outcome) => item.diagnostic? outcome }

namespace Report

@[simp] theorem tally_nil (r : Report) : r.tally [] [] = r := by simp [tally]

/-- A page that was written is counted as such. -/
@[simp] theorem tally_ok (r : Report) (item : Item) (more : List Item) (path : String)
    (outcomes : List (Except Failure String)) :
    r.tally (item :: more) (.ok path :: outcomes) = (r.wrote path).tally more outcomes := by
  have hsome : Except.toOption (.ok path : Except Failure String) = some path := rfl
  simp [tally, wrote, Item.diagnostic?, hsome]

/-- A failure is noted with the item it is about. -/
@[simp] theorem tally_error (r : Report) (item : Item) (more : List Item) (f : Failure)
    (outcomes : List (Except Failure String)) :
    r.tally (item :: more) (.error f :: outcomes) = (r.failed item f).tally more outcomes := by
  have hnone : Except.toOption (.error f : Except Failure String) = none := rfl
  simp [tally, failed, Item.diagnostic?, hnone]

variable {R : Item → Except Failure String → Prop} {items : List Item}
  {outcomes : List (Except Failure String)}

/-- Each entry adds one path or one diagnostic. -/
theorem length_tally (h : List.Forall₂ R items outcomes) :
    ∀ r : Report, (r.tally items outcomes).written.length
        + (r.tally items outcomes).diagnostics.length
      = r.written.length + r.diagnostics.length + items.length := by
  induction h with
  | nil => intro r; simp
  | @cons item outcome items outcomes _ _ ih =>
    intro r
    cases outcome with
    | ok path => rw [tally_ok, ih]; simp [wrote]; omega
    | error f => rw [tally_error, ih]; simp [failed]; omega

/-- A report has failures when an entry was not written. -/
theorem hasFailures_tally (h : List.Forall₂ R items outcomes) :
    ∀ r : Report, (r.tally items outcomes).hasFailures = true
      ↔ r.hasFailures = true ∨ ∃ f, Except.error f ∈ outcomes := by
  induction h with
  | nil => intro r; simp
  | @cons item outcome items outcomes _ _ ih =>
    intro r
    cases outcome with
    | ok path => rw [tally_ok, ih]; simp [hasFailures, wrote]
    | error f =>
      have hsevere : (Diagnostic.ofFailure item.moduleName item.entry.name f).severity = .error := by
        cases f <;> rfl
      rw [tally_error, ih]
      simp [hasFailures, failed, Diagnostic.anyError, hsevere]

end Report

section

variable {σ : Type} (disk : Disk (StateM σ)) (ctx : Article.Context) (style : PageStyle)

/-- One action for each of some values: the first, and then the rest from
the state it leaves. -/
theorem mapM_cons_run {α β : Type} (f : α → StateM σ β) (x : α) (xs : List α) (s : σ) :
    (x :: xs).mapM f s
      = ((f x s).1 :: (xs.mapM f (f x s).2).1, (xs.mapM f (f x s).2).2) := by
  rw [List.mapM_cons]
  rfl

/-- What an action for each of some values answers, one of them answers. -/
theorem exists_of_mem_mapM_run {α β : Type} (f : α → StateM σ β) {y : β} :
    ∀ (xs : List α) (s : σ), y ∈ (xs.mapM f s).1 → ∃ x ∈ xs, ∃ s', (f x s').1 = y
  | [], s, h => by cases h
  | x :: xs, s, h => by
    rw [mapM_cons_run] at h
    rcases List.mem_cons.mp h with rfl | h
    · exact ⟨x, List.mem_cons_self, s, rfl⟩
    · obtain ⟨x', hx', hat⟩ := exists_of_mem_mapM_run f xs _ h
      exact ⟨x', List.mem_cons_of_mem _ hx', hat⟩

/-- What the action answers for any of the values is among the answers. -/
theorem exists_mem_mapM_run {α β : Type} (f : α → StateM σ β) {x : α} :
    ∀ (xs : List α) (s : σ), x ∈ xs → ∃ s', (f x s').1 ∈ (xs.mapM f s).1
  | y :: xs, s, h => by
    rw [mapM_cons_run]
    rcases List.mem_cons.mp h with rfl | h
    · exact ⟨s, List.mem_cons_self⟩
    · obtain ⟨s', hs'⟩ := exists_mem_mapM_run f xs (f y s).2 h
      exact ⟨s', List.mem_cons_of_mem _ hs'⟩

/-- Every entry ends in one of the ways there are. -/
theorem endings_of_mapM (out : String) :
    ∀ (items : List Item) (s : σ),
      List.Forall₂ (Ending ctx style out) items (items.mapM (publish disk out ctx style) s).1
  | [], _ => .nil
  | item :: more, s => by
    rw [mapM_cons_run]
    exact .cons (ending_of_publish disk ctx style out item s) (endings_of_mapM out more _)

/-- Publishing entries one by one is publishing them all, with the outcomes
tallied. -/
theorem publishEach_eq :
    ∀ (items : List Item) (r : Report) (s : σ),
      publishEach disk ctx style r items s
        = (.ok (r.tally items (items.mapM (publish disk r.out ctx style) s).1),
          (items.mapM (publish disk r.out ctx style) s).2)
  | [], r, s => by
    have hnil : ([] : List Item).mapM (publish disk r.out ctx style) s = ([], s) := rfl
    rw [hnil, Report.tally_nil]
    rfl
  | item :: more, r, s => by
    have hending := ending_of_publish disk ctx style r.out item s
    rw [publishEach, bind_run, mapM_cons_run]
    generalize publish disk r.out ctx style item s = answer at hending ⊢
    obtain ⟨outcome, s'⟩ := answer
    cases outcome with
    | ok path =>
      dsimp only
      rw [publishEach_eq more, Report.tally_ok]
      rfl
    | error f =>
      dsimp only
      rw [if_pos hending.perEntry, publishEach_eq more, Report.tally_error]
      rfl

/-- What a run answers is decided by the output directory alone; with one,
it publishes all entries and tallies their outcomes. -/
theorem publishAll_cases (markdown : Markdown.Engine) (out : String) (cs : List Collection)
    (s : σ) :
    (∃ e s', disk.makeDirectories out s = (.error e, s')
      ∧ publishAll disk markdown style out cs s = (.error (.write out e.message), s'))
    ∨ ∃ s₁ outcomes s', disk.makeDirectories out s = (.ok (), s₁)
      ∧ (items cs).mapM (publish disk out (Article.Context.ofRun markdown cs) style) s₁
        = (outcomes, s')
      ∧ publishAll disk markdown style out cs s
        = (.ok ((Report.mk out [] []).tally (items cs) outcomes), s') := by
  unfold publishAll prepare
  simp only [bind_run]
  generalize disk.makeDirectories out s = made
  obtain ⟨outcome, s₁⟩ := made
  cases outcome with
  | error e => exact Or.inl ⟨e, s₁, rfl, rfl⟩
  | ok u => exact Or.inr ⟨s₁, _, _, rfl, rfl, publishEach_eq disk _ style (items cs) _ s₁⟩

/-- A path that was written is the page of an entry that has a draft. -/
theorem exists_draft_of_written {markdown : Markdown.Engine} {out path : String}
    {cs : List Collection} {s s' : σ} {r : Report}
    (h : publishAll disk markdown style out cs s = (.ok r, s')) (hpath : path ∈ r.written) :
    ∃ item ∈ items cs, ∃ page html, path = Files.join out page
      ∧ draft (Article.Context.ofRun markdown cs) style item = .ok (page, html) := by
  rcases publishAll_cases disk style markdown out cs s with
    ⟨e, s₂, -, hall⟩ | ⟨s₁, outcomes, s₂, -, hmap, hall⟩
  · rw [hall] at h
    cases h
  · rw [hall] at h
    cases h
    have houtcome : Except.ok path ∈ outcomes := by
      obtain ⟨outcome, hmem, hok⟩ : ∃ outcome ∈ outcomes, outcome.toOption = some path := by
        simpa [Report.tally] using hpath
      cases outcome with
      | ok path' => cases hok; exact hmem
      | error f => cases hok
    obtain ⟨item, hitem, s', hat⟩ :=
      exists_of_mem_mapM_run _ (items cs) s₁ (by rw [hmap]; exact houtcome)
    have hending := ending_of_publish disk (Article.Context.ofRun markdown cs) style out item s'
    rw [hat] at hending
    cases hending with
    | written hdraft => exact ⟨item, hitem, _, _, rfl, hdraft⟩

/-- What a run answers. It fails exactly when the output directory cannot be
made. Otherwise each entry, in run order, comes to one of its endings: the path
of its draft below the output directory, the failure to draft it, or a failure
to write its page or the directory around that. A failure concerns its entry
alone, and is one to write exactly when the entry has a draft. The paths are
the report's, and the failures are its diagnostics, each with its module, its
entry, its text and the file that could not be written. Together they are as
many as the entries, and there are failures when an entry was not written. No
entry with an article is without a page, and a draft is for the page that the
plan has for its entry. -/
theorem publishAll_accounts (markdown : Markdown.Engine) (out : String) (cs : List Collection)
    (s : σ) :
    let ctx := Article.Context.ofRun markdown cs
    (∀ f s', publishAll disk markdown style out cs s = (.error f, s') ↔
      ∃ e, disk.makeDirectories out s = (.error e, s') ∧ f = .write out e.message)
    ∧ (∀ r s', publishAll disk markdown style out cs s = (.ok r, s') →
      ∃ s₁ outcomes, disk.makeDirectories out s = (.ok (), s₁)
        ∧ (items cs).mapM (publish disk out ctx style) s₁ = (outcomes, s')
        ∧ List.Forall₂ (fun item outcome => Ending ctx style out item outcome
            ∧ ∀ f, outcome = .error f → f.perEntry = true
              ∧ ((∃ path reason, f = .write path reason)
                ↔ ∃ page html, draft ctx style item = .ok (page, html)))
          (items cs) outcomes
        ∧ r.written = outcomes.filterMap Except.toOption
        ∧ r.diagnostics = ((items cs).zip outcomes).filterMap (fun (item, outcome) =>
            match outcome with
            | .ok _ => none
            | .error f => some {
                severity := .error
                message := f.message
                moduleName := some item.moduleName
                entry := some item.entry.name
                file := match f with | .write path _ => some path | _ => none })
        ∧ r.written.length + r.diagnostics.length = (cs.flatMap (·.entries)).length
        ∧ (r.hasFailures = true ↔ ∃ f, Except.error f ∈ outcomes))
    ∧ ∀ item ∈ items cs,
      (∀ article, ctx.article item.place item.moduleName item.entry = .ok article →
        (ctx.index.plan.page? item.place.collection item.place.entry).isSome = true)
      ∧ ∀ page html, draft ctx style item = .ok (page, html) →
        (Page.Plan.assign cs).page? item.place.collection item.place.entry = some page := by
  intro ctx
  refine ⟨fun f s' => ?_, fun r s' hrun => ?_, fun item hitem => ⟨fun article harticle => ?_,
    fun page html hdraft => page_of_draft hdraft⟩⟩
  · rcases publishAll_cases disk style markdown out cs s with
      ⟨e, s₂, hmade, hall⟩ | ⟨s₁, outcomes, s₂, hmade, -, hall⟩
    · rw [hall, hmade]
      constructor
      · intro h
        cases h
        exact ⟨e, rfl, rfl⟩
      · rintro ⟨e', he, rfl⟩
        cases he
        rfl
    · rw [hall, hmade]
      constructor
      · intro h
        cases h
      · rintro ⟨e', he, -⟩
        cases he
  · rcases publishAll_cases disk style markdown out cs s with
      ⟨e, s₂, hmade, hall⟩ | ⟨s₁, outcomes, s₂, hmade, hmap, hall⟩
    · rw [hall] at hrun
      cases hrun
    · rw [hall] at hrun
      cases hrun
      have hendings := endings_of_mapM disk ctx style out (items cs) s₁
      rw [hmap] at hendings
      refine ⟨s₁, outcomes, hmade, hmap, hendings.imp fun item outcome hending => ?_, ?_, ?_,
        ?_, ?_⟩
      · refine ⟨hending, fun f hf => ?_⟩
        subst hf
        exact ⟨hending.perEntry, hending.write_iff⟩
      · simp [Report.tally]
      · simp only [Report.tally, List.nil_append]
        refine congrArg (List.filterMap · _) (funext fun (item, outcome) => ?_)
        cases outcome with
        | ok path => rfl
        | error f => cases f <;> rfl
      · rw [Report.length_tally hendings, length_items]
        simp
      · rw [Report.hasFailures_tally hendings]
        simp [Report.hasFailures, Diagnostic.anyError]
  · obtain ⟨page, hpage⟩ := exists_page_of_article hitem harticle
    exact Option.isSome_iff_exists.mpr ⟨page, hpage⟩

end

end ApiPages.Run
