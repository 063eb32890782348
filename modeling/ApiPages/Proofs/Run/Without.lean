import ApiPages.Proofs.Article.Without
import ApiPages.Proofs.Run.Accounting

/-!
# Runs without one entry

An entry that can have no page changes nothing but the report, where it has
one line. Without it the entries before it keep their places, those behind it
in its collection move up, and each comes to the draft it came to
(`draft_rest`). The entry itself writes nothing, so it hands the disk on as it
got it, and the others meet the same disk with it and without it
(`mapM_around_run`).
-/

namespace ApiPages

namespace Run

open Article (Place)
open Files (Disk)

/-! ## Entries in order -/

/-- The item at its place once another entry is gone. -/
def Item.movedUp (gone : Place) (item : Item) : Item :=
  { item with place := gone.movedUp item.place }

/-- Some entries of one collection, the first at a number. -/
def itemRow (collection : Nat) (moduleName : String) (first : Nat) (entries : List Entry) :
    List Item :=
  (entries.zipIdx first).map fun (e, j) => ⟨⟨collection, j⟩, moduleName, e⟩

/-- The entries of some collections, the first of which has a number. -/
def itemRows (first : Nat) (cs : List Collection) : List Item :=
  (cs.zipIdx first).flatMap fun (c, i) => itemRow i c.moduleName 0 c.entries

section Rows

variable {collection first : Nat} {moduleName : String} {entries behind : List Entry}
  {cs more : List Collection} {gone : Place} {item : Item}

/-- The items of a run are the rows of its collections from the first place on. -/
theorem items_eq (cs : List Collection) : items cs = itemRows 0 cs := rfl

/-- A row goes on behind its first part. -/
theorem itemRow_append :
    itemRow collection moduleName first (entries ++ behind)
      = itemRow collection moduleName first entries
        ++ itemRow collection moduleName (first + entries.length) behind := by
  rw [itemRow, List.zipIdx_append, List.map_append]
  rfl

/-- The first entry of a row is its first item. -/
theorem itemRow_cons (e : Entry) :
    itemRow collection moduleName first (e :: entries)
      = ⟨⟨collection, first⟩, moduleName, e⟩
        :: itemRow collection moduleName (first + 1) entries := rfl

/-- The first collection makes the first row. -/
theorem itemRows_cons (c : Collection) :
    itemRows first (c :: cs) = itemRow first c.moduleName 0 c.entries ++ itemRows (first + 1) cs :=
  rfl

/-- The rows of more collections follow. -/
theorem itemRows_append :
    itemRows first (cs ++ more) = itemRows first cs ++ itemRows (first + cs.length) more := by
  rw [itemRows, List.zipIdx_append, List.flatMap_append]
  rfl

/-- An item stands at a place of its row. -/
theorem place_of_mem_itemRow (h : item ∈ itemRow collection moduleName first entries) :
    item.place.collection = collection ∧ first ≤ item.place.entry
      ∧ item.place.entry < first + entries.length := by
  obtain ⟨⟨e, j⟩, hmem, rfl⟩ := List.mem_map.mp h
  exact ⟨rfl, List.le_snd_of_mem_zipIdx hmem, List.snd_lt_add_of_mem_zipIdx hmem⟩

/-- And in one of the rows. -/
theorem place_of_mem_itemRows (h : item ∈ itemRows first cs) :
    first ≤ item.place.collection ∧ item.place.collection < first + cs.length := by
  obtain ⟨⟨c, i⟩, hmem, hitem⟩ := List.mem_flatMap.mp h
  rw [(place_of_mem_itemRow hitem).1]
  exact ⟨List.le_snd_of_mem_zipIdx hmem, List.snd_lt_add_of_mem_zipIdx hmem⟩

/-- What stands behind the entry moves up by one. -/
theorem map_movedUp_itemRow (h : gone.entry ≤ first) :
    (itemRow gone.collection moduleName (first + 1) entries).map (Item.movedUp gone)
      = itemRow gone.collection moduleName first entries := by
  rw [itemRow, itemRow, List.zipIdx_succ, List.map_map, List.map_map]
  refine List.map_congr_left fun (e, j) hmem => ?_
  have hj : first ≤ j := List.le_snd_of_mem_zipIdx hmem
  simp [Item.movedUp, Place.movedUp, Nat.lt_succ_of_le (Nat.le_trans h hj)]

/-- All else stays. -/
theorem map_movedUp_of_stays {items : List Item}
    (h : ∀ item ∈ items, item.place.collection = gone.collection →
      item.place.entry ≤ gone.entry) : items.map (Item.movedUp gone) = items := by
  refine (List.map_congr_left fun item hitem => ?_).trans (List.map_id' items)
  have hplace : gone.movedUp item.place = item.place := by
    by_cases hc : item.place.collection = gone.collection
    · exact Place.movedUp_of_le (h item hitem hc)
    · exact Place.movedUp_of_ne hc
  rw [Item.movedUp, hplace]

end Rows

end Run

namespace Gap

open Article (Place Context)
open Collection (ParentsSound)
open Files (Disk)
open Run

/-- The entry as one of a run. -/
def item (g : Gap) : Item := ⟨g.place, g.moduleName, g.gone⟩

/-- The entries before it. -/
def before (g : Gap) : List Item :=
  itemRows 0 g.front ++ itemRow g.place.collection g.moduleName 0 g.ahead

/-- The entries after it, each at the place it has with it. -/
def after (g : Gap) : List Item :=
  itemRow g.place.collection g.moduleName (g.place.entry + 1) g.behind
    ++ itemRows (g.place.collection + 1) g.back

/-- The items with the entry are those before it, its own and those after it. -/
theorem items_full (g : Gap) : items g.full = g.before ++ g.item :: g.after := by
  rw [items_eq, full, itemRows_append, itemRows_cons, itemRow_append, itemRow_cons, before, after]
  simp [Gap.item, Gap.place]

variable {g : Gap} {item : Item}

/-- In the same collection, an item before it has a smaller place. -/
theorem entry_lt_of_mem_before (h : item ∈ g.before)
    (hc : item.place.collection = g.place.collection) : item.place.entry < g.place.entry := by
  rcases List.mem_append.mp h with h | h
  · have hfront : item.place.collection < 0 + g.place.collection := (place_of_mem_itemRows h).2
    omega
  · have hahead : item.place.entry < 0 + g.place.entry := (place_of_mem_itemRow h).2.2
    omega

/-- And one after it a larger one. -/
theorem entry_lt_of_mem_after (h : item ∈ g.after)
    (hc : item.place.collection = g.place.collection) : g.place.entry < item.place.entry := by
  rcases List.mem_append.mp h with h | h
  · exact (place_of_mem_itemRow h).2.1
  · have hback := (place_of_mem_itemRows h).1
    omega

/-- No other entry stands where it stood. -/
theorem place_ne_of_mem (h : item ∈ g.before ++ g.after) : item.place ≠ g.place := by
  intro heq
  have hc : item.place.collection = g.place.collection := congrArg Place.collection heq
  have he : item.place.entry = g.place.entry := congrArg Place.entry heq
  rcases List.mem_append.mp h with h | h
  · exact absurd he (Nat.ne_of_lt (entry_lt_of_mem_before h hc))
  · exact absurd he.symm (Nat.ne_of_lt (entry_lt_of_mem_after h hc))

/-- All other items are items of the full run. -/
theorem mem_items_of_mem (h : item ∈ g.before ++ g.after) : item ∈ items g.full := by
  rw [items_full]
  exact ((List.sublist_cons_self g.item g.after).append_left g.before).subset h

/-- Without the entry, the others come in the same order. -/
theorem items_rest (g : Gap) :
    items g.rest = (g.before ++ g.after).map (Item.movedUp g.place) := by
  have hbefore : g.before.map (Item.movedUp g.place) = g.before :=
    map_movedUp_of_stays fun _ hitem hc => Nat.le_of_lt (entry_lt_of_mem_before hitem hc)
  have hback : (itemRows (g.place.collection + 1) g.back).map (Item.movedUp g.place)
      = itemRows (g.place.collection + 1) g.back :=
    map_movedUp_of_stays fun _ hitem hc => by
      have hbehind := (place_of_mem_itemRows hitem).1
      omega
  rw [List.map_append, hbefore, after, List.map_append, map_movedUp_itemRow (Nat.le_refl _), hback,
    items_eq, rest, itemRows_append, itemRows_cons, itemRow_append, before]
  simp [Gap.place]

/-! ## Drafts -/

section

variable (hgone : g.gone.isRenderable = false)
include hgone

/-- The entry has no draft. -/
theorem exists_refusal (ctx : Context) (style : PageStyle) :
    ∃ f, draft ctx style g.item = .error f := by
  cases harticle : ctx.article g.place g.moduleName g.gone with
  | error f =>
    refine ⟨f, ?_⟩
    show (ctx.article g.place g.moduleName g.gone >>= _) = _
    rw [harticle]
    rfl
  | ok article =>
    rw [Context.isRenderable_of_article _ harticle] at hgone
    cases hgone

variable (hsound : ParentsSound g.full) (markdown : Markdown.Engine)
include hsound

/-- Every other entry has the draft it had, at its new place. -/
theorem draft_rest (style : PageStyle) (h : item ∈ g.before ++ g.after) :
    draft (Context.ofRun markdown g.rest) style (item.movedUp g.place)
      = draft (Context.ofRun markdown g.full) style item := by
  obtain ⟨c, hc, he, -⟩ := mem_items_iff.mp (mem_items_of_mem h)
  have hpage : (Context.ofRun markdown g.rest).index.plan.page? _ _
      = (Context.ofRun markdown g.full).index.plan.page? _ _ :=
    page?_rest hgone hsound (place_ne_of_mem h)
  rw [draft, draft, Item.movedUp]
  dsimp only
  rw [article_rest hgone hsound markdown hc he, hpage]

end

end Gap

namespace Run

open Article (Place Context)
open Collection (ParentsSound)
open Files (Disk)

/-! ## Outcomes -/

section Outcomes

variable {σ α β : Type}

/-- Values for which the action does the same are run alike. -/
theorem mapM_map_run {f f' : α → StateM σ β} {g : α → α} {xs : List α}
    (h : ∀ x ∈ xs, f' (g x) = f x) (s : σ) : (xs.map g).mapM f' s = xs.mapM f s := by
  induction xs generalizing s with
  | nil => rfl
  | cons x xs ih =>
    have hmore : ∀ x ∈ xs, f' (g x) = f x := fun x hx => h x (List.mem_cons_of_mem _ hx)
    rw [List.map_cons, mapM_cons_run, mapM_cons_run, h x List.mem_cons_self, ih hmore]

/-- A value whose action leaves the state alone adds its answer, and the
others' answers are the same without it. -/
theorem mapM_around_run {f : α → StateM σ β} {x : α} {y : β} (h : ∀ s, f x s = (y, s))
    (xs ys : List α) (s : σ) :
    ∃ front back s', front.length = xs.length
      ∧ (xs ++ x :: ys).mapM f s = (front ++ y :: back, s')
      ∧ (xs ++ ys).mapM f s = (front ++ back, s') := by
  induction xs generalizing s with
  | nil => exact ⟨[], _, _, rfl, by rw [List.nil_append, mapM_cons_run, h]; rfl, rfl⟩
  | cons x' xs ih =>
    obtain ⟨front, back, s', hlength, hwith, hwithout⟩ := ih (f x' s).2
    refine ⟨(f x' s).1 :: front, back, s', congrArg (· + 1) hlength, ?_, ?_⟩
    · rw [List.cons_append, mapM_cons_run, hwith]
      rfl
    · rw [List.cons_append, mapM_cons_run, hwithout]
      rfl

end Outcomes

namespace Report

/-- A report does not say where entries stand. -/
theorem tally_movedUp (r : Report) (gone : Place) (items : List Item)
    (outcomes : List (Except Failure String)) :
    r.tally (items.map (Item.movedUp gone)) outcomes = r.tally items outcomes := by
  have hzip : (items.map (Item.movedUp gone)).zip outcomes
      = (items.zip outcomes).map (Prod.map (Item.movedUp gone) id) := by
    rw [← List.zip_map, List.map_id]
  rw [tally, hzip, List.filterMap_map]
  rfl

/-- A failure adds its diagnostic among those of the other entries. -/
theorem tally_around (r : Report) {before : List Item} (item : Item) (after : List Item)
    {front : List (Except Failure String)} (f : Failure) (back : List (Except Failure String))
    (h : front.length = before.length) :
    ∃ written ds ds',
      r.tally (before ++ item :: after) (front ++ .error f :: back)
        = ⟨r.out, written, ds ++ Diagnostic.ofFailure item.moduleName item.entry.name f :: ds'⟩
      ∧ r.tally (before ++ after) (front ++ back) = ⟨r.out, written, ds ++ ds'⟩ := by
  have hnone : Except.toOption (.error f : Except Failure String) = none := rfl
  refine ⟨r.written ++ (front ++ back).filterMap Except.toOption,
    r.diagnostics ++ (before.zip front).filterMap fun each => each.1.diagnostic? each.2,
    (after.zip back).filterMap fun each => each.1.diagnostic? each.2, ?_, ?_⟩
  · rw [tally, List.zip_append h.symm, List.zip_cons_cons, List.filterMap_append,
      List.filterMap_append, List.filterMap_cons_none hnone, ← List.filterMap_append]
    simp [Item.diagnostic?]
  · rw [tally, List.zip_append h.symm]
    simp

end Report

/-- The reports of both runs on one disk. -/
theorem publishAll_rest {g : Gap} (hgone : g.gone.isRenderable = false)
    (hsound : ParentsSound g.full) (markdown : Markdown.Engine) (style : PageStyle) {f : Failure}
    (hf : draft (Context.ofRun markdown g.full) style g.item = .error f)
    {σ : Type} (disk : Disk (StateM σ)) (out : String) (s : σ) :
    (∃ e s', publishAll disk markdown style out g.full s = (.error e, s')
      ∧ publishAll disk markdown style out g.rest s = (.error e, s'))
    ∨ ∃ written ds ds' s',
      publishAll disk markdown style out g.full s
        = (.ok ⟨out, written, ds ++ Diagnostic.ofFailure g.moduleName g.gone.name f :: ds'⟩, s')
      ∧ publishAll disk markdown style out g.rest s = (.ok ⟨out, written, ds ++ ds'⟩, s') := by
  have hitem : ∀ s, publish disk out (Context.ofRun markdown g.full) style g.item s
      = (.error f, s) := fun s => by rw [publish, hf]; rfl
  have hothers : ∀ item ∈ g.before ++ g.after,
      publish disk out (Context.ofRun markdown g.rest) style (item.movedUp g.place)
        = publish disk out (Context.ofRun markdown g.full) style item := fun item h => by
    rw [publish, publish, Gap.draft_rest hgone hsound markdown style h]
  unfold publishAll
  rw [bind_run, bind_run]
  cases (prepare disk out s).1 with
  | error e => exact Or.inl ⟨e, _, rfl, rfl⟩
  | ok u =>
    refine Or.inr ?_
    dsimp only
    obtain ⟨front, back, s', hlength, hwith, hwithout⟩ :=
      mapM_around_run hitem g.before g.after (prepare disk out s).2
    obtain ⟨written, ds, ds', htally, htally'⟩ :=
      Report.tally_around ⟨out, [], []⟩ g.item g.after f back hlength
    refine ⟨written, ds, ds', s', ?_, ?_⟩
    · rw [publishEach_eq, Gap.items_full, hwith, htally]
      rfl
    · rw [publishEach_eq, Gap.items_rest, mapM_map_run hothers, hwithout, Report.tally_movedUp,
        htally']

/-- An entry that can have no page does not reach the others. Without it the
index knows the same symbols with the same pages; the other entries come in
the same order, and each has the page it had, the article or the failure, and
the HTML. A run on the same disk ends alike and leaves it alike, and its
report is the one it was without the entry's own diagnostic. -/
theorem unrenderable_apart (markdown : Markdown.Engine) (style : PageStyle)
    (documents : List (String × String)) {gone : Item}
    (hgone : gone ∈ items (Collection.afterAll documents))
    (hnone : gone.entry.isRenderable = false) :
    let cs := Collection.afterAll documents
    let rest := Collection.without cs gone.place
    let ctx := Context.ofRun markdown cs
    let ctx' := Context.ofRun markdown rest
    ctx'.index.targets = ctx.index.targets
    ∧ ∃ before after f, items cs = before ++ gone :: after
      ∧ items rest = (before ++ after).map (Item.movedUp gone.place)
      ∧ (∀ item ∈ before ++ after,
        let place := gone.place.movedUp item.place
        ctx'.index.plan.page? place.collection place.entry
          = ctx.index.plan.page? item.place.collection item.place.entry
        ∧ ctx'.article place item.moduleName item.entry
          = ctx.article item.place item.moduleName item.entry
        ∧ draft ctx' style (item.movedUp gone.place) = draft ctx style item)
      ∧ draft ctx style gone = .error f
      ∧ ∀ {σ : Type} (disk : Disk (StateM σ)) (out : String) (s : σ),
        (∃ e s', publishAll disk markdown style out cs s = (.error e, s')
          ∧ publishAll disk markdown style out rest s = (.error e, s'))
        ∨ ∃ written ds ds' s',
          publishAll disk markdown style out cs s = (.ok ⟨out, written,
            ds ++ Diagnostic.ofFailure gone.moduleName gone.entry.name f :: ds'⟩, s')
          ∧ publishAll disk markdown style out rest s = (.ok ⟨out, written, ds ++ ds'⟩, s') := by
  have hsound := Collection.parentsSound_afterAll documents
  intro cs rest ctx ctx'
  obtain ⟨c, hc, he, hname⟩ := mem_items_iff.mp hgone
  obtain ⟨g, hfull, hplace, hentry, hmodule⟩ := Gap.exists_of_getElem? hc he
  -- From here on the collections are shown around the entry.
  have hitem : gone = g.item := by rw [Gap.item, hplace, hentry, hmodule, ← hname]
  have hcs : cs = g.full := hfull.symm
  have hrest : rest = g.rest := by rw [← g.without_full, hfull, hplace]
  clear_value cs
  subst hitem hcs
  have hctx' : ctx' = Context.ofRun markdown g.rest := congrArg (Context.ofRun markdown) hrest
  rw [← hfull] at hsound
  rw [hrest, hctx']
  obtain ⟨f, hf⟩ := Gap.exists_refusal hnone ctx style
  refine ⟨Gap.targets_rest hnone hsound, g.before, g.after, f, g.items_full, g.items_rest,
    fun item hmem => ?_, hf, fun disk out s => ?_⟩
  · obtain ⟨_, hc, he, -⟩ := mem_items_iff.mp (Gap.mem_items_of_mem hmem)
    exact ⟨Gap.page?_rest hnone hsound (Gap.place_ne_of_mem hmem),
      Gap.article_rest hnone hsound markdown hc he _,
      Gap.draft_rest hnone hsound markdown style hmem⟩
  · exact publishAll_rest hnone hsound markdown style hf disk out s

/-- A module whose first entry is of no known kind and named like the second. -/
def chartDocument : String × String :=
  ("charts.json", "\x7b\"moduleName\": \"charts\", \"entries\": ["
    ++ "\x7b\"name\": \"Bar\", \"entryType\": \"chart\"\x7d, "
    ++ "\x7b\"name\": \"Bar\", \"entryType\": \"class\"\x7d]\x7d")

/-- A tree of commands stands behind the chart and the class. All four of
these entries have the drafts they had, and without the chart a run below an
empty directory has one diagnostic less. -/
theorem chart_apart :
    let cs := Collection.afterAll [chartDocument, Collection.treeDocument]
    ∃ chart ∈ items cs, chart.entry.isRenderable = false
      ∧ ∃ before after f, items cs = before ++ chart :: after ∧ (before ++ after).length = 4
        ∧ items (Collection.without cs chart.place)
          = (before ++ after).map (Item.movedUp chart.place)
        ∧ (∀ item ∈ before ++ after,
          draft (Context.ofRun true (Collection.without cs chart.place)) .fragment
              (item.movedUp chart.place)
            = draft (Context.ofRun true cs) .fragment item)
        ∧ ∃ written ds ds' t,
          publishAll Disk.ofTree true .fragment "out" cs ⟨[], []⟩
            = (.ok ⟨"out", written,
              ds ++ Diagnostic.ofFailure chart.moduleName chart.entry.name f :: ds'⟩, t)
          ∧ publishAll Disk.ofTree true .fragment "out" (Collection.without cs chart.place) ⟨[], []⟩
            = (.ok ⟨"out", written, ds ++ ds'⟩, t) := by
  intro cs
  have hfound : ((items cs).any fun item => !item.entry.isRenderable) = true
      ∧ (items cs).length = 5 := by
    decide +kernel
  have hran : (publishAll Disk.ofTree true .fragment "out" cs ⟨[], []⟩).1.toBool = true := by
    decide +kernel
  obtain ⟨chart, hchart, hnone⟩ := List.any_eq_true.mp hfound.1
  rw [Bool.not_eq_true'] at hnone
  obtain ⟨-, before, after, f, hitems, hrest, hothers, -, hreports⟩ :=
    unrenderable_apart true .fragment [chartDocument, Collection.treeDocument] hchart hnone
  have hlength : (before ++ after).length = 4 := by
    have hall := hfound.2
    rw [show items cs = before ++ chart :: after from hitems] at hall
    simp only [List.length_append, List.length_cons] at hall ⊢
    omega
  refine ⟨chart, hchart, hnone, before, after, f, hitems, hlength, hrest,
    fun item hitem => (hothers item hitem).2.2, ?_⟩
  rcases hreports Disk.ofTree "out" ⟨[], []⟩ with ⟨e, t, hfailed, -⟩ | hboth
  · rw [show publishAll Disk.ofTree true .fragment "out" cs ⟨[], []⟩ = _ from hfailed] at hran
    cases hran
  · exact hboth

end Run

end ApiPages
