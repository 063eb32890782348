import ApiPages.Page.Plan
import ApiPages.Proofs.Text.Lowercase
import Mathlib.Data.List.Nodup
import Mathlib.Data.List.Perm.Subperm

/-!
# Every page of a plan has its own name

Names are compared in small letters. `claim_cases` says all that a claim can
answer: the name itself while it is free, and otherwise the name with the
least free number. That such a number turns up within the search is the
pigeonhole of `exists_free`: numbers give names that differ in small
letters, and one more of them is tried than names are taken.

`assign_page?` carries this through the two loops. What is taken when an
entry asks is exactly what the positions before it were given, so a number
handed out to one entry counts against the plain name of a later one.
-/

namespace ApiPages.Page

/-! ## Numbered names -/

/-- The characters of a numbered name. -/
theorem toList_numbered (name : String) (k : Nat) :
    (numbered name k).toList
      = (cutExtension name.toList).1 ++ ('-' :: Nat.toDigits 10 k)
        ++ (cutExtension name.toList).2 := by
  simp [numbered]

/-- A hyphen and the digits of a number are uncased. -/
theorem uncased_suffix (k : Nat) : ∀ c ∈ '-' :: Nat.toDigits 10 k, Text.Uncased c := by
  intro c hc
  rcases List.mem_cons.mp hc with rfl | hc
  · exact Text.uncased_hyphen
  · exact Text.uncased_of_isDigit (Nat.isDigit_of_mem_toDigits (by decide) (by decide) hc)

/-- A numbered name in small letters: the number does not change how the
rest is spelt. -/
theorem toList_lowercase_numbered (name : String) (k : Nat) :
    (Text.lowercase (numbered name k)).toList
      = Text.lowercaseFrom [] (cutExtension name.toList).1 ++ ('-' :: Nat.toDigits 10 k)
        ++ Text.lowercaseFrom [] (cutExtension name.toList).2 := by
  rw [Text.lowercase, String.toList_ofList, toList_numbered]
  exact Text.lowercaseFrom_around (uncased_suffix k) (by simp) _ _ _

/-- Two numbers give two names, also in small letters. -/
theorem lowercase_numbered_injective (name : String) :
    Function.Injective fun k => Text.lowercase (numbered name k) := by
  intro j k h
  have hchars := congrArg String.toList h
  simp only [toList_lowercase_numbered] at hchars
  have hdigits := List.append_cancel_left (List.append_cancel_right hchars)
  have hvalues := congrArg (Nat.ofDigitChars 10 · 0) (List.cons.inj hdigits).2
  simpa using hvalues

/-! ## One claim -/

/-- Of as many numbers as names are taken, and one more, one is free. -/
theorem exists_free (claimed : List String) (name : String) :
    ∃ k, 1 ≤ k ∧ k < 1 + (claimed.length + 1) ∧ Text.lowercase (numbered name k) ∉ claimed := by
  by_contra hnone
  let tried := (List.range' 1 (claimed.length + 1)).map fun k => Text.lowercase (numbered name k)
  have hnodup : tried.Nodup :=
    List.Nodup.map (lowercase_numbered_injective name) List.nodup_range'
  have hsubset : tried ⊆ claimed := by
    intro x hx
    obtain ⟨k, hk, rfl⟩ := List.mem_map.mp hx
    obtain ⟨hlow, hhigh⟩ := List.mem_range'_1.mp hk
    by_contra hfree
    exact hnone ⟨k, hlow, hhigh, hfree⟩
  have hlength := (List.subperm_of_subset hnodup hsubset).length_le
  simp only [tried, List.length_map, List.length_range'] at hlength
  omega

/-- A search that has a free number ahead of it answers the least one. -/
theorem firstFree_least (claimed : List String) (name : String) :
    ∀ (fuel k : Nat),
      (∃ j, k ≤ j ∧ j < k + fuel ∧ Text.lowercase (numbered name j) ∉ claimed) →
      ∃ j, k ≤ j ∧ firstFree claimed name k fuel = numbered name j
        ∧ Text.lowercase (numbered name j) ∉ claimed
        ∧ ∀ i, k ≤ i → i < j → Text.lowercase (numbered name i) ∈ claimed
  | 0, k, ⟨j, hlow, hhigh, _⟩ => by omega
  | fuel + 1, k, ⟨j, hlow, hhigh, hfree⟩ => by
    by_cases htaken : Text.lowercase (numbered name k) ∈ claimed
    · have hne : j ≠ k := fun h => hfree (h ▸ htaken)
      obtain ⟨l, hl, hanswer, hlfree, hleast⟩ :=
        firstFree_least claimed name fuel (k + 1) ⟨j, by omega, by omega, hfree⟩
      refine ⟨l, by omega, ?_, hlfree, ?_⟩
      · simpa only [firstFree, List.contains_iff_mem, htaken, if_true] using hanswer
      · intro i hi hil
        rcases Nat.eq_or_lt_of_le hi with rfl | hi
        · exact htaken
        · exact hleast i hi hil
    · refine ⟨k, Nat.le_refl k, ?_, htaken, fun i hi hik => by omega⟩
      simp only [firstFree, List.contains_iff_mem, htaken, if_false]

/-- All that a claim can answer: the name itself when it is free, and
otherwise the name with the least number that is. -/
theorem claim_cases (claimed : List String) (name : String) :
    (Text.lowercase name ∉ claimed ∧ claim claimed name = name) ∨
    (Text.lowercase name ∈ claimed ∧ ∃ k, 1 ≤ k ∧ claim claimed name = numbered name k
      ∧ Text.lowercase (numbered name k) ∉ claimed
      ∧ ∀ i, 1 ≤ i → i < k → Text.lowercase (numbered name i) ∈ claimed) := by
  by_cases htaken : Text.lowercase name ∈ claimed
  · obtain ⟨k, hk, hanswer, hfree, hleast⟩ :=
      firstFree_least claimed name (claimed.length + 1) 1 (exists_free claimed name)
    refine Or.inr ⟨htaken, k, hk, ?_, hfree, hleast⟩
    simpa only [claim, List.contains_iff_mem, htaken, if_true] using hanswer
  · refine Or.inl ⟨htaken, ?_⟩
    simp only [claim, List.contains_iff_mem, htaken, if_false]

/-- A claim never answers a name that is taken. -/
theorem lowercase_claim_not_mem (claimed : List String) (name : String) :
    Text.lowercase (claim claimed name) ∉ claimed := by
  rcases claim_cases claimed name with ⟨hfree, he⟩ | ⟨_, k, _, he, hfree, _⟩
  · rwa [he]
  · rwa [he]

/-! ## All claims of a run -/

/-- Whether one position comes before another in run order. -/
def Precedes (c e c' e' : Nat) : Prop := c < c' ∨ c = c' ∧ e < e'

/-- Of two positions that differ, one comes first. -/
theorem precedes_or_precedes {c e c' e' : Nat} (h : (c, e) ≠ (c', e')) :
    Precedes c e c' e' ∨ Precedes c' e' c e := by
  have hne : ¬ (c = c' ∧ e = e') := fun ⟨hc, he⟩ => h (by rw [hc, he])
  unfold Precedes
  omega

@[simp] theorem assignEach_cons_none (claimed : List String) (more : List (Option String)) :
    assignEach claimed (none :: more)
      = (none :: (assignEach claimed more).1, (assignEach claimed more).2) := rfl

@[simp] theorem assignEach_cons_some (claimed : List String) (name : String)
    (more : List (Option String)) :
    assignEach claimed (some name :: more)
      = (some (claim claimed name)
          :: (assignEach (Text.lowercase (claim claimed name) :: claimed) more).1,
        (assignEach (Text.lowercase (claim claimed name) :: claimed) more).2) := rfl

/-- There are as many answers as requests. -/
@[simp] theorem length_assignEach (wanted : List (Option String)) :
    ∀ claimed, (assignEach claimed wanted).1.length = wanted.length := by
  induction wanted with
  | nil => intro claimed; rfl
  | cons w more ih => intro claimed; cases w <;> simp [ih]

/-- Exactly the requests for a page get one. -/
theorem map_isSome_assignEach (wanted : List (Option String)) :
    ∀ claimed, (assignEach claimed wanted).1.map Option.isSome = wanted.map Option.isSome := by
  induction wanted with
  | nil => intro claimed; rfl
  | cons w more ih => intro claimed; cases w <;> simp [ih]

/-- Later requests see the names that earlier ones claimed. -/
theorem assignEach_append (first second : List (Option String)) :
    ∀ claimed, assignEach claimed (first ++ second)
      = ((assignEach claimed first).1
          ++ (assignEach (assignEach claimed first).2 second).1,
        (assignEach (assignEach claimed first).2 second).2) := by
  induction first with
  | nil => intro claimed; rfl
  | cons w more ih => intro claimed; cases w <;> simp [ih]

/-- The names claimed after some requests are those claimed before and the
pages given. -/
theorem mem_claimed_assignEach (wanted : List (Option String)) :
    ∀ (claimed : List String) (x : String),
      x ∈ (assignEach claimed wanted).2 ↔ x ∈ claimed ∨
        ∃ page, some page ∈ (assignEach claimed wanted).1 ∧ Text.lowercase page = x := by
  induction wanted with
  | nil => intro claimed x; simp [assignEach]
  | cons w more ih =>
    intro claimed x
    cases w with
    | none => simp [ih]
    | some name =>
      rw [assignEach_cons_some, ih]
      constructor
      · rintro (hx | ⟨page, hpage, hx⟩)
        · rcases List.mem_cons.mp hx with rfl | hx
          · exact Or.inr ⟨_, List.mem_cons_self, rfl⟩
          · exact Or.inl hx
        · exact Or.inr ⟨page, List.mem_cons_of_mem _ hpage, hx⟩
      · rintro (hx | ⟨page, hpage, rfl⟩)
        · exact Or.inl (List.mem_cons_of_mem _ hx)
        · rcases List.mem_cons.mp hpage with hpage | hpage
          · obtain rfl := Option.some.inj hpage
            exact Or.inl List.mem_cons_self
          · exact Or.inr ⟨page, hpage, rfl⟩

/-- There are as many rows of pages as rows of requests. -/
@[simp] theorem length_assignAll (rows : List (List (Option String))) :
    ∀ claimed, (assignAll claimed rows).length = rows.length := by
  induction rows with
  | nil => intro claimed; rfl
  | cons row more ih => intro claimed; simp [assignAll, ih]

/-- Exactly the requests for a page get one, collection by collection. -/
theorem map_isSome_assignAll (rows : List (List (Option String))) :
    ∀ claimed, (assignAll claimed rows).map (List.map Option.isSome)
      = rows.map (List.map Option.isSome) := by
  induction rows with
  | nil => intro claimed; rfl
  | cons row more ih => intro claimed; simp [assignAll, map_isSome_assignEach, ih]

/-- Collection by collection is the same as all requests in one row. -/
theorem flatten_assignAll (rows : List (List (Option String))) :
    ∀ claimed, (assignAll claimed rows).flatten = (assignEach claimed rows.flatten).1 := by
  induction rows with
  | nil => intro claimed; rfl
  | cons row more ih => intro claimed; simp [assignAll, assignEach_append, ih]

/-- A later collection sees the names claimed for earlier ones. -/
theorem assignAll_append (first second : List (List (Option String))) :
    ∀ claimed, assignAll claimed (first ++ second)
      = assignAll claimed first
        ++ assignAll (assignEach claimed first.flatten).2 second := by
  induction first with
  | nil => intro claimed; rfl
  | cons row more ih => intro claimed; simp [assignAll, assignEach_append, ih]

/-- An entry's request reads of the collections no more than the root that a
command points at. -/
theorem requestedName_congr {e : Entry} {cs cs' : List Collection}
    (h : ∀ sub, e = .command sub →
      sub.parent.bind (Collection.rootCommand? cs') = sub.parent.bind (Collection.rootCommand? cs))
    (moduleName : String) : requestedName moduleName e cs' = requestedName moduleName e cs := by
  cases e with
  | command sub =>
    show commandName ((sub.parent.bind (Collection.rootCommand? cs')).map Command.name) sub.name = _
    rw [h sub rfl]
    rfl
  | _ => rfl

/-! ## Positions -/

/-- An entry can have a page unless its kind is unknown or its shape is not
its kind's. -/
theorem isRenderable_iff {entry : Entry} :
    entry.isRenderable = true ↔ (∀ name tag raw, entry ≠ .unknown name tag raw)
      ∧ ∀ name tag reason, entry ≠ .malformed name tag reason := by
  cases entry <;> simp [Entry.isRenderable]

/-- A list around its element of a number. -/
theorem exists_around {α : Type} {xs : List α} {i : Nat} {x : α} (h : xs[i]? = some x) :
    ∃ front back, xs = front ++ x :: back ∧ front.length = i := by
  obtain ⟨hlt, rfl⟩ := List.getElem?_eq_some_iff.mp h
  refine ⟨xs.take i, xs.drop (i + 1), ?_, List.length_take_of_le (Nat.le_of_lt hlt)⟩
  rw [← List.drop_eq_getElem_cons hlt, List.take_append_drop]

/-- A request in the midst of a table: it is answered against the pages
given ahead of it, in its own row and in the rows before. -/
theorem assignAll_around (front back : List (List (Option String)))
    (ahead after : List (Option String)) (name : String) :
    ∃ front' back' ahead' after' taken,
      assignAll [] (front ++ (ahead ++ some name :: after) :: back)
        = front' ++ (ahead' ++ some (claim taken name) :: after') :: back'
      ∧ front'.length = front.length ∧ ahead'.length = ahead.length
      ∧ ∀ x, x ∈ taken ↔
        ∃ page, (some page ∈ front'.flatten ∨ some page ∈ ahead') ∧ Text.lowercase page = x := by
  let claimed := (assignEach [] front.flatten).2
  let taken := (assignEach claimed ahead).2
  have htable : assignAll [] (front ++ (ahead ++ some name :: after) :: back)
      = assignAll [] front
        ++ ((assignEach claimed ahead).1 ++ some (claim taken name)
            :: (assignEach (Text.lowercase (claim taken name) :: taken) after).1)
        :: assignAll (assignEach claimed (ahead ++ some name :: after)).2 back := by
    rw [assignAll_append, assignAll, assignEach_append, assignEach_cons_some]
  refine ⟨_, _, _, _, taken, htable, length_assignAll front [], length_assignEach ahead claimed,
    fun x => ?_⟩
  simp only [taken, claimed, mem_claimed_assignEach, flatten_assignAll, List.not_mem_nil,
    false_or, or_and_right, exists_or]

namespace Plan

/-- A position has a page when its row does. -/
theorem page?_eq_some_iff {plan : Plan} {c e : Nat} {page : String} :
    plan.page? c e = some page ↔ ∃ row, plan.pages[c]? = some row ∧ row[e]? = some (some page) := by
  simp only [page?, Option.join_eq_some_iff, Option.bind_eq_some_iff]

/-- The pages that precede a position are those of the rows before and
those ahead in its own row. -/
theorem exists_precedes_iff {plan : Plan} {front back : List (List (Option String))}
    {ahead after : List (Option String)} {own : Option String}
    (h : plan.pages = front ++ (ahead ++ own :: after) :: back) (page : String) :
    (∃ c' e', Precedes c' e' front.length ahead.length ∧ plan.page? c' e' = some page)
      ↔ some page ∈ front.flatten ∨ some page ∈ ahead := by
  constructor
  · rintro ⟨c', e', hbefore, hpage⟩
    obtain ⟨row, hrow, hcell⟩ := page?_eq_some_iff.mp hpage
    rw [h] at hrow
    rcases hbefore with hc | ⟨rfl, he⟩
    · rw [List.getElem?_append_left hc] at hrow
      exact Or.inl (List.mem_flatten.mpr
        ⟨row, List.mem_of_getElem? hrow, List.mem_of_getElem? hcell⟩)
    · obtain rfl : ahead ++ own :: after = row := by simpa using hrow
      rw [List.getElem?_append_left he] at hcell
      exact Or.inr (List.mem_of_getElem? hcell)
  · rintro (hmem | hmem)
    · obtain ⟨row, hrow, hcell⟩ := List.mem_flatten.mp hmem
      obtain ⟨c', hc, hat⟩ := List.mem_iff_getElem.mp hrow
      obtain ⟨e', he⟩ := List.mem_iff_getElem?.mp hcell
      refine ⟨c', e', Or.inl hc, page?_eq_some_iff.mpr ⟨row, ?_, he⟩⟩
      rw [h, List.getElem?_append_left hc, List.getElem?_eq_getElem hc, hat]
    · obtain ⟨e', he, hat⟩ := List.mem_iff_getElem.mp hmem
      refine ⟨front.length, e', Or.inr ⟨rfl, he⟩,
        page?_eq_some_iff.mpr ⟨ahead ++ own :: after, by simp [h], ?_⟩⟩
      rw [List.getElem?_append_left he, List.getElem?_eq_getElem he, hat]

variable {cs : List Collection} {c e : Nat} {collection : Collection} {entry : Entry}

/-- The page of an entry that can have one: its claim against the pages of
all positions that precede its own. -/
theorem assign_page? (hc : cs[c]? = some collection) (he : collection.entries[e]? = some entry)
    (hr : entry.isRenderable = true) :
    ∃ taken,
      (∀ x, x ∈ taken ↔ ∃ c' e' page, Precedes c' e' c e
        ∧ (assign cs).page? c' e' = some page ∧ Text.lowercase page = x)
      ∧ (assign cs).page? c e
        = some (claim taken (requestedName collection.moduleName entry cs)) := by
  obtain ⟨wanted, hwanted⟩ : ∃ w, w = requestedName collection.moduleName entry cs := ⟨_, rfl⟩
  have hrow : (cs.map (requests cs))[c]? = some (requests cs collection) := by simp [hc]
  have hcell : (requests cs collection)[e]? = some (some wanted) := by
    simp [requests, he, hr, hwanted]
  obtain ⟨front, back, hrows, rfl⟩ := exists_around hrow
  obtain ⟨ahead, after, hcells, rfl⟩ := exists_around hcell
  obtain ⟨front', back', ahead', after', taken, htable, hfront, hahead, htaken⟩ :=
    assignAll_around front back ahead after wanted
  have hpages : (assign cs).pages
      = front' ++ (ahead' ++ some (claim taken wanted) :: after') :: back' := by
    rw [assign, hrows, hcells, htable]
  rw [← hwanted]
  refine ⟨taken, fun x => ?_, page?_eq_some_iff.mpr
    ⟨ahead' ++ some (claim taken wanted) :: after', by simp [hpages, ← hfront], by simp [← hahead]⟩⟩
  rw [htaken]
  simp only [← exists_precedes_iff hpages, hfront, hahead]
  constructor
  · rintro ⟨page, ⟨c', e', hbefore, hpage⟩, hx⟩
    exact ⟨c', e', page, hbefore, hpage, hx⟩
  · rintro ⟨c', e', page, hbefore, hpage, hx⟩
    exact ⟨page, ⟨c', e', hbefore, hpage⟩, hx⟩

/-- A page stands where an entry that can have one does. -/
theorem exists_entry_of_assign_page? {page : String} (h : (assign cs).page? c e = some page) :
    ∃ collection entry, cs[c]? = some collection ∧ collection.entries[e]? = some entry
      ∧ entry.isRenderable = true := by
  obtain ⟨row, hrow, hcell⟩ := page?_eq_some_iff.mp h
  have hshape := congrArg (·[c]?) (map_isSome_assignAll (cs.map (requests cs)) [])
  have hpages : (assignAll [] (cs.map (requests cs)))[c]? = some row := hrow
  simp only [List.getElem?_map, hpages, Option.map_some] at hshape
  cases hc : cs[c]? with
  | none => simp [hc] at hshape
  | some collection =>
    have hcells := congrArg (·[e]?) (Option.some.inj (by simpa [hc] using hshape))
    simp only [List.getElem?_map, hcell, Option.map_some, requests] at hcells
    cases he : collection.entries[e]? with
    | none => simp [he] at hcells
    | some entry =>
      refine ⟨collection, entry, rfl, he, ?_⟩
      by_contra hr
      simp [he, hr] at hcells

/-- Who has a page, and which. Entries that are neither unknown nor
malformed have one, and no other position does. Any two pages differ in
small letters. An entry keeps the name it asks for exactly when no page
ahead of it, numbered or not, has that name in small letters; otherwise it
gets the name with the least number that none of them has. -/
theorem assign_pages_differ (cs : List Collection) :
    (∀ c e, ((assign cs).page? c e).isSome = true ↔
      ∃ collection entry, cs[c]? = some collection ∧ collection.entries[e]? = some entry
        ∧ (∀ name tag raw, entry ≠ .unknown name tag raw)
        ∧ ∀ name tag reason, entry ≠ .malformed name tag reason)
    ∧ (∀ c e c' e' page page', (c, e) ≠ (c', e') →
      (assign cs).page? c e = some page → (assign cs).page? c' e' = some page' →
      Text.lowercase page ≠ Text.lowercase page')
    ∧ ∀ c e collection entry page,
      cs[c]? = some collection → collection.entries[e]? = some entry →
      (assign cs).page? c e = some page →
      let wanted := requestedName collection.moduleName entry cs
      let taken := fun name => ∃ c' e' earlier, Precedes c' e' c e
        ∧ (assign cs).page? c' e' = some earlier ∧ Text.lowercase earlier = Text.lowercase name
      (¬ taken wanted → page = wanted)
      ∧ (taken wanted → page ≠ wanted ∧ ∃ k, 1 ≤ k ∧ page = numbered wanted k
        ∧ ∀ i, 1 ≤ i → i < k → taken (numbered wanted i)) := by
  -- A page is free of all pages ahead of it, so the later of two decides.
  have hlater : ∀ {c e c' e' page page'}, Precedes c e c' e' →
      (assign cs).page? c e = some page → (assign cs).page? c' e' = some page' →
      Text.lowercase page ≠ Text.lowercase page' := by
    intro c e c' e' page page' hbefore hpage hpage' heq
    obtain ⟨collection, entry, hc, he, hr⟩ := exists_entry_of_assign_page? hpage'
    obtain ⟨taken, htaken, hclaim⟩ := assign_page? hc he hr
    obtain rfl := Option.some.inj (hpage'.symm.trans hclaim)
    exact lowercase_claim_not_mem taken _ (heq ▸ (htaken _).mpr ⟨c, e, page, hbefore, hpage, rfl⟩)
  refine ⟨fun c e => ⟨fun h => ?_, ?_⟩, ?_, ?_⟩
  · obtain ⟨page, hpage⟩ := Option.isSome_iff_exists.mp h
    obtain ⟨collection, entry, hc, he, hr⟩ := exists_entry_of_assign_page? hpage
    exact ⟨collection, entry, hc, he, isRenderable_iff.mp hr⟩
  · rintro ⟨collection, entry, hc, he, hr⟩
    obtain ⟨taken, _, hclaim⟩ := assign_page? hc he (isRenderable_iff.mpr hr)
    rw [hclaim, Option.isSome_some]
  · intro c e c' e' page page' hne hpage hpage'
    rcases precedes_or_precedes hne with hbefore | hbefore
    · exact hlater hbefore hpage hpage'
    · exact (hlater hbefore hpage' hpage).symm
  · intro c e collection entry page hc he hpage wanted taken
    obtain ⟨collection', entry', hc', he', hr⟩ := exists_entry_of_assign_page? hpage
    obtain rfl := Option.some.inj (hc.symm.trans hc')
    obtain rfl := Option.some.inj (he.symm.trans he')
    obtain ⟨names, hnames, hclaim⟩ := assign_page? hc he hr
    have hpageEq : page = claim names wanted := Option.some.inj (hpage.symm.trans hclaim)
    rcases claim_cases names wanted with ⟨hfree, hkept⟩ | ⟨hmem, k, hk, hnumber, hfree, hleast⟩
    · refine ⟨fun _ => hpageEq.trans hkept, fun htaken => ?_⟩
      exact absurd ((hnames _).mpr htaken) hfree
    · refine ⟨fun hfree => absurd ((hnames _).mp hmem) hfree, fun _ => ⟨fun heq => ?_, k, hk,
        hpageEq.trans hnumber, fun i hi hik => (hnames _).mp (hleast i hi hik)⟩⟩
      rw [← heq, hpageEq, hnumber] at hmem
      exact hfree hmem

end Plan

end ApiPages.Page
