import ApiPages.Proofs.Files.Walk

/-!
# What operations leave of a file tree

Directories stay once they are there, so a path that was found leads to the
same place for good (`target_of_grows`). Making directories takes nothing away
at all (`Keeps`) and adds nothing but directories (`AddsOnly`); writing a file
replaces what one place held.

The law of reading after writing compares places, not paths: two texts that
name one place are one file (`read_of_write`).
-/

namespace ApiPages.Files.Tree

variable {t t' : Tree}

/-! ## Nodes -/

/-- The first entry decides for its own place. -/
theorem lookup_entry (p q : Place) (n : Node) (more : List (Place × Node)) :
    ((p, n) :: more).lookup q = if q = p then some n else more.lookup q := by
  by_cases hq : q = p
  · simp [hq]
  · simp [List.lookup_cons, beq_false_of_ne hq, hq]

/-- Setting a node changes what is found at its own place alone. -/
theorem lookup_setNode (place : Place) (node : Node) (nodes : List (Place × Node)) (q : Place) :
    (setNode place node nodes).lookup q = if q = place then some node else nodes.lookup q := by
  induction nodes with
  | nil => rw [setNode, lookup_entry]
  | cons entry more ih =>
    obtain ⟨p, n⟩ := entry
    by_cases hp : p = place
    · subst hp
      by_cases hq : q = p <;> simp [setNode, lookup_entry, hq]
    · by_cases hq : q = place
      · subst hq
        simp [setNode, hp, lookup_entry, ih, Ne.symm hp]
      · simp [setNode, hp, lookup_entry, ih, hq]

/-- What the places hold after one of them was set. -/
theorem node?_put {place : Place} (hne : place ≠ []) (t : Tree) (node : Node) (q : Place) :
    (t.put place node).node? q = if q = place then some node else t.node? q := by
  by_cases hq : q = []
  · simp [node?, hq, Ne.symm hne]
  · simp [node?, put, hq, lookup_setNode]

/-! ## Growth -/

/-- One tree after another, when directories may only have been added. -/
structure Grows (t t' : Tree) : Prop where
  current : t'.current = t.current
  directory : ∀ place, t.node? place = some .directory → t'.node? place = some .directory

/-- One tree after another, when nothing was taken away or replaced. -/
structure Keeps (t t' : Tree) : Prop where
  current : t'.current = t.current
  node : ∀ place n, t.node? place = some n → t'.node? place = some n

/-- One tree after another, when directories were added, each at one of some
places, and nothing else has changed. -/
structure AddsOnly (places : List Place) (t t' : Tree) : Prop where
  current : t'.current = t.current
  node : ∀ q, t'.node? q = t.node? q
    ∨ t.node? q = none ∧ t'.node? q = some .directory ∧ q ∈ places

/-- Adding directories keeps everything that was there. -/
theorem AddsOnly.keeps {places : List Place} (h : AddsOnly places t t') : Keeps t t' := by
  refine ⟨h.current, fun q n hn => ?_⟩
  rcases h.node q with hsame | ⟨hnone, -, -⟩
  · rw [hsame, hn]
  · rw [hnone] at hn
    cases hn

theorem AddsOnly.refl (places : List Place) (t : Tree) : AddsOnly places t t :=
  ⟨rfl, fun _ => Or.inl rfl⟩

/-- Directories at some places are directories at more. -/
theorem AddsOnly.mono {places more : List Place} (h : AddsOnly places t t')
    (hsub : ∀ q ∈ places, q ∈ more) : AddsOnly more t t' :=
  ⟨h.current, fun q => (h.node q).imp_right fun ⟨hnone, hnow, hq⟩ => ⟨hnone, hnow, hsub q hq⟩⟩

/-- Directories are added in steps. -/
theorem AddsOnly.trans {places : List Place} {t'' : Tree} (h : AddsOnly places t t')
    (h' : AddsOnly places t' t'') : AddsOnly places t t'' := by
  refine ⟨h'.current.trans h.current, fun q => ?_⟩
  rcases h.node q with hsame | ⟨hnone, hnow, hq⟩
  · rw [← hsame]
    exact h'.node q
  · exact Or.inr ⟨hnone, h'.keeps.node q _ hnow, hq⟩

/-- A tree that keeps everything only grows. -/
theorem Keeps.grows (h : Keeps t t') : Grows t t' :=
  ⟨h.current, fun place => h.node place .directory⟩

theorem Keeps.refl (t : Tree) : Keeps t t := ⟨rfl, fun _ _ h => h⟩

/-- What is kept twice is kept. -/
theorem Keeps.trans {t'' : Tree} (h : Keeps t t') (h' : Keeps t' t'') : Keeps t t'' :=
  ⟨h'.current.trans h.current, fun place n hn => h'.node place n (h.node place n hn)⟩

/-- A tree grows in steps. -/
theorem Grows.trans {t'' : Tree} (h : Grows t t') (h' : Grows t' t'') : Grows t t'' :=
  ⟨h'.current.trans h.current, fun place hn => h'.directory place (h.directory place hn)⟩

/-! ## Paths that are found -/

/-- A way along directories stays one in a tree that grows. -/
theorem along_of_grows (hg : Grows t t') {place : Place} {segs : List String}
    (h : t.Along (· = some .directory) place segs) :
    t'.Along (· = some .directory) place segs :=
  ⟨h.short, fun q hq => hg.directory q (h.node q hq)⟩

/-- A walk that ends still ends there when directories were added. -/
theorem walk_of_grows (hg : Grows t t') {segs : List String} {place last : Place}
    (h : t.walk place segs = .ok last) : t'.walk place segs = .ok last := by
  obtain ⟨hdirectories, hlast⟩ := walk_eq_ok_iff.mp h
  exact walk_eq_ok_iff.mpr ⟨along_of_grows hg hdirectories, hlast⟩

/-- A path that is found is still found there when directories were
added. -/
theorem target_of_grows (hg : Grows t t') {path : String} {target : Target}
    (h : t.target path = .ok target) : t'.target path = .ok target := by
  have hu := usable_of_target h
  have hne : path ≠ "" := by
    rintro rfl
    cases h
  rcases exists_last (segments path)
    with hempty | ⟨before, last, slashes, hsegs, hlast, hslashes⟩
  · rwa [target_of_empty hu hne hempty, hg.current, ← target_of_empty hu hne hempty]
  · rw [target_of_segments hu hsegs hlast hslashes, map_eq_ok_iff] at h
    obtain ⟨found, hwalk, h⟩ := h
    rw [target_of_segments hu hsegs hlast hslashes, map_eq_ok_iff, hg.current]
    exact ⟨found, walk_of_grows hg hwalk, h⟩

/-! ## Reading and writing -/

/-- A file that can be read. -/
theorem read_eq_ok_iff {path text : String} :
    t.read path = .ok text ↔ ∃ directory name, t.target path = .ok (.named directory name false)
      ∧ checkName name = .ok () ∧ t.node? (directory ++ [name]) = some (.file (some text)) := by
  constructor
  · intro h
    obtain ⟨target, htarget, h⟩ := exists_of_bind_eq_ok h
    cases target with
    | unnamed place => cases h
    | named directory name slash =>
      obtain ⟨u, hname, h⟩ := exists_of_bind_eq_ok h
      split at h
      · cases h
      · cases h
      · next held hnode =>
        cases slash <;> cases held <;> simp at h
        exact ⟨directory, name, htarget, hname, h ▸ hnode⟩
  · rintro ⟨directory, name, htarget, hname, hnode⟩
    simp [Tree.read, htarget, hname, hnode, bind, Except.bind]

/-- A write that succeeds puts the text at a name that is no directory. -/
theorem write_eq_ok_iff {path text : String} :
    t.write path text = .ok t' ↔ ∃ directory name,
      t.target path = .ok (.named directory name false) ∧ checkName name = .ok ()
      ∧ t.node? (directory ++ [name]) ≠ some .directory
      ∧ t' = t.put (directory ++ [name]) (.file (some text)) := by
  constructor
  · intro h
    obtain ⟨target, htarget, h⟩ := exists_of_bind_eq_ok h
    cases target with
    | unnamed place => cases h
    | named directory name slash =>
      cases slash with
      | true => cases h
      | false =>
        obtain ⟨u, hname, h⟩ := exists_of_bind_eq_ok h
        split at h
        · cases h
        · next hnode => exact ⟨directory, name, htarget, hname, hnode, (Except.ok.inj h).symm⟩
  · rintro ⟨directory, name, htarget, hname, hnode, rfl⟩
    simp only [Tree.write, htarget, hname, bind, Except.bind, Bool.false_eq_true, if_false]

/-- Files that were not replaced read as before. -/
theorem read_of_keeps (hk : Keeps t t') {path text : String} (h : t.read path = .ok text) :
    t'.read path = .ok text := by
  obtain ⟨directory, name, htarget, hname, hnode⟩ := read_eq_ok_iff.mp h
  exact read_eq_ok_iff.mpr
    ⟨directory, name, target_of_grows hk.grows htarget, hname, hk.node _ _ hnode⟩

/-- Two paths to one place read the same text. -/
theorem read_eq_of_placeOf_eq {p q text text' : String} (hp : t.read p = .ok text)
    (hq : t.read q = .ok text') (h : placeOf t.current p = placeOf t.current q) :
    text = text' := by
  obtain ⟨directory, name, htarget, -, hnode⟩ := read_eq_ok_iff.mp hp
  obtain ⟨directory', name', htarget', -, hnode'⟩ := read_eq_ok_iff.mp hq
  rw [← placeOf_of_target htarget] at hnode
  rw [← placeOf_of_target htarget', ← h, hnode] at hnode'
  simpa using hnode'

/-- A directory that is made goes where nothing was. -/
theorem makeDirectory_eq_ok_iff {path : String} :
    t.makeDirectory path = .ok t' ↔ ∃ directory name slash,
      t.target path = .ok (.named directory name slash) ∧ checkName name = .ok ()
      ∧ t.node? (directory ++ [name]) = none ∧ t' = t.put (directory ++ [name]) .directory := by
  constructor
  · intro h
    obtain ⟨target, htarget, h⟩ := exists_of_bind_eq_ok h
    cases target with
    | unnamed place => cases h
    | named directory name slash =>
      obtain ⟨u, hname, h⟩ := exists_of_bind_eq_ok h
      split at h
      · cases h
      · next hnode => exact ⟨directory, name, slash, htarget, hname, hnode, (Except.ok.inj h).symm⟩
  · rintro ⟨directory, name, slash, htarget, hname, hnode, rfl⟩
    simp only [Tree.makeDirectory, htarget, hname, hnode, bind, Except.bind]

/-- Directories outlast the writing of a file. -/
theorem grows_of_write {path text : String} (h : t.write path text = .ok t') : Grows t t' := by
  obtain ⟨directory, name, -, -, hnode, rfl⟩ := write_eq_ok_iff.mp h
  refine ⟨rfl, fun place hplace => ?_⟩
  rw [node?_put (by simp)]
  split
  · next heq => exact absurd (heq ▸ hplace) hnode
  · exact hplace

/-- What is read where it was written is what was written. -/
theorem read_of_write_self {path text : String} (h : t.write path text = .ok t') :
    t'.read path = .ok text := by
  have hg := grows_of_write h
  obtain ⟨directory, name, htarget, hname, -, rfl⟩ := write_eq_ok_iff.mp h
  refine read_eq_ok_iff.mpr ⟨directory, name, target_of_grows hg htarget, hname, ?_⟩
  rw [node?_put (by simp), if_pos rfl]

/-- After a write, every file reads as before, but for the paths to the
place that was written. -/
theorem read_of_write {p q text held : String} (h : t.write p text = .ok t')
    (hq : t.read q = .ok held) :
    t'.read q = .ok (if placeOf t.current q = placeOf t.current p then text else held) := by
  have hg := grows_of_write h
  obtain ⟨directory, name, htarget, -, -, rfl⟩ := write_eq_ok_iff.mp h
  obtain ⟨directory', name', htarget', hname', hnode'⟩ := read_eq_ok_iff.mp hq
  refine read_eq_ok_iff.mpr ⟨directory', name', target_of_grows hg htarget', hname', ?_⟩
  rw [node?_put (by simp), ← placeOf_of_target htarget, ← placeOf_of_target htarget']
  split
  · rfl
  · rw [placeOf_of_target htarget', hnode']

end ApiPages.Files.Tree
