import ApiPages.Proofs.Run.Kept

/-!
# A page is one file

To write a page is to make directories and then to write one file, and either
step can fail. `Admits` says of a tree before the first step when neither does.
What is left of the tree is the same in all cases but for two things: there may
be directories where nothing was, all of them at the places of the path's
parents (`AddsOnly`), and if the write succeeds, the place of the path holds
the page (`WritesOnly`).
-/

namespace ApiPages.Files

/-- The places that the names before the last segment of a path lead to. -/
def wayTo (current : Place) (path : String) : List Place :=
  trail (startOf current path) (segments path).dropLast

/-- The way to a path leads along the segments before its last. -/
theorem wayTo_of_segments {path name : String} {before : List String} (current : Place)
    (h : segments path = before ++ [name]) :
    wayTo current path = trail (startOf current path) before := by
  rw [wayTo, h, List.dropLast_concat]

namespace Tree

variable {t t₁ t' : Tree} {path text : String} {places : List Place}

/-- When a file can be written to a path for which directories are made first:
the path ends in a name, its names are not too long, no file is in the way, and
what it names is no directory and will not be one that is made on the way. -/
structure Admits (t : Tree) (path : String) : Prop where
  usable : Usable path
  named : ∃ name, (segments path).getLast? = some name ∧ isName name = true
  short : ∀ seg ∈ segments path, isName seg = true → seg.utf8ByteSize ≤ nameLimit
  clear : ∀ q ∈ wayTo t.current path, IsOpen (t.node? q)
  free : t.node? (placeOf t.current path) ≠ some .directory
  apart : placeOf t.current path ∉ wayTo t.current path

/-- One tree after another, when a text was written to one place, directories
were added, each at one of some places, and nothing else has changed. -/
structure WritesOnly (places : List Place) (place : Place) (text : String) (t t' : Tree) :
    Prop where
  current : t'.current = t.current
  file : t'.node? place = some (.file (some text))
  node : ∀ q, q ≠ place → t'.node? q = t.node? q
    ∨ t.node? q = none ∧ t'.node? q = some .directory ∧ q ∈ places
  directory : ∀ q, t.node? q = some .directory → t'.node? q = some .directory

/-- A write after directories were added. -/
theorem writesOnly_of_write (hadds : AddsOnly places t t₁) (h : t₁.write path text = .ok t') :
    WritesOnly places (placeOf t.current path) text t t' := by
  have hgrows := hadds.keeps.grows.trans (grows_of_write h)
  obtain ⟨directory, name, htarget, -, -, rfl⟩ := write_eq_ok_iff.mp h
  rw [← hadds.current, placeOf_of_target htarget]
  refine ⟨hadds.current, by rw [node?_put (by simp), if_pos rfl], fun q hq => ?_, hgrows.directory⟩
  rw [node?_put (by simp), if_neg hq]
  exact hadds.node q

/-- A write that succeeds after directories were added was admitted before. -/
theorem admits_of_write (hadds : AddsOnly places t t₁) (h : t₁.write path text = .ok t') :
    t.Admits path := by
  obtain ⟨directory, name, htarget, hlength, hfree, -⟩ := write_eq_ok_iff.mp h
  obtain ⟨before, slashes, hsegs, hname, -, hnone, hwalk⟩ := exists_segments_of_target htarget
  obtain rfl : slashes = [] := by simpa using hnone
  obtain ⟨hway, -⟩ := walk_eq_ok_iff.mp hwalk
  have hplace := placeOf_of_target htarget
  rw [hadds.current] at hway hplace
  have hbefore := wayTo_of_segments t.current hsegs
  refine ⟨usable_of_target htarget, ⟨name, by simp [hsegs], hname⟩, fun seg hseg hown => ?_,
    fun q hq txt hfile => ?_, fun hthere => ?_, fun hmade => ?_⟩
  · rw [hsegs] at hseg
    rcases List.mem_append.mp hseg with hseg | hseg
    · exact hway.short seg hseg hown
    · rw [List.mem_singleton.mp hseg]
      exact checkName_eq_ok_iff.mp hlength
  · have hnow := hway.node q (hbefore ▸ hq)
    rw [hadds.keeps.node q _ hfile] at hnow
    cases hnow
  · exact hfree (hplace ▸ hadds.keeps.node _ _ hthere)
  · exact hfree (hplace ▸ hway.node _ (hbefore ▸ hmade))

/-- What is admitted can be written once its way was paved. -/
theorem exists_write_of_admits (h : t.Admits path) (text : String) :
    ∃ before name, segments path = before ++ [name] ∧ isName name = true
      ∧ t.Along IsOpen (startOf t.current path) before
      ∧ ∀ t₁, t.Paves t₁ (startOf t.current path) before → ∃ t', t₁.write path text = .ok t' := by
  obtain ⟨name, hlast, hname⟩ := h.named
  obtain ⟨before, hsegs⟩ := List.getLast?_eq_some_iff.mp hlast
  have hbefore := wayTo_of_segments t.current hsegs
  have hplace : placeOf t.current path = resolve (startOf t.current path) before ++ [name] := by
    rw [placeOf_eq, hsegs, resolve_append, resolve_cons, enter_of_isName hname, resolve_nil]
  have hshort : ∀ seg ∈ before ++ [name], isName seg = true → seg.utf8ByteSize ≤ nameLimit :=
    hsegs ▸ h.short
  refine ⟨before, name, hsegs, hname,
    ⟨fun seg hseg => hshort seg (List.mem_append_left _ hseg), hbefore ▸ h.clear⟩,
    fun t₁ hpaves => ⟨_, write_eq_ok_iff.mpr ⟨resolve (startOf t.current path) before, name, ?_,
      checkName_eq_ok_iff.mpr (hshort name List.mem_concat_self hname), ?_, rfl⟩⟩⟩
  · have hne : name ≠ "" := by
      rintro rfl
      cases hname
    rw [target_of_segments h.usable hsegs hne nofun, hpaves.adds.current,
      walk_eq_ok_iff.mpr ⟨hpaves.way, rfl⟩, Except.map, lastTarget_of_isName hname]
    rfl
  · rw [← hplace]
    intro hnow
    rcases hpaves.adds.node (placeOf t.current path) with hsame | ⟨-, -, hmade⟩
    · exact h.free (hsame ▸ hnow)
    · exact h.apart (hbefore ▸ hmade)

end Tree

end ApiPages.Files

namespace ApiPages.Run

open Files (Disk Tree placeOf)

/-- Where a page is admitted, it is written. -/
theorem writePage_of_admits {out page : String} {t : Tree}
    (h : t.Admits (Files.join out page)) (html : Html) :
    (writePage Disk.ofTree out page html t).1 = .ok (Files.join out page) := by
  obtain ⟨before, name, hsegs, hname, hopen, hwrites⟩ := Tree.exists_write_of_admits h html
  have hparents := Files.parents_of_segments hsegs (Files.isName_eq_true_iff.mp hname).1
  have hpre : before.reverse.reverse <+: Files.segments (Files.join out page) := by
    rw [List.reverse_reverse, hsegs]
    exact List.prefix_append _ _
  obtain ⟨t₁, hrun, hpaves⟩ :=
    Files.makeFirst_textOf h.usable hpre (by rwa [List.reverse_reverse])
  rw [List.reverse_reverse] at hpaves
  obtain ⟨t', hwrite⟩ := hwrites t₁ hpaves
  have hwritten : (writeTo Disk.ofTree (Files.join out page) html t₁).1
      = .ok (Files.join out page) := by
    rw [writeTo, bind_run]
    simp only [Disk.ofTree, Files.keep, hwrite]
    rfl
  rw [← hparents] at hrun
  rw [writePage_eq]
  cases hcases : Files.parents (Files.join out page) with
  | nil =>
    rw [hparents] at hcases
    exact absurd (List.map_eq_nil_iff.mp hcases) (Files.outward_ne_nil _)
  | cons parent around =>
    rw [hcases] at hrun
    dsimp only
    rw [hrun]
    exact hwritten

/-- A page is written exactly where it is admitted. -/
theorem writePage_eq_ok_iff_admits (t : Tree) (out page : String) (html : Html) :
    (writePage Disk.ofTree out page html t).1 = .ok (Files.join out page)
      ↔ t.Admits (Files.join out page) := by
  refine ⟨fun hok => ?_, fun h => writePage_of_admits h html⟩
  rcases writePage_tree_cases out page html t
    with ⟨t₁, t', hadds, hwrite, -⟩ | ⟨place, reason, t', -, hrun⟩
  · exact Tree.admits_of_write hadds hwrite
  · rw [hrun] at hok
    cases hok

/-- Preparing a run is making its output directory, and a failure names that directory. -/
theorem prepare_eq (t : Tree) (out : String) :
    prepare Disk.ofTree out t =
      ((Disk.ofTree.makeDirectories out t).1.mapError fun e => .write out e.message,
        (Disk.ofTree.makeDirectories out t).2) := rfl

variable {t t₁ : Tree} {out : String} {outcome : Except Failure Unit}

/-- So preparation adds that directory and those around it at most. -/
theorem addsOnly_of_prepare (h : prepare Disk.ofTree out t = (outcome, t₁)) :
    t.AddsOnly ((out :: Files.parents out).map (placeOf t.current)) t₁ := by
  have hadds := Files.addsOnly_makeDirectories out t
  rw [prepare_eq] at h
  obtain ⟨-, rfl⟩ := Prod.mk.inj h
  exact hadds

/-- After a successful one the output directory is there. -/
theorem isDirectory_of_prepare (h : prepare Disk.ofTree out t = (.ok (), t₁)) (hne : out ≠ "") :
    t₁.isDirectory out = true := by
  rw [prepare_eq] at h
  obtain ⟨hmade, rfl⟩ := Prod.mk.inj h
  exact Files.isDirectory_of_makeFirst hne (Prod.ext (mapError_eq_ok_iff.mp hmade) rfl)

/-- What preparing leaves of a tree is left as it is by preparing again, which
fails only if it did before. -/
theorem prepare_twice (h : prepare Disk.ofTree out t = (outcome, t₁)) :
    ∃ outcome', prepare Disk.ofTree out t₁ = (outcome', t₁)
      ∧ (outcome' = .ok () ↔ outcome = .ok ()) := by
  rcases hmade : Disk.ofTree.makeDirectories out t with ⟨made, t₂⟩
  obtain ⟨again, hagain, hsame⟩ := Files.settles_parents out t t₂ made hmade
  rw [prepare_eq, hmade] at h
  obtain ⟨rfl, rfl⟩ := Prod.mk.inj h
  refine ⟨again.mapError fun e => .write out e.message, ?_, ?_⟩
  · rw [prepare_eq, Disk.makeDirectories, hagain]
  · rw [mapError_eq_ok_iff, mapError_eq_ok_iff, hsame]

/-- A page that is prepared for and written touches one file. It is written
exactly where it is admitted; then its place holds it, and otherwise every file
holds what it did. In either case, as when the output directory is prepared,
nothing else becomes of the tree than directories where nothing was, all of
them at the places of the path's parents. To prepare twice is to prepare
once. -/
theorem writePage_touches_one_file (t : Tree) (out page : String) (html : Html) :
    let path := Files.join out page
    let parents := (Files.parents path).map (placeOf t.current)
    ((writePage Disk.ofTree out page html t).1 = .ok path ↔ t.Admits path)
      ∧ (∀ answer t', writePage Disk.ofTree out page html t = (.ok answer, t') →
        answer = path ∧ t'.read path = .ok html
          ∧ t.WritesOnly parents (placeOf t.current path) html t')
      ∧ (∀ failure t', writePage Disk.ofTree out page html t = (.error failure, t') →
        (∃ place reason, failure = .write place reason) ∧ t.AddsOnly parents t')
      ∧ ∀ outcome t₁, prepare Disk.ofTree out t = (outcome, t₁) →
        t.AddsOnly ((out :: Files.parents out).map (placeOf t.current)) t₁
          ∧ (outcome = .ok () → out ≠ "" → t₁.isDirectory out = true)
          ∧ ∃ outcome', prepare Disk.ofTree out t₁ = (outcome', t₁)
            ∧ (outcome' = .ok () ↔ outcome = .ok ()) := by
  refine ⟨writePage_eq_ok_iff_admits t out page html, fun answer t' h => ?_, fun failure t' h => ?_,
    fun outcome t₁ h => ⟨addsOnly_of_prepare h, fun hok => isDirectory_of_prepare (hok ▸ h),
      prepare_twice h⟩⟩
  · rcases writePage_tree_cases out page html t
      with ⟨t₁, t₂, hadds, hwrite, hrun⟩ | ⟨place, reason, t₂, hadds, hrun⟩
    · cases hrun.symm.trans h
      exact ⟨rfl, Tree.read_of_write_self hwrite, Tree.writesOnly_of_write hadds hwrite⟩
    · cases hrun.symm.trans h
  · rcases writePage_tree_cases out page html t
      with ⟨t₁, t₂, hadds, hwrite, hrun⟩ | ⟨place, reason, t₂, hadds, hrun⟩
    · cases hrun.symm.trans h
    · cases hrun.symm.trans h
      exact ⟨⟨place, reason, rfl⟩, hadds⟩

/-- A page that cannot be written may still have had directories made for
it. -/
example : (writePage Disk.ofTree "out" "x/../x" "<p></p>" ⟨[], []⟩).2.nodes
    = [(["out"], .directory), (["out", "x"], .directory)] := by
  decide +kernel

end ApiPages.Run
