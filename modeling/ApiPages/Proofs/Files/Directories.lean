import ApiPages.Files.Disk
import ApiPages.Proofs.Files.Parents
import ApiPages.Proofs.Files.Tree

/-!
# Making directories

A path and its parents are made from the inside out, by a recursion that turns
back at the first of them that is there. Its parents lead along the segments of
the path, so what is made for one of them opens the way to the next: with no
file in the way, all directories are made (`makeFirst_textOf`). Otherwise some
may be made and others not. In any case nothing was added but directories at
the places of those paths (`addsOnly_makeFirst`), and a second attempt finds
its work done, or fails again where the first one did
(`settles_parents`).
-/

namespace ApiPages.Files

/-! ## One directory -/

namespace Tree

variable {t t' : Tree} {path : String}

/-- A directory that is made is all that is added. -/
theorem addsOnly_of_makeDirectory (h : t.makeDirectory path = .ok t') :
    AddsOnly [placeOf t.current path] t t' := by
  obtain ⟨directory, name, slash, htarget, -, hnode, rfl⟩ := makeDirectory_eq_ok_iff.mp h
  refine ⟨rfl, fun q => ?_⟩
  rw [node?_put (by simp), placeOf_of_target htarget]
  split
  · next hq => exact Or.inr ⟨hq ▸ hnode, rfl, List.mem_singleton.mpr hq⟩
  · exact Or.inl rfl

/-- Makes a directory, unless it is there already. -/
def settle (t : Tree) (path : String) : Except Fault Unit × Tree :=
  match t.makeDirectory path with
  | .ok t' => (.ok (), t')
  | .error e => (if t.isDirectory path then .ok () else .error e, t)

/-- A target that is a directory; what has no name always is one. -/
def IsDirectoryAt (t : Tree) : Target → Prop
  | .unnamed _ => True
  | .named directory name _ => t.node? (directory ++ [name]) = some .directory

/-- A path is a directory when it leads to one. -/
theorem isDirectory_eq_true_iff :
    t.isDirectory path = true ↔ ∃ target, t.target path = .ok target ∧ t.IsDirectoryAt target := by
  unfold isDirectory
  cases t.target path with
  | error e => simp
  | ok target => cases target <;> simp [IsDirectoryAt]

/-- A directory that is there cannot be made, but is settled as it is. -/
theorem settle_of_isDirectory (h : t.isDirectory path = true) : t.settle path = (.ok (), t) := by
  unfold settle
  cases hmade : t.makeDirectory path with
  | error e => simp [h]
  | ok t' =>
    obtain ⟨target, htarget, hthere⟩ := isDirectory_eq_true_iff.mp h
    obtain ⟨directory, name, slash, hnamed, -, hnone, -⟩ := makeDirectory_eq_ok_iff.mp hmade
    obtain rfl := Except.ok.inj (htarget.symm.trans hnamed)
    rw [IsDirectoryAt, hnone] at hthere
    cases hthere

/-- Where a path is found, a directory is not refused as missing. -/
theorem makeDirectory_ne_notFound {target : Target} (h : t.target path = .ok target) :
    t.makeDirectory path ≠ .error .notFound := by
  rw [makeDirectory, h]
  cases target with
  | unnamed place =>
    intro h
    cases h
  | named directory name slash =>
    simp only [bind, Except.bind, checkName]
    by_cases hlong : name.utf8ByteSize > nameLimit
    · simp [hlong]
    · cases t.node? (directory ++ [name]) <;> simp [hlong]

/-- A directory that was made is there. -/
theorem isDirectory_of_makeDirectory (h : t.makeDirectory path = .ok t') :
    t'.isDirectory path = true := by
  have hgrows := (addsOnly_of_makeDirectory h).keeps.grows
  obtain ⟨directory, name, slash, htarget, -, -, rfl⟩ := makeDirectory_eq_ok_iff.mp h
  refine isDirectory_eq_true_iff.mpr ⟨_, target_of_grows hgrows htarget, ?_⟩
  rw [IsDirectoryAt, node?_put (by simp), if_pos rfl]

/-- A directory that was settled is there. -/
theorem isDirectory_of_settle (h : t.settle path = (.ok (), t')) : t'.isDirectory path = true := by
  unfold settle at h
  split at h
  · next made hmade =>
    cases h
    exact isDirectory_of_makeDirectory hmade
  · split at h
    · next hthere =>
      cases h
      exact hthere
    · cases h

/-- Settling for a path touches its place alone. -/
theorem addsOnly_settle (t : Tree) (path : String) :
    AddsOnly [placeOf t.current path] t (t.settle path).2 := by
  unfold settle
  cases hmade : t.makeDirectory path with
  | error e => exact .refl _ t
  | ok t' => exact addsOnly_of_makeDirectory hmade

end Tree

/-! ## A path and its parents -/

open ApiPages.Files.Tree (AddsOnly)

variable {t t₁ : Tree} {path : String} {around : List String}

/-- On a tree, a failed attempt leaves the tree as it was. -/
theorem makeDirectory_run (path : String) (t : Tree) :
    Disk.ofTree.makeDirectory path t =
      match t.makeDirectory path with
      | .ok t' => (.ok (), t')
      | .error e => (.error e, t) := rfl

/-- On a tree, a failure is settled by a directory that is there. -/
theorem settled_run (path : String) (e : Fault) (t : Tree) :
    Disk.ofTree.settled path (.error e) t =
      (if t.isDirectory path then .ok () else .error e, t) := by
  change (if t.isDirectory path then pure (.ok ()) else pure (.error e)
    : StateM Tree (Except Fault Unit)) t = _
  split <;> rfl

/-- Making one directory on a tree, with what is done when it is there. -/
theorem bind_settled (path : String) (t : Tree) :
    (Disk.ofTree.makeDirectory path >>= Disk.ofTree.settled path) t = t.settle path := by
  change Disk.ofTree.settled path (Disk.ofTree.makeDirectory path t).1
    (Disk.ofTree.makeDirectory path t).2 = _
  rw [makeDirectory_run, Tree.settle]
  cases t.makeDirectory path with
  | ok t' => rfl
  | error e => exact settled_run path e t

/-- The empty path is there, and nothing is made for it. -/
theorem makeFirst_empty (around : List String) (t : Tree) :
    Disk.ofTree.makeFirst ("" :: around) t = (.ok (), t) := rfl

/-- A directory is made after those around it, when these are missing. -/
theorem makeFirst_cons (hne : path ≠ "") (around : List String) (t : Tree) :
    Disk.ofTree.makeFirst (path :: around) t =
      match t.makeDirectory path with
      | .error .notFound =>
        match Disk.ofTree.makeFirst around t with
        | (.error e, t₁) => (.error e, t₁)
        | (.ok (), t₁) => t₁.settle path
      | _ => t.settle path := by
  have hempty : ¬path.isEmpty = true := by simpa using hne
  rw [Disk.makeFirst, if_neg hempty, ← bind_settled path t]
  simp only [bind, StateT.bind, makeDirectory_run]
  cases hmade : t.makeDirectory path with
  | ok t' => rfl
  | error e =>
    cases e with
    | notFound =>
      rcases hinner : Disk.ofTree.makeFirst around t with ⟨outcome, t₁⟩
      simp only [StateT.bind, hinner]
      cases outcome with
      | error e => rfl
      | ok u => exact bind_settled path t₁
    | _ => rfl

/-- A directory that can be tried is made or settled for, and those around it are
not touched. -/
theorem makeFirst_of_ne_notFound (hne : path ≠ "")
    (h : t.makeDirectory path ≠ .error .notFound) :
    Disk.ofTree.makeFirst (path :: around) t = t.settle path := by
  rw [makeFirst_cons hne]
  split
  · next hmissing => exact absurd hmissing h
  · rfl

/-- When something around a directory is missing, that is made first. -/
theorem makeFirst_of_notFound (hne : path ≠ "") (h : t.makeDirectory path = .error .notFound) :
    Disk.ofTree.makeFirst (path :: around) t =
      match Disk.ofTree.makeFirst around t with
      | (.error e, t₁) => (.error e, t₁)
      | (.ok (), t₁) => t₁.settle path := by
  rw [makeFirst_cons hne, h]

/-- A directory that is there is all that is asked for. -/
theorem makeFirst_of_isDirectory (h : t.isDirectory path = true) :
    Disk.ofTree.makeFirst (path :: around) t = (.ok (), t) := by
  obtain ⟨target, htarget, -⟩ := Tree.isDirectory_eq_true_iff.mp h
  have hne : path ≠ "" := by
    rintro rfl
    cases htarget
  rw [makeFirst_of_ne_notFound hne (Tree.makeDirectory_ne_notFound htarget),
    Tree.settle_of_isDirectory h]

/-- What was made is a directory. -/
theorem isDirectory_of_makeFirst (hne : path ≠ "")
    (h : Disk.ofTree.makeFirst (path :: around) t = (.ok (), t₁)) : t₁.isDirectory path = true := by
  by_cases hmissing : t.makeDirectory path = .error .notFound
  · rw [makeFirst_of_notFound hne hmissing] at h
    generalize Disk.ofTree.makeFirst around t = made at h
    obtain ⟨outcome, t₂⟩ := made
    cases outcome with
    | error e => cases h
    | ok u => exact Tree.isDirectory_of_settle h
  · rw [makeFirst_of_ne_notFound hne hmissing] at h
    exact Tree.isDirectory_of_settle h

/-- Directories are added at the places of the paths, and nothing else is
done. -/
theorem addsOnly_makeFirst (paths : List String) (t : Tree) :
    AddsOnly (paths.map (placeOf t.current)) t (Disk.ofTree.makeFirst paths t).2 := by
  induction paths generalizing t with
  | nil => exact .refl _ t
  | cons path around ih =>
    by_cases hne : path = ""
    · rw [hne, makeFirst_empty]
      exact .refl _ t
    have hown : ∀ t₁ : Tree, t₁.current = t.current →
        AddsOnly ((path :: around).map (placeOf t.current)) t₁ (t₁.settle path).2 :=
      fun t₁ hcurrent => (Tree.addsOnly_settle t₁ path).mono fun q hq => by
        rw [List.mem_singleton.mp hq, hcurrent]
        exact List.mem_cons_self
    by_cases hmissing : t.makeDirectory path = .error .notFound
    · have haround := (ih t).mono fun q hq =>
        List.mem_cons_of_mem (placeOf t.current path) hq
      rw [makeFirst_of_notFound hne hmissing]
      generalize Disk.ofTree.makeFirst around t = made at haround ⊢
      obtain ⟨outcome, t₁⟩ := made
      cases outcome with
      | error e => exact haround
      | ok u => exact haround.trans (hown t₁ haround.current)
    · rw [makeFirst_of_ne_notFound hne hmissing]
      exact hown t rfl

/-- Making directories adds the path and those around it at most. -/
theorem addsOnly_makeDirectories (path : String) (t : Tree) :
    AddsOnly ((path :: parents path).map (placeOf t.current)) t
      (Disk.ofTree.makeDirectories path t).2 :=
  addsOnly_makeFirst _ t

/-! ## The way to a path -/

/-- A way with no file on it has none after directories were added. -/
theorem Tree.along_of_addsOnly {places : List Place} (h : AddsOnly places t t₁) {place : Place}
    {segs : List String} (hopen : t.Along IsOpen place segs) : t₁.Along IsOpen place segs := by
  refine ⟨hopen.short, fun q hq text => ?_⟩
  rcases h.node q with hsame | ⟨-, hnow, -⟩
  · rw [hsame]
    exact hopen.node q hq text
  · rw [hnow]
    exact nofun

/-- A last segment leads to a directory exactly when, as a name, it is one. -/
theorem Tree.isDirectoryAt_lastTarget {seg : String} (hseg : seg ≠ "") {directory : Place} :
    t.IsDirectoryAt (lastTarget seg false directory) ↔
      (isName seg = true → t.node? (directory ++ [seg]) = some .directory) := by
  unfold lastTarget
  split
  · next hdot => simp [IsDirectoryAt, isName, isIdle, eq_of_beq hdot]
  · split
    · next hback => simp [IsDirectoryAt, isName, eq_of_beq hback]
    · next hdot hback => simp_all [IsDirectoryAt, isName, isIdle]

/-- What lies along a way lies along any way that it starts. -/
theorem Tree.AddsOnly.along_append {place : Place} {segs more : List String}
    (h : AddsOnly (trail place segs) t t₁) : AddsOnly (trail place (segs ++ more)) t t₁ :=
  h.mono fun q hq => by
    rw [trail_append]
    exact List.mem_append_left _ hq

/-- One tree after another, when there are directories all the way along some
segments and no others were added. -/
structure Tree.Paves (t t₁ : Tree) (place : Place) (segs : List String) : Prop where
  way : t₁.Along (· = some .directory) place segs
  adds : AddsOnly (trail place segs) t t₁

section Way

variable {seg : String} {more : List String} (hu : Usable path) (hseg : seg ≠ "")
  (hpre : more.reverse ++ [seg] <+: segments path)

include hu hseg hpre

/-- A parent is looked up as the path is, up to its last segment. -/
theorem target_textOf (t : Tree) :
    t.target (textOf (isAbsolute path) (seg :: more)) =
      (t.walk (startOf t.current path) more.reverse).map (Tree.lastTarget seg false) := by
  have hstart : startOf t.current (textOf (isAbsolute path) (seg :: more))
      = startOf t.current path := by
    rw [startOf, isAbsolute_textOf hseg hpre, startOf]
  rw [Tree.target_of_segments (hu.textOf hpre _) (segments_textOf hpre _) hseg nofun, hstart]
  rfl

/-- A parent is a directory when there are directories all the way. -/
theorem isDirectory_textOf_iff (hshort : isName seg = true → seg.utf8ByteSize ≤ Tree.nameLimit) :
    t.isDirectory (textOf (isAbsolute path) (seg :: more)) = true ↔
      t.Along (· = some .directory) (startOf t.current path) (more.reverse ++ [seg]) := by
  rw [Tree.isDirectory_eq_true_iff, target_textOf hu hseg hpre, Tree.along_append,
    Tree.along_singleton]
  constructor
  · rintro ⟨target, htarget, hthere⟩
    obtain ⟨directory, hwalk, rfl⟩ := map_eq_ok_iff.mp htarget
    obtain ⟨hway, rfl⟩ := Tree.walk_eq_ok_iff.mp hwalk
    exact ⟨hway, fun hname => ⟨hshort hname, (Tree.isDirectoryAt_lastTarget hseg).mp hthere hname⟩⟩
  · rintro ⟨hway, hlast⟩
    have hwalk := Tree.walk_eq_ok_iff.mpr ⟨hway, rfl⟩
    exact ⟨_, by rw [hwalk]; rfl,
      (Tree.isDirectoryAt_lastTarget hseg).mpr fun hname => (hlast hname).2⟩

/-- With directories all the way to it and no file in its place, a parent is
made or there. -/
theorem exists_settle_textOf
    (hway : t.Along (· = some .directory) (startOf t.current path) more.reverse)
    (hopen : t.Along IsOpen (startOf t.current path) (more.reverse ++ [seg])) :
    ∃ t₁, t.settle (textOf (isAbsolute path) (seg :: more)) = (.ok (), t₁)
      ∧ t.Paves t₁ (startOf t.current path) (more.reverse ++ [seg]) := by
  have hlast := Tree.along_singleton.mp (Tree.along_append.mp hopen).2
  have hiff := fun t : Tree => isDirectory_textOf_iff (t := t) hu hseg hpre fun hname =>
    (hlast hname).1
  by_cases hthere : t.isDirectory (textOf (isAbsolute path) (seg :: more)) = true
  · exact ⟨t, Tree.settle_of_isDirectory hthere, (hiff t).mp hthere, .refl _ t⟩
  · rw [hiff, Tree.along_append, Tree.along_singleton, not_and, Classical.not_imp] at hthere
    obtain ⟨hname, hnode⟩ := hthere hway
    obtain ⟨hshort, hnofile⟩ := hlast hname
    have hnone : t.node? (resolve (startOf t.current path) more.reverse ++ [seg]) = none :=
      hnofile.eq_none fun hheld => hnode ⟨hshort, hheld⟩
    have htarget := target_textOf hu hseg hpre t
    rw [Tree.walk_eq_ok_iff.mpr ⟨hway, rfl⟩, Except.map, Tree.lastTarget_of_isName hname] at htarget
    have hmade := Tree.makeDirectory_eq_ok_iff.mpr
      ⟨_, _, _, htarget, Tree.checkName_eq_ok_iff.mpr hshort, hnone, rfl⟩
    have hadds := Tree.addsOnly_of_makeDirectory hmade
    rw [Tree.placeOf_of_target htarget] at hadds
    refine ⟨_, by rw [Tree.settle, hmade], ?_, hadds.mono fun q hq => ?_⟩
    · rw [← hadds.current]
      exact (hiff _).mp (Tree.isDirectory_of_makeDirectory hmade)
    · rw [trail_append, trail, if_pos hname]
      exact List.mem_append_right _ hq

/-- A parent is made or there once those around it are. -/
theorem makeFirst_textOf_cons {around : List String}
    (hopen : t.Along IsOpen (startOf t.current path) (more.reverse ++ [seg]))
    (haround : ∃ t₁, Disk.ofTree.makeFirst around t = (.ok (), t₁)
      ∧ t.Paves t₁ (startOf t.current path) more.reverse) :
    ∃ t₁, Disk.ofTree.makeFirst (textOf (isAbsolute path) (seg :: more) :: around) t = (.ok (), t₁)
      ∧ t.Paves t₁ (startOf t.current path) (more.reverse ++ [seg]) := by
  have hne := textOf_ne_empty hseg hpre (isAbsolute path)
  have htarget := target_textOf hu hseg hpre t
  rcases Tree.walk_cases (Tree.along_append.mp hopen).1 with hwalk | hwalk
  · obtain ⟨hway, -⟩ := Tree.walk_eq_ok_iff.mp hwalk
    rw [hwalk] at htarget
    rw [makeFirst_of_ne_notFound hne (Tree.makeDirectory_ne_notFound htarget)]
    exact exists_settle_textOf hu hseg hpre hway hopen
  · obtain ⟨t₁, hrun, hway, hadds⟩ := haround
    have hopen₁ := Tree.along_of_addsOnly hadds hopen
    rw [← hadds.current] at hway hopen₁
    obtain ⟨t₂, hsettle, hpaves⟩ := exists_settle_textOf hu hseg hpre hway hopen₁
    rw [hadds.current] at hpaves
    have hmissing : t.makeDirectory (textOf (isAbsolute path) (seg :: more))
        = .error .notFound := by
      rw [Tree.makeDirectory, htarget, hwalk]
      rfl
    rw [makeFirst_of_notFound hne hmissing, hrun]
    exact ⟨t₂, hsettle, hpaves.way, hadds.along_append.trans hpaves.adds⟩

end Way

/-! ## All the way -/

/-- The root is a directory of every tree. -/
theorem isDirectory_root (t : Tree) : t.isDirectory "/" = true := rfl

/-- So is the directory that a tree stands in. -/
theorem isDirectory_here (t : Tree) : t.isDirectory "." = true := rfl

/-- The outermost of a path's parents is the root or the empty path, and there
is nothing to make. -/
theorem makeFirst_outermost (absolute : Bool) (t : Tree) :
    Disk.ofTree.makeFirst [textOf absolute []] t = (.ok (), t) := by
  cases absolute with
  | false => exact makeFirst_empty [] t
  | true => exact makeFirst_of_isDirectory (isDirectory_root t)

/-- With no file on the way, the parents of a path are made or there. -/
theorem makeFirst_textOf (hu : Usable path) {backward : List String}
    (hpre : backward.reverse <+: segments path)
    (hopen : t.Along IsOpen (startOf t.current path) backward.reverse) :
    ∃ t₁, Disk.ofTree.makeFirst ((outward backward).map (textOf (isAbsolute path))) t = (.ok (), t₁)
      ∧ t.Paves t₁ (startOf t.current path) backward.reverse := by
  fun_induction outward backward with
  | case1 => exact ⟨t, makeFirst_outermost _ t, Tree.along_nil, .refl _ t⟩
  | case2 =>
    refine ⟨t, makeFirst_of_isDirectory (isDirectory_here t), ?_, .refl _ t⟩
    exact Tree.along_singleton.mpr fun hname => absurd hname (by decide)
  | case3 seg more hdot hidle ih =>
    rw [List.reverse_cons] at hpre hopen ⊢
    obtain ⟨hway, -⟩ := Tree.along_append.mp hopen
    obtain ⟨t₁, hrun, hpaves⟩ := ih ((List.prefix_append _ _).trans hpre) hway
    refine ⟨t₁, hrun, Tree.along_append.mpr ⟨hpaves.way, ?_⟩, hpaves.adds.along_append⟩
    refine Tree.along_singleton.mpr fun hname => ?_
    rw [(isName_eq_true_iff.mp hname).1] at hidle
    cases hidle
  | case4 seg more hdot hidle ih =>
    rw [List.reverse_cons] at hpre hopen ⊢
    have hseg := ne_empty_of_not_isIdle hidle
    refine makeFirst_textOf_cons hu hseg hpre hopen ?_
    exact ih ((List.prefix_append _ _).trans hpre) (Tree.along_append.mp hopen).1

/-- Where there are directories all the way, nothing is left to make. -/
theorem makeFirst_textOf_of_along (hu : Usable path) {backward : List String}
    (hpre : backward.reverse <+: segments path)
    (hway : t.Along (· = some .directory) (startOf t.current path) backward.reverse) :
    Disk.ofTree.makeFirst ((outward backward).map (textOf (isAbsolute path))) t = (.ok (), t) := by
  fun_induction outward backward with
  | case1 => exact makeFirst_outermost _ t
  | case2 => exact makeFirst_of_isDirectory (isDirectory_here t)
  | case3 seg more hdot hidle ih =>
    rw [List.reverse_cons] at hpre hway
    exact ih ((List.prefix_append _ _).trans hpre) (Tree.along_append.mp hway).1
  | case4 seg more hdot hidle ih =>
    rw [List.reverse_cons] at hpre hway
    have hseg := ne_empty_of_not_isIdle hidle
    have hshort := fun hname => (Tree.along_singleton.mp (Tree.along_append.mp hway).2 hname).1
    exact makeFirst_of_isDirectory
      ((isDirectory_textOf_iff hu hseg hpre hshort).mpr hway)

/-! ## Once more -/

/-- Whether to make some directories twice is to make them once. -/
def Settles (paths : List String) : Prop :=
  ∀ t t₁ outcome, Disk.ofTree.makeFirst paths t = (outcome, t₁) →
    ∃ outcome', Disk.ofTree.makeFirst paths t₁ = (outcome', t₁)
      ∧ (outcome' = .ok () ↔ outcome = .ok ())

/-- Nothing is settled for a path that leads nowhere. -/
theorem settle_of_target_error {e : Fault} (h : t.target path = .error e) :
    t.settle path = (.error e, t) := by
  have hmade : t.makeDirectory path = .error e := by
    rw [Tree.makeDirectory, h]
    rfl
  have hthere : t.isDirectory path = false := by rw [Tree.isDirectory, h]
  rw [Tree.settle, hmade]
  simp [hthere]

/-- What cannot be settled leaves the tree as it was. -/
theorem eq_of_settle_error {e : Fault} (h : t.settle path = (.error e, t₁)) : t₁ = t := by
  unfold Tree.settle at h
  split at h
  · cases h
  · exact (Prod.mk.inj h).2.symm

theorem Settles.nil : Settles [] := by
  intro t t₁ outcome hrun
  cases hrun
  exact ⟨_, rfl, Iff.rfl⟩

/-- A path whose start settles does so too, if there is nothing to make at its
start where it is found. -/
theorem Settles.cons (haround : Settles around)
    (hfound : ∀ (t : Tree) (target : Target), t.target path = .ok target →
      around = [] ∨ Disk.ofTree.makeFirst around t = (.ok (), t)) :
    Settles (path :: around) := by
  intro t t₁ outcome hrun
  by_cases hne : path = ""
  · subst hne
    cases hrun
    exact ⟨_, rfl, Iff.rfl⟩
  cases outcome with
  | ok u =>
    exact ⟨.ok (), makeFirst_of_isDirectory (isDirectory_of_makeFirst hne hrun), Iff.rfl⟩
  | error e =>
    simp only [reduceCtorEq, iff_false]
    by_cases hmissing : t.makeDirectory path = .error .notFound
    · rw [makeFirst_of_notFound hne hmissing] at hrun
      rcases hinner : Disk.ofTree.makeFirst around t with ⟨inner, t₂⟩
      obtain ⟨inner', hagain, hsame⟩ := haround t t₂ inner hinner
      rw [hinner] at hrun
      cases inner with
      | ok u =>
        obtain rfl := eq_of_settle_error hrun
        obtain rfl := hsame.mpr rfl
        refine ⟨.error e, ?_, nofun⟩
        by_cases hstill : t₁.makeDirectory path = .error .notFound
        · rw [makeFirst_of_notFound hne hstill, hagain]
          exact hrun
        · rw [makeFirst_of_ne_notFound hne hstill]
          exact hrun
      | error e' =>
        obtain ⟨-, rfl⟩ := Prod.mk.inj hrun
        cases inner' with
        | ok u => exact absurd (hsame.mp rfl) nofun
        | error e'' =>
          by_cases hstill : t₂.makeDirectory path = .error .notFound
          · exact ⟨.error e'', by rw [makeFirst_of_notFound hne hstill, hagain], nofun⟩
          · rw [makeFirst_of_ne_notFound hne hstill]
            cases htarget : t₂.target path with
            | error e => exact ⟨.error e, settle_of_target_error htarget, nofun⟩
            | ok target =>
              -- Where a path is found, its start has nothing left to make.
              rcases hfound t₂ target htarget with rfl | hnothing
              · cases hinner
                exact absurd hmissing hstill
              · rw [hnothing] at hagain
                cases hagain
    · rw [makeFirst_of_ne_notFound hne hmissing] at hrun
      obtain rfl := eq_of_settle_error hrun
      exact ⟨.error e, by rw [makeFirst_of_ne_notFound hne hmissing, hrun], nofun⟩

/-- The parents of a path are made in one go. -/
theorem settles_textOf (hu : Usable path) {backward : List String}
    (hpre : backward.reverse <+: segments path) :
    Settles ((outward backward).map (textOf (isAbsolute path))) := by
  fun_induction outward backward with
  | case1 => exact Settles.nil.cons fun _ _ _ => Or.inl rfl
  | case2 =>
    exact (Settles.nil.cons fun _ _ _ => Or.inl rfl).cons fun t _ _ =>
      Or.inr (makeFirst_outermost _ t)
  | case3 seg more hdot hidle ih =>
    rw [List.reverse_cons] at hpre
    exact ih ((List.prefix_append _ _).trans hpre)
  | case4 seg more hdot hidle ih =>
    rw [List.reverse_cons] at hpre
    have hseg := ne_empty_of_not_isIdle hidle
    refine (ih ((List.prefix_append _ _).trans hpre)).cons fun t target htarget => Or.inr ?_
    rw [target_textOf hu hseg hpre, map_eq_ok_iff] at htarget
    obtain ⟨directory, hwalk, -⟩ := htarget
    exact makeFirst_textOf_of_along hu ((List.prefix_append _ _).trans hpre)
      (Tree.walk_eq_ok_iff.mp hwalk).1

/-- Of two ways to cut segments, at one that is not empty and at the last such
one, the first does not cut later. -/
theorem prefix_of_append_eq_append {before before' after slashes : List String}
    {last last' : String} (h : before ++ last :: after = before' ++ last' :: slashes)
    (hlast : last ≠ "") (hslashes : ∀ seg ∈ slashes, seg = "") : before <+: before' := by
  rcases List.append_eq_append_iff.mp h with ⟨more, rfl, -⟩ | ⟨more, rfl, hmore⟩
  · exact List.prefix_append _ _
  · cases more with
    | nil => exact List.prefix_rfl.trans (by simp)
    | cons seg more =>
      -- Otherwise it is among the slashes.
      obtain ⟨-, rfl⟩ := List.cons.inj hmore
      exact absurd (hslashes last (by simp)) hlast

/-- Where a path is found, its parents are there. -/
theorem makeFirst_parents_of_target {target : Target} (h : t.target path = .ok target) :
    parents path = [] ∨ Disk.ofTree.makeFirst (parents path) t = (.ok (), t) := by
  have hu := Tree.usable_of_target h
  have hne : path ≠ "" := by
    rintro rfl
    cases h
  rcases parents_cases path with hnone | ⟨before, last, after, hsegs, hlast, hparents⟩
  · exact Or.inl hnone
  refine Or.inr ?_
  rw [hparents]
  have hpre : before.reverse.reverse <+: segments path := by
    rw [List.reverse_reverse, hsegs]
    exact List.prefix_append _ _
  refine makeFirst_textOf_of_along hu hpre ?_
  rcases Tree.exists_last (segments path)
    with hempty | ⟨before', last', slashes, hsegs', hlast', hslashes⟩
  · exact absurd (hempty last (by simp [hsegs])) hlast
  · rw [Tree.target_of_segments hu hsegs' hlast' hslashes, map_eq_ok_iff] at h
    obtain ⟨directory, hwalk, -⟩ := h
    obtain ⟨more, rfl⟩ := prefix_of_append_eq_append (hsegs.symm.trans hsegs') hlast hslashes
    rw [List.reverse_reverse]
    exact (Tree.along_append.mp (Tree.walk_eq_ok_iff.mp hwalk).1).1

/-- A path that is refused by its text stays refused. -/
theorem settles_of_not_usable (h : ¬Usable path) : Settles (path :: around) := by
  obtain ⟨hne, e, he, htarget⟩ := Tree.target_of_not_usable h
  intro t t₁ outcome hrun
  have hmissing : t.makeDirectory path ≠ .error .notFound := by
    rw [Tree.makeDirectory, htarget t]
    exact fun heq => he (Except.error.inj heq)
  have hown : Disk.ofTree.makeFirst (path :: around) t = (.error e, t) := by
    rw [makeFirst_of_ne_notFound hne hmissing, settle_of_target_error (htarget t)]
  obtain ⟨rfl, rfl⟩ := Prod.mk.inj (hown.symm.trans hrun)
  exact ⟨_, hown, Iff.rfl⟩

/-- To make a directory and what is missing around it twice is to do so
once. -/
theorem settles_parents (path : String) : Settles (path :: parents path) := by
  by_cases hu : Usable path
  · refine Settles.cons ?_ fun t _ => makeFirst_parents_of_target
    rcases parents_cases path with hnone | ⟨before, last, after, hsegs, -, hparents⟩
    · rw [hnone]
      exact .nil
    · rw [hparents]
      refine settles_textOf hu ?_
      rw [List.reverse_reverse, hsegs]
      exact List.prefix_append _ _
  · exact settles_of_not_usable hu

end ApiPages.Files
