import ApiPages.Proofs.Files.Place
import ApiPages.Proofs.Result
import Mathlib.Data.List.TakeWhile

/-!
# The way along a path

A path is looked up name by name, and every name on the way has to be that of
a directory. `trail` lists the places that the names lead to, so what a walk
needs is a condition on what stands at them (`Along`): it comes to its end
exactly when there are directories all along (`walk_eq_ok_iff`), and finds
nothing, rather than something in its way, when no file stands there
(`walk_cases`). What an operation then acts on is decided by the last segment
alone (`target_of_segments`).
-/

namespace ApiPages.Files

/-! ## Names on the way -/

/-- The place that a path is looked up from. -/
def startOf (current : Place) (path : String) : Place :=
  if isAbsolute path then [] else current

/-- The place of a path is where its segments lead from its start. -/
theorem placeOf_eq (current : Place) (path : String) :
    placeOf current path = resolve (startOf current path) (segments path) := rfl

/-- The places that the names among some segments lead to, one after
another. -/
def trail (place : Place) : List String → List Place
  | [] => []
  | seg :: more =>
    if isName seg then (place ++ [seg]) :: trail (place ++ [seg]) more
    else trail (enter place seg) more

/-- A trail goes on from where its first part ends. -/
theorem trail_append (place : Place) (segs more : List String) :
    trail place (segs ++ more) = trail place segs ++ trail (resolve place segs) more := by
  induction segs generalizing place with
  | nil => rfl
  | cons seg segs ih =>
    rw [List.cons_append, trail, trail, resolve_cons]
    split
    · next hname => rw [ih, enter_of_isName hname, List.cons_append]
    · exact ih _

/-- A name is a segment that leads down: neither idle nor up. -/
theorem isName_eq_true_iff {seg : String} :
    isName seg = true ↔ isIdle seg = false ∧ seg ≠ ".." := by
  simp [isName]

theorem ne_empty_of_not_isIdle {seg : String} (h : ¬isIdle seg = true) : seg ≠ "" := by
  rintro rfl
  exact h rfl

/-- Nothing stands there, or a directory does. -/
def IsOpen (node : Option Node) : Prop := ∀ text, node ≠ some (.file text)

/-- What is open and no directory is nothing. -/
theorem IsOpen.eq_none {node : Option Node} (h : IsOpen node) (hne : node ≠ some .directory) :
    node = none := by
  cases node with
  | none => rfl
  | some held =>
    cases held with
    | directory => exact absurd rfl hne
    | file text => exact absurd rfl (h text)

/-- A path that no system refuses by its text alone. -/
structure Usable (path : String) : Prop where
  noNul : '\x00' ∉ path.toList
  short : path.utf8ByteSize ≤ Tree.pathLimit

namespace Tree

variable {t : Tree} {place : Place} {seg : String} {segs more : List String}
  {ok : Option Node → Prop}

/-- No name among some segments is too long, and what stands at each place
that they lead to is as it should be. -/
structure Along (t : Tree) (ok : Option Node → Prop) (place : Place) (segs : List String) :
    Prop where
  short : ∀ seg ∈ segs, isName seg = true → seg.utf8ByteSize ≤ nameLimit
  node : ∀ q ∈ trail place segs, ok (t.node? q)

/-- Along no segments there is nothing to ask. -/
theorem along_nil : t.Along ok place [] := ⟨nofun, nofun⟩

/-- A name has to be short enough, with a fitting node, before the rest is asked. -/
theorem along_cons_of_isName (h : isName seg = true) :
    t.Along ok place (seg :: more) ↔
      seg.utf8ByteSize ≤ nameLimit ∧ ok (t.node? (place ++ [seg]))
        ∧ t.Along ok (place ++ [seg]) more := by
  constructor
  · rintro ⟨hshort, hnode⟩
    rw [trail, if_pos h, List.forall_mem_cons] at hnode
    rw [List.forall_mem_cons] at hshort
    exact ⟨hshort.1 h, hnode.1, hshort.2, hnode.2⟩
  · rintro ⟨hseg, hplace, hshort, hnode⟩
    refine ⟨List.forall_mem_cons.mpr ⟨fun _ => hseg, hshort⟩, ?_⟩
    rw [trail, if_pos h]
    exact List.forall_mem_cons.mpr ⟨hplace, hnode⟩

/-- Any other segment has no node of its own. -/
theorem along_cons_of_not_isName (h : ¬isName seg = true) :
    t.Along ok place (seg :: more) ↔ t.Along ok (enter place seg) more := by
  constructor
  · rintro ⟨hshort, hnode⟩
    rw [trail, if_neg h] at hnode
    exact ⟨(List.forall_mem_cons.mp hshort).2, hnode⟩
  · rintro ⟨hshort, hnode⟩
    refine ⟨List.forall_mem_cons.mpr ⟨fun hname => absurd hname h, hshort⟩, ?_⟩
    rwa [trail, if_neg h]

/-- Along two lists is along the first, and along the second from its end. -/
theorem along_append :
    t.Along ok place (segs ++ more) ↔
      t.Along ok place segs ∧ t.Along ok (resolve place segs) more := by
  induction segs generalizing place with
  | nil => exact (and_iff_right along_nil).symm
  | cons seg segs ih =>
    rw [List.cons_append, resolve_cons]
    by_cases hname : isName seg = true
    · rw [along_cons_of_isName hname, along_cons_of_isName hname, ih, enter_of_isName hname]
      tauto
    · rw [along_cons_of_not_isName hname, along_cons_of_not_isName hname, ih]

/-- Along one segment only a name asks for something. -/
theorem along_singleton :
    t.Along ok place [seg] ↔
      (isName seg = true → seg.utf8ByteSize ≤ nameLimit ∧ ok (t.node? (place ++ [seg]))) := by
  by_cases hname : isName seg = true
  · rw [along_cons_of_isName hname, and_iff_left along_nil]
    exact ⟨fun h _ => h, fun h => h hname⟩
  · rw [along_cons_of_not_isName hname]
    exact ⟨fun _ h => absurd h hname, fun _ => along_nil⟩

/-! ## Walks -/

/-- Only the length of a name is checked. -/
theorem checkName_eq_ok_iff : checkName seg = .ok () ↔ seg.utf8ByteSize ≤ nameLimit := by
  unfold checkName
  split
  · next h => exact ⟨nofun, fun h' => absurd h' (by omega)⟩
  · next h => exact ⟨fun _ => by omega, fun _ => rfl⟩

/-- A segment that names nothing leads on. -/
theorem walk_cons_of_not_isName (h : ¬isName seg = true) :
    t.walk place (seg :: more) = t.walk (enter place seg) more := by
  rw [walk, enter]
  split
  · rfl
  · next hidle =>
    split
    · rfl
    · next hback => exact absurd (by simpa [isName_eq_true_iff, hidle] using hback) h

/-- A walk goes on below a name that is a directory. -/
theorem walk_cons_of_isName (h : isName seg = true) :
    t.walk place (seg :: more) =
      (checkName seg).bind fun _ =>
        match t.node? (place ++ [seg]) with
        | none => .error .notFound
        | some (.file _) => .error .notDirectory
        | some .directory => t.walk (place ++ [seg]) more := by
  obtain ⟨hidle, hback⟩ := isName_eq_true_iff.mp h
  rw [walk, if_neg (by simp [hidle]), if_neg (by simpa using hback)]
  cases checkName seg <;> rfl

/-- A walk comes to its end when there are directories all along. -/
theorem walk_eq_ok_iff {last : Place} :
    t.walk place segs = .ok last ↔
      t.Along (· = some .directory) place segs ∧ last = resolve place segs := by
  induction segs generalizing place with
  | nil => simp [walk, along_nil, eq_comm]
  | cons seg more ih =>
    by_cases hname : isName seg = true
    · rw [walk_cons_of_isName hname, along_cons_of_isName hname, resolve_cons,
        enter_of_isName hname, ← checkName_eq_ok_iff]
      cases checkName seg with
      | error e => simp [Except.bind]
      | ok u =>
        simp only [Except.bind]
        split
        · next hnode => simp [hnode]
        · next hnode => simp [hnode]
        · next hnode => simp [hnode, ih]
    · rw [walk_cons_of_not_isName hname, along_cons_of_not_isName hname, ih, resolve_cons]

/-- With no file in its way, a walk that does not come to its end finds
nothing. -/
theorem walk_cases (h : t.Along IsOpen place segs) :
    t.walk place segs = .ok (resolve place segs) ∨ t.walk place segs = .error .notFound := by
  induction segs generalizing place with
  | nil => exact Or.inl rfl
  | cons seg more ih =>
    by_cases hname : isName seg = true
    · obtain ⟨hshort, hopen, hmore⟩ := (along_cons_of_isName hname).mp h
      rw [walk_cons_of_isName hname, checkName_eq_ok_iff.mpr hshort, resolve_cons,
        enter_of_isName hname]
      cases hnode : t.node? (place ++ [seg]) with
      | none => exact Or.inr rfl
      | some node =>
        cases node with
        | directory => exact ih hmore
        | file text => exact absurd hnode (hopen text)
    · rw [walk_cons_of_not_isName hname, resolve_cons]
      exact ih ((along_cons_of_not_isName hname).mp h)

/-! ## Targets -/

/-- What the last segment of a path makes an operation act on, in the
directory that the segments before it lead to. -/
def lastTarget (last : String) (slash : Bool) (directory : Place) : Target :=
  if last == "." then .unnamed directory
  else if last == ".." then .unnamed directory.dropLast
  else .named directory last slash

/-- A last name is what a path is about. -/
theorem lastTarget_of_isName (h : isName seg = true) (slash : Bool)
    (directory : Place) : lastTarget seg slash directory = .named directory seg slash := by
  obtain ⟨hidle, hback⟩ := isName_eq_true_iff.mp h
  have hdot : seg ≠ "." := by
    rintro rfl
    cases hidle
  simp [lastTarget, hdot, hback]

/-- Segments that end in a name, or in dots, before the empty ones that
slashes leave; or there are none but those. -/
theorem exists_last (segs : List String) :
    (∀ seg ∈ segs, seg = "") ∨ ∃ before last slashes,
      segs = before ++ last :: slashes ∧ last ≠ "" ∧ ∀ seg ∈ slashes, seg = "" := by
  induction segs with
  | nil => exact Or.inl nofun
  | cons seg segs ih =>
    rcases ih with hempty | ⟨before, last, slashes, rfl, hlast, hslashes⟩
    · by_cases hseg : seg = ""
      · exact Or.inl (List.forall_mem_cons.mpr ⟨hseg, hempty⟩)
      · exact Or.inr ⟨[], seg, segs, rfl, hseg, hempty⟩
    · exact Or.inr ⟨seg :: before, last, slashes, rfl, hlast, hslashes⟩

variable {path : String}

/-- What is found has a usable path. -/
theorem usable_of_target {target : Target} (h : t.target path = .ok target) : Usable path := by
  unfold Tree.target at h
  split at h
  · cases h
  next hnul =>
  split at h
  · cases h
  split at h
  · cases h
  next hlong => exact ⟨by simpa using hnul, Nat.le_of_not_gt hlong⟩

/-- What is not usable is refused in every tree alike, and not as missing. -/
theorem target_of_not_usable (h : ¬Usable path) :
    path ≠ "" ∧ ∃ e, e ≠ .notFound ∧ ∀ t : Tree, t.target path = .error e := by
  have hne : path ≠ "" := by
    rintro rfl
    exact h ⟨by simp, by decide⟩
  have hempty : ¬path.isEmpty = true := by simpa using hne
  refine ⟨hne, ?_⟩
  by_cases hnul : path.toList.contains '\x00' = true
  · exact ⟨.nulInPath, nofun, fun t => by rw [Tree.target, if_pos hnul]⟩
  · have hlong : path.utf8ByteSize > pathLimit :=
      Nat.lt_of_not_ge fun hshort => h ⟨by simpa using hnul, hshort⟩
    exact ⟨.nameTooLong, nofun, fun t => by
      rw [Tree.target, if_neg hnul, if_neg hempty, if_pos hlong]⟩

/-- The part of a lookup that depends on the segments. -/
theorem target_of_usable (hu : Usable path) (hne : path ≠ "") :
    t.target path =
      match (segments path).reverse.dropWhile (· == "") with
      | [] => .ok (.unnamed (startOf t.current path))
      | last :: before =>
        (t.walk (startOf t.current path) before.reverse).map
          (lastTarget last ((segments path).reverse.head? == some "")) := by
  have hnul : ¬path.toList.contains '\x00' = true := by simpa using hu.noNul
  have hempty : ¬path.isEmpty = true := by simpa using hne
  rw [Tree.target, if_neg hnul, if_neg hempty, if_neg (Nat.not_lt.mpr hu.short)]
  dsimp only [startOf]
  cases (segments path).reverse.dropWhile (· == "") with
  | nil => rfl
  | cons last before =>
    dsimp only
    cases t.walk (if isAbsolute path then [] else t.current) before.reverse with
    | error e => rfl
    | ok directory =>
      simp only [Except.map, lastTarget]
      split
      · rfl
      · split <;> rfl

/-- A path with empty segments only leads to its start. -/
theorem target_of_empty (hu : Usable path) (hne : path ≠ "")
    (h : ∀ seg ∈ segments path, seg = "") :
    t.target path = .ok (.unnamed (startOf t.current path)) := by
  have hdrop : (segments path).reverse.dropWhile (· == "") = [] :=
    List.dropWhile_eq_nil_iff.mpr fun seg hseg => by simp [h seg (List.mem_reverse.mp hseg)]
  rw [target_of_usable hu hne, hdrop]

/-- A path is found when the segments before its last one are walked. -/
theorem target_of_segments (hu : Usable path) {before slashes : List String} {last : String}
    (hsegs : segments path = before ++ last :: slashes) (hlast : last ≠ "")
    (hslashes : ∀ seg ∈ slashes, seg = "") :
    t.target path = (t.walk (startOf t.current path) before).map
      (lastTarget last !slashes.isEmpty) := by
  have hne : path ≠ "" := by
    rintro rfl
    have hlone : before ++ last :: slashes = [""] := hsegs.symm.trans (by decide)
    exact hlast (List.mem_singleton.mp (hlone ▸ (by simp : last ∈ before ++ last :: slashes)))
  have hreverse : (segments path).reverse = slashes.reverse ++ last :: before.reverse := by
    simp [hsegs]
  have hdrop : (segments path).reverse.dropWhile (· == "") = last :: before.reverse := by
    rw [hreverse, List.dropWhile_append_of_pos fun seg hseg => by
      simp [hslashes seg (List.mem_reverse.mp hseg)]]
    simp [hlast]
  have hslash : ((segments path).reverse.head? == some "") = !slashes.isEmpty := by
    rw [hreverse]
    cases hback : slashes.reverse with
    | nil => simp [List.reverse_eq_nil_iff.mp hback, hlast]
    | cons seg more =>
      have hseg : seg ∈ slashes := List.mem_reverse.mp (hback ▸ List.mem_cons_self)
      have hsome : slashes ≠ [] := List.ne_nil_of_mem hseg
      simp [hslashes seg hseg, hsome]
  rw [target_of_usable hu hne, hdrop, hslash]
  dsimp only
  rw [List.reverse_reverse]

/-- A name that is found is the last name of its path, and stands in the
directory that the segments before it lead to. -/
theorem exists_segments_of_target {directory : Place} {name : String} {slash : Bool}
    (h : t.target path = .ok (.named directory name slash)) :
    ∃ before slashes, segments path = before ++ name :: slashes ∧ isName name = true
      ∧ (∀ seg ∈ slashes, seg = "") ∧ (slash = !slashes.isEmpty)
      ∧ t.walk (startOf t.current path) before = .ok directory := by
  have hu := usable_of_target h
  have hne : path ≠ "" := by
    rintro rfl
    cases h
  rcases exists_last (segments path)
    with hempty | ⟨before, last, slashes, hsegs, hlast, hslashes⟩
  · rw [target_of_empty hu hne hempty] at h
    cases h
  · rw [target_of_segments hu hsegs hlast hslashes, map_eq_ok_iff] at h
    obtain ⟨found, hwalk, h⟩ := h
    unfold lastTarget at h
    split at h
    · cases h
    next hdot =>
    split at h
    · cases h
    next hback =>
    cases h
    have hname : isName name = true := by simp_all [isName, isIdle]
    exact ⟨before, slashes, hsegs, hname, hslashes, rfl, hwalk⟩

/-- A name that is found stands at the place that the path names. -/
theorem placeOf_of_target {directory : Place} {name : String} {slash : Bool}
    (h : t.target path = .ok (.named directory name slash)) :
    placeOf t.current path = directory ++ [name] := by
  obtain ⟨before, slashes, hsegs, hname, hslashes, -, hwalk⟩ := exists_segments_of_target h
  have hidle : ∀ seg ∈ slashes, isIdle seg = true := fun seg hseg => by
    rw [hslashes seg hseg]
    rfl
  rw [placeOf_eq, hsegs, resolve_append, ← (walk_eq_ok_iff.mp hwalk).2, resolve_cons,
    enter_of_isName hname, resolve_of_isIdle hidle]

end Tree

end ApiPages.Files
