import ApiPages.Files.Tree
import ApiPages.Proofs.Text.Pieces

/-!
# Places read off paths

Where a path leads can be read off its text when directories are what their
names say: an idle segment stays, `..` goes back, and at the root `..` leads
nowhere. `placeOf` reads it so, and `Files/Tree` agrees with it wherever it
finds anything at all.

A path below a directory need not lie in it. `isContained` says of a
relative path that no start of it goes back further than it went down, and
this is the exact condition: joined to any directory such a path leads below
it (`isBelow_of_isContained`), and any other path leads out of some directory
(`exists_not_isBelow`).
-/

namespace ApiPages.Files

/-! ## Reading places -/

/-- The place that one segment leads to from another place. -/
def enter (place : Place) (seg : String) : Place :=
  if isIdle seg then place else if seg == ".." then place.dropLast else place ++ [seg]

/-- The place that segments lead to, one after another. -/
def resolve (place : Place) (segs : List String) : Place := segs.foldl enter place

/-- The place that a path leads to from a working directory. -/
def placeOf (current : Place) (path : String) : Place :=
  resolve (if isAbsolute path then [] else current) (segments path)

/-- A segment that names something: it is neither idle nor the way back. -/
def isName (seg : String) : Bool := !isIdle seg && seg != ".."

@[simp] theorem resolve_nil (place : Place) : resolve place [] = place := rfl

@[simp] theorem resolve_cons (place : Place) (seg : String) (more : List String) :
    resolve place (seg :: more) = resolve (enter place seg) more := rfl

/-- What segments lead to, taken one stretch after another. -/
theorem resolve_append (place : Place) (segs more : List String) :
    resolve place (segs ++ more) = resolve (resolve place segs) more := List.foldl_append

/-- A name leads down. -/
theorem enter_of_isName {seg : String} (h : isName seg = true) (place : Place) :
    enter place seg = place ++ [seg] := by
  simp_all [isName, enter]

/-- Idle segments lead nowhere. -/
theorem resolve_of_isIdle {segs : List String} (h : ∀ seg ∈ segs, isIdle seg = true)
    (place : Place) : resolve place segs = place := by
  induction segs with
  | nil => rfl
  | cons seg more ih =>
    rw [resolve_cons, enter, if_pos (h seg List.mem_cons_self)]
    exact ih fun x hx => h x (List.mem_cons_of_mem _ hx)

/-- Nothing turns up in a place but what was there and what the segments
name. -/
theorem mem_resolve {name : String} {segs : List String} :
    ∀ {place : Place}, name ∈ resolve place segs → name ∈ place ∨ name ∈ segs := by
  induction segs with
  | nil => exact Or.inl
  | cons seg segs ih =>
    intro place h
    rcases ih h with hplace | hsegs
    · unfold enter at hplace
      split at hplace
      · exact Or.inl hplace
      · split at hplace
        · exact Or.inl (List.dropLast_subset _ hplace)
        · rcases List.mem_append.mp hplace with hplace | hseg
          · exact Or.inl hplace
          · exact Or.inr (List.mem_cons.mpr (Or.inl (List.mem_singleton.mp hseg)))
    · exact Or.inr (List.mem_cons_of_mem _ hsegs)

/-! ## Joined paths -/

/-- The segments of two texts with a slash between them. -/
theorem segments_append_slash {cs after : List Char} {path : String}
    (h : path.toList = cs ++ '/' :: after) :
    segments path = segments (String.ofList cs) ++ segments (String.ofList after) := by
  simp [segments, h, Text.splitOn_append_cons]

/-- A directory joined with a relative path leads where the path's segments
lead from the directory. -/
theorem placeOf_join (current : Place) (out : String) {path : String}
    (h : isAbsolute path = false) :
    placeOf current (join out path) = resolve (placeOf current out) (segments path) := by
  unfold join
  by_cases hempty : out.isEmpty = true
  · obtain rfl : out = "" := String.isEmpty_iff.mp hempty
    have hhere : placeOf current "" = current := by
      simp [placeOf, isAbsolute, segments, Text.splitOn, enter, isIdle]
    rw [hhere]
    simp [h, placeOf]
  · have hne : out.toList ≠ [] := fun e => hempty (by simpa using e)
    obtain ⟨c, cs, hout⟩ := List.exists_cons_of_ne_nil hne
    -- A joined path starts where the directory does.
    have hstart : ∀ more : String, isAbsolute (out ++ more) = isAbsolute out := by
      intro more; simp [isAbsolute, hout]
    by_cases hslash : out.toList.getLast? = some '/'
    · obtain ⟨front, hfront⟩ := List.getLast?_eq_some_iff.mp hslash
      have hboth : segments (out ++ path)
          = segments (String.ofList front) ++ segments (String.ofList path.toList) :=
        segments_append_slash (by simp [hfront])
      have hown : segments out = segments (String.ofList front) ++ segments (String.ofList []) :=
        segments_append_slash (by simp [hfront])
      have hidle : segments (String.ofList []) = [""] := by decide
      simp [h, hempty, hslash, placeOf, hstart, hboth, hown, hidle, resolve_append, enter, isIdle]
    · have hboth : segments (out ++ "/" ++ path)
          = segments (String.ofList out.toList) ++ segments (String.ofList path.toList) :=
        segments_append_slash (by simp)
      have hsame : isAbsolute (out ++ "/" ++ path) = isAbsolute out := by
        rw [String.append_assoc]; exact hstart _
      simp [h, hempty, hslash, placeOf, hsame, hboth, resolve_append]

/-! ## Below a directory -/

/-- Whether one place lies strictly below another. -/
def IsBelow (outer inner : Place) : Prop := ∃ rest, rest ≠ [] ∧ inner = outer ++ rest

/-- Below is the same as under a proper prefix. -/
theorem isBelow_iff {outer inner : Place} : IsBelow outer inner ↔ outer <+: inner ∧ outer ≠ inner := by
  constructor
  · rintro ⟨rest, hne, rfl⟩
    exact ⟨List.prefix_append outer rest, fun h => hne (List.self_eq_append_right.mp h)⟩
  · rintro ⟨⟨rest, rfl⟩, hne⟩
    exact ⟨rest, fun h => hne (by rw [h, List.append_nil]), rfl⟩

instance (outer inner : Place) : Decidable (IsBelow outer inner) :=
  decidable_of_iff _ isBelow_iff.symm

/-- Whether segments that start at a depth never go back past where the
depth is counted from. -/
def staysWithin (depth : Nat) : List String → Bool
  | [] => true
  | seg :: more =>
    if isIdle seg then staysWithin depth more
    else if seg == ".." then
      match depth with
      | 0 => false
      | depth + 1 => staysWithin depth more
    else staysWithin (depth + 1) more

/-- Whether a path stays in the directory that it is joined to. -/
def isContained (path : String) : Bool := !isAbsolute path && staysWithin 0 (segments path)

/-- Segments that stay within their start lead from it to a place in it. -/
theorem exists_resolve_of_staysWithin {segs : List String} :
    ∀ outer rest : Place, staysWithin rest.length segs = true →
      ∃ rest', resolve (outer ++ rest) segs = outer ++ rest' := by
  induction segs with
  | nil => exact fun _ rest _ => ⟨rest, rfl⟩
  | cons seg segs ih =>
    intro outer rest h
    unfold staysWithin at h
    rw [resolve_cons, enter]
    split at h
    · next hidle => rw [if_pos hidle]; exact ih outer rest h
    · next hidle =>
      rw [if_neg hidle]
      split at h
      · next hback =>
        rw [if_pos hback]
        cases hrest : rest.reverse with
        | nil => simp [List.reverse_eq_nil_iff.mp hrest] at h
        | cons last front =>
          obtain rfl : rest = front.reverse ++ [last] := by
            rw [← List.reverse_reverse rest, hrest, List.reverse_cons]
          rw [← List.append_assoc, List.dropLast_concat]
          exact ih outer _ (by simpa using h)
      · next hback =>
        rw [if_neg hback, List.append_assoc]
        exact ih outer _ (by simpa using h)

/-- Segments that go back past their start never come again to a place that
they do not name. -/
theorem not_mem_resolve_of_not_staysWithin {name : String} {segs : List String}
    (hsegs : name ∉ segs) :
    ∀ rest : Place, name ∉ rest → staysWithin rest.length segs = false →
      name ∉ resolve (name :: rest) segs := by
  induction segs with
  | nil => simp [staysWithin]
  | cons seg segs ih =>
    intro rest hrest h
    have hmore : name ∉ segs := fun hmem => hsegs (List.mem_cons_of_mem _ hmem)
    unfold staysWithin at h
    rw [resolve_cons, enter]
    split at h
    · next hidle => rw [if_pos hidle]; exact ih hmore rest hrest h
    · next hidle =>
      rw [if_neg hidle]
      split at h
      · next hback =>
        rw [if_pos hback]
        cases rest with
        | nil =>
          -- The start itself is left here, and nothing later names it.
          intro hmem
          rcases mem_resolve hmem with hplace | hlater
          · simp at hplace
          · exact hmore hlater
        | cons next rest =>
          rw [List.dropLast_cons_cons]
          refine ih hmore _ (fun hmem => hrest (List.dropLast_subset _ hmem)) (by simpa using h)
      · next hback =>
        rw [if_neg hback, List.cons_append]
        refine ih hmore _ (fun hmem => ?_) (by simpa using h)
        rcases List.mem_append.mp hmem with hmem | hmem
        · exact hrest hmem
        · exact hsegs (List.mem_cons.mpr (Or.inl (List.mem_singleton.mp hmem)))

/-- A name at the end goes back nowhere. -/
theorem staysWithin_append_name {name : String} (h : isName name = true) (segs : List String) :
    ∀ depth, staysWithin depth (segs ++ [name]) = staysWithin depth segs := by
  induction segs with
  | nil =>
    intro depth
    simp only [isName, Bool.and_eq_true, Bool.not_eq_true', bne_iff_ne] at h
    simp [staysWithin, h.1, h.2]
  | cons seg segs ih =>
    intro depth
    cases depth <;> simp only [List.cons_append, staysWithin, ih]

/-- A path that stays in the directory it is joined to, and ends in a name,
leads below that directory. -/
theorem isBelow_of_isContained {path name : String} {segs : List String}
    (hsegs : segments path = segs ++ [name]) (hname : isName name = true)
    (h : isContained path = true) (current : Place) (out : String) :
    IsBelow (placeOf current out) (placeOf current (join out path)) := by
  obtain ⟨hrelative, hstays⟩ : isAbsolute path = false ∧ staysWithin 0 segs = true := by
    simpa [isContained, hsegs, staysWithin_append_name hname] using h
  obtain ⟨rest, hrest⟩ :=
    exists_resolve_of_staysWithin (placeOf current out) [] hstays
  rw [List.append_nil] at hrest
  refine ⟨rest ++ [name], by simp, ?_⟩
  rw [placeOf_join current out hrelative, hsegs, resolve_append, hrest, resolve_cons,
    enter_of_isName hname, resolve_nil, List.append_assoc]

/-- Some name is not among given segments. -/
theorem exists_fresh_name (segs : List String) :
    ∃ name : String, isName name = true ∧ segments name = [name] ∧ isAbsolute name = false
      ∧ name ∉ segs := by
  let width := (segs.map String.length).max?.getD 0
  have hslash : '/' ∉ 'o' :: List.replicate (width + 1) 'o' := by simp
  refine ⟨String.ofList ('o' :: List.replicate (width + 1) 'o'), ?_, ?_, ?_, fun hmem => ?_⟩
  · simp [isName, isIdle, String.ext_iff]
  · simp [segments, Text.splitOn_of_not_mem hslash]
  · simp [isAbsolute]
  · have hle : _ ≤ width :=
      List.le_max?_getD_of_mem (List.mem_map_of_mem (f := String.length) hmem)
    simp only [String.length_ofList, List.length_cons, List.length_replicate] at hle
    omega

/-- A path that goes back past its start, or starts at the root, does not
lead below every directory it is joined to. -/
theorem exists_not_isBelow {path : String} (h : isContained path = false) :
    ∃ out, ¬ IsBelow (placeOf [] out) (placeOf [] (join out path)) := by
  obtain ⟨out, hname, hown, hrelative, hfresh⟩ := exists_fresh_name (segments path)
  have hout : placeOf [] out = [out] := by
    simp [placeOf, hrelative, hown, enter_of_isName hname]
  refine ⟨out, ?_⟩
  rintro ⟨rest, -, hplace⟩
  have hmem : out ∈ placeOf [] (join out path) := by simp [hplace, hout]
  by_cases habsolute : isAbsolute path = true
  · have hjoin : join out path = path := by simp [join, habsolute]
    rw [hjoin, placeOf, if_pos habsolute] at hmem
    rcases mem_resolve hmem with hroot | hsegs
    · simp at hroot
    · exact hfresh hsegs
  · have hstays : staysWithin 0 (segments path) = false := by simpa [isContained, habsolute] using h
    rw [placeOf_join [] out (by simpa using habsolute), hout] at hmem
    exact not_mem_resolve_of_not_staysWithin hfresh [] (by simp) hstays hmem

end ApiPages.Files
