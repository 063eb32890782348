import ApiPages.Markdown.Standard
import Mathlib.Algebra.BigOperators.Group.List.Lemmas
import Mathlib.Algebra.GroupWithZero.Nat
import ApiPages.Article.Scribe
import ApiPages.Proofs.Firsts
import ApiPages.Proofs.Result
import ApiPages.Sample

/-!
# Overloads

Methods of one name are one item, at the place of the first of them, and every
other member is an item of its own. Grouping keeps the first member of each
name (`firsts`) and fills it with the overloads of its name (`gathered`):
`groupOverloads_eq`. So items stand in the order of the members, and nothing is
lost, since the overloads of an item are as many as the methods of its name
(`length_overloads_gathered`).
-/

namespace ApiPages

/-- The name under which a member is grouped: that of a method. -/
def Member.methodName? : Member → Option String
  | method x => some x.info.name
  | _ => none

/-- The method of a member, if that is its name. -/
def Member.methodNamed? (name : String) : Member → Option Method
  | method x => if x.info.name = name then some x else none
  | _ => none

/-- The methods that are one item with a member: all of its name, in order,
and none when it is no method. -/
def Member.overloads (m : Member) (ms : List Member) : List Method :=
  match m.methodName? with
  | some name => ms.filterMap (Member.methodNamed? name)
  | none => []

namespace Article

namespace ShownMember

/-- The name under which an item is grouped. -/
def methodName? (x : ShownMember) : Option String := if x.isMethod then some x.name else none

theorem methodName?_of_method {x : ShownMember} (h : x.isMethod = true) :
    x.methodName? = some x.name := by
  rw [methodName?, if_pos h]

theorem methodName?_of_other {x : ShownMember} (h : x.isMethod = false) :
    x.methodName? = none := by
  rw [methodName?, h]
  rfl

/-- Being a method of a name is having this method name. -/
theorem isMethodNamed_eq (x : ShownMember) (name : String) :
    x.isMethodNamed name = (x.methodName? == some name) := by
  unfold isMethodNamed methodName?
  cases x.isMethod <;> simp

/-- An item as it is before grouping: a method has one overload and its flag,
and any other member none. -/
structure Lone (x : ShownMember) : Prop where
  isOverloaded : x.isOverloaded = false
  of_method : x.isMethod = true →
    ∃ o, x.overloads = [o] ∧ x.deprecation.isDeprecated = o.deprecation.isDeprecated
  of_other : x.isMethod = false → x.overloads = []

/-- An item with the given overloads. -/
def withAll (x : ShownMember) (overloads : List Overload) : ShownMember :=
  { x with
    deprecation := { x.deprecation with
      isDeprecated := overloads.all fun o => o.deprecation.isDeprecated }
    isOverloaded := decide (2 ≤ overloads.length)
    overloads }

/-- The overloads of a name, in the order of their items. -/
def overloadsNamed (xs : List ShownMember) (name : String) : List Overload :=
  (xs.filter (·.isMethodNamed name)).flatMap overloads

/-- An item with the overloads of its name. -/
def gathered (xs : List ShownMember) (x : ShownMember) : ShownMember :=
  if x.isMethod then x.withAll (overloadsNamed xs x.name) else x

variable {x y : ShownMember} {xs : List ShownMember} {name : String}

@[simp] theorem name_gathered : (x.gathered xs).name = x.name := by
  unfold gathered
  split <;> rfl

@[simp] theorem isMethod_gathered : (x.gathered xs).isMethod = x.isMethod := by
  unfold gathered
  split <;> rfl

@[simp] theorem isMethodNamed_gathered :
    (x.gathered xs).isMethodNamed name = x.isMethodNamed name := by
  simp [isMethodNamed]

/-- An item alone of its name has what it had. -/
theorem withAll_own (h : x.Lone) (hx : x.isMethod = true) : x.withAll x.overloads = x := by
  obtain ⟨o, hown, hflag⟩ := h.of_method hx
  have hall : (x.overloads.all fun o => o.deprecation.isDeprecated)
      = x.deprecation.isDeprecated := by
    simp [hown, hflag]
  have hmany : decide (2 ≤ x.overloads.length) = x.isOverloaded := by
    simp [hown, h.isOverloaded]
  rw [withAll, hall, hmany]

/-- What is put behind an item is what is gathered with it. -/
theorem withOverloads_withAll (h : x.Lone) (hx : x.isMethod = true) {os : List Overload}
    (hos : os ≠ []) : x.withOverloads (y.withAll os) = x.withAll (x.overloads ++ os) := by
  obtain ⟨o, hown, hflag⟩ := h.of_method hx
  have hlength : 1 ≤ os.length := List.length_pos_iff.mpr hos
  simp [withOverloads, withAll, hown, hflag, hlength]

/-- A method of the name comes first with its own overloads. -/
theorem overloadsNamed_cons_of_pos (h : x.isMethodNamed name = true) :
    overloadsNamed (x :: xs) name = x.overloads ++ overloadsNamed xs name := by
  rw [overloadsNamed, List.filter_cons, if_pos h, List.flatMap_cons, overloadsNamed]

/-- Any other member has no part in them. -/
theorem overloadsNamed_cons_of_neg (h : x.isMethodNamed name = false) :
    overloadsNamed (x :: xs) name = overloadsNamed xs name := by
  rw [overloadsNamed, List.filter_cons, h, overloadsNamed]
  rfl

/-- A member ahead that is grouped under another name has no say in an item. -/
theorem gathered_cons (h : (y.methodName?.isNone || y.methodName? != x.methodName?) = true) :
    y.gathered (x :: xs) = y.gathered xs := by
  unfold gathered
  cases hy : y.isMethod with
  | false => rfl
  | true =>
    have hother : x.isMethodNamed y.name = false := by
      rw [methodName?_of_method hy, Option.isNone_some, Bool.false_or, bne_iff_ne] at h
      rw [isMethodNamed_eq, beq_eq_false_iff_ne]
      exact Ne.symm h
    rw [overloadsNamed_cons_of_neg hother]

/-- A name that some method has has overloads. -/
theorem overloadsNamed_ne_nil (h : ∀ x ∈ xs, x.Lone) (hx : x ∈ xs)
    (hname : x.isMethodNamed name = true) : overloadsNamed xs name ≠ [] := by
  have hmethod : x.isMethod = true := (Bool.and_eq_true_iff.mp hname).1
  obtain ⟨o, hown, -⟩ := (h x hx).of_method hmethod
  have hmem : o ∈ overloadsNamed xs name :=
    List.mem_flatMap.mpr ⟨x, List.mem_filter.mpr ⟨hx, hname⟩, by rw [hown]; exact List.mem_singleton_self o⟩
  exact List.ne_nil_of_mem hmem

end ShownMember

open ShownMember

/-! ## Grouping -/

variable {x : ShownMember} {xs : List ShownMember}

/-- A member that is no method stays where it is. -/
theorem groupOverloads_cons_of_other (h : x.isMethod = false) :
    groupOverloads (x :: xs) = x :: groupOverloads xs := by
  rw [groupOverloads]
  simp [h]

/-- A method takes over what is grouped under its name behind it. -/
theorem groupOverloads_cons_of_method (h : x.isMethod = true) :
    groupOverloads (x :: xs)
      = (((groupOverloads xs).find? (·.isMethodNamed x.name)).elim x x.withOverloads)
        :: (groupOverloads xs).filter fun y => !y.isMethodNamed x.name := by
  rw [groupOverloads]
  simp only [h, if_true]
  cases hfind : (groupOverloads xs).find? (·.isMethodNamed x.name) with
  | some later => rfl
  | none =>
    have hstay : (groupOverloads xs).filter (fun y => !y.isMethodNamed x.name)
        = groupOverloads xs := by
      rw [List.filter_eq_self]
      intro y hy
      simpa using List.find?_eq_none.mp hfind y hy
    rw [hstay]
    rfl

/-- Grouping keeps the first member of each name and fills it. -/
theorem groupOverloads_eq (h : ∀ x ∈ xs, x.Lone) :
    groupOverloads xs = (firsts methodName? xs).map (gathered xs) := by
  induction xs with
  | nil => rfl
  | cons x xs ih =>
    have hx : x.Lone := h x List.mem_cons_self
    have hxs : ∀ y ∈ xs, y.Lone := fun y hy => h y (List.mem_cons_of_mem x hy)
    have hrest : ((firsts methodName? xs).filter fun y =>
          y.methodName?.isNone || y.methodName? != x.methodName?).map (gathered (x :: xs))
        = ((firsts methodName? xs).filter fun y =>
          y.methodName?.isNone || y.methodName? != x.methodName?).map (gathered xs) :=
      List.map_congr_left fun y hy => gathered_cons (List.mem_filter.mp hy).2
    rw [firsts, List.map_cons, hrest]
    cases hmethod : x.isMethod with
    | false =>
      have hstay : (firsts methodName? xs).filter (fun y =>
          y.methodName?.isNone || y.methodName? != x.methodName?) = firsts methodName? xs := by
        rw [List.filter_eq_self]
        intro y hy
        rw [methodName?_of_other hmethod]
        cases y.methodName? <;> rfl
      have hself : gathered (x :: xs) x = x := by
        rw [gathered, hmethod]
        rfl
      rw [groupOverloads_cons_of_other hmethod, ih hxs, hstay, hself]
    | true =>
      have hname : x.isMethodNamed x.name = true := by simp [isMethodNamed, hmethod]
      have hstay : (groupOverloads xs).filter (fun y => !y.isMethodNamed x.name)
          = ((firsts methodName? xs).filter fun y =>
            y.methodName?.isNone || y.methodName? != x.methodName?).map (gathered xs) := by
        rw [ih hxs, List.filter_map]
        congr 1
        refine List.filter_congr fun y hy => ?_
        rw [Function.comp_apply, isMethodNamed_gathered, isMethodNamed_eq,
          methodName?_of_method hmethod]
        cases y.methodName? <;> rfl
      have hfirst : ((groupOverloads xs).find? (·.isMethodNamed x.name)).elim x x.withOverloads
          = gathered (x :: xs) x := by
        rw [gathered, if_pos hmethod, overloadsNamed_cons_of_pos hname, ih hxs, List.find?_map]
        cases hfind : (firsts methodName? xs).find?
            ((·.isMethodNamed x.name) ∘ gathered xs) with
        | some y =>
          have hy : y.isMethodNamed x.name = true := by
            simpa using List.find?_some hfind
          have hmem : y ∈ xs := mem_of_mem_firsts (List.mem_of_find?_eq_some hfind)
          have hyname : y.isMethod = true ∧ y.name = x.name := by
            simpa [isMethodNamed] using hy
          rw [Option.map_some, Option.elim_some, gathered, if_pos hyname.1, hyname.2,
            withOverloads_withAll hx hmethod (overloadsNamed_ne_nil hxs hmem hy)]
        | none =>
          have hnone : overloadsNamed xs x.name = [] := by
            rw [overloadsNamed, List.flatMap_eq_nil_iff]
            intro y hy
            obtain ⟨hmem, hy⟩ := List.mem_filter.mp hy
            obtain ⟨z, hz, hkey⟩ := exists_mem_firsts methodName? hmem
            have hno := List.find?_eq_none.mp hfind z hz
            rw [Function.comp_apply, isMethodNamed_gathered, isMethodNamed_eq, hkey,
              ← isMethodNamed_eq] at hno
            exact absurd hy hno
          rw [hnone, List.append_nil, withAll_own hx hmethod]
          rfl
      rw [groupOverloads_cons_of_method hmethod, hstay, hfirst]

/-! ## How many overloads -/

/-- There are as many overloads of a name as methods. -/
theorem length_overloadsNamed (h : ∀ x ∈ xs, x.Lone) (name : String) :
    (overloadsNamed xs name).length = (xs.filterMap methodName?).count name := by
  induction xs with
  | nil => rfl
  | cons x xs ih =>
    have ih := ih fun y hy => h y (List.mem_cons_of_mem x hy)
    cases hmethod : x.isMethod with
    | false =>
      have hother : x.isMethodNamed name = false := by simp [isMethodNamed, hmethod]
      rw [overloadsNamed_cons_of_neg hother, ih,
        List.filterMap_cons_none (methodName?_of_other hmethod)]
    | true =>
      rw [List.filterMap_cons_some (methodName?_of_method hmethod), List.count_cons, ← ih]
      by_cases hname : x.name = name
      · have hnamed : x.isMethodNamed name = true := by simp [isMethodNamed, hmethod, hname]
        obtain ⟨o, hown, -⟩ := (h x List.mem_cons_self).of_method hmethod
        rw [overloadsNamed_cons_of_pos hnamed, hown]
        simp [hname]
      · have hnamed : x.isMethodNamed name = false := by simp [isMethodNamed, hname]
        rw [overloadsNamed_cons_of_neg hnamed]
        simp [hname]

/-- A method gathers one overload for each method of its name, and any other member none. -/
theorem length_overloads_gathered (h : ∀ x ∈ xs, x.Lone) (hx : x ∈ xs) :
    (x.gathered xs).overloads.length
      = x.methodName?.elim 0 fun name => (xs.filterMap methodName?).count name := by
  unfold gathered
  cases hmethod : x.isMethod with
  | false =>
    rw [methodName?_of_other hmethod]
    exact congrArg List.length ((h x hx).of_other hmethod)
  | true =>
    rw [methodName?_of_method hmethod]
    exact length_overloadsNamed h x.name

/-- A sum over what has a key is one over the keys. -/
theorem sum_map_elim {α : Type} (key : α → Option String) (size : String → Nat) (xs : List α) :
    (xs.map fun x => (key x).elim 0 size).sum = ((xs.filterMap key).map size).sum := by
  induction xs with
  | nil => rfl
  | cons x xs ih =>
    rw [List.map_cons, List.sum_cons, ih]
    cases hkey : key x with
    | none => rw [List.filterMap_cons_none hkey, Option.elim_none, Nat.zero_add]
    | some k => rw [List.filterMap_cons_some hkey, Option.elim_some, List.map_cons, List.sum_cons]

/-- No method is lost. -/
theorem sum_overloads (h : ∀ x ∈ xs, x.Lone) :
    ((groupOverloads xs).map fun item => item.overloads.length).sum
      = (xs.filterMap methodName?).length := by
  have hlengths : (groupOverloads xs).map (fun item => item.overloads.length)
      = (firsts methodName? xs).map fun x =>
        x.methodName?.elim 0 fun name => (xs.filterMap methodName?).count name := by
    rw [groupOverloads_eq h, List.map_map]
    exact List.map_congr_left fun x hx => length_overloads_gathered h (mem_of_mem_firsts hx)
  calc ((groupOverloads xs).map fun item => item.overloads.length).sum
      = (((firsts methodName? xs).filterMap methodName?).map fun name =>
          (xs.filterMap methodName?).count name).sum := by rw [hlengths, sum_map_elim]
    _ = ((xs.filterMap methodName?).dedup.map fun name =>
          (xs.filterMap methodName?).count name).sum := ((keys_firsts_perm methodName? xs).map _).sum_eq
    _ = (xs.filterMap methodName?).length := List.sum_map_count_dedup_eq_length _

/-- The items that are no methods are the members that are none. -/
theorem length_others (h : ∀ x ∈ xs, x.Lone) :
    ((groupOverloads xs).filter fun item => !item.isMethod).length
      = (xs.filter fun x => x.methodName?.isNone).length := by
  have hother (x : ShownMember) : (!x.isMethod) = x.methodName?.isNone := by
    cases hmethod : x.isMethod with
    | true => rw [methodName?_of_method hmethod]; rfl
    | false => rw [methodName?_of_other hmethod]; rfl
  rw [groupOverloads_eq h, List.filter_map, List.length_map, ← filter_isNone_firsts methodName? xs]
  congr 2
  funext x
  rw [Function.comp_apply, isMethod_gathered, hother]

/-! ## Members -/

namespace Scribe

variable {s : Scribe} {m : Member} {ms : List Member} {x : ShownMember} {xs out : List ShownMember}

/-- The overload of a method. -/
def methodOverload (s : Scribe) (x : Method) : Except Failure Overload :=
  s.overload x.info.name x.info.deprecated x.signature

/-- What an item says of the member that it begins with, among all members: it
has the member's name, anchor and tag, and its overloads are those of the
methods that it stands for. -/
structure IsItem (s : Scribe) (ms : List Member) (m : Member) (item : ShownMember) : Prop where
  name : item.name = m.name
  anchor : item.anchor = Link.anchor m.name
  tag : item.tag = m.typeTag
  isMethod : item.isMethod = m.methodName?.isSome
  overloads : (m.overloads ms).mapM s.methodOverload = .ok item.overloads
  isOverloaded : item.isOverloaded = true ↔ 2 ≤ item.overloads.length
  isDeprecated : item.isMethod = true → (item.deprecation.isDeprecated = true ↔
    ∀ o ∈ item.overloads, o.deprecation.isDeprecated = true)
  alone : item.isMethod = false → s.member m = .ok item

/-- A member by itself is a method with its overload, or has none. -/
theorem member_cases (h : s.member m = .ok x) :
    (∃ y own, m = .method y ∧ s.methodOverload y = .ok own ∧ x = s.method m own)
      ∨ m.methodName? = none ∧ x.name = m.name ∧ x.anchor = Link.anchor m.name
        ∧ x.tag = m.typeTag ∧ x.isMethod = false ∧ x.isOverloaded = false ∧ x.overloads = [] := by
  unfold member at h
  split at h
  · cases h
  · cases m with
    | method y =>
      obtain ⟨own, hown, rfl⟩ := map_eq_ok_iff.mp h
      exact Or.inl ⟨y, own, rfl, hown, rfl⟩
    | property p =>
      cases h
      exact Or.inr ⟨rfl, rfl, rfl, rfl, rfl, rfl, rfl⟩
    | getter p =>
      cases h
      exact Or.inr ⟨rfl, rfl, rfl, rfl, rfl, rfl, rfl⟩
    | setter p =>
      cases h
      exact Or.inr ⟨rfl, rfl, rfl, rfl, rfl, rfl, rfl⟩
    | enumItem e =>
      cases h
      exact Or.inr ⟨rfl, rfl, rfl, rfl, rfl, rfl, rfl⟩

/-- A member is written with one overload when it is a method, and with none otherwise. -/
theorem lone_of_member (h : s.member m = .ok x) : x.Lone := by
  rcases member_cases h with ⟨y, own, rfl, -, rfl⟩ | ⟨-, -, -, -, hmethod, hover, hnone⟩
  · exact ⟨rfl, fun _ => ⟨own, rfl, rfl⟩, fun hother => absurd hother (by simp [method])⟩
  · exact ⟨hover, fun h => absurd (hmethod.symm.trans h) Bool.false_ne_true, fun _ => hnone⟩

/-- Writing a member keeps its method name. -/
theorem methodName?_of_member (h : s.member m = .ok x) : x.methodName? = m.methodName? := by
  rcases member_cases h with ⟨y, own, rfl, -, rfl⟩ | ⟨hother, -, -, -, hmethod, -, -⟩
  · rfl
  · rw [hother, methodName?_of_other hmethod]

/-- A member is shown under its own name, anchor and tag. -/
theorem name_of_member (h : s.member m = .ok x) :
    x.name = m.name ∧ x.anchor = Link.anchor m.name ∧ x.tag = m.typeTag := by
  rcases member_cases h with ⟨y, own, rfl, -, rfl⟩ | ⟨-, hname, hanchor, htag, -, -, -⟩
  · exact ⟨rfl, rfl, rfl⟩
  · exact ⟨hname, hanchor, htag⟩

/-- The overloads of a name are those of its methods. -/
theorem mapM_methodOverload (h : List.Forall₂ (fun m x => s.member m = .ok x) ms xs)
    (name : String) : (ms.filterMap (Member.methodNamed? name)).mapM s.methodOverload
      = .ok (overloadsNamed xs name) := by
  induction h with
  | nil => rfl
  | @cons m x ms xs hmember _ ih =>
    rcases member_cases hmember with ⟨y, own, rfl, hown, rfl⟩ | ⟨hother, -, -, -, hmethod, -, -⟩
    · by_cases hname : y.info.name = name
      · have hnamed : (s.method (.method y) own).isMethodNamed name = true := by
          rw [isMethodNamed_eq, beq_iff_eq, ← hname]
          rfl
        rw [overloadsNamed_cons_of_pos hnamed,
          List.filterMap_cons_some (by rw [Member.methodNamed?, if_pos hname]), List.mapM_cons,
          hown, ih]
        rfl
      · have hnamed : (s.method (.method y) own).isMethodNamed name = false := by
          rw [isMethodNamed_eq, beq_eq_false_iff_ne]
          exact fun h => hname (Option.some.inj h)
        rw [overloadsNamed_cons_of_neg hnamed,
          List.filterMap_cons_none (by rw [Member.methodNamed?, if_neg hname]), ih]
    · have hnamed : x.isMethodNamed name = false := by
        rw [isMethodNamed_eq, methodName?_of_other hmethod]
        rfl
      have hskip : Member.methodNamed? name m = none := by
        cases m with
        | method y => cases hother
        | _ => rfl
      rw [overloadsNamed_cons_of_neg hnamed, List.filterMap_cons_none hskip, ih]

/-- An item is what its first member says, with the overloads of its name. -/
theorem isItem_gathered (hall : List.Forall₂ (fun m x => s.member m = .ok x) ms xs)
    (h : s.member m = .ok x) : s.IsItem ms m (x.gathered xs) := by
  have hname := methodName?_of_member h
  obtain ⟨hown, hanchor, htag⟩ := name_of_member h
  cases hmethod : x.isMethod with
  | true =>
    have hgathered : x.gathered xs = x.withAll (overloadsNamed xs x.name) := by
      rw [gathered, if_pos hmethod]
    rw [methodName?_of_method hmethod] at hname
    rw [hgathered]
    exact {
      name := hown
      anchor := hanchor
      tag := htag
      isMethod := by rw [← hname, Option.isSome_some]; exact hmethod
      overloads := by
        rw [Member.overloads, ← hname]
        exact mapM_methodOverload hall x.name
      isOverloaded := decide_eq_true_iff
      isDeprecated := fun _ => List.all_eq_true
      alone := fun hother => absurd (hmethod.symm.trans hother) (by decide) }
  | false =>
    have hgathered : x.gathered xs = x := by
      rw [gathered, hmethod]
      rfl
    have hlone := lone_of_member h
    rw [methodName?_of_other hmethod] at hname
    rw [hgathered]
    exact {
      name := hown
      anchor := hanchor
      tag := htag
      isMethod := by rw [← hname, hmethod]; rfl
      overloads := by
        rw [Member.overloads, ← hname, hlone.of_other hmethod]
        rfl
      isOverloaded := by simp [hlone.isOverloaded, hlone.of_other hmethod]
      isDeprecated := fun h => absurd (hmethod.symm.trans h) (by decide)
      alone := fun _ => h }

/-- Members that are not refused are written one by one and then grouped. -/
theorem exists_of_members (h : s.members ms = .ok out) :
    ∃ xs, List.Forall₂ (fun m x => s.member m = .ok x) ms xs ∧ (∀ x ∈ xs, x.Lone)
      ∧ out = groupOverloads xs := by
  obtain ⟨xs, hxs, rfl⟩ := map_eq_ok_iff.mp h
  have hall : List.Forall₂ (fun m x => s.member m = .ok x) ms xs := mapM_eq_ok_iff.mp hxs
  refine ⟨xs, hall, fun x hx => ?_, rfl⟩
  obtain ⟨m, -, hm⟩ := exists_mem_of_forall₂ hall hx
  exact lone_of_member hm

/-- A method that is the first of its name comes first among its overloads. -/
theorem exists_overloads_of_mem_firsts {y : Method}
    (h : Member.method y ∈ firsts Member.methodName? ms) :
    ∃ more, (Member.method y).overloads ms = y :: more := by
  induction ms with
  | nil => cases h
  | cons m ms ih =>
    rcases List.mem_cons.mp h with rfl | h
    · exact ⟨_, List.filterMap_cons_some (if_pos rfl)⟩
    · obtain ⟨hmem, hother⟩ := List.mem_filter.mp h
      have hskip : Member.methodNamed? y.info.name m = none := by
        cases m with
        | method z =>
          have hne : y.info.name ≠ z.info.name := by simpa [Member.methodName?] using hother
          exact if_neg (Ne.symm hne)
        | _ => rfl
      obtain ⟨more, hmore⟩ := ih hmem
      exact ⟨more, (List.filterMap_cons_none hskip).trans hmore⟩

/-- The items are the first members of each name, each with the overloads of
its name. -/
theorem exists_items (h : s.members ms = .ok out) :
    ∃ xs, List.Forall₂ (fun m x => s.member m = .ok x) ms xs
      ∧ List.Forall₂ (fun m item => ∃ x, s.member m = .ok x ∧ item = x.gathered xs)
        (firsts Member.methodName? ms) out := by
  obtain ⟨xs, hall, hlone, rfl⟩ := exists_of_members h
  have hkey (m : Member) (x : ShownMember) (hm : s.member m = .ok x) :
      m.methodName? = x.methodName? := (methodName?_of_member hm).symm
  have hfirsts : List.Forall₂ (fun m x => s.member m = .ok x) (firsts Member.methodName? ms)
      (firsts methodName? xs) := forall₂_firsts hkey hall
  refine ⟨xs, hall, ?_⟩
  rw [groupOverloads_eq hlone, List.forall₂_map_right_iff]
  exact hfirsts.imp fun m x hm => ⟨x, hm, rfl⟩

/-- Each member that is shown is the item of a first member, in order. -/
theorem forall₂_isItem (h : s.members ms = .ok out) :
    List.Forall₂ (s.IsItem ms) (firsts Member.methodName? ms) out := by
  obtain ⟨xs, hall, hitems⟩ := exists_items h
  refine hitems.imp ?_
  rintro m item ⟨x, hm, rfl⟩
  exact isItem_gathered hall hm

/-- Every item begins with a member. -/
theorem exists_isItem (h : s.members ms = .ok out) {item : ShownMember} (hitem : item ∈ out) :
    ∃ m ∈ ms, s.IsItem ms m item := by
  obtain ⟨m, hm, his⟩ := exists_mem_of_forall₂ (forall₂_isItem h) hitem
  exact ⟨m, mem_of_mem_firsts hm, his⟩

/-- The members of an entry, when none is refused. Items stand in the order of
the members that they begin with: those that are no methods, and the first
method of each name. An item has the overloads of all methods of its name, in
their order, and of no other member. All members are there: those that are no
methods one by one, and the methods as overloads. -/
theorem members_grouped (h : s.members ms = .ok out) :
    (∃ places : List Nat, places.Pairwise (· < ·)
      ∧ (∀ i, i ∈ places ↔ Begins (ms.map Member.methodName?) i)
      ∧ List.Forall₂ (fun i item => ∃ m, ms[i]? = some m ∧ s.IsItem ms m item) places out)
    ∧ out.length = (ms.filter fun m => m.methodName?.isNone).length
        + (ms.filterMap Member.methodName?).dedup.length
    ∧ (out.filter fun item => !item.isMethod).length
        + (out.map fun item => item.overloads.length).sum = ms.length := by
  obtain ⟨xs, hall, hlone, rfl⟩ := exists_of_members h
  have hkeys : ms.map Member.methodName? = xs.map methodName? := by
    rw [← List.forall₂_eq_eq_eq, List.forall₂_map_left_iff, List.forall₂_map_right_iff]
    exact hall.imp fun m x hm => (methodName?_of_member hm).symm
  have hothers : (ms.filter fun m => m.methodName?.isNone).length
      = (xs.filter fun x => x.methodName?.isNone).length := by
    have hlength := congrArg (fun keys => (keys.filter Option.isNone).length) hkeys
    rwa [List.filter_map, List.filter_map, List.length_map, List.length_map] at hlength
  have hnames : ms.filterMap Member.methodName? = xs.filterMap methodName? := by
    have hnames := congrArg (List.filterMap id) hkeys
    rwa [List.filterMap_map, List.filterMap_map] at hnames
  refine ⟨?_, ?_, ?_⟩
  · obtain ⟨places, hsorted, hmem, hat⟩ := exists_places methodName? xs
    refine ⟨places, hsorted, fun i => by rw [hmem, hkeys], ?_⟩
    have hfound : List.Forall₂ (fun i x => xs[i]? = some x) places (firsts methodName? xs) := by
      rwa [← List.forall₂_eq_eq_eq, List.forall₂_map_left_iff, List.forall₂_map_right_iff] at hat
    rw [groupOverloads_eq hlone, List.forall₂_map_right_iff]
    refine hfound.imp fun i x hx => ?_
    obtain ⟨m, hm, hmember⟩ := exists_getElem?_of_forall₂ hall hx
    exact ⟨m, hm, isItem_gathered hall hmember⟩
  · have hlength := length_eq_keyless_add_keys methodName? (firsts methodName? xs)
    rw [filter_isNone_firsts, (keys_firsts_perm methodName? xs).length_eq] at hlength
    rw [groupOverloads_eq hlone, List.length_map, hlength, hothers, hnames]
  · have hlength := length_eq_keyless_add_keys methodName? xs
    rw [length_others hlone, sum_overloads hlone, ← hlength, hall.length_eq]

/-- A method `f`, a getter of that name, another method and a second `f`. -/
def overloadedMembers : List Member :=
  [Sample.method "f" [], .getter ⟨.plain "f" "", "T", none, none, none⟩, Sample.method "g" [],
    Sample.method "f" [Sample.stringParam "key"]]

/-- The second `f` begins no item, and the getter stands between the two
methods. -/
theorem members_grouped_getter :
    ∃ s : Scribe, ∃ out, s.members overloadedMembers = .ok out
      ∧ (∃ places : List Nat, places.Pairwise (· < ·) ∧ 1 ∈ places ∧ 3 ∉ places
        ∧ List.Forall₂ (fun i item => ∃ m, overloadedMembers[i]? = some m
          ∧ s.IsItem overloadedMembers m item) places out)
      ∧ out.length = 1 + 2
      ∧ (out.filter fun item => !item.isMethod).length
        + (out.map fun item => item.overloads.length).sum = 4 := by
  let s : Scribe := ⟨false, ⟨.build [], 0, "C"⟩⟩
  have hok : (s.members overloadedMembers).isOk = true := by decide +kernel
  cases hout : s.members overloadedMembers with
  | error f =>
    rw [hout] at hok
    cases hok
  | ok out =>
    obtain ⟨⟨places, hsorted, hmem, hitems⟩, hlength, hall⟩ := members_grouped hout
    have hgetter : 1 ∈ places := (hmem 1).mpr ⟨none, rfl, fun _ => rfl⟩
    have hsecond : 3 ∉ places := by
      rw [hmem 3]
      rintro ⟨k, hk, hfirst⟩
      obtain rfl : some "f" = k := Option.some.inj hk
      have hnone : some "f" = none := hfirst (by decide)
      cases hnone
    exact ⟨s, out, hout, ⟨places, hsorted, hgetter, hsecond, hitems⟩, hlength, hall⟩

end Scribe

end Article

end ApiPages
