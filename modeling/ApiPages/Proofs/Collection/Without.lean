import ApiPages.Article.OfCommand
import ApiPages.Proofs.Article.CommandLinks
import Mathlib.Data.List.Induction

/-!
# Collections without one entry

An entry that can have no page is taken out of its collection, and those
behind it move up. Its collection holds no subcommand and no root of one,
because these stand alone in theirs; so what is read of the collections to
link commands, the first entries of some of them, stays as it was.

The entry is shown with what stands around it: `front` and `back` are the
collections before and after its own, `ahead` and `behind` the entries.
-/

namespace ApiPages

open Article (Place)

/-- The place of an entry once another is gone. -/
def Article.Place.movedUp (gone place : Place) : Place where
  collection := place.collection
  entry :=
    if place.collection = gone.collection ∧ gone.entry < place.entry then place.entry - 1
    else place.entry

/-- The collections without the entry at a place. The collection that held
it stays, also when it held nothing else. -/
def Collection.without (cs : List Collection) (gone : Place) : List Collection :=
  cs.modify gone.collection fun c => { c with entries := c.entries.eraseIdx gone.entry }

namespace Article.Place

variable {gone place : Place}

/-- Places in other collections stay. -/
theorem movedUp_of_ne (h : place.collection ≠ gone.collection) : gone.movedUp place = place := by
  rw [movedUp, if_neg fun hboth => h hboth.1]

/-- Places up to that of the entry that goes stay. -/
theorem movedUp_of_le (h : place.entry ≤ gone.entry) : gone.movedUp place = place := by
  rw [movedUp, if_neg fun hboth => absurd hboth.2 (Nat.not_lt.mpr h)]

end Article.Place

/-! ## Tables -/

section Tables

variable {α : Type} {front back : List α} {x y : α}

/-- One element differs, and no other. -/
theorem getElem?_around_of_ne {i : Nat} (h : i ≠ front.length) :
    (front ++ x :: back)[i]? = (front ++ y :: back)[i]? := by
  by_cases hlt : i < front.length
  · rw [List.getElem?_append_left hlt, List.getElem?_append_left hlt]
  · rw [List.getElem?_append_right (Nat.le_of_not_lt hlt),
      List.getElem?_append_right (Nat.le_of_not_lt hlt)]
    obtain ⟨k, hk⟩ : ∃ k, i - front.length = k + 1 := ⟨i - front.length - 1, by omega⟩
    rw [hk, List.getElem?_cons_succ, List.getElem?_cons_succ]

theorem modify_around (f : α → α) :
    (front ++ x :: back).modify front.length f = front ++ f x :: back := by
  induction front with
  | nil => rfl
  | cons first front ih => simp [ih]

/-- In a list without an element, those behind it move up. -/
theorem getElem?_without {i : Nat} (h : i ≠ front.length) :
    (front ++ back)[if front.length < i then i - 1 else i]? = (front ++ x :: back)[i]? := by
  by_cases hlt : front.length < i
  · rw [if_pos hlt, List.getElem?_append_right (by omega), List.getElem?_append_right (by omega)]
    obtain ⟨k, hk⟩ : ∃ k, i - front.length = k + 1 := ⟨i - front.length - 1, by omega⟩
    rw [hk, List.getElem?_cons_succ]
    congr 1
    omega
  · rw [if_neg hlt, List.getElem?_append_left (by omega), List.getElem?_append_left (by omega)]

variable {rows rows' : List (List α)} {ahead behind : List α}

/-- What stands at a place of a table stands at the place moved up in the
table without one of its cells. -/
theorem cell_without {place : Place} (h : place ≠ ⟨rows.length, ahead.length⟩) :
    ((rows ++ (ahead ++ behind) :: rows')[(Place.movedUp ⟨rows.length, ahead.length⟩
          place).collection]?.bind
        (·[(Place.movedUp ⟨rows.length, ahead.length⟩ place).entry]?))
      = (rows ++ (ahead ++ x :: behind) :: rows')[place.collection]?.bind (·[place.entry]?) := by
  obtain ⟨c, e⟩ := place
  by_cases hc : c = rows.length
  · subst hc
    have he : e ≠ ahead.length := fun he => h (by rw [he])
    have hrow (row : List α) : (rows ++ row :: rows')[rows.length]? = some row := by simp
    simp only [Place.movedUp, true_and, hrow, Option.bind_some]
    exact getElem?_without he
  · rw [Place.movedUp_of_ne hc]
    dsimp only
    rw [getElem?_around_of_ne hc]

end Tables

/-- A list filtered with its positions is its positions filtered with what stands there. -/
theorem filterMap_zipIdx {β : Type} (f : α × Nat → Option β) (xs : List α) :
    xs.zipIdx.filterMap f
      = (List.range xs.length).filterMap fun i => xs[i]?.bind fun x => f (x, i) := by
  induction xs using List.reverseRecOn with
  | nil => rfl
  | append_singleton xs x ih =>
    rw [List.zipIdx_append, List.filterMap_append, List.length_append, List.length_singleton,
      List.range_succ, List.filterMap_append, ih]
    congr 1
    · refine List.filterMap_congr fun i hi => ?_
      rw [List.getElem?_append_left (List.mem_range.mp hi)]
    · cases hx : f (x, xs.length) with
      | none => simp [hx]
      | some y => simp [hx]

/-! ## Subcommands -/

namespace Article

open Collection (commandAt? rootCommand?)

/-- The command that is first in a collection, when the entry at a place is
its root. -/
def subcommand? (cs : List Collection) (place : Place) (number : Nat) : Option (Command × Nat) :=
  (commandAt? cs number 0).bind fun sub => sub.parent.bind fun parent =>
    (rootCommand? cs parent).bind fun _ =>
      if parent = place.collection ∧ place.entry = 0 then some (sub, number) else none

/-- The subcommands of a root are found by asking each collection. -/
theorem subcommandsOf_eq (cs : List Collection) (place : Place) :
    subcommandsOf cs place = (List.range cs.length).filterMap (subcommand? cs place) := by
  rw [subcommandsOf, filterMap_zipIdx]
  refine List.filterMap_congr fun number _ => ?_
  rw [subcommand?, commandAt?, Option.bind_assoc]
  refine Option.bind_congr fun collection _ => ?_
  rw [← List.head?_eq_getElem?]
  rfl

/-- A collection whose first command names no parent holds no subcommand. -/
theorem subcommand?_of_parent {cs : List Collection} {place : Place} {number : Nat}
    (h : ∀ sub, commandAt? cs number 0 = some sub → sub.parent = none) :
    subcommand? cs place number = none := by
  rw [subcommand?]
  cases hat : commandAt? cs number 0 with
  | none => rfl
  | some sub =>
    rw [Option.bind_some, h sub hat]
    rfl

end Article

/-! ## An entry and what stands around it -/

/-- Collections that are shown around one of their entries. -/
structure Gap where
  front : List Collection
  moduleName : String
  ahead : List Entry
  /-- The entry that goes. -/
  gone : Entry
  behind : List Entry
  back : List Collection

namespace Gap

open Collection (ParentsSound commandAt? commandAt?_eq_some_iff rootCommand?)
open Article (subcommand? subcommand?_of_parent subcommandsOf)

/-- The place of the entry. -/
def place (g : Gap) : Place := ⟨g.front.length, g.ahead.length⟩

/-- The collections with the entry. -/
def full (g : Gap) : List Collection :=
  g.front ++ ⟨g.moduleName, g.ahead ++ g.gone :: g.behind⟩ :: g.back

/-- The collections without it. -/
def rest (g : Gap) : List Collection :=
  g.front ++ ⟨g.moduleName, g.ahead ++ g.behind⟩ :: g.back

/-- Taking the entry out of the full list closes the gap. -/
theorem without_full (g : Gap) : Collection.without g.full g.place = g.rest := by
  unfold Collection.without full rest place
  rw [modify_around, List.eraseIdx_append_of_length_le (Nat.le_refl _), Nat.sub_self,
    List.eraseIdx_cons_zero]

/-- Every entry is shown so. -/
theorem exists_of_getElem? {cs : List Collection} {place : Place} {collection : Collection}
    {entry : Entry} (hc : cs[place.collection]? = some collection)
    (he : collection.entries[place.entry]? = some entry) :
    ∃ g : Gap, g.full = cs ∧ g.place = place ∧ g.gone = entry
      ∧ g.moduleName = collection.moduleName := by
  obtain ⟨front, back, rfl, hfront⟩ := Page.exists_around hc
  obtain ⟨ahead, behind, hentries, hahead⟩ := Page.exists_around he
  refine ⟨⟨front, collection.moduleName, ahead, entry, behind, back⟩, ?_, ?_, rfl, rfl⟩
  · rw [full, ← hentries]
  · rw [Gap.place, hfront, hahead]

variable {g : Gap} {c e p : Nat} {sub : Command} {place : Place}

/-- Before, the entry stands between those ahead of it and those behind. -/
theorem getElem?_full :
    g.full[g.place.collection]? = some ⟨g.moduleName, g.ahead ++ g.gone :: g.behind⟩ := by
  simp [full, Gap.place]

/-- Afterwards these stand side by side. -/
theorem getElem?_rest_self :
    g.rest[g.place.collection]? = some ⟨g.moduleName, g.ahead ++ g.behind⟩ := by
  simp [rest, Gap.place]

/-- Other collections are the same. -/
theorem getElem?_rest (h : c ≠ g.place.collection) : g.rest[c]? = g.full[c]? :=
  getElem?_around_of_ne h

/-- So is the root of another collection. -/
theorem rootCommand?_rest (h : p ≠ g.place.collection) :
    rootCommand? g.rest p = rootCommand? g.full p := by
  rw [rootCommand?, rootCommand?, getElem?_rest h]

/-! ## Parents -/

section Parents

variable (hgone : g.gone.isRenderable = false)
include hgone

/-- A command that is alone in its collection is not beside the entry. -/
theorem ne_of_alone {moduleName : String}
    (h : g.full[c]? = some ⟨moduleName, [.command sub]⟩) : c ≠ g.place.collection := by
  rintro rfl
  rw [getElem?_full, Option.some.injEq, Collection.mk.injEq] at h
  have hmem : g.gone ∈ [Entry.command sub] := by simp [← h.2]
  rw [List.mem_singleton.mp hmem] at hgone
  cases hgone

/-- Neither a subcommand nor its root is in the entry's collection. -/
theorem ne_of_parent (hsound : ParentsSound g.full) (hat : commandAt? g.full c e = some sub)
    (hparent : sub.parent = some p) : c ≠ g.place.collection ∧ p ≠ g.place.collection := by
  obtain ⟨-, halone, -, root, -, -, hroot⟩ := hsound c e sub p hat hparent
  exact ⟨ne_of_alone hgone halone, ne_of_alone hgone hroot⟩

/-- The commands beside the entry are no subcommands. -/
theorem parent_of_mem (hsound : ParentsSound g.full)
    (h : Entry.command sub ∈ g.ahead ++ g.behind) : sub.parent = none := by
  have hmem : Entry.command sub ∈ g.ahead ++ g.gone :: g.behind :=
    ((List.sublist_cons_self g.gone g.behind).append_left g.ahead).subset h
  obtain ⟨e, he⟩ := List.mem_iff_getElem?.mp hmem
  have hat : commandAt? g.full g.place.collection e = some sub :=
    commandAt?_eq_some_iff.mpr ⟨_, getElem?_full, he⟩
  cases hparent : sub.parent with
  | none => rfl
  | some p => exact absurd rfl (ne_of_parent hgone hsound hat hparent).1

/-- A command finds the same root. -/
theorem root_rest (hsound : ParentsSound g.full) (hat : commandAt? g.full c e = some sub) :
    sub.parent.bind (rootCommand? g.rest) = sub.parent.bind (rootCommand? g.full) := by
  cases hparent : sub.parent with
  | none => rfl
  | some p => exact rootCommand?_rest (ne_of_parent hgone hsound hat hparent).2

/-- A first entry that is a command points nowhere, or at the same root. -/
theorem subcommand_rest (hsound : ParentsSound g.full) (number : Nat) :
    subcommand? g.rest (g.place.movedUp place) number = subcommand? g.full place number := by
  by_cases hnumber : number = g.place.collection
  · -- Nothing in the entry's own collection has a parent, whatever is first.
    subst hnumber
    rw [subcommand?_of_parent fun sub hat => ?_, subcommand?_of_parent fun sub hat => ?_]
    · cases hparent : sub.parent with
      | none => rfl
      | some p => exact absurd rfl (ne_of_parent hgone hsound hat hparent).1
    · obtain ⟨collection, hc, he⟩ := commandAt?_eq_some_iff.mp hat
      rw [getElem?_rest_self, Option.some.injEq] at hc
      subst hc
      exact parent_of_mem hgone hsound (List.mem_of_getElem? he)
  · have hfirst : commandAt? g.rest number 0 = commandAt? g.full number 0 := by
      rw [commandAt?, commandAt?, getElem?_rest hnumber]
    rw [subcommand?, subcommand?, hfirst]
    refine Option.bind_congr fun sub hat => Option.bind_congr fun p hparent => ?_
    have hp : p ≠ g.place.collection := (ne_of_parent hgone hsound hat hparent).2
    rw [rootCommand?_rest hp]
    refine Option.bind_congr fun _ _ => ?_
    by_cases hplace : place.collection = g.place.collection
    · rw [if_neg fun hboth => hp (hboth.1.trans hplace),
        if_neg fun hboth => hp (hboth.1.trans hplace)]
    · rw [Article.Place.movedUp_of_ne hplace]

/-- A root has the same subcommands, under its own place among the rest. -/
theorem subcommandsOf_rest (hsound : ParentsSound g.full) :
    subcommandsOf g.rest (g.place.movedUp place) = subcommandsOf g.full place := by
  have hlength : g.rest.length = g.full.length := by simp [rest, full]
  rw [Article.subcommandsOf_eq, Article.subcommandsOf_eq, hlength]
  exact List.filterMap_congr fun number _ => subcommand_rest hgone hsound number

end Parents

end Gap

end ApiPages
