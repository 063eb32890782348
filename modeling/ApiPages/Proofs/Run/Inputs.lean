import ApiPages.Proofs.Collection.Append
import ApiPages.Proofs.Run.Accounting

/-!
# Inputs one after another

Reading some inputs and then others is reading all of them, up to the
numbers that subcommands point at: what the later inputs give is counted
from the collections of the earlier ones (`readAll_append`). The induction is
on the inputs, over every list of collections that may be there already
(`readOnto_eq`); that a document adds the same everywhere but for these
numbers carries it.

The law is one of the program that reads, on any disk. For the outcomes of
two readings it needs that the files are the same in both, so a disk whose
reads leave it as it is (`readAll_append_outcome`).
-/

namespace ApiPages.Run

open Files (Disk Tree)

/-- Some collections with those of later inputs after them. -/
def followedBy (cs more : List Collection) : List Collection :=
  cs ++ more.map (Collection.renumbered cs.length)

/-- Collections that nothing follows are kept. -/
theorem followedBy_nil (cs : List Collection) : followedBy cs [] = cs :=
  List.append_nil cs

/-- Collections follow one another in any grouping. -/
theorem followedBy_assoc (cs ds es : List Collection) :
    followedBy (followedBy cs ds) es = followedBy cs (followedBy ds es) := by
  have hcount : ∀ c : Collection,
      c.renumbered (cs.length + ds.length) = (c.renumbered ds.length).renumbered cs.length := by
    intro c
    rw [Collection.renumbered_renumbered, Nat.add_comm]
  unfold followedBy
  rw [List.map_append, List.map_map, List.append_assoc, List.length_append, List.length_map]
  exact congrArg _ (congrArg _ (List.map_congr_left fun c _ => hcount c))

section Disk

variable {m : Type → Type} [Monad m] [LawfulMonad m] (disk : Disk m)

/-- Reading onto some collections is reading first of all, and putting them
in front. -/
theorem readOnto_eq (cs : List Collection) (files : List String) :
    readOnto disk cs files = Except.map (followedBy cs) <$> readAll disk files := by
  induction files generalizing cs with
  | nil => rw [readOnto, readAll, readOnto, map_pure, Except.map, followedBy_nil]
  | cons file files ih =>
    rw [readOnto, readAll, readOnto, map_bind]
    refine bind_congr fun outcome => ?_
    cases outcome with
    | error f =>
      rw [Except.bind, Except.bind, map_pure]
      rfl
    | ok content =>
      simp only [Except.bind]
      rw [Collection.append_eq_renumbered cs]
      cases Collection.append [] file content with
      | error f =>
        rw [map_pure]
        rfl
      | ok more =>
        -- Both go on with the collections of the first input, the one
        -- after `cs` and the other from scratch.
        show readOnto disk (followedBy cs more) files
          = Except.map (followedBy cs) <$> readOnto disk more files
        rw [ih (followedBy cs more), ih more, Functor.map_map]
        refine congrArg (· <$> readAll disk files) (funext fun outcome => ?_)
        cases outcome with
        | error f => rfl
        | ok rest => exact congrArg Except.ok (followedBy_assoc cs more rest)

/-- Reading goes on from what it has read. -/
theorem readOnto_append (cs : List Collection) (files later : List String) :
    readOnto disk cs (files ++ later) = readOnto disk cs files >>= fun
      | .error f => pure (.error f)
      | .ok more => readOnto disk more later := by
  induction files generalizing cs with
  | nil => rw [List.nil_append, readOnto, pure_bind]
  | cons file files ih =>
    rw [List.cons_append, readOnto, readOnto, bind_assoc]
    refine bind_congr fun outcome => ?_
    cases outcome.bind (Collection.append cs file) with
    | error f =>
      rw [pure_bind]
    | ok more => exact ih more

/-- Reading some inputs and then others is reading each of the two lists by
itself; the first failure ends it, and otherwise the collections of the
later inputs stand after those of the earlier ones and are counted from
there. -/
theorem readAll_append (files later : List String) :
    readAll disk (files ++ later) = readAll disk files >>= fun
      | .error f => pure (.error f)
      | .ok x => Except.map (followedBy x) <$> readAll disk later := by
  rw [readAll, readOnto_append]
  refine bind_congr fun outcome => ?_
  cases outcome with
  | error f => rfl
  | ok x => exact readOnto_eq disk x later

end Disk

/-! ## Outcomes -/

section Still

variable {σ : Type} {disk : Disk (StateM σ)}

/-- Whether reading leaves the disk as it is. -/
def Still (disk : Disk (StateM σ)) : Prop := ∀ path s, (disk.read path s).2 = s

/-- Reading from a tree does not change it. -/
theorem still_ofTree : Still Disk.ofTree := fun _ _ => rfl

/-- So reading all inputs does not, whether or not they are accepted. -/
theorem readOnto_still (h : Still disk) (s : σ) (cs : List Collection) (files : List String) :
    (readOnto disk cs files s).2 = s := by
  induction files generalizing cs with
  | nil => rfl
  | cons file files ih =>
    have hinput : (readInput disk file s).2 = s := h file s
    rw [readOnto, bind_run, hinput]
    cases (readInput disk file s).1.bind (Collection.append cs file) with
    | error f => rfl
    | ok more => exact ih more

/-- The collections of two lists of inputs read one after the other, on a
disk that stays as it is. -/
theorem readAll_append_outcome (h : Still disk) (s : σ) (files later : List String) :
    (∀ x y, (readAll disk files s).1 = .ok x → (readAll disk later s).1 = .ok y →
      (readAll disk (files ++ later) s).1
        = .ok (x ++ y.map (Collection.renumbered x.length)))
    ∧ (∀ f, (readAll disk files s).1 = .error f →
      (readAll disk (files ++ later) s).1 = .error f)
    ∧ ∀ x f, (readAll disk files s).1 = .ok x → (readAll disk later s).1 = .error f →
      (readAll disk (files ++ later) s).1 = .error f := by
  -- The second reading starts from where the first one has left the disk.
  have hall : (readAll disk (files ++ later) s).1 = match (readAll disk files s).1 with
      | .error f => .error f
      | .ok x => (readAll disk later s).1.map (followedBy x) := by
    have hfiles : (readAll disk files s).2 = s := readOnto_still h s [] files
    rw [readAll_append, bind_run, hfiles]
    cases (readAll disk files s).1 <;> rfl
  rw [hall]
  refine ⟨fun x y hx hy => ?_, fun f hf => ?_, fun x f hx hf => ?_⟩
  · rw [hx, hy]
    rfl
  · rw [hf]
  · rw [hx, hf]
    rfl

end Still

/-- Files with a module and with a tree of commands. -/
def inputFiles : Tree where
  nodes := [(["m.json"], .file (some Collection.moduleDocument.2)),
    (["ng.json"], .file (some Collection.treeDocument.2))]
  current := []

/-- A tree that is read twice, the first time after a module: its second
root stands after four collections. -/
theorem readAll_tree_twice :
    Still Disk.ofTree ∧ ∃ x y, x.length = 4 ∧ y.length = 3
      ∧ (readAll .ofTree ["m.json", "ng.json"] inputFiles).1 = .ok x
      ∧ (readAll .ofTree ["ng.json"] inputFiles).1 = .ok y
      ∧ (readAll .ofTree ["m.json", "ng.json", "ng.json"] inputFiles).1
        = .ok (x ++ y.map (Collection.renumbered 4)) := by
  have hlengths : (readAll .ofTree ["m.json", "ng.json"] inputFiles).1.toOption.map List.length
        = some 4
      ∧ (readAll .ofTree ["ng.json"] inputFiles).1.toOption.map List.length = some 3 := by
    decide +kernel
  cases hx : (readAll .ofTree ["m.json", "ng.json"] inputFiles).1 with
  | error f =>
    rw [hx] at hlengths
    cases hlengths.1
  | ok x =>
    cases hy : (readAll .ofTree ["ng.json"] inputFiles).1 with
    | error f =>
      rw [hy] at hlengths
      cases hlengths.2
    | ok y =>
      rw [hx, hy] at hlengths
      have hxlength : x.length = 4 := Option.some.inj hlengths.1
      have hylength : y.length = 3 := Option.some.inj hlengths.2
      have hboth := (readAll_append_outcome still_ofTree inputFiles ["m.json", "ng.json"]
        ["ng.json"]).1 x y hx hy
      rw [hxlength] at hboth
      exact ⟨still_ofTree, x, y, hxlength, hylength, rfl, rfl, hboth⟩

end ApiPages.Run
