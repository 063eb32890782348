import ApiPages.Collection
import ApiPages.Proofs.Entry.Identity
import Mathlib.Data.List.Basic

/-!
# Parents of subcommands

A subcommand points at its root by a bare number, which is written down
before either of them is among the collections. It is the right number
because reading only appends: `Addition` says all that one document can
add, and what a subcommand in it points at (`Addition.parent`). From this
follow the invariant of the collections (`parentsSound_afterAll`), and that
no document read before or after a tree points into it (`exists_later`).

Documents are read one after another and may fail, which leaves the
collections as they were; so a run's inputs are any list of texts.
-/

namespace ApiPages

/-! ## Commands as they are decoded -/

namespace Command

open Json (Decoder)
open Json.Decoder (always_true)

/-- Neither a command nor its subcommands have a parent. -/
structure Unplaced (c : Command) : Prop where
  parent : c.parent = none
  subcommands : ∀ sub ∈ c.subcommands, sub.parent = none

/-- No field sets the parent, and subcommands are what they decode to. -/
theorem always_fields {P : Command → Prop} {nested : Decoder Command} (h : nested.Always P) :
    (fields nested).Always fun c => c.parent = none ∧ ∀ sub ∈ c.subcommands, P sub := by
  -- The fields are taken off from the last one on; only the subcommands,
  -- which come last, say anything.
  refine .seq (P := fun subs : List Command => ∀ sub ∈ subs, P sub) ?_
    (.withDefault h.list fun _ hsub => absurd hsub List.not_mem_nil)
  refine .seq (P := fun _ => True) ?_ (.withDefault (always_true _) trivial)
  refine .seq (P := fun _ => True) ?_ .optional
  refine .seq (P := fun _ => True) ?_ (.withDefault (always_true _) trivial)
  refine .seq (P := fun _ => True) ?_ (.withDefault (always_true _) trivial)
  refine .seq (P := fun _ => True) ?_ (.withDefault (always_true _) trivial)
  refine .seq (P := fun _ => True) ?_ .optional
  refine .map (P := fun _ => True) ?_ (.required (always_true _))
  intro _ _ _ _ _ _ _ _ _ _ _ _ _ _ _ hsubs
  exact ⟨rfl, hsubs⟩

/-- A decoded command has no parent. -/
theorem parent_of_decodeWithin : ∀ d, (decodeWithin d).Always fun c => c.parent = none
  | 0 => fun _ _ _ h => nomatch h
  | d + 1 => (Decoder.Always.record (always_fields (always_true (decodeWithin d)))).mono
      fun _ h => h.1

/-- Nor have its subcommands. -/
theorem unplaced_of_decoder : decoder.Always Unplaced := by
  intro reading v c h
  -- Nothing is decoded without fuel, so both levels are below some of it.
  change decodeWithin v.depth reading v = .ok c at h
  cases hd : v.depth with
  | zero =>
    rw [hd] at h
    cases h
  | succ d =>
    rw [hd] at h
    have hc := Decoder.Always.record (always_fields (parent_of_decodeWithin d)) reading v c h
    exact ⟨hc.1, hc.2⟩

/-- The command without a parent. -/
def withoutParent (c : Command) : Command := { c with parent := none }

/-- A command without a parent has none to lose. -/
theorem withoutParent_of_none {c : Command} (h : c.parent = none) : c.withoutParent = c := by
  cases c
  cases h
  rfl

end Command

namespace Entry

/-- A command that stands as an entry in a document decodes from it. -/
theorem decoder_of_ofJson {v : Json} {c : Command} (h : (ofJson v).command? = some c) :
    Command.decoder .direct v = .ok c := by
  have hdecoded := decoded_ofJson v
  generalize ofJson v = e at h hdecoded
  cases hdecoded with
  | @api kind _ hkind _ he =>
    -- No kind has commands.
    have hshape := (info_of_decodeApi (Json.exists_object_of_get? hkind) he).1
    cases e with
    | command => exact hshape.elim
    | _ => cases h
  | command _ _ hc =>
    cases h
    exact hc
  | _ => cases h

/-- So it has no parent. -/
theorem parent_of_ofJson {v : Json} {c : Command} (h : (ofJson v).command? = some c) :
    c.parent = none :=
  (Command.unplaced_of_decoder _ _ _ (decoder_of_ofJson h)).parent

end Entry

namespace Collection

/-! ## Documents one after another -/

/-- The collections after one more document, given by its file and its
text; as they were when it is refused. -/
def afterDocument (cs : List Collection) (document : String × String) : List Collection :=
  match append cs document.1 document.2 with
  | .ok more => more
  | .error _ => cs

/-- The collections after some documents. -/
def afterAll (documents : List (String × String)) : List Collection :=
  documents.foldl afterDocument []

/-- The command that is the entry at a place. -/
def commandAt? (cs : List Collection) (c e : Nat) : Option Command :=
  cs[c]?.bind fun collection => collection.entries[e]?.bind Entry.command?

variable {cs more : List Collection} {c e number p : Nat} {sub : Command}

/-- The commands of earlier collections stay where they are. -/
theorem commandAt?_append_left (h : c < cs.length) :
    commandAt? (cs ++ more) c e = commandAt? cs c e := by
  simp only [commandAt?, List.getElem?_append_left h]

/-- The commands of later collections are found behind the earlier ones. -/
theorem commandAt?_append_right (h : cs.length ≤ c) :
    commandAt? (cs ++ more) c e = commandAt? more (c - cs.length) e := by
  simp only [commandAt?, List.getElem?_append_right h]

/-- A command at a place is an entry of its collection. -/
theorem commandAt?_eq_some_iff :
    commandAt? cs c e = some sub
      ↔ ∃ collection, cs[c]? = some collection
        ∧ collection.entries[e]? = some (.command sub) := by
  constructor
  · intro h
    obtain ⟨collection, hc, h⟩ := Option.bind_eq_some_iff.mp h
    obtain ⟨entry, he, hsub⟩ := Option.bind_eq_some_iff.mp h
    refine ⟨collection, hc, he.trans ?_⟩
    cases entry <;> cases hsub
    rfl
  · rintro ⟨collection, hc, he⟩
    simp [commandAt?, hc, he, Entry.command?]

/-- Where a root command is, a command is the first entry. -/
theorem rootCommand?_eq (cs : List Collection) (p : Nat) :
    rootCommand? cs p = commandAt? cs p 0 := by
  change (cs[p]?.bind fun collection => collection.entries.head?.bind Entry.command?) = _
  simp only [commandAt?, List.head?_eq_getElem?]

/-- Later collections do not change which root a number means. -/
theorem rootCommand?_append (hp : p < cs.length) :
    rootCommand? (cs ++ more) p = rootCommand? cs p := by
  rw [rootCommand?, rootCommand?, List.getElem?_append_left hp]

theorem lt_length_of_commandAt? (h : commandAt? cs c e = some sub) : c < cs.length := by
  obtain ⟨collection, hc, -⟩ := Option.bind_eq_some_iff.mp h
  exact (List.getElem?_eq_some_iff.mp hc).1

/-- In a collection of one entry a command is that entry. -/
theorem entry_of_commandAt?_single {entry : Entry} (hc : cs[c]? = some (single entry))
    (h : commandAt? cs c e = some sub) : e = 0 ∧ entry = .command sub := by
  rw [commandAt?, hc] at h
  cases e with
  | zero =>
    refine ⟨rfl, ?_⟩
    cases entry <;> cases h
    rfl
  | succ e => cases h

/-! ## What a document adds -/

/-- What one document adds to the collections when `number` of them came
before. -/
inductive Addition (number : Nat) : List Collection → Prop
  /-- It is refused. -/
  | nothing : Addition number []
  /-- A module, or an entry on its own: no command in it has a parent. -/
  | one {c : Collection}
      (h : ∀ entry ∈ c.entries, ∀ sub, entry.command? = some sub → sub.parent = none) :
      Addition number [c]
  /-- A tree of commands. -/
  | tree {root : Command} (h : root.Unplaced) : Addition number (ofTree number root)

/-- What a document adds is what `Addition` says, as no decoded tree has a parent. -/
theorem addition_of_ofDocument {v : Json} (h : ofDocument number v = .ok more) :
    Addition number more := by
  unfold ofDocument at h
  split at h
  · next fields =>
    split at h
    · next entries _ =>
      unfold ofModule at h
      split at h
      · next items =>
        split at h
        · next name _ =>
          cases h
          refine .one fun entry hentry sub hsub => ?_
          obtain ⟨v, -, rfl⟩ := List.mem_map.mp hentry
          exact Entry.parent_of_ofJson hsub
        · cases h
      · cases h
    · split at h
      · split at h
        · cases h
        · next root hroot =>
          split at h
          · cases h
          · cases h
            exact .tree (Command.unplaced_of_decoder _ _ _ hroot)
      · cases h
        refine .one fun entry hentry sub hsub => ?_
        obtain rfl : entry = Entry.ofJson (.object fields) := List.mem_singleton.mp hentry
        exact Entry.parent_of_ofJson hsub
  · cases h

/-- A document only adds. -/
theorem exists_addition (cs : List Collection) (document : String × String) :
    ∃ more, afterDocument cs document = cs ++ more ∧ Addition cs.length more := by
  unfold afterDocument
  split
  · next after hafter =>
    unfold append at hafter
    split at hafter
    · cases hafter
    · split at hafter
      · cases hafter
      · next more hmore =>
        cases hafter
        exact ⟨more, rfl, addition_of_ofDocument hmore⟩
  · exact ⟨[], (List.append_nil cs).symm, .nothing⟩

/-- The collections of a tree after the root's. -/
theorem getElem?_ofTree_succ (number i : Nat) (root : Command) :
    (ofTree number root)[i + 1]?
      = (root.subcommands[i]?).map fun sub => single (subcommandEntry root.name number i sub) := by
  simp only [ofTree, List.getElem?_cons_succ, List.getElem?_mapIdx]

theorem length_ofTree (number : Nat) (root : Command) :
    (ofTree number root).length = root.subcommands.length + 1 := by
  simp only [ofTree, List.length_cons, List.length_mapIdx]

/-- A command with a parent is in the tree that its document adds, after
the root, and the root is what it points at. -/
theorem Addition.parent (h : Addition number more) (hat : commandAt? more c e = some sub)
    (hparent : sub.parent = some p) :
    e = 0 ∧ p = number ∧ 0 < c ∧ more[c]? = some (single (.command sub))
      ∧ ∃ root : Command, root.parent = none ∧ more[0]? = some (single (.command root)) := by
  cases h with
  | nothing => cases hat
  | one hall =>
    obtain ⟨collection, hc, hat⟩ := Option.bind_eq_some_iff.mp hat
    obtain ⟨entry, he, hsub⟩ := Option.bind_eq_some_iff.mp hat
    obtain rfl := List.mem_singleton.mp (List.mem_of_getElem? hc)
    rw [hall entry (List.mem_of_getElem? he) sub hsub] at hparent
    cases hparent
  | @tree root hroot =>
    cases c with
    | zero =>
      obtain ⟨-, hsub⟩ := entry_of_commandAt?_single rfl hat
      cases hsub
      rw [hroot.parent] at hparent
      cases hparent
    | succ i =>
      have hi := lt_length_of_commandAt? hat
      rw [length_ofTree] at hi
      have hc := getElem?_ofTree_succ number i root
      rw [List.getElem?_eq_getElem (Nat.lt_of_succ_lt_succ hi), Option.map_some] at hc
      obtain ⟨rfl, hentry⟩ := entry_of_commandAt?_single hc hat
      rw [hentry] at hc
      refine ⟨rfl, ?_, i.succ_pos, hc, { root with subcommands := _ }, hroot.parent, rfl⟩
      unfold subcommandEntry at hentry
      split at hentry
      · cases hentry
      · cases hentry
        exact (Option.some.inj hparent).symm

/-! ## The invariant -/

/-- Every command with a parent stands alone in a collection without
module, and points back at a root command that stands alone too. -/
def ParentsSound (cs : List Collection) : Prop :=
  ∀ c e sub p, commandAt? cs c e = some sub → sub.parent = some p →
    e = 0 ∧ cs[c]? = some ⟨"unknown", [.command sub]⟩ ∧ p < c
      ∧ ∃ root, rootCommand? cs p = some root ∧ root.parent = none
        ∧ cs[p]? = some ⟨"unknown", [.command root]⟩

/-- An addition keeps the invariant: commands that were there point at
collections that were there, and new ones at the first new collection. -/
theorem ParentsSound.append (hcs : ParentsSound cs) (h : Addition cs.length more) :
    ParentsSound (cs ++ more) := by
  intro c e sub p hat hparent
  by_cases hc : c < cs.length
  · rw [commandAt?_append_left hc] at hat
    obtain ⟨he, hsub, hp, root, hroot, hnone, halone⟩ := hcs c e sub p hat hparent
    refine ⟨he, ?_, hp, root, ?_, hnone, ?_⟩
    · rw [List.getElem?_append_left hc, hsub]
    · -- It points back, so to a collection that was there before too.
      rw [rootCommand?_append (Nat.lt_trans hp hc)]
      exact hroot
    · rw [List.getElem?_append_left (Nat.lt_trans hp hc), halone]
  · have hle : cs.length ≤ c := Nat.le_of_not_lt hc
    rw [commandAt?_append_right hle] at hat
    obtain ⟨he, rfl, hpos, hsub, root, hnone, halone⟩ := h.parent hat hparent
    have hroot : (cs ++ more)[cs.length]? = some (single (.command root)) := by
      rw [List.getElem?_append_right (Nat.le_refl _), Nat.sub_self, halone]
    refine ⟨he, ?_, by omega, root, ?_, hnone, hroot⟩
    · rw [List.getElem?_append_right hle, hsub]
      rfl
    · rw [rootCommand?, hroot]
      rfl

/-- Documents keep parents sound one after another. -/
theorem parentsSound_foldl (hcs : ParentsSound cs) (documents : List (String × String)) :
    ParentsSound (documents.foldl afterDocument cs) := by
  induction documents generalizing cs with
  | nil => exact hcs
  | cons document documents ih =>
    obtain ⟨more, hmore, hadd⟩ := exists_addition cs document
    rw [List.foldl_cons, hmore]
    exact ih (hcs.append hadd)

/-- Nothing was there before the first document, so parents are always sound. -/
theorem parentsSound_afterAll (documents : List (String × String)) :
    ParentsSound (afterAll documents) :=
  parentsSound_foldl (fun _ _ _ _ h => by cases h) documents

/-- Later documents only add, and no command they add points at a
collection that was there before. -/
theorem exists_later (cs : List Collection) (documents : List (String × String)) :
    ∃ more, documents.foldl afterDocument cs = cs ++ more
      ∧ ∀ c e sub p, commandAt? more c e = some sub → sub.parent = some p → cs.length ≤ p := by
  induction documents generalizing cs with
  | nil => exact ⟨[], (List.append_nil cs).symm, fun _ _ _ _ h => by cases h⟩
  | cons document documents ih =>
    obtain ⟨new, hnew, hadd⟩ := exists_addition cs document
    obtain ⟨more, hmore, hparents⟩ := ih (cs ++ new)
    refine ⟨new ++ more, ?_, fun c e sub p hat hparent => ?_⟩
    · rw [List.foldl_cons, hnew, hmore, List.append_assoc]
    · by_cases hc : c < new.length
      · rw [commandAt?_append_left hc] at hat
        exact Nat.le_of_eq (hadd.parent hat hparent).2.1.symm
      · rw [commandAt?_append_right (Nat.le_of_not_lt hc)] at hat
        have := hparents _ _ _ _ hat hparent
        rw [List.length_append] at this
        omega

/-! ## Trees -/

/-- How the tree of a decoded root stands among the collections from a
number on. -/
structure HasTree (cs : List Collection) (number : Nat) (declared : Command) : Prop where
  /-- The root, which keeps the subcommands that have a name. -/
  root : cs[number]? = some ⟨"unknown", [.command { declared with
    subcommands := declared.subcommands.filter fun sub => !Text.isBlankText sub.name }]⟩
  /-- Right after it come all its subcommands, in the order they are
  declared. -/
  subcommands : (cs.drop (number + 1)).take declared.subcommands.length
    = declared.subcommands.mapIdx fun i sub => ⟨"unknown",
        [if Text.isBlankText sub.name then
          .malformed "" "cli" ("subcommand #" ++ toString (i + 1) ++ " of `" ++ declared.name
            ++ "` has no name")
        else .command { sub with parent := some number }]⟩
  /-- The commands among these are the subcommands that the root keeps. -/
  retained : ((((cs.drop (number + 1)).take declared.subcommands.length).flatMap
      Collection.entries).filterMap Entry.command?).map Command.withoutParent
    = declared.subcommands.filter fun sub => !Text.isBlankText sub.name
  /-- No other command points at the root. -/
  only : ∀ c e sub, commandAt? cs c e = some sub → sub.parent = some number →
    e = 0 ∧ number < c ∧ c ≤ number + declared.subcommands.length

/-- Taken back from their own collections, subcommands are those that have
a name. -/
theorem commands_of_subcommands (root : String) (number : Nat) {subs : List Command}
    (h : ∀ sub ∈ subs, sub.parent = none) :
    (((subs.mapIdx fun i sub => single (subcommandEntry root number i sub)).flatMap
      Collection.entries).filterMap Entry.command?).map Command.withoutParent
      = subs.filter fun sub => !Text.isBlankText sub.name := by
  let named : Command → Option Command := Option.guard fun s => !Text.isBlankText s.name
  have hone : ∀ sub ∈ subs, ∀ i,
      (subcommandEntry root number i sub).command?.map Command.withoutParent = named sub := by
    intro sub hsub i
    unfold subcommandEntry
    by_cases hblank : Text.isBlankText sub.name
    · simp [named, hblank, Entry.command?, Option.guard]
    · have hsame := Command.withoutParent_of_none (h sub hsub)
      simpa [named, hblank, Entry.command?, Command.withoutParent, Option.guard] using hsame
  have hentries : (subs.mapIdx fun i sub => single (subcommandEntry root number i sub)).flatMap
      Collection.entries = subs.zipIdx.map fun x => subcommandEntry root number x.2 x.1 := by
    rw [List.mapIdx_eq_zipIdx_map, List.flatMap_map, List.map_eq_flatMap]
    rfl
  have hzip : ∀ x ∈ subs.zipIdx,
      (subcommandEntry root number x.2 x.1).command?.map Command.withoutParent = named x.1 :=
    fun x hx => hone x.1 (List.fst_mem_of_mem_zipIdx hx) x.2
  calc ((((subs.mapIdx fun i sub => single (subcommandEntry root number i sub)).flatMap
        Collection.entries).filterMap Entry.command?).map Command.withoutParent)
      = subs.zipIdx.filterMap fun x =>
          (subcommandEntry root number x.2 x.1).command?.map Command.withoutParent := by
        rw [hentries, List.filterMap_map, List.map_filterMap]
        rfl
    _ = subs.zipIdx.filterMap fun x => named x.1 := List.filterMap_congr hzip
    _ = (subs.zipIdx.map Prod.fst).filterMap named := by
        rw [List.filterMap_map]
        rfl
    _ = subs.filter fun sub => !Text.isBlankText sub.name := by
        rw [List.zipIdx_map_fst, List.filterMap_eq_filter]

/-- A tree stands at its number when what came before points back and what
comes after points beyond it. -/
theorem hasTree_of_append {before after : List Collection} {declared : Command}
    (hdeclared : declared.Unplaced) (hbefore : ParentsSound before)
    (hafter : ∀ c e sub p, commandAt? after c e = some sub → sub.parent = some p →
      (before ++ ofTree before.length declared).length ≤ p) :
    HasTree (before ++ ofTree before.length declared ++ after) before.length declared := by
  have hdrop : (before ++ ofTree before.length declared ++ after).drop (before.length + 1)
      = (declared.subcommands.mapIdx fun i sub =>
          single (subcommandEntry declared.name before.length i sub)) ++ after := by
    rw [List.append_assoc, ← List.drop_drop, List.drop_left]
    rfl
  have htake : ((before ++ ofTree before.length declared ++ after).drop (before.length + 1)).take
        declared.subcommands.length
      = declared.subcommands.mapIdx fun i sub =>
          single (subcommandEntry declared.name before.length i sub) := by
    rw [hdrop]
    exact List.take_left' List.length_mapIdx
  refine ⟨?_, ?_, ?_, fun c e sub hat hparent => ?_⟩
  · rw [List.append_assoc, List.getElem?_append_right (Nat.le_refl _), Nat.sub_self]
    rfl
  · rw [htake]
    refine List.mapIdx_eq_mapIdx_iff.mpr fun i hi => ?_
    unfold subcommandEntry single
    split <;> rfl
  · rw [htake]
    exact commands_of_subcommands _ _ hdeclared.subcommands
  · -- A command before the tree points back at others before it, one of the
    -- tree stands among the subcommands, and one after it points beyond.
    rw [List.append_assoc] at hat
    by_cases hc : c < before.length
    · rw [commandAt?_append_left hc] at hat
      have := (hbefore c e sub _ hat hparent).2.2.1
      omega
    · rw [commandAt?_append_right (Nat.le_of_not_lt hc)] at hat
      by_cases hc' : c - before.length < (ofTree before.length declared).length
      · rw [commandAt?_append_left hc'] at hat
        obtain ⟨he, -, hpos, -⟩ := (Addition.tree hdeclared).parent hat hparent
        rw [length_ofTree] at hc'
        omega
      · rw [commandAt?_append_right (Nat.le_of_not_lt hc')] at hat
        have := hafter _ _ _ _ hat hparent
        rw [List.length_append, length_ofTree] at this
        omega

/-- An object with subcommands and without entries is a tree, or refused. -/
theorem exists_declared_of_append {file content : String} {fields : List (String × Json)}
    (hread : Json.read content = .ok (.object fields)) (hentries : fields.lookup "entries" = none)
    (hsubs : (fields.lookup "subcommands").isSome) (h : append cs file content = .ok more) :
    ∃ declared, Command.decoder .direct (.object fields) = .ok declared
      ∧ more = cs ++ ofTree cs.length declared := by
  rw [append, hread] at h
  dsimp only [ofDocument] at h
  rw [hentries] at h
  dsimp only at h
  rw [if_pos hsubs] at h
  cases hdecode : Command.decoder .direct (.object fields) with
  | error e =>
    rw [hdecode] at h
    cases h
  | ok declared =>
    rw [hdecode] at h
    dsimp only at h
    split at h
    · cases h
    · next accepted haccepted =>
      split at haccepted
      · cases haccepted
      · cases haccepted
        cases h
        exact ⟨declared, rfl, rfl⟩

/-- Whatever documents are read, accepted or not, every subcommand points
back at a root that stands alone; and every tree that was accepted stands
where its document was read: the root first, then all its subcommands in
order, those with a name being the ones the root keeps, and nothing else
points at the root. -/
theorem afterAll_parents_sound (documents : List (String × String)) :
    ParentsSound (afterAll documents)
      ∧ ∀ earlier file content later fields accepted,
        documents = earlier ++ (file, content) :: later →
        Json.read content = .ok (.object fields) → fields.lookup "entries" = none →
        (fields.lookup "subcommands").isSome →
        append (afterAll earlier) file content = .ok accepted →
        ∃ declared, Command.decoder .direct (.object fields) = .ok declared
          ∧ HasTree (afterAll documents) (afterAll earlier).length declared := by
  refine ⟨parentsSound_afterAll documents, ?_⟩
  rintro earlier file content later fields accepted rfl hread hentries hsubs haccepted
  obtain ⟨declared, hdecode, hmore⟩ := exists_declared_of_append hread hentries hsubs haccepted
  obtain ⟨rest, hrest, hparents⟩ := exists_later accepted later
  have hall : afterAll (earlier ++ (file, content) :: later) = accepted ++ rest := by
    have hone : afterDocument (afterAll earlier) (file, content) = accepted := by
      rw [afterDocument, haccepted]
    rw [← hrest, ← hone, afterAll, List.foldl_append, List.foldl_cons]
    rfl
  refine ⟨declared, hdecode, ?_⟩
  rw [hall, hmore]
  rw [hmore] at hparents
  exact hasTree_of_append (Command.unplaced_of_decoder _ _ _ hdecode)
    (parentsSound_afterAll earlier) hparents

/-- A module with one entry. -/
def moduleDocument : String × String :=
  ("m.json", "\x7b\"moduleName\": \"m\", "
    ++ "\"entries\": [\x7b\"name\": \"a\", \"entryType\": \"class\"\x7d]\x7d")

/-- A tree of which one subcommand has no name. -/
def treeDocument : String × String :=
  ("ng.json", "\x7b\"name\": \"ng\", "
    ++ "\"subcommands\": [\x7b\"name\": \"\"\x7d, \x7b\"name\": \"new\"\x7d]\x7d")

/-- The tree stands after the module, and a refused text changes nothing. -/
theorem exists_hasTree_after_module :
    ∃ declared : Command, declared.name = "ng" ∧ declared.subcommands.length = 2
      ∧ HasTree (afterAll [moduleDocument, treeDocument, ("no.json", "[]")]) 1 declared := by
  have hvalue : ((Json.read treeDocument.2).toOption.any fun v =>
      (v.get? "entries").isNone && (v.get? "subcommands").isSome
        && decide ((Command.decoder .direct v).map
          (fun declared => (declared.name, declared.subcommands.length)) = .ok ("ng", 2))) = true := by
    decide +kernel
  have haccepted : (append (afterAll [moduleDocument]) "ng.json" treeDocument.2).toBool = true := by
    decide +kernel
  have hone : (afterAll [moduleDocument]).length = 1 := by decide +kernel
  cases hread : Json.read treeDocument.2 with
  | error fault =>
    rw [hread] at hvalue
    cases hvalue
  | ok v =>
    rw [hread, Except.toOption, Option.any_some] at hvalue
    simp only [Bool.and_eq_true, Option.isNone_iff_eq_none, decide_eq_true_eq] at hvalue
    obtain ⟨⟨hentries, hsubs⟩, hshape⟩ := hvalue
    cases v with
    | object fields =>
      cases happend : append (afterAll [moduleDocument]) "ng.json" treeDocument.2 with
      | error failure =>
        rw [happend] at haccepted
        cases haccepted
      | ok accepted =>
        obtain ⟨declared, hdecode, htree⟩ :=
          (afterAll_parents_sound [moduleDocument, treeDocument, ("no.json", "[]")]).2
            [moduleDocument] "ng.json" treeDocument.2 [("no.json", "[]")] fields accepted rfl hread
            hentries hsubs happend
        rw [hdecode] at hshape
        obtain ⟨hname, hlength⟩ := Prod.mk.inj (Except.ok.inj hshape)
        exact ⟨declared, hname, hlength, hone ▸ htree⟩
    | _ => cases hsubs

end Collection

end ApiPages
