import ApiPages.Proofs.Collection.Parent

/-!
# What a document appends

Reading a document appends to the collections that are there or leaves them
as they are, and the object at its top decides which: a module when it has
entries, a tree when it has subcommands, a lone entry otherwise
(`AddedBy`). How many collections came before enters in one place only, the
numbers that subcommands point at, so two starts differ by those numbers
(`append_eq_renumbered`).

`readInPlace` reads into a list that is at hand and adds to it step by step.
It fails before its first step or not at all, which is why it agrees with
`append`.
-/

namespace ApiPages

/-! ## Numbers of collections -/

namespace Command

mutual

/-- The command with its parent's number, and those of all commands below
it, counted from `n` collections further on. -/
def renumbered (n : Nat) : Command → Command
  | ⟨name, usage, short, long, aliases, deprecated, options, subcommands, parent⟩ =>
    ⟨name, usage, short, long, aliases, deprecated, options, renumberedAll n subcommands,
      parent.map (· + n)⟩

/-- The same for some commands. -/
def renumberedAll (n : Nat) : List Command → List Command
  | [] => []
  | c :: more => c.renumbered n :: renumberedAll n more

end

/-- No command of the tree has a parent. -/
inductive Rootless : Command → Prop
  | intro {c : Command} (parent : c.parent = none)
      (subcommands : ∀ sub ∈ c.subcommands, sub.Rootless) : c.Rootless

/-- Counting on in a list is counting on in each command. -/
theorem renumberedAll_eq_map (n : Nat) (cs : List Command) :
    renumberedAll n cs = cs.map (renumbered n) := by
  induction cs with
  | nil => rfl
  | cons c cs ih => rw [renumberedAll, ih, List.map_cons]

/-- Counting on moves the parent of a command and those of its subcommands. -/
theorem renumbered_eq (n : Nat) (c : Command) :
    c.renumbered n = { c with
      subcommands := c.subcommands.map (renumbered n), parent := c.parent.map (· + n) } := by
  cases c
  rw [renumbered, renumberedAll_eq_map]

mutual

/-- Counting on twice is counting on once. -/
theorem renumbered_renumbered (a b : Nat) :
    ∀ c : Command, (c.renumbered a).renumbered b = c.renumbered (a + b)
  | ⟨_, _, _, _, _, _, _, subcommands, parent⟩ => by
    rw [renumbered, renumbered, renumbered, renumberedAll_renumberedAll a b subcommands]
    cases parent with
    | none => rfl
    | some number => rw [Option.map_some, Option.map_some, Option.map_some, Nat.add_assoc]

/-- So it is for the commands of a list. -/
theorem renumberedAll_renumberedAll (a b : Nat) :
    ∀ cs : List Command, renumberedAll b (renumberedAll a cs) = renumberedAll (a + b) cs
  | [] => rfl
  | c :: more => by
    rw [renumberedAll, renumberedAll, renumberedAll, renumbered_renumbered a b c,
      renumberedAll_renumberedAll a b more]

end

/-- Where there is no number, nothing changes. -/
theorem Rootless.renumbered {c : Command} (h : c.Rootless) (n : Nat) : c.renumbered n = c := by
  induction h with
  | @intro c hparent _ ih =>
    have hsubs : c.subcommands.map (Command.renumbered n) = c.subcommands :=
      (List.map_congr_left ih).trans (List.map_id' _)
    rw [renumbered_eq, hparent, hsubs]
    cases c
    cases hparent
    rfl

/-- No depth of decoding gives a command a parent. -/
theorem rootless_of_decodeWithin : ∀ d, (decodeWithin d).Always Rootless
  | 0 => fun _ _ _ h => nomatch h
  | d + 1 => (Json.Decoder.Always.record (always_fields (rootless_of_decodeWithin d))).mono
      fun _ h => .intro h.1 h.2

/-- A decoded command has no parent anywhere. -/
theorem rootless_of_decoder : decoder.Always Rootless :=
  fun reading v => rootless_of_decodeWithin v.depth reading v

end Command

/-- The entry with its commands renumbered. -/
def Entry.renumbered (n : Nat) : Entry → Entry
  | .command c => .command (c.renumbered n)
  | e => e

/-- An entry that is moved twice is moved by the sum. -/
theorem Entry.renumbered_renumbered (a b : Nat) (e : Entry) :
    (e.renumbered a).renumbered b = e.renumbered (a + b) := by
  cases e with
  | command c => exact congrArg Entry.command (c.renumbered_renumbered a b)
  | _ => rfl

/-- An entry that stands in a document has no numbers. -/
theorem Entry.renumbered_ofJson (n : Nat) (v : Json) :
    (Entry.ofJson v).renumbered n = Entry.ofJson v := by
  cases h : Entry.ofJson v with
  | command c =>
    have hc : (Entry.ofJson v).command? = some c := by rw [h]; rfl
    exact congrArg Entry.command
      ((Command.rootless_of_decoder _ _ _ (decoder_of_ofJson hc)).renumbered n)
  | _ => rfl

namespace Collection

/-- The collection with its commands renumbered. -/
def renumbered (n : Nat) (c : Collection) : Collection :=
  { c with entries := c.entries.map (Entry.renumbered n) }

variable {number n : Nat} {cs more after : List Collection} {fields : List (String × Json)}
  {v : Json} {file content : String}

/-- So is a collection. -/
theorem renumbered_renumbered (a b : Nat) (c : Collection) :
    (c.renumbered a).renumbered b = c.renumbered (a + b) := by
  unfold renumbered
  rw [List.map_map]
  exact congrArg (Collection.mk c.moduleName)
    (List.map_congr_left fun e _ => e.renumbered_renumbered a b)

theorem renumbered_single (n : Nat) (e : Entry) :
    (single e).renumbered n = single (e.renumbered n) := rfl

/-- A module names no other collection, so it is the same wherever it stands. -/
theorem renumbered_ofModule {entries : Json} {c : Collection}
    (h : ofModule fields entries = .ok c) : c.renumbered n = c := by
  unfold ofModule at h
  split at h
  · next items =>
    split at h
    · cases h
      have hitems : (items.map Entry.ofJson).map (Entry.renumbered n) = items.map Entry.ofJson := by
        rw [List.map_map]
        exact List.map_congr_left fun v _ => Entry.renumbered_ofJson n v
      rw [renumbered, hitems]
    · cases h
  · cases h

/-- The entry of a subcommand is counted from where its root is. -/
theorem renumbered_subcommandEntry {sub : Command} (h : sub.Rootless) (root : String)
    (number position n : Nat) :
    (subcommandEntry root number position sub).renumbered n
      = subcommandEntry root (number + n) position sub := by
  unfold subcommandEntry
  split
  · rfl
  · refine congrArg Entry.command ?_
    cases h with
    | intro _ hsubs =>
      have hmap : sub.subcommands.map (Command.renumbered n) = sub.subcommands :=
        (List.map_congr_left fun c hc => (hsubs c hc).renumbered n).trans (List.map_id' _)
      rw [Command.renumbered_eq, hmap]
      rfl

/-- The collections of a tree moved are those of the tree at the later place. -/
theorem renumbered_ofTree {root : Command} (h : root.Rootless) (number n : Nat) :
    (ofTree number root).map (renumbered n) = ofTree (number + n) root := by
  cases h with
  | intro hparent hsubs =>
    have hkept : ({ root with
        subcommands := root.subcommands.filter fun c => !Text.isBlankText c.name } :
          Command).Rootless :=
      .intro hparent fun sub hsub => hsubs sub (List.mem_filter.mp hsub).1
    rw [ofTree, ofTree, List.map_cons, renumbered_single]
    refine congrArg₂ List.cons (congrArg single (congrArg Entry.command (hkept.renumbered n))) ?_
    refine List.ext_getElem? fun i => ?_
    rw [List.getElem?_map, List.getElem?_mapIdx, List.getElem?_mapIdx]
    cases hi : root.subcommands[i]? with
    | none => rfl
    | some sub =>
      have hsub := hsubs sub (List.mem_of_getElem? hi)
      exact congrArg (some ∘ single) (renumbered_subcommandEntry hsub root.name number i n)

/-- What a document adds after `n` more collections. -/
theorem ofDocument_add (number n : Nat) (v : Json) :
    ofDocument (number + n) v = (ofDocument number v).map (List.map (renumbered n)) := by
  cases v with
  | object fields =>
    unfold ofDocument
    dsimp only
    split
    · next entries _ =>
      cases hmodule : ofModule fields entries with
      | error fault => rfl
      | ok c =>
        change Except.ok [c] = Except.ok [c.renumbered n]
        rw [renumbered_ofModule hmodule]
    · split
      · cases hroot : Command.decoder .direct (.object fields) with
        | error e => rfl
        | ok root =>
          dsimp only
          split
          · rfl
          · have := renumbered_ofTree (Command.rootless_of_decoder _ _ _ hroot) number n
            exact congrArg Except.ok this.symm
      · change Except.ok [single _] = Except.ok [single ((Entry.ofJson _).renumbered n)]
        rw [Entry.renumbered_ofJson]
  | _ => rfl

/-- Reading after some collections and reading first of all differ in the
numbers alone. -/
theorem append_eq_renumbered (cs : List Collection) (file content : String) :
    append cs file content
      = (append [] file content).map fun more => cs ++ more.map (renumbered cs.length) := by
  unfold append
  cases Json.read content with
  | error fault => rfl
  | ok v =>
    dsimp only
    have hadd := ofDocument_add 0 cs.length v
    rw [Nat.zero_add] at hadd
    rw [hadd, List.length_nil]
    cases ofDocument 0 v <;> rfl

/-! ## Reading in place -/

/-- What may fail and works on a list of collections that is at hand. -/
abbrev InPlace := EStateM Failure (List Collection)

/-- Adds one collection at the end. -/
def push (c : Collection) : InPlace Unit := modify (· ++ [c])

/-- Adds the collections of a tree of commands, the root's first. -/
def pushTree (root : Command) : InPlace Unit := do
  let number := (← get).length
  push (single (.command { root with
    subcommands := root.subcommands.filter fun c => !Text.isBlankText c.name }))
  (root.subcommands.mapIdx fun i c => single (subcommandEntry root.name number i c)).forM push

/-- The value of a step that may be refused. -/
def required {ε α : Type} (wording : ε → Failure) : Except ε α → InPlace α
  | .ok a => pure a
  | .error e => throw (wording e)

/-- Adds the collections of a document. -/
def pushDocument (file : String) (v : Json) : InPlace Unit :=
  let refusal (fault : CollectionFault) : Failure := .collection file fault.message
  match v with
  | .object fields =>
    match fields.lookup "entries" with
    | some entries => do push (← required refusal (ofModule fields entries))
    | none =>
      if (fields.lookup "subcommands").isSome then do
        let root ← required (fun e => refusal (.badCommand e)) (Command.decoder .direct v)
        if root.name.isEmpty then throw (refusal .namelessCommand) else pushTree root
      else push (single (Entry.ofJson v))
  | _ => throw (refusal .notAnObject)

/-- Reads a document into the list at hand. -/
def readInPlace (file content : String) : InPlace Unit := do
  pushDocument file
    (← required (fun fault => .document file (fault.message content)) (Json.read content))

/-- Pushing collections one by one appends them in order. -/
theorem run_forM_push (more cs : List Collection) :
    (more.forM push).run cs = .ok () (cs ++ more) := by
  induction more generalizing cs with
  | nil => rw [List.append_nil]; rfl
  | cons c more ih =>
    rw [List.append_cons]
    exact ih (cs ++ [c])

/-- Pushing a tree appends its collections, numbered from the end of the list. -/
theorem run_pushTree (root : Command) (cs : List Collection) :
    (pushTree root).run cs = .ok () (cs ++ ofTree cs.length root) := by
  rw [ofTree, List.append_cons]
  exact run_forM_push _ _

/-- A step that may fail leaves the list as it is when it does, under its own wording. -/
theorem run_required_bind {ε α : Type} (wording : ε → Failure) (x : Except ε α)
    (next : α → InPlace Unit) (cs : List Collection) :
    (required wording x >>= next).run cs = match x with
      | .ok a => (next a).run cs
      | .error e => .error (wording e) cs := by
  cases x <;> rfl

/-- A document is added whole or not at all. -/
theorem run_pushDocument (file : String) (v : Json) (cs : List Collection) :
    (pushDocument file v).run cs = match ofDocument cs.length v with
      | .ok more => .ok () (cs ++ more)
      | .error fault => .error (.collection file fault.message) cs := by
  cases v with
  | object fields =>
    unfold pushDocument ofDocument
    dsimp only
    cases fields.lookup "entries" with
    | some entries =>
      dsimp only
      rw [run_required_bind]
      cases ofModule fields entries <;> rfl
    | none =>
      cases (fields.lookup "subcommands").isSome with
      | false => rfl
      | true =>
        simp only [if_true]
        rw [run_required_bind]
        cases Command.decoder .direct (.object fields) with
        | error e => rfl
        | ok root =>
          dsimp only
          split
          · rfl
          · exact run_pushTree root cs
  | _ => rfl

/-- Reading in place does what `append` says, and leaves the list alone when
it fails. -/
theorem run_readInPlace (file content : String) (cs : List Collection) :
    (readInPlace file content).run cs = match append cs file content with
      | .ok after => .ok () after
      | .error f => .error f cs := by
  unfold append
  rw [readInPlace, run_required_bind]
  cases Json.read content with
  | error fault => rfl
  | ok v =>
    dsimp only
    rw [run_pushDocument]
    cases ofDocument cs.length v <;> rfl

/-! ## By the form of the object -/

/-- What an object adds when `number` collections came before. Entries make
a module, whatever else there is; without them subcommands make a tree; and
any other object is an entry. -/
def AddedBy (number : Nat) (fields : List (String × Json)) (more : List Collection) : Prop :=
  match fields.lookup "entries", fields.lookup "subcommands" with
  | some entries, _ => ∃ items name, entries = .array items
      ∧ fields.lookup "moduleName" = some (.string name) ∧ more = [⟨name, items.map Entry.ofJson⟩]
  | none, some _ => ∃ root, Command.decoder .direct (.object fields) = .ok root ∧ root.name ≠ ""
      ∧ more = ofTree number root ∧ more.length = 1 + root.subcommands.length
  | none, none => more = [⟨"unknown", [Entry.ofJson (.object fields)]⟩]

/-- A module is accepted exactly with a list of entries and the name of the module. -/
theorem ofModule_eq_ok_iff {entries : Json} {c : Collection} :
    ofModule fields entries = .ok c ↔ ∃ items name, entries = .array items
      ∧ fields.lookup "moduleName" = some (.string name) ∧ c = ⟨name, items.map Entry.ofJson⟩ := by
  constructor
  · intro h
    unfold ofModule at h
    split at h
    · next items =>
      split at h
      · next name hname =>
        cases h
        obtain ⟨v, hv, hstring⟩ := Option.bind_eq_some_iff.mp hname
        cases v with
        | string s =>
          cases hstring
          exact ⟨items, name, rfl, hv, rfl⟩
        | _ => cases hstring
      · cases h
    · cases h
  · rintro ⟨items, name, rfl, hname, rfl⟩
    simp only [ofModule, hname, Option.bind_some, Json.asString?]

/-- What an object adds is one of the three cases, and each case is accepted. -/
theorem ofDocument_object_iff :
    ofDocument number (.object fields) = .ok more ↔ AddedBy number fields more := by
  unfold ofDocument AddedBy
  dsimp only
  cases hentries : fields.lookup "entries" with
  | some entries =>
    dsimp only
    constructor
    · intro h
      cases hmodule : ofModule fields entries with
      | error fault => rw [hmodule] at h; cases h
      | ok c =>
        rw [hmodule] at h
        cases h
        obtain ⟨items, name, hitems, hname, rfl⟩ := ofModule_eq_ok_iff.mp hmodule
        exact ⟨items, name, hitems, hname, rfl⟩
    · rintro ⟨items, name, hitems, hname, rfl⟩
      rw [ofModule_eq_ok_iff.mpr ⟨items, name, hitems, hname, rfl⟩]
      rfl
  | none =>
    cases hsubs : fields.lookup "subcommands" with
    | none =>
      simp only [Option.isSome_none, Bool.false_eq_true, if_false, Except.ok.injEq]
      exact eq_comm
    | some subs =>
      simp only [Option.isSome_some, if_true]
      cases hroot : Command.decoder .direct (.object fields) with
      | error e => simp
      | ok root =>
        simp only [String.isEmpty_iff, Except.ok.injEq, exists_eq_left']
        by_cases hname : root.name = ""
        · simp [hname]
        · simp only [hname, if_false, Except.ok.injEq, ne_eq, not_false_iff, true_and]
          constructor
          · rintro rfl
            exact ⟨rfl, by rw [length_ofTree, Nat.add_comm]⟩
          · exact fun h => h.1.symm

/-- Reading a document adds what its object says after the collections that
are there, or fails; and then a list at hand is as it was. All that other
collections before it change are the numbers of those that it adds. -/
theorem append_atomic (cs : List Collection) (file content : String) :
    ((readInPlace file content).run cs = match append cs file content with
      | .ok after => .ok () after
      | .error f => .error f cs)
    ∧ (∀ after, append cs file content = .ok after ↔ ∃ fields more,
        Json.read content = .ok (.object fields) ∧ AddedBy cs.length fields more
          ∧ after = cs ++ more)
    ∧ append cs file content
      = (append [] file content).map fun more => cs ++ more.map (renumbered cs.length) := by
  refine ⟨run_readInPlace file content cs, fun after => ?_, append_eq_renumbered cs file content⟩
  unfold append
  cases hread : Json.read content with
  | error fault => simp
  | ok v =>
    dsimp only
    cases v with
    | object fields =>
      simp only [Except.ok.injEq, Json.object.injEq, exists_and_left, exists_eq_left',
        ← ofDocument_object_iff]
      cases ofDocument cs.length (.object fields) with
      | error fault => simp
      | ok more => simp [eq_comm]
    | _ => simp [ofDocument]

end Collection

end ApiPages
