import ApiPages.Proofs.Entry.Identity
import ApiPages.Proofs.Json.RoundTrip

/-!
# Entries read back

An entry that is written as a value and decoded again is the same entry, with
all that is in it. Beside each type stands the lemma that its values read
back, field by field in the order of its declaration: each key that an
encoder writes is the key that the decoder asks for, and nothing that is
written is left to a default.

Some values have no form in a document: a line or a position that is too
large, a default that is there and is `null`, and a command with a parent.
What is decoded has none of these (`InRange`), so decoding, encoding and
decoding again is decoding once.
-/

namespace ApiPages

open Json (Decoder)
open Json.Decoder (reads_any reads_text reads_flag reads_texts reads_list reads_natural
  reads_constant always_natural always_true)

/-! ## Tags, deprecation and members -/

/-- A tag reads back, with or without a comment. -/
theorem DocTag.reads : ∀ t : DocTag, decoder.Reads t.toJson t
  | ⟨name, comment⟩ =>
    .record <|
      .seq (.map
        (.required rfl (reads_text name)) rfl)
        (.withDefault rfl (reads_text comment)) rfl

/-- A flag and a message read back, and neither is written as `null`. -/
theorem Deprecation.reads : ∀ d : Deprecation, d.toJson ≠ .null ∧ decoder.Reads d.toJson d
  | flag _ => ⟨nofun, fun _ => rfl⟩
  | message _ => ⟨nofun, fun _ => rfl⟩

/-- A parameter reads back, its flags included. -/
theorem Parameter.reads : ∀ p : Parameter, decoder.Reads p.toJson p
  | ⟨name, description, type, isOptional, isRest⟩ =>
    .record <|
      .seq (.seq (.seq (.seq (.map
        (.required rfl (reads_text name)) rfl)
        (.withDefault rfl (reads_text description)) rfl)
        (.withDefault rfl (reads_text type)) rfl)
        (.withDefault rfl (reads_flag isOptional)) rfl)
        (.withDefault rfl (reads_flag isRest)) rfl

/-- A type parameter reads back, with its bound and its default when it has them. -/
theorem Generic.reads : ∀ g : Generic, decoder.Reads g.toJson g
  | ⟨name, _, _⟩ =>
    .record <|
      .seq (.seq (.map
        (.required rfl (reads_text name)) rfl)
        (.optionalText rfl) rfl)
        (.optionalText rfl) rfl

/-- A signature reads back with its tags, parameters and type parameters. -/
theorem Signature.reads : ∀ s : Signature, decoder.Reads s.toJson s
  | ⟨description, tags, params, _, generics⟩ =>
    .record <|
      .seq (.seq (.seq (.seq (.map
        (.withDefault rfl (reads_text description)) rfl)
        (.withDefault rfl (reads_list DocTag.reads tags)) rfl)
        (.withDefault rfl (reads_list Parameter.reads params)) rfl)
        (.optionalText rfl) rfl)
        (.withDefault rfl (reads_list Generic.reads generics)) rfl

/-- A callable reads back with all its signatures. -/
theorem Callable.reads : ∀ c : Callable, decoder.Reads c.toJson c
  | ⟨name, overloads, _⟩ =>
    .record <|
      .seq (.seq (.map
        (.withDefault rfl (reads_text name)) rfl)
        (.withDefault rfl (reads_list Signature.reads overloads)) rfl)
        (.optional rfl fun s _ => ⟨nofun, s.reads⟩) rfl

/-- What members share reads back from among the fields of a member. -/
theorem MemberInfo.reads : ∀ i : MemberInfo, fields.Reads i.toFields i
  | ⟨name, modifiers, description, tags, _⟩ =>
    .seq (.seq (.seq (.seq (.map
      (.required rfl (reads_text name)) rfl)
      (.withDefault rfl (reads_texts modifiers)) rfl)
      (.withDefault rfl (reads_text description)) rfl)
      (.withDefault rfl (reads_list DocTag.reads tags)) rfl)
      (.optional rfl fun d _ => d.reads) rfl

/-- A property reads back, the names of its bindings included. -/
theorem Property.reads : ∀ p : Property, decoder.Reads (.object p.toFields) p
  | ⟨info, type, input, output, required⟩ =>
    .withShared (f := fun info => Property.mk info type input output required)
      (.seq (.seq (.seq (.map
        (.withDefault rfl (reads_text type)) rfl)
        (.optionalText rfl) rfl)
        (.optionalText rfl) rfl)
        (.optionalFlag rfl) rfl)
      rfl info.reads

/-- A method reads back with its signature. -/
theorem Method.reads : ∀ m : Method, decoder.Reads (.object m.toFields) m
  | ⟨info, params, returnType, generics⟩ =>
    .withShared (f := fun info => Method.mk info params returnType generics)
      (.seq (.seq (.map
        (.withDefault rfl (reads_list Parameter.reads params)) rfl)
        (.optionalText rfl) rfl)
        (.withDefault rfl (reads_list Generic.reads generics)) rfl)
      rfl info.reads

/-- An item of an enum reads back with its value. -/
theorem EnumItem.reads : ∀ e : EnumItem, decoder.Reads (.object e.toFields) e
  | ⟨info, type, value⟩ =>
    .withShared (f := fun info => EnumItem.mk info type value)
      (.seq (.map
        (.withDefault rfl (reads_text type)) rfl)
        (.optionalText rfl) rfl)
      rfl info.reads

/-- A member reads back as the kind that its tag says. -/
theorem Member.reads : ∀ m : Member, decoder.Reads m.toJson m
  | property p => .tagged rfl rfl (p.reads.map property)
  | method m => .tagged rfl rfl (m.reads.map method)
  | getter p => .tagged rfl rfl (p.reads.map getter)
  | setter p => .tagged rfl rfl (p.reads.map setter)
  | enumItem e => .tagged rfl rfl (e.reads.map enumItem)

/-! ## The shared part of an entry -/

/-- Whether a location's lines have 64 bits. -/
structure SourceLocation.InRange (s : SourceLocation) : Prop where
  startLine : s.startLine < Nat.pow 2 64
  endLine : s.endLine < Nat.pow 2 64

/-- Whether the location of an entry is in range. -/
def EntryInfo.InRange (i : EntryInfo) : Prop := ∀ s ∈ i.source, s.InRange

/-- A location reads back when its lines have 64 bits. -/
theorem SourceLocation.reads : ∀ s : SourceLocation, s.InRange → decoder.Reads s.toJson s
  | ⟨filePath, _, _⟩, ⟨hstart, hend⟩ =>
    .record <|
      .seq (.seq (.map
        (.required rfl (reads_text filePath)) rfl)
        (.withDefault rfl (reads_natural _ hstart)) rfl)
        (.withDefault rfl (reads_natural _ hend)) rfl

/-- The lines of a decoded location always have. -/
theorem SourceLocation.always_inRange : decoder.Always InRange := by
  refine .record ?_
  refine .seq (P := fun line => line < Nat.pow 2 64) ?_
    (.withDefault (always_natural _ _) (by decide))
  refine .seq (P := fun line => line < Nat.pow 2 64) ?_
    (.withDefault (always_natural _ _) (by decide))
  exact .map_of_forall fun _ _ hstart _ hend => ⟨hstart, hend⟩

/-- A kind reads back from its tag. -/
theorem EntryKind.reads (k : EntryKind) : decoder.Reads (.string k.tag) k :=
  reads_constant (by cases k <;> rfl)

/-- What entries share reads back from among the fields of an entry. -/
theorem EntryInfo.reads : ∀ i : EntryInfo, i.InRange → fields.Reads i.toFields i
  | ⟨name, kind, description, _, tags, _, _, _⟩, h =>
    .seq (.seq (.seq (.seq (.seq (.seq (.seq (.map
      (.required rfl (reads_text name)) rfl)
      (.required rfl kind.reads) rfl)
      (.withDefault rfl (reads_text description)) rfl)
      (.optionalText rfl) rfl)
      (.withDefault rfl (reads_list DocTag.reads tags)) rfl)
      (.optional rfl fun s hs => ⟨nofun, s.reads (h s hs)⟩) rfl)
      (.optionalText rfl) rfl)
      (.optional rfl fun d _ => d.reads) rfl

/-- Decoded shared fields are in range. -/
theorem EntryInfo.always_inRange : fields.Always InRange := by
  refine .seq_of_forall (.seq_of_forall ?_)
  refine .seq (P := fun source => ∀ s ∈ source, SourceLocation.InRange s) ?_ (.withDefault
    (.nullable fun reading v s _ hs => SourceLocation.always_inRange reading v s hs) nofun)
  exact .seq_of_forall <| .seq_of_forall <| .seq_of_forall <| .seq_of_forall <|
    .map_of_forall fun _ _ _ _ _ _ hsource _ _ => hsource

/-! ## API entries -/

/-- A class reads back with its members and everything it extends. -/
theorem ClassEntry.reads : ∀ c : ClassEntry, c.info.InRange → decoder.Reads c.toJson c
  | ⟨info, members, generics, superclass, implemented, isAbstract, selector, exportAs, pipeName,
      isStandalone⟩, h =>
    .withShared (f := fun info => ClassEntry.mk info members generics superclass implemented
        isAbstract selector exportAs pipeName isStandalone)
      (.seq (.seq (.seq (.seq (.seq (.seq (.seq (.seq (.map
        (.withDefault rfl (reads_list Member.reads members)) rfl)
        (.withDefault rfl (reads_list Generic.reads generics)) rfl)
        (.optionalText rfl) rfl)
        (.withDefault rfl (reads_texts implemented)) rfl)
        (.withDefault rfl (reads_flag isAbstract)) rfl)
        (.optionalText rfl) rfl)
        (.withDefault rfl (reads_texts exportAs)) rfl)
        (.optionalText rfl) rfl)
        (.optionalFlag rfl) rfl)
      rfl (info.reads h)

/-- A function reads back, its flat fields beside its overloads. -/
theorem FunctionEntry.reads : ∀ f : FunctionEntry, f.info.InRange → decoder.Reads f.toJson f
  | ⟨info, params, returnType, generics, overloads, implementation⟩, h =>
    .withShared (f := fun info =>
        FunctionEntry.mk info params returnType generics overloads implementation)
      (.seq (.seq (.seq (.seq (.map
        (.withDefault rfl (reads_list Parameter.reads params)) rfl)
        (.optionalText rfl) rfl)
        (.withDefault rfl (reads_list Generic.reads generics)) rfl)
        (.withDefault rfl (reads_list Signature.reads overloads)) rfl)
        (.optional rfl fun s _ => ⟨nofun, s.reads⟩) rfl)
      rfl (info.reads h)

/-- An initializer API reads back with its call and the functions below it. -/
theorem InitializerApiEntry.reads :
    ∀ f : InitializerApiEntry, f.info.InRange → decoder.Reads f.toJson f
  | ⟨info, call, subFunctions⟩, h =>
    .withShared (f := fun info => InitializerApiEntry.mk info call subFunctions)
      (.seq (.map
        (.withDefault rfl call.reads) rfl)
        (.withDefault rfl (reads_list Callable.reads subFunctions)) rfl)
      rfl (info.reads h)

/-- A constant reads back with its type. -/
theorem ConstantEntry.reads : ∀ c : ConstantEntry, c.info.InRange → decoder.Reads c.toJson c
  | ⟨info, type⟩, h =>
    .withShared (f := fun info => ConstantEntry.mk info type)
      (.map (.withDefault rfl (reads_text type)) rfl)
      rfl (info.reads h)

/-- An alias reads back with its type parameters. -/
theorem TypeAliasEntry.reads : ∀ a : TypeAliasEntry, a.info.InRange → decoder.Reads a.toJson a
  | ⟨info, type, generics⟩, h =>
    .withShared (f := fun info => TypeAliasEntry.mk info type generics)
      (.seq (.map
        (.withDefault rfl (reads_text type)) rfl)
        (.withDefault rfl (reads_list Generic.reads generics)) rfl)
      rfl (info.reads h)

/-- An enum reads back with its items. -/
theorem EnumEntry.reads : ∀ e : EnumEntry, e.info.InRange → decoder.Reads e.toJson e
  | ⟨info, members⟩, h =>
    .withShared (f := fun info => EnumEntry.mk info members)
      (.map (.withDefault rfl (reads_list Member.reads members)) rfl)
      rfl (info.reads h)

/-- The place of a decorator reads back from its tag. -/
theorem Placement.reads (p : Placement) : decoder.Reads (.string p.tag) p :=
  reads_constant (by cases p <;> rfl)

/-- A decorator reads back with its members. -/
theorem DecoratorEntry.reads : ∀ d : DecoratorEntry, d.info.InRange → decoder.Reads d.toJson d
  | ⟨info, placement, members⟩, h =>
    .withShared (f := fun info => DecoratorEntry.mk info placement members)
      (.seq (.map
        (.withDefault rfl placement.reads) rfl)
        (.withDefault rfl (reads_list Member.reads members)) rfl)
      rfl (info.reads h)

/-- A decoded entry with nothing else is in range. -/
theorem EntryInfo.always_inRange_decoder : decoder.Always InRange :=
  .record always_inRange

/-- So is every decoded class. -/
theorem ClassEntry.always_inRange : decoder.Always fun c => c.info.InRange :=
  .ofShared info_ownFields EntryInfo.always_inRange

/-- So is every decoded function. -/
theorem FunctionEntry.always_inRange : decoder.Always fun f => f.info.InRange :=
  .ofShared info_ownFields EntryInfo.always_inRange

theorem InitializerApiEntry.always_inRange : decoder.Always fun f => f.info.InRange :=
  .ofShared info_ownFields EntryInfo.always_inRange

theorem ConstantEntry.always_inRange : decoder.Always fun c => c.info.InRange :=
  .ofShared info_ownFields EntryInfo.always_inRange

theorem TypeAliasEntry.always_inRange : decoder.Always fun a => a.info.InRange :=
  .ofShared info_ownFields EntryInfo.always_inRange

theorem EnumEntry.always_inRange : decoder.Always fun e => e.info.InRange :=
  .ofShared info_ownFields EntryInfo.always_inRange

theorem DecoratorEntry.always_inRange : decoder.Always fun d => d.info.InRange :=
  .ofShared info_ownFields EntryInfo.always_inRange

/-! ## Commands -/

/-- Whether an option has a form in a document: its place has 32 bits, and
`null` is not its default. -/
structure CommandOption.InRange (o : CommandOption) : Prop where
  positional : ∀ n ∈ o.positional, n < Nat.pow 2 32
  default : ∀ v ∈ o.default, v ≠ .null

/-- Whether a command and all below it have a form in a document: none has a
parent, and their options are in range. -/
inductive Command.InRange : Command → Prop
  | intro {c : Command} (parent : c.parent = none) (options : ∀ o ∈ c.options, o.InRange)
      (subcommands : ∀ sub ∈ c.subcommands, sub.InRange) : c.InRange

/-- A position as a value. -/
def CommandOption.positionToJson (n : Nat) : Json := .number (.whole n)

/-- An option reads back when its place has 32 bits and its default is not `null`. -/
theorem CommandOption.reads : ∀ o : CommandOption, o.InRange → decoder.Reads o.toJson o
  | ⟨name, type, description, default, allowedValues, aliases, positional, _⟩, h =>
    .record <|
      .seq (.seq (.seq (.seq (.seq (.seq (.seq (.map
        (.required rfl (reads_text name)) rfl)
        (.withDefault rfl (reads_text type)) rfl)
        (.withDefault rfl (reads_text description)) rfl)
        (.optional (a := default) rfl fun v hv => ⟨h.default v hv, reads_any v⟩) rfl)
        (.withDefault (v := .array (allowedValues.map id)) (by rw [List.map_id]; rfl)
          (reads_list reads_any allowedValues)) rfl)
        (.withDefault rfl (reads_texts aliases)) rfl)
        (.optional (show _ = some (Json.ofOption positionToJson positional) by
            cases positional <;> rfl)
          fun n hn => ⟨nofun, reads_natural "u32" (h.positional n hn)⟩) rfl)
        (.optional rfl fun d _ => d.reads) rfl

/-- A decoded option is such an option. -/
theorem CommandOption.always_inRange : decoder.Always InRange := by
  refine .record (.seq_of_forall ?_)
  refine .seq (P := fun positional => ∀ n ∈ positional, n < Nat.pow 2 32) ?_ (.withDefault
    (.nullable fun reading v n _ hn => always_natural _ _ reading v n hn) nofun)
  refine .seq_of_forall (.seq_of_forall ?_)
  refine .seq (P := fun default => ∀ v ∈ default, v ≠ Json.null) ?_ (.withDefault
    (.nullable fun reading v v' hv hread => ?_) nofun)
  · exact .seq_of_forall <| .seq_of_forall <| .map_of_forall
      fun _ _ _ _ hdefault _ _ _ hpositional _ => ⟨hpositional, hdefault⟩
  · cases hread
    exact hv

namespace Command

/-- A decoded command is in range, and so are those below it. -/
theorem always_inRange_within : ∀ d, (decodeWithin d).Always InRange
  | 0 => fun _ _ _ h => nomatch h
  | d + 1 => by
    refine .record ?_
    refine .seq (P := fun subcommands => ∀ sub ∈ subcommands, InRange sub) ?_
      (.withDefault (always_inRange_within d).list nofun)
    refine .seq (P := fun options => ∀ o ∈ options, CommandOption.InRange o) ?_
      (.withDefault CommandOption.always_inRange.list nofun)
    exact .seq_of_forall <| .seq_of_forall <| .seq_of_forall <| .seq_of_forall <|
      .seq_of_forall <| .map_of_forall
        fun _ _ _ _ _ _ _ hoptions _ hsubcommands => .intro rfl hoptions hsubcommands

/-- This holds however deep the command is. -/
theorem always_inRange : decoder.Always InRange :=
  fun reading v => always_inRange_within v.depth reading v

/-- A list of commands is written command by command. -/
theorem listToJson_eq_map (cs : List Command) : listToJson cs = cs.map toJson := by
  induction cs with
  | nil => rfl
  | cons c cs ih => rw [listToJson, ih, List.map_cons]

/-- A command's value is deeper than those of its subcommands. -/
theorem depth_lt_of_mem {c sub : Command} (h : sub ∈ c.subcommands) :
    sub.toJson.depth < c.toJson.depth := by
  obtain ⟨name, usage, short, long, aliases, deprecated, options, subcommands, parent⟩ := c
  have hitem : sub.toJson.depth ≤ Json.depthOfItems (subcommands.map toJson) :=
    Json.depth_le_depthOfItems (List.mem_map_of_mem h)
  rw [toJson, listToJson_eq_map, Json.depth]
  refine Nat.lt_succ_of_le (Nat.le_trans (Nat.le_succ_of_le hitem) ?_)
  exact Json.depth_le_depthOfFields "subcommands" (v := .array (subcommands.map toJson)) (by simp)

/-- A command reads back where decoding goes as deep as it is. -/
theorem reads_within (d : Nat) {c : Command} (h : c.InRange) (hd : c.toJson.depth ≤ d) :
    (decodeWithin d).Reads c.toJson c := by
  induction d generalizing c with
  | zero => exact absurd hd (by cases c; simp [toJson, Json.depth])
  | succ d ih =>
    obtain ⟨hparent, hoptions, hsubcommands⟩ := h
    have hsubs : (Decoder.list (decodeWithin d)).Reads (.array (c.subcommands.map toJson))
        c.subcommands :=
      .list fun sub hsub => ih (hsubcommands sub hsub) (by have := depth_lt_of_mem hsub; omega)
    obtain ⟨name, usage, short, long, aliases, deprecated, options, subcommands, parent⟩ := c
    cases hparent
    rw [toJson, listToJson_eq_map]
    exact .record <|
      .seq (.seq (.seq (.seq (.seq (.seq (.seq (.map
        (.required rfl (reads_text name)) rfl)
        (.optionalText rfl) rfl)
        (.withDefault rfl (reads_text short)) rfl)
        (.withDefault rfl (reads_text long)) rfl)
        (.withDefault rfl (reads_texts aliases)) rfl)
        (.optional rfl fun d _ => d.reads) rfl)
        (.withDefault rfl (.list fun o ho => o.reads (hoptions o ho))) rfl)
        (.withDefault rfl hsubs) rfl

/-- A command reads back, as decoding goes as deep as its value. -/
theorem reads (c : Command) (h : c.InRange) : decoder.Reads c.toJson c :=
  reads_within c.toJson.depth h (Nat.le_refl _)

end Command

/-! ## The format -/

/-- Decoding undoes encoding over the whole format of entries. A value of one
of its types is read back from what it is written as, with its members,
tags, locations, markers, signatures, type parameters, options and all
subcommands below it. What is decoded is always such a value, so decoding,
encoding and decoding again gives what decoding gave. -/
theorem decoders_undo_encoders :
    ClassEntry.decoder.Undoes ClassEntry.toJson (·.info.InRange)
      ∧ FunctionEntry.decoder.Undoes FunctionEntry.toJson (·.info.InRange)
      ∧ InitializerApiEntry.decoder.Undoes InitializerApiEntry.toJson (·.info.InRange)
      ∧ ConstantEntry.decoder.Undoes ConstantEntry.toJson (·.info.InRange)
      ∧ TypeAliasEntry.decoder.Undoes TypeAliasEntry.toJson (·.info.InRange)
      ∧ EnumEntry.decoder.Undoes EnumEntry.toJson (·.info.InRange)
      ∧ DecoratorEntry.decoder.Undoes DecoratorEntry.toJson (·.info.InRange)
      ∧ EntryInfo.decoder.Undoes (fun i => .object i.toFields) EntryInfo.InRange
      ∧ Command.decoder.Undoes Command.toJson Command.InRange :=
  ⟨.of_always ClassEntry.reads ClassEntry.always_inRange,
    .of_always FunctionEntry.reads FunctionEntry.always_inRange,
    .of_always InitializerApiEntry.reads InitializerApiEntry.always_inRange,
    .of_always ConstantEntry.reads ConstantEntry.always_inRange,
    .of_always TypeAliasEntry.reads TypeAliasEntry.always_inRange,
    .of_always EnumEntry.reads EnumEntry.always_inRange,
    .of_always DecoratorEntry.reads DecoratorEntry.always_inRange,
    .of_always (fun i h => .record (i.reads h)) EntryInfo.always_inRange_decoder,
    .of_always Command.reads Command.always_inRange⟩

/-- A command with an option that has a place and a default, and a
subcommand. -/
def Command.rootOfServe : Command :=
  ⟨"ng", some "ng <command>", "", "", [], some (.flag false),
    [⟨"port", "number", "", some (.number (.whole 4200)), [], ["p"], some 0, none⟩],
    [Command.plain "serve"], none⟩

/-- A command with nothing but a name is in range. -/
theorem Command.inRange_plain (name : String) : (plain name).InRange :=
  .intro rfl nofun nofun

/-- So is a root with an option and a subcommand. -/
theorem Command.inRange_rootOfServe : rootOfServe.InRange := by
  refine .intro rfl (fun o ho => ?_) (fun sub hsub => ?_)
  · cases List.mem_singleton.mp ho
    exact ⟨fun n hn => by cases hn; decide, fun v hv => by cases hv; nofun⟩
  · cases List.mem_singleton.mp hsub
    exact inRange_plain "serve"

/-- Such a root reads back, with its option and its subcommand. -/
theorem Command.rootOfServe_reads_back :
    rootOfServe.InRange ∧ decoder.Reads rootOfServe.toJson rootOfServe :=
  ⟨inRange_rootOfServe,
    decoders_undo_encoders.2.2.2.2.2.2.2.2.reads rootOfServe inRange_rootOfServe⟩

end ApiPages
