import ApiPages.Proofs.Entry.Identity
import ApiPages.Proofs.Json.Change
import ApiPages.Proofs.Json.RoundTrip

/-!
# Entries do not notice foreign keys

Documents come from a program that learns to say more. What it says under keys
that nothing here knows, at whatever depth, and the order in which it says it,
changes no entry. Beside each record stands what it knows (`known`): the names
of its fields, as its decoder has them, and the records among their values.

Commands hold commands, so what they know goes by levels, as their decoder
does. A foreign key can hold a value that is deeper than all there was, and the
decoder goes as deep as its value; `Command.decodeWithin_of_depth` says that it
makes no difference how deep it could have gone.
-/

namespace ApiPages

open Json (Change Known)
open Json.Decoder (Carries CarriesObject carries_same carries_of_eq)

/-! ## Signatures -/

def DocTag.known : Known := .of fields.names []

/-- A tag does not notice a change, as it holds no records. -/
theorem DocTag.carries : Carries known.change decoder decoder :=
  .known rfl <|
    .seq (.map _
      (.required carries_same))
      (.withDefault carries_same)

def Parameter.known : Known := .of fields.names []

/-- Nor does a parameter. -/
theorem Parameter.carries : Carries known.change decoder decoder :=
  .known rfl <|
    .seq (.seq (.seq (.seq (.map _
      (.required carries_same))
      (.withDefault carries_same))
      (.withDefault carries_same))
      (.withDefault carries_same))
      (.withDefault carries_same)

def Generic.known : Known := .of fields.names []

/-- Nor does a type parameter. -/
theorem Generic.carries : Carries known.change decoder decoder :=
  .known rfl <|
    .seq (.seq (.map _
      (.required carries_same))
      (.withDefault carries_same))
      (.withDefault carries_same)

def Signature.known : Known :=
  .of fields.names [("jsdocTags", .each DocTag.known.change),
    ("params", .each Parameter.known.change), ("generics", .each Generic.known.change)]

/-- A signature does not notice changes in its tags, parameters and type parameters. -/
theorem Signature.carries : Carries known.change decoder decoder :=
  .known rfl <|
    .seq (.seq (.seq (.seq (.map _
      (.withDefault carries_same))
      (.withDefault (.each DocTag.carries)))
      (.withDefault (.each Parameter.carries)))
      (.withDefault carries_same))
      (.withDefault (.each Generic.carries))

def Callable.known : Known :=
  .of fields.names [("signatures", .each Signature.known.change),
    ("implementation", Signature.known.change)]

/-- A callable does not notice changes in its signatures. -/
theorem Callable.carries : Carries known.change decoder decoder :=
  .known rfl <|
    .seq (.seq (.map _
      (.withDefault carries_same))
      (.withDefault (.each Signature.carries)))
      (.withDefault (.nullable Signature.carries))

/-! ## Members -/

def MemberInfo.known : Known := .of fields.names [("jsdocTags", .each DocTag.known.change)]

/-- What members share does not notice changes in its tags. -/
theorem MemberInfo.carries : fields.Carries known.rel fields :=
  .seq (.seq (.seq (.seq (.map _
    (.required carries_same))
    (.withDefault carries_same))
    (.withDefault carries_same))
    (.withDefault (.each DocTag.carries)))
    (.withDefault carries_same)

def Property.known : Known := .beside (.of ownFields.names []) MemberInfo.known

/-- The fields of a property and those that it shares are known together. -/
theorem Property.carries : CarriesObject known decoder :=
  .withShared rfl rfl
    (.seq (.seq (.seq (.map _
      (.withDefault carries_same))
      (.withDefault carries_same))
      (.withDefault carries_same))
      (.withDefault carries_same))
    MemberInfo.carries

def Method.known : Known :=
  .beside (.of ownFields.names [("params", .each Parameter.known.change),
    ("generics", .each Generic.known.change)]) MemberInfo.known

/-- The same holds of a method, with its parameters and type parameters. -/
theorem Method.carries : CarriesObject known decoder :=
  .withShared rfl rfl
    (.seq (.seq (.map _
      (.withDefault (.each Parameter.carries)))
      (.withDefault carries_same))
      (.withDefault (.each Generic.carries)))
    MemberInfo.carries

def EnumItem.known : Known := .beside (.of ownFields.names []) MemberInfo.known

/-- And of an item of an enum. -/
theorem EnumItem.carries : CarriesObject known decoder :=
  .withShared rfl rfl
    (.seq (.map _
      (.withDefault carries_same))
      (.withDefault carries_same))
    MemberInfo.carries

/-- A member knows its tag, and what the member of that tag knows. -/
def Member.change : Change :=
  .tagged "memberType" [("property", Property.known), ("method", Method.known),
    ("getter", Property.known), ("setter", Property.known), ("enum_item", EnumItem.known)]

/-- A member keeps its kind under a change, and does not notice it. -/
theorem Member.carries : Carries change decoder decoder :=
  .tagged <|
    .cons ⟨rfl, Property.carries.map property⟩ <|
    .cons ⟨rfl, Method.carries.map method⟩ <|
    .cons ⟨rfl, Property.carries.map getter⟩ <|
    .cons ⟨rfl, Property.carries.map setter⟩ <|
    .cons ⟨rfl, EnumItem.carries.map enumItem⟩ .nil

/-! ## API entries -/

def SourceLocation.known : Known := .of fields.names []

/-- A location holds no records either. -/
theorem SourceLocation.carries : Carries known.change decoder decoder :=
  .known rfl <|
    .seq (.seq (.map _
      (.required carries_same))
      (.withDefault carries_same))
      (.withDefault carries_same)

def EntryInfo.known : Known :=
  .of fields.names [("jsdocTags", .each DocTag.known.change),
    ("source", SourceLocation.known.change)]

/-- What entries share does not notice changes in its tags and its location. -/
theorem EntryInfo.carries_fields : fields.Carries known.rel fields :=
  .seq (.seq (.seq (.seq (.seq (.seq (.seq (.map _
    (.required carries_same))
    (.required carries_same))
    (.withDefault carries_same))
    (.withDefault carries_same))
    (.withDefault (.each DocTag.carries)))
    (.withDefault (.nullable SourceLocation.carries)))
    (.withDefault carries_same))
    (.withDefault carries_same)

/-- An entry with nothing else notices none. -/
theorem EntryInfo.carries : Carries known.change decoder decoder := .known rfl carries_fields

def ClassEntry.known : Known :=
  .beside (.of ownFields.names [("members", .each Member.change),
    ("generics", .each Generic.known.change)]) EntryInfo.known

/-- A class does not notice changes in its members and type parameters. -/
theorem ClassEntry.carries : Carries known.change decoder decoder :=
  .withShared rfl rfl
    (.seq (.seq (.seq (.seq (.seq (.seq (.seq (.seq (.map _
      (.withDefault (.each Member.carries)))
      (.withDefault (.each Generic.carries)))
      (.withDefault carries_same))
      (.withDefault carries_same))
      (.withDefault carries_same))
      (.withDefault carries_same))
      (.withDefault carries_same))
      (.withDefault carries_same))
      (.withDefault carries_same))
    EntryInfo.carries_fields

def FunctionEntry.known : Known :=
  .beside (.of ownFields.names [("params", .each Parameter.known.change),
    ("generics", .each Generic.known.change), ("signatures", .each Signature.known.change),
    ("implementation", Signature.known.change)]) EntryInfo.known

/-- A function does not notice changes in its own fields and its signatures. -/
theorem FunctionEntry.carries : Carries known.change decoder decoder :=
  .withShared rfl rfl
    (.seq (.seq (.seq (.seq (.map _
      (.withDefault (.each Parameter.carries)))
      (.withDefault carries_same))
      (.withDefault (.each Generic.carries)))
      (.withDefault (.each Signature.carries)))
      (.withDefault (.nullable Signature.carries)))
    EntryInfo.carries_fields

def InitializerApiEntry.known : Known :=
  .beside (.of ownFields.names [("callFunction", Callable.known.change),
    ("subFunctions", .each Callable.known.change)]) EntryInfo.known

/-- An initializer API does not notice changes in its call and the functions below it. -/
theorem InitializerApiEntry.carries : Carries known.change decoder decoder :=
  .withShared rfl rfl
    (.seq (.map _
      (.withDefault (.orSame Callable.carries)))
      (.withDefault (.each Callable.carries)))
    EntryInfo.carries_fields

def ConstantEntry.known : Known := .beside (.of ownFields.names []) EntryInfo.known

/-- A constant has one text beside what entries share. -/
theorem ConstantEntry.carries : Carries known.change decoder decoder :=
  .withShared rfl rfl
    (.map _
      (.withDefault carries_same))
    EntryInfo.carries_fields

def TypeAliasEntry.known : Known :=
  .beside (.of ownFields.names [("generics", .each Generic.known.change)]) EntryInfo.known

/-- An alias does not notice changes in its type parameters. -/
theorem TypeAliasEntry.carries : Carries known.change decoder decoder :=
  .withShared rfl rfl
    (.seq (.map _
      (.withDefault carries_same))
      (.withDefault (.each Generic.carries)))
    EntryInfo.carries_fields

def EnumEntry.known : Known :=
  .beside (.of ownFields.names [("members", .each Member.change)]) EntryInfo.known

/-- An enum does not notice changes in its items. -/
theorem EnumEntry.carries : Carries known.change decoder decoder :=
  .withShared rfl rfl
    (.map _
      (.withDefault (.each Member.carries)))
    EntryInfo.carries_fields

def DecoratorEntry.known : Known :=
  .beside (.of ownFields.names [("members", .each Member.change)]) EntryInfo.known

/-- A decorator does not notice changes in its members. -/
theorem DecoratorEntry.carries : Carries known.change decoder decoder :=
  .withShared rfl rfl
    (.seq (.map _
      (.withDefault carries_same))
      (.withDefault (.each Member.carries)))
    EntryInfo.carries_fields

/-! ## Commands -/

def CommandOption.known : Known := .of fields.names []

/-- An option keeps its values whole, so these are no records to change. -/
theorem CommandOption.carries : Carries known.change decoder decoder :=
  .known rfl <|
    .seq (.seq (.seq (.seq (.seq (.seq (.seq (.map _
      (.required carries_same))
      (.withDefault carries_same))
      (.withDefault carries_same))
      (.withDefault carries_same))
      (.withDefault carries_same))
      (.withDefault carries_same))
      (.withDefault carries_same))
      (.withDefault carries_same)

namespace Command

/-- What a command knows, with the changes of its subcommands. -/
def knownWith (subcommand : Change) : Known :=
  .of (fields decoder).names [("options", .each CommandOption.known.change),
    ("subcommands", .each subcommand)]

/-- The changes of a command down to some level. -/
def changeWithin : Nat → Change
  | 0 => .none
  | d + 1 => (knownWith (changeWithin d)).change

/-- Only options and subcommands have parts that can change or be decoded in
more than one way. -/
theorem fields_carries {rel : String → Change} {nested nested' : Json.Decoder Command}
    (hplain : ∀ key, key ≠ "options" → key ≠ "subcommands" → ∀ v v', rel key v v' → v = v')
    (hoptions : Carries (rel "options") (.list CommandOption.decoder) (.list CommandOption.decoder))
    (hsubcommands : Carries (rel "subcommands") (.list nested) (.list nested')) :
    (fields nested).Carries rel (fields nested') :=
  .seq (.seq (.seq (.seq (.seq (.seq (.seq (.map _
    (.required (carries_of_eq (hplain _ (by decide) (by decide)))))
    (.withDefault (carries_of_eq (hplain _ (by decide) (by decide)))))
    (.withDefault (carries_of_eq (hplain _ (by decide) (by decide)))))
    (.withDefault (carries_of_eq (hplain _ (by decide) (by decide)))))
    (.withDefault (carries_of_eq (hplain _ (by decide) (by decide)))))
    (.withDefault (carries_of_eq (hplain _ (by decide) (by decide)))))
    (.withDefault hoptions))
    (.withDefault hsubcommands)

/-- A command does not notice changes as deep as both are followed. -/
theorem decodeWithin_carries (n d : Nat) :
    Carries (changeWithin n) (decodeWithin d) (decodeWithin d) := by
  induction n generalizing d with
  | zero => exact carries_of_eq fun v v' h => h.elim
  | succ n ih =>
    cases d with
    | zero =>
      intro reading v v' c _ hc
      cases hc
    | succ d =>
      refine .known rfl (fields_carries ?_ (.each CommandOption.carries) (.each (ih d)))
      intro key hoptions hsubcommands v v' h
      have hinner : (knownWith (changeWithin n)).inner key = .none := by
        simp [knownWith, Known.of, List.lookup_cons, beq_eq_false_iff_ne.mpr hoptions,
          beq_eq_false_iff_ne.mpr hsubcommands]
      cases h with
      | refl => rfl
      | single h =>
        rw [hinner] at h
        exact h.elim

/-- It makes no difference how deep a decoder could have gone, when it could
go as deep as the value. -/
theorem decodeWithin_of_depth (d d' : Nat) :
    Carries (fun v v' => v = v' ∧ v.depth ≤ d') (decodeWithin d) (decodeWithin d') := by
  induction d generalizing d' with
  | zero =>
    intro reading v v' c _ hc
    cases hc
  | succ d ih =>
    rintro reading v v' c ⟨rfl, hdepth⟩ hc
    cases d' with
    | zero => cases v <;> simp [Json.depth] at hdepth
    | succ d' =>
      have hcarries : (fields (decodeWithin d)).Carries (fun _ v v' => v = v' ∧ v.depth ≤ d')
          (fields (decodeWithin d')) := by
        refine fields_carries (fun _ _ _ v v' h => h.1) (carries_of_eq fun v v' h => h.1) ?_
        refine .list (ih d') ?_
        rintro vs v' ⟨rfl, hvs⟩
        refine ⟨vs, rfl, List.forall₂_same.mpr fun v hv => ⟨rfl, ?_⟩⟩
        rw [Json.depth] at hvs
        exact Nat.le_trans (Json.depth_le_depthOfItems hv) (Nat.le_of_succ_le hvs)
      cases v with
      | object o =>
        rw [Json.depth, Nat.add_le_add_iff_right] at hdepth
        refine Carries.record hcarries reading _ _ c (.object fun key _ => ?_) hc
        cases hkey : o.lookup key with
        | none => exact .none
        | some v =>
          obtain ⟨front, back, rfl, -⟩ := List.lookup_eq_some_iff.mp hkey
          exact .some ⟨rfl, Nat.le_trans (Json.depth_le_depthOfFields key (by simp)) hdepth⟩
      | array vs =>
        rw [Json.depth, Nat.add_le_add_iff_right] at hdepth
        refine Carries.record hcarries reading _ _ c (.array (.self fun rel hrel v hv => ?_)) hc
        obtain ⟨_, -, rfl⟩ := List.mem_map.mp hrel
        exact ⟨rfl, Nat.le_trans (Json.depth_le_depthOfItems hv) hdepth⟩
      | _ => cases hc

/-- A change of a command, at whatever level. -/
def change : Change := fun v v' => ∃ n, changeWithin n v v'

/-- A command does not notice a change, however deep the foreign values in it are. -/
theorem carries : Carries change decoder decoder := by
  rintro reading v v' c ⟨n, hv⟩ hc
  -- Both values are decoded as deep as the deeper one goes.
  have hdeep : decodeWithin (max v.depth v'.depth) reading v = .ok c :=
    decodeWithin_of_depth _ _ reading v v c ⟨rfl, Nat.le_max_left _ _⟩ hc
  have hchanged : decodeWithin (max v.depth v'.depth) reading v' = .ok c :=
    decodeWithin_carries n _ reading v v' c hv hdeep
  exact decodeWithin_of_depth _ _ reading v' v' c ⟨rfl, Nat.le_refl _⟩ hchanged

end Command

/-! ## Entries -/

namespace Entry

/-- The changes of a value that the entry does not notice. What is no entry of
a known shape is kept as it came, so for that there are none. -/
def change : Entry → Change
  | classLike _ | interface _ => ClassEntry.known.change
  | function _ => FunctionEntry.known.change
  | initializerApi _ => InitializerApiEntry.known.change
  | constant _ => ConstantEntry.known.change
  | typeAlias _ => TypeAliasEntry.known.change
  | enumeration _ => EnumEntry.known.change
  | decorator _ => DecoratorEntry.known.change
  | block _ => EntryInfo.known.change
  -- A command must not get a kind.
  | command _ => fun v v' =>
    ∃ n, ((Command.knownWith (Command.changeWithin n)).reserving "entryType").change v v'
  | unknown .. | malformed .. => .none

variable {v v' : Json} {e : Entry}

/-- An API entry's name and kind stay as they are. -/
theorem get?_of_change {key : String} (hkey : key = "name" ∨ key = "entryType")
    (hinfo : e.info?.isSome = true) (h : e.change v v') : v'.get? key = v.get? key := by
  rcases hkey with rfl | rfl
  all_goals
    cases e with
    | command => cases hinfo
    | unknown => cases hinfo
    | malformed => cases hinfo
    | _ => exact Known.get?_of_change (by decide) rfl h

/-- An entry of a kind decodes to the same after a change. -/
theorem decodeApi_of_change {kind : EntryKind} (he : decodeApi kind v = .ok e)
    (h : e.change v v') : decodeApi kind v' = .ok e := by
  cases kind
  case interface =>
    obtain ⟨c, hc, rfl⟩ := map_eq_ok_iff.mp he
    exact map_eq_ok_iff.mpr ⟨c, ClassEntry.carries .direct v v' c h hc, rfl⟩
  case function =>
    obtain ⟨f, hf, rfl⟩ := map_eq_ok_iff.mp he
    exact map_eq_ok_iff.mpr ⟨f, FunctionEntry.carries .direct v v' f h hf, rfl⟩
  case initializerApi =>
    obtain ⟨f, hf, rfl⟩ := map_eq_ok_iff.mp he
    exact map_eq_ok_iff.mpr ⟨f, InitializerApiEntry.carries .direct v v' f h hf, rfl⟩
  case constant =>
    obtain ⟨c, hc, rfl⟩ := map_eq_ok_iff.mp he
    exact map_eq_ok_iff.mpr ⟨c, ConstantEntry.carries .direct v v' c h hc, rfl⟩
  case typeAlias =>
    obtain ⟨a, ha, rfl⟩ := map_eq_ok_iff.mp he
    exact map_eq_ok_iff.mpr ⟨a, TypeAliasEntry.carries .direct v v' a h ha, rfl⟩
  case enumeration =>
    obtain ⟨x, hx, rfl⟩ := map_eq_ok_iff.mp he
    exact map_eq_ok_iff.mpr ⟨x, EnumEntry.carries .direct v v' x h hx, rfl⟩
  case decorator =>
    obtain ⟨d, hd, rfl⟩ := map_eq_ok_iff.mp he
    exact map_eq_ok_iff.mpr ⟨d, DecoratorEntry.carries .direct v v' d h hd, rfl⟩
  case block | element =>
    obtain ⟨i, hi, rfl⟩ := map_eq_ok_iff.mp he
    exact map_eq_ok_iff.mpr ⟨i, EntryInfo.carries .direct v v' i h hi, rfl⟩
  -- The kinds that are left decode as classes.
  all_goals
    obtain ⟨c, hc, rfl⟩ := map_eq_ok_iff.mp he
    exact map_eq_ok_iff.mpr ⟨c, ClassEntry.carries .direct v v' c h hc, rfl⟩

/-- A value with a tag and a name is the entry that its kind decodes. -/
theorem ofJson_of_api {kind : EntryKind} (hkind : v.get? "entryType" = some (.string kind.tag))
    (hname : v.textUnder "name" ≠ "") (h : decodeApi kind v = .ok e) : ofJson v = e := by
  have hnamed : (v.textUnder "name").isEmpty = false := by
    rw [Bool.eq_false_iff, ne_eq, String.isEmpty_iff]
    exact hname
  unfold ofJson
  simp only [Json.textUnder_eq, hkind, EntryKind.ofTag?_tag, hnamed, h, Bool.false_eq_true,
    if_false]

/-- A value in the shape of a command is the command that it decodes to. -/
theorem ofJson_of_command {c : Command} (hkind : v.get? "entryType" = none)
    (hshape : v.IsCommandShaped) (h : Command.decoder .direct v = .ok c) (hname : c.name ≠ "") :
    ofJson v = .command c := by
  have hnamed : c.name.isEmpty = false := by
    rw [Bool.eq_false_iff, ne_eq, String.isEmpty_iff]
    exact hname
  unfold ofJson
  simp only [hkind, Bool.or_eq_true_iff.mpr hshape, if_true, decodeCommand, h, hnamed,
    Bool.false_eq_true, if_false]

/-- A change that an entry does not notice leaves it the same entry. -/
theorem ofJson_of_change (h : (ofJson v).change v v') : ofJson v' = ofJson v := by
  have hdecoded := decoded_ofJson v
  generalize ofJson v = e at h hdecoded
  cases hdecoded with
  | @api kind e hkind hname he =>
    obtain ⟨-, i, hi, -⟩ := info_of_decodeApi (Json.exists_object_of_get? hkind) he
    have hinfo : e.info?.isSome = true := by rw [hi]; rfl
    have hname' : v'.textUnder "name" = v.textUnder "name" := by
      rw [Json.textUnder, Json.textUnder, get?_of_change (Or.inl rfl) hinfo h]
    have hkind' : v'.get? "entryType" = some (.string kind.tag) := by
      rw [get?_of_change (Or.inr rfl) hinfo h, hkind]
    exact ofJson_of_api hkind' (hname' ▸ hname) (decodeApi_of_change he h)
  | @command c hkind hshape hc hname =>
    obtain ⟨o, rfl⟩ := hshape.exists_object
    obtain ⟨n, h⟩ := h
    have hkind' : v'.get? "entryType" = none := by
      rw [Known.get?_of_change List.mem_cons_self Known.inner_reserving_self h, hkind]
    have hsome {key : String} (hkey : key ∈ (Command.fields Command.decoder).names) :
        (v'.get? key).isSome = ((Json.object o).get? key).isSome :=
      Known.isSome_get?_of_change (List.mem_cons_of_mem _ hkey) h
    have hshape' : v'.IsCommandShaped := by
      rw [Json.IsCommandShaped, hsome (by decide), hsome (by decide)]
      exact hshape
    have hc' : Command.decoder .direct v' = .ok c :=
      Command.carries .direct _ v' c ⟨n + 1, Known.change_of_reserving h⟩ hc
    exact ofJson_of_command hkind' hshape' hc' hname
  | _ => exact h.elim

/-- Whatever is said under foreign keys, and in whichever order, it is the same
entry. -/
theorem ofJson_of_changes (h : Relation.ReflTransGen (ofJson v).change v v') :
    ofJson v' = ofJson v := by
  induction h with
  | refl => rfl
  | tail _ hstep ih =>
    rw [← ih] at hstep ⊢
    exact ofJson_of_change hstep

/-- A key of a member is foreign, and the members come first. -/
theorem ofJson_of_changes_interface :
    let bare := Json.object [("memberType", .string "property"), ("name", .string "root")]
    let dated := Json.object [("memberType", .string "property"), ("name", .string "root"),
      ("since", .number (.whole 2))]
    ofJson (.object [("members", .array [dated]), ("name", .string "Tree"),
        ("entryType", .string "interface")])
      = ofJson (.object [("name", .string "Tree"), ("entryType", .string "interface"),
        ("members", .array [bare])]) := by
  intro bare dated
  have hinsert : (Property.known.reserving "memberType").change bare dated :=
    @Known.change.insert _ [_, _] "since" _ (by decide)
  have hmember : Member.change bare dated := ⟨"property", Property.known, rfl, rfl, hinsert⟩
  have hmembers : ClassEntry.known.change
      (.object [("name", .string "Tree"), ("entryType", .string "interface"),
        ("members", .array [bare])])
      (.object [("name", .string "Tree"), ("entryType", .string "interface"),
        ("members", .array [dated])]) :=
    @Known.change.field _ [_, _] [] "members" _ _ (by decide)
      (@Change.each.intro _ [] [] _ _ hmember)
  have horder : ClassEntry.known.change
      (.object [("name", .string "Tree"), ("entryType", .string "interface"),
        ("members", .array [dated])])
      (.object [("members", .array [dated]), ("name", .string "Tree"),
        ("entryType", .string "interface")]) :=
    .permute (by decide) (@List.perm_append_comm _ [_, _] [_])
  exact ofJson_of_changes (.tail (.single hmembers) horder)

end Entry

end ApiPages
