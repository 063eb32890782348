import ApiPages.Entry.Basic
import ApiPages.Proofs.Json.Decoder

/-!
# What an entry is called

Name and tag of an entry are read twice: once from its value, before anything
else is known of it, and once more by the decoder of its kind, from what the
fields of the kind have left. Reports take the first reading and pages the
second, so the two have to agree.

They do because no kind has fields of its own under `name` and `entryType`
(`EntryInfo.standsIn_of_withShared`), whatever else stands in the value.
`Decoded` lists all that decoding can answer, with what it has seen of the
value in each case; `identified_ofJson` reads the law off that list.
-/

namespace ApiPages

open Json.Decoder (Fields withShared ofFields_eq_ok_iff withShared_eq_ok_iff)
open Json.Decoder.Fields (ofObject_seq_eq_ok_iff ofObject_map_eq_ok_iff
  ofObject_required_eq_ok_iff)

/-- The text under a key of a value; the empty one when no text is there. -/
def Json.textUnder (key : String) (v : Json) : String :=
  match v.get? key with
  | some (.string s) => s
  | _ => ""

/-- The name as decoding reads it ahead of everything else. -/
theorem Json.textUnder_eq (key : String) (v : Json) :
    ((v.get? key).bind Json.asString?).getD "" = v.textUnder key := by
  unfold Json.textUnder
  cases v.get? key with
  | none => rfl
  | some x => cases x <;> rfl

/-- A text is decoded from a string and from nothing else. -/
theorem Json.Decoder.text_eq_ok_iff {reading : Json.Reading} {v : Json} {s : String} :
    Json.Decoder.text reading v = .ok s ↔ v = .string s := by
  cases v <;> simp [Json.Decoder.text]

/-! ## The shared part -/

/-- Whether the name and the kind of a shared part are what a value says. -/
structure EntryInfo.StandsIn (i : EntryInfo) (v : Json) : Prop where
  name : v.get? "name" = some (.string i.name)
  kind : ∀ tag, v.get? "entryType" = some (.string tag) → i.kind.tag = tag

/-- A tag decodes as the kind that has it. -/
theorem EntryKind.tag_of_decoder {reading : Json.Reading} {tag : String} {kind : EntryKind}
    (h : decoder reading (.string tag) = .ok kind) : kind.tag = tag := by
  unfold decoder Json.Decoder.constant at h
  dsimp only at h
  split at h
  · next found hfound =>
    cases h
    obtain ⟨front, back, htable, -⟩ := List.lookup_eq_some_iff.mp hfound
    have hmem : (tag, kind) ∈ all.map fun k => (k.tag, k) := by
      rw [htable]
      exact List.mem_append_right _ List.mem_cons_self
    obtain ⟨k, -, hk⟩ := List.mem_map.mp hmem
    cases hk
    rfl
  · cases h

namespace EntryInfo

variable {α : Type} {reading : Json.Reading} {v : Json}

/-- Decoded shared fields stand in the object that they come from. -/
theorem standsIn_of_fields {o : List (String × Json)} {i : EntryInfo}
    (h : fields.ofObject reading o = .ok i) : i.StandsIn (.object o) := by
  simp only [fields, ofObject_seq_eq_ok_iff, ofObject_map_eq_ok_iff,
    ofObject_required_eq_ok_iff] at h
  -- The six fields after the name and the kind say nothing of either.
  obtain ⟨_, _, ⟨_, _, ⟨_, _, ⟨_, _, ⟨_, _, ⟨_, _, ⟨_, kind, hname, hkind, rfl⟩, -, rfl⟩, -, rfl⟩,
    -, rfl⟩, -, rfl⟩, -, rfl⟩, -, rfl⟩ := h
  obtain ⟨name, ⟨nameValue, hnameAt, hname⟩, rfl⟩ := hname
  obtain ⟨kindValue, hkindAt, hkind⟩ := hkind
  constructor
  · rw [← Json.Decoder.text_eq_ok_iff.mp hname]
    exact hnameAt
  · intro tag htag
    have hvalue : kindValue = .string tag := Option.some.inj (hkindAt.symm.trans htag)
    rw [hvalue] at hkind
    exact EntryKind.tag_of_decoder hkind

/-- So they do for an entry that has nothing else. -/
theorem standsIn_of_decoder {i : EntryInfo} (hobject : ∃ o, v = .object o)
    (h : decoder reading v = .ok i) : i.StandsIn v := by
  obtain ⟨o, rfl⟩ := hobject
  exact standsIn_of_fields (ofFields_eq_ok_iff.mp h)

/-- A record whose own fields leave the shared part as it is, and have
neither of its two keys. -/
theorem standsIn_of_withShared {title : String} {own : Fields (EntryInfo → α)}
    {info : α → EntryInfo} {a : α} (hinfo : own.Always fun f => ∀ i, info (f i) = i)
    (hname : own.names.contains "name" = false) (hkind : own.names.contains "entryType" = false)
    (h : withShared title own fields reading v = .ok a) : (info a).StandsIn v := by
  obtain ⟨o, f, i, rfl, hf, hi, rfl⟩ := withShared_eq_ok_iff.mp h
  rw [hinfo.ofObject _ _ f hf i]
  have hin := standsIn_of_fields hi
  have hkept {key : String} (hkey : own.names.contains key = false) :
      (o.filter fun field => !own.names.contains field.1).lookup key = o.lookup key :=
    lookup_filter_of_pos (p := fun key => !own.names.contains key) (by rw [hkey]; rfl)
  exact ⟨(hkept hname).symm.trans hin.name, fun tag htag => hin.kind tag ((hkept hkind).trans htag)⟩

end EntryInfo

/-! ## The kinds -/

/-! The own fields of a kind leave the shared part as it was read. -/

/-- The own fields of a class leave the shared ones as they are. -/
theorem ClassEntry.info_ownFields : ownFields.Always fun f => ∀ i, (f i).info = i :=
  .seq_of_forall <| .seq_of_forall <| .seq_of_forall <| .seq_of_forall <| .seq_of_forall <|
    .seq_of_forall <| .seq_of_forall <| .seq_of_forall <| .map_of_forall
      fun _ _ _ _ _ _ _ _ _ _ => rfl

/-- So do those of a function. -/
theorem FunctionEntry.info_ownFields : ownFields.Always fun f => ∀ i, (f i).info = i :=
  .seq_of_forall <| .seq_of_forall <| .seq_of_forall <| .seq_of_forall <| .map_of_forall
    fun _ _ _ _ _ _ => rfl

/-- So do those of an initializer API. -/
theorem InitializerApiEntry.info_ownFields : ownFields.Always fun f => ∀ i, (f i).info = i :=
  .seq_of_forall <| .map_of_forall fun _ _ _ => rfl

theorem ConstantEntry.info_ownFields : ownFields.Always fun f => ∀ i, (f i).info = i :=
  .map_of_forall fun _ _ => rfl

theorem TypeAliasEntry.info_ownFields : ownFields.Always fun f => ∀ i, (f i).info = i :=
  .seq_of_forall <| .map_of_forall fun _ _ _ => rfl

/-- So do those of an enum. -/
theorem EnumEntry.info_ownFields : ownFields.Always fun f => ∀ i, (f i).info = i :=
  .map_of_forall fun _ _ => rfl

/-- So do those of a decorator. -/
theorem DecoratorEntry.info_ownFields : ownFields.Always fun f => ∀ i, (f i).info = i :=
  .seq_of_forall <| .map_of_forall fun _ _ _ => rfl

namespace Entry

/-- Whether an entry has the shape that belongs to a kind. -/
def HasShapeOf (kind : EntryKind) : Entry → Prop
  | classLike _ => kind.isClassLike = true
  | interface _ => kind = .interface
  | function _ => kind = .function
  | initializerApi _ => kind = .initializerApi
  | constant _ => kind = .constant
  | typeAlias _ => kind = .typeAlias
  | enumeration _ => kind = .enumeration
  | decorator _ => kind = .decorator
  | block _ => kind = .block ∨ kind = .element
  | command _ | unknown .. | malformed .. => False

variable {v : Json} {e : Entry}

/-- What decodes as an entry of a kind has its shape, and a shared part that
stands in the value. -/
theorem info_of_decodeApi {kind : EntryKind} (hobject : ∃ o, v = .object o)
    (h : decodeApi kind v = .ok e) :
    e.HasShapeOf kind ∧ ∃ i, e.info? = some i ∧ i.StandsIn v := by
  cases kind
  case interface =>
    obtain ⟨c, hc, rfl⟩ := map_eq_ok_iff.mp h
    have hin := EntryInfo.standsIn_of_withShared ClassEntry.info_ownFields rfl rfl hc
    exact ⟨rfl, c.info, rfl, hin⟩
  case function =>
    obtain ⟨f, hf, rfl⟩ := map_eq_ok_iff.mp h
    have hin := EntryInfo.standsIn_of_withShared FunctionEntry.info_ownFields rfl rfl hf
    exact ⟨rfl, f.info, rfl, hin⟩
  case initializerApi =>
    obtain ⟨f, hf, rfl⟩ := map_eq_ok_iff.mp h
    have hin := EntryInfo.standsIn_of_withShared InitializerApiEntry.info_ownFields rfl rfl hf
    exact ⟨rfl, f.info, rfl, hin⟩
  case constant =>
    obtain ⟨c, hc, rfl⟩ := map_eq_ok_iff.mp h
    have hin := EntryInfo.standsIn_of_withShared ConstantEntry.info_ownFields rfl rfl hc
    exact ⟨rfl, c.info, rfl, hin⟩
  case typeAlias =>
    obtain ⟨a, ha, rfl⟩ := map_eq_ok_iff.mp h
    have hin := EntryInfo.standsIn_of_withShared TypeAliasEntry.info_ownFields rfl rfl ha
    exact ⟨rfl, a.info, rfl, hin⟩
  case enumeration =>
    obtain ⟨x, hx, rfl⟩ := map_eq_ok_iff.mp h
    have hin := EntryInfo.standsIn_of_withShared EnumEntry.info_ownFields rfl rfl hx
    exact ⟨rfl, x.info, rfl, hin⟩
  case decorator =>
    obtain ⟨d, hd, rfl⟩ := map_eq_ok_iff.mp h
    have hin := EntryInfo.standsIn_of_withShared DecoratorEntry.info_ownFields rfl rfl hd
    exact ⟨rfl, d.info, rfl, hin⟩
  case block =>
    obtain ⟨i, hi, rfl⟩ := map_eq_ok_iff.mp h
    exact ⟨Or.inl rfl, i, rfl, EntryInfo.standsIn_of_decoder hobject hi⟩
  case element =>
    obtain ⟨i, hi, rfl⟩ := map_eq_ok_iff.mp h
    exact ⟨Or.inr rfl, i, rfl, EntryInfo.standsIn_of_decoder hobject hi⟩
  -- The kinds that are left have the shape of a class.
  all_goals
    obtain ⟨c, hc, rfl⟩ := map_eq_ok_iff.mp h
    have hin := EntryInfo.standsIn_of_withShared ClassEntry.info_ownFields rfl rfl hc
    exact ⟨rfl, c.info, rfl, hin⟩

end Entry

/-! ## Commands -/

/-- A decoded command has the name that stands in its object. -/
theorem Command.name_of_decoder {reading : Json.Reading} {o : List (String × Json)} {c : Command}
    (h : decoder reading (.object o) = .ok c) : o.lookup "name" = some (.string c.name) := by
  change decodeWithin (Json.depthOfFields o + 1) reading (.object o) = .ok c at h
  have hfields := ofFields_eq_ok_iff.mp h
  simp only [fields, ofObject_seq_eq_ok_iff, ofObject_map_eq_ok_iff,
    ofObject_required_eq_ok_iff] at hfields
  -- The name is the first of the eight fields.
  obtain ⟨_, _, ⟨_, _, ⟨_, _, ⟨_, _, ⟨_, _, ⟨_, _, ⟨_, _, hname, -, rfl⟩, -, rfl⟩, -, rfl⟩, -, rfl⟩,
    -, rfl⟩, -, rfl⟩, -, rfl⟩ := hfields
  obtain ⟨name, ⟨nameValue, hnameAt, hname⟩, rfl⟩ := hname
  rw [← Json.Decoder.text_eq_ok_iff.mp hname]
  exact hnameAt

/-- Whether a value without a kind is taken for a command. -/
def Json.IsCommandShaped (v : Json) : Prop :=
  (v.get? "command").isSome = true ∨ (v.get? "subcommands").isSome = true

/-- Only objects have anything under a key. -/
theorem Json.exists_object_of_get? {v x : Json} {key : String} (h : v.get? key = some x) :
    ∃ o, v = .object o := by
  cases v with
  | object o => exact ⟨o, rfl⟩
  | _ => cases h

/-- What has the shape of a command is an object. -/
theorem Json.IsCommandShaped.exists_object {v : Json} (h : v.IsCommandShaped) :
    ∃ o, v = .object o := by
  rcases h with h | h
  all_goals
    obtain ⟨x, hx⟩ := Option.isSome_iff_exists.mp h
    exact exists_object_of_get? hx

/-! ## All that decoding can answer -/

/-- A tag is read as the kind that has it. -/
theorem EntryKind.ofTag?_eq_some_iff {tag : String} {kind : EntryKind} :
    ofTag? tag = some kind ↔ kind.tag = tag := by
  constructor
  · intro h
    have htag := List.find?_some h
    exact beq_iff_eq.mp htag
  · rintro rfl
    exact ofTag?_tag kind

/-- A tag is foreign exactly when no kind has it. -/
theorem EntryKind.ofTag?_eq_none_iff {tag : String} :
    ofTag? tag = none ↔ ∀ kind : EntryKind, kind.tag ≠ tag := by
  simp only [Option.eq_none_iff_forall_ne_some, ne_eq, ofTag?_eq_some_iff]

/-- No two kinds share a tag. -/
theorem EntryKind.tag_injective : Function.Injective tag := by
  intro kind kind' h
  exact Option.some.inj ((ofTag?_tag kind).symm.trans (ofTag?_eq_some_iff.mpr h.symm))

namespace Entry

/-- What a value can decode as, with what decoding has seen of it. -/
inductive Decoded (v : Json) : Entry → Prop
  /-- Its kind is no text. -/
  | notText {other : Json} (hkind : v.get? "entryType" = some other)
      (htext : other.asString? = none) :
      Decoded v (.malformed (v.textUnder "name") other.text "entryType must be a string")
  /-- Its kind is not known. -/
  | notKnown {tag : String} (hkind : v.get? "entryType" = some (.string tag))
      (htag : ∀ kind : EntryKind, kind.tag ≠ tag) : Decoded v (.unknown (v.textUnder "name") tag v)
  /-- It has a kind, but no name. -/
  | nameless {kind : EntryKind} (hkind : v.get? "entryType" = some (.string kind.tag))
      (hname : v.textUnder "name" = "") :
      Decoded v (.malformed (v.textUnder "name") kind.tag "entry has no name")
  /-- It has the shape of its kind. -/
  | api {kind : EntryKind} {e : Entry} (hkind : v.get? "entryType" = some (.string kind.tag))
      (hname : v.textUnder "name" ≠ "") (h : decodeApi kind v = .ok e) : Decoded v e
  /-- It has another shape. -/
  | notApi {kind : EntryKind} {error : Json.DecodeError}
      (hkind : v.get? "entryType" = some (.string kind.tag)) (hname : v.textUnder "name" ≠ "")
      (h : decodeApi kind v = .error error) :
      Decoded v (.malformed (v.textUnder "name") kind.tag error.message)
  /-- It is a command. -/
  | command {c : Command} (hkind : v.get? "entryType" = none) (hshape : v.IsCommandShaped)
      (h : Command.decoder .direct v = .ok c) (hname : c.name ≠ "") : Decoded v (.command c)
  /-- It is taken for a command, and is none. -/
  | notCommand {reason : String} (hkind : v.get? "entryType" = none)
      (hshape : v.IsCommandShaped) : Decoded v (.malformed (v.textUnder "name") "cli" reason)
  /-- There is nothing to tell what it is. -/
  | raw (hkind : v.get? "entryType" = none) (hshape : ¬ v.IsCommandShaped) :
      Decoded v (.unknown (v.textUnder "name") "" v)

/-- A value in the shape of a command is decoded as one, or kept as malformed. -/
theorem decoded_decodeCommand {v : Json} (hkind : v.get? "entryType" = none)
    (hshape : v.IsCommandShaped) : Decoded v (decodeCommand (v.textUnder "name") v) := by
  unfold decodeCommand
  split
  · next c hc =>
    split
    · exact .notCommand hkind hshape
    · next hname => exact .command hkind hshape hc fun h => hname (by rw [h]; rfl)
  · exact .notCommand hkind hshape

/-- Every value is decoded in one of the ways there are. -/
theorem decoded_ofJson (v : Json) : Decoded v (ofJson v) := by
  unfold ofJson
  simp only [Json.textUnder_eq]
  split
  · next tag hkind =>
    split
    · next htag => exact .notKnown hkind (EntryKind.ofTag?_eq_none_iff.mp htag)
    · next kind htag =>
      obtain rfl := EntryKind.ofTag?_eq_some_iff.mp htag
      split
      · next hname => exact .nameless hkind (String.isEmpty_iff.mp hname)
      · next hname =>
        have hname : v.textUnder "name" ≠ "" := fun h => hname (String.isEmpty_iff.mpr h)
        split
        · next e he => exact .api hkind hname he
        · next error herror => exact .notApi hkind hname herror
  · next other hother hkind =>
    refine .notText hkind ?_
    cases other with
    | string tag => exact absurd rfl (hother tag)
    | _ => rfl
  · next hkind =>
    split
    · next hshape => exact decoded_decodeCommand hkind (Bool.or_eq_true_iff.mp hshape)
    · next hshape => exact .raw hkind fun h => hshape (Bool.or_eq_true_iff.mpr h)

/-! ## The law -/

/-- What a value says of an entry is what the entry is called. -/
structure Identified (v : Json) (e : Entry) : Prop where
  /-- Whatever becomes of the value, the name is the text under `name`. -/
  name : e.name = v.textUnder "name"
  /-- An entry that can have a page has a name. -/
  named : e.isRenderable = true → e.name ≠ ""
  /-- A kind that is given is the entry's tag. -/
  tag : ∀ t, v.get? "entryType" = some (.string t) → e.tag = t
  /-- The entry is unknown when there is no such kind, and only then. -/
  unknown_iff : ∀ t, v.get? "entryType" = some (.string t) →
    ((∃ name tag raw, e = .unknown name tag raw) ↔ ∀ kind : EntryKind, kind.tag ≠ t)
  /-- Of a known kind it has that kind's shape, or is malformed. -/
  shape : ∀ kind : EntryKind, v.get? "entryType" = some (.string kind.tag) →
    e.HasShapeOf kind ∨ ∃ name tag reason, e = .malformed name tag reason
  /-- A kind that is no text makes a malformed entry. -/
  notText : ∀ other, v.get? "entryType" = some other → other.asString? = none →
    ∃ name reason, e = .malformed name other.text reason
  /-- Without a kind, what looks like a command is one, or is malformed. -/
  command : v.get? "entryType" = none → v.IsCommandShaped →
    e.tag = "cli" ∧ ((∃ c, e = .command c) ∨ ∃ name tag reason, e = .malformed name tag reason)
  /-- And anything else is kept as it came. -/
  raw : v.get? "entryType" = none → ¬ v.IsCommandShaped → ∃ name, e = .unknown name "" v

/-- The tag is that of the shared part's kind. -/
theorem tag_of_info? {e : Entry} {i : EntryInfo} (h : e.info? = some i) : e.tag = i.kind.tag := by
  cases e <;> simp_all [info?, tag]

namespace Identified

variable {v : Json} {e : Entry}

/-- A value of which the kind is a text. -/
theorem of_tag {t : String} (hkind : v.get? "entryType" = some (.string t))
    (name : e.name = v.textUnder "name") (named : e.isRenderable = true → e.name ≠ "")
    (tag : e.tag = t)
    (unknown_iff : (∃ name tag raw, e = .unknown name tag raw) ↔ ∀ kind : EntryKind, kind.tag ≠ t)
    (shape : ∀ kind : EntryKind, kind.tag = t →
      e.HasShapeOf kind ∨ ∃ name tag reason, e = .malformed name tag reason) :
    Identified v e where
  name := name
  named := named
  tag t' ht' := by
    cases hkind.symm.trans ht'
    exact tag
  unknown_iff t' ht' := by
    cases hkind.symm.trans ht'
    exact unknown_iff
  shape kind hkind' := by
    cases hkind.symm.trans hkind'
    exact shape kind rfl
  notText other hother htext := by
    cases hkind.symm.trans hother
    cases htext
  command hnone := by cases hkind.symm.trans hnone
  raw hnone := by cases hkind.symm.trans hnone

/-- A value without a kind. -/
theorem of_none (hkind : v.get? "entryType" = none) (name : e.name = v.textUnder "name")
    (named : e.isRenderable = true → e.name ≠ "")
    (command : v.IsCommandShaped → e.tag = "cli"
      ∧ ((∃ c, e = .command c) ∨ ∃ name tag reason, e = .malformed name tag reason))
    (raw : ¬ v.IsCommandShaped → ∃ name, e = .unknown name "" v) : Identified v e where
  name := name
  named := named
  tag t ht := by cases hkind.symm.trans ht
  unknown_iff t ht := by cases hkind.symm.trans ht
  shape kind ht := by cases hkind.symm.trans ht
  notText other hother := by cases hkind.symm.trans hother
  command _ := command
  raw _ := raw

end Identified

/-- In each of them the entry is named and tagged as its value says. -/
theorem Decoded.identified {v : Json} {e : Entry} (h : Decoded v e) : Identified v e := by
  cases h with
  | @notText other hkind htext =>
    have hno (t : String) : v.get? "entryType" ≠ some (.string t) := by
      intro ht
      cases hkind.symm.trans ht
      cases htext
    exact {
      name := rfl
      named := nofun
      tag := fun t ht => absurd ht (hno t)
      unknown_iff := fun t ht => absurd ht (hno t)
      shape := fun kind ht => absurd ht (hno kind.tag)
      notText := fun other' hother' _ => by
        cases hkind.symm.trans hother'
        exact ⟨_, _, rfl⟩
      command := fun hnone => by cases hkind.symm.trans hnone
      raw := fun hnone => by cases hkind.symm.trans hnone }
  | notKnown hkind htag =>
    exact .of_tag hkind rfl nofun rfl ⟨fun _ => htag, fun _ => ⟨_, _, _, rfl⟩⟩
      fun kind h => absurd h (htag kind)
  | @nameless kind hkind hname =>
    exact .of_tag hkind rfl nofun rfl ⟨nofun, fun h => absurd rfl (h kind)⟩
      fun _ _ => Or.inr ⟨_, _, _, rfl⟩
  | @api kind e hkind hname hdecode =>
    obtain ⟨hshape, i, hi, hin⟩ := info_of_decodeApi (Json.exists_object_of_get? hkind) hdecode
    have hcalled : e.name = v.textUnder "name" := by
      rw [name_of_info? hi, Json.textUnder, hin.name]
    refine .of_tag hkind hcalled (fun _ => hcalled ▸ hname) ?_ ⟨?_, fun h => absurd rfl (h kind)⟩ ?_
    · rw [tag_of_info? hi]
      exact hin.kind _ hkind
    · rintro ⟨name, tag, raw, rfl⟩
      exact hshape.elim
    · intro kind' hkind'
      rw [EntryKind.tag_injective hkind']
      exact Or.inl hshape
  | @notApi kind error hkind hname hdecode =>
    exact .of_tag hkind rfl nofun rfl ⟨nofun, fun h => absurd rfl (h kind)⟩
      fun _ _ => Or.inr ⟨_, _, _, rfl⟩
  | @command c hkind hshape hdecode hname =>
    obtain ⟨o, rfl⟩ := hshape.exists_object
    have hcalled : c.name = (Json.object o).textUnder "name" := by
      rw [Json.textUnder, Json.get?, Command.name_of_decoder hdecode]
    exact .of_none hkind hcalled (fun _ => hname) (fun _ => ⟨rfl, Or.inl ⟨c, rfl⟩⟩)
      fun h => absurd hshape h
  | notCommand hkind hshape =>
    exact .of_none hkind rfl nofun (fun _ => ⟨rfl, Or.inr ⟨_, _, _, rfl⟩⟩)
      fun h => absurd hshape h
  | raw hkind hshape =>
    exact .of_none hkind rfl nofun (fun h => absurd h hshape) fun _ => ⟨_, rfl⟩

/-- A value's name and kind survive its decoding, whichever way it goes. -/
theorem identified_ofJson (v : Json) : Identified v (ofJson v) :=
  (decoded_ofJson v).identified

end Entry

end ApiPages
