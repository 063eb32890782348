import ApiPages.Proofs.Json.Decoder
import Mathlib.Logic.Relation
import Mathlib.Data.Option.Basic

/-!
# Changes that decoders do not notice

A record is decoded from the values under its keys. So an object can get more
keys, and the keys it has can come in another order, without the record
becoming another one. `Known` says what a record knows of its object: its keys,
and which changes it does not notice under each of them. `Known.change` is then
one such change, at the object itself or further down.

That a decoder notices none of these changes is shown part by part, like all
that is said of decoders. For the parts, a change is more than is needed: it is
enough that the values under the known keys correspond (`Agree`), or the items
of a list that stands for the record (`Lined`). `Carries` relates two decoders,
so that the nested decoder inside a recursive one can differ too.
-/

namespace ApiPages.Json

/-- A way in which a value can change. -/
abbrev Change := Json → Json → Prop

/-- The way of what cannot change. -/
def Change.none : Change := fun _ _ => False

/-- One item of a list changes. -/
inductive Change.each (item : Change) : Json → Json → Prop
  | intro {front back : List Json} {x x' : Json} (h : item x x') :
      each item (.array (front ++ x :: back)) (.array (front ++ x' :: back))

/-- What a record knows of the object that it is decoded from. -/
structure Known where
  /-- Its keys, in the order of its declaration. -/
  names : List String
  /-- The changes under a key that it does not notice. -/
  inner : String → Change

namespace Known

/-- What a record knows, given the changes under some of its keys; under the
others there are none. -/
def of (names : List String) (inner : List (String × Change)) : Known where
  names := names
  inner key := (inner.lookup key).getD Change.none

/-- A record's own keys beside those of the part that it shares. -/
def beside (own shared : Known) : Known where
  names := own.names ++ shared.names
  inner key := if key ∈ own.names then own.inner key else shared.inner key

/-- One more key, under which nothing changes. -/
def reserving (k : Known) (name : String) : Known where
  names := name :: k.names
  inner key := if key = name then Change.none else k.inner key

/-- A change that a record does not notice. -/
inductive change (k : Known) : Json → Json → Prop
  /-- A key that it does not know is set to any value. -/
  | insert {o : List (String × Json)} {key : String} (value : Json) (hkey : key ∉ k.names) :
      change k (.object o) (.object (setField key value o))
  /-- The keys come in another order. -/
  | permute {o o' : List (String × Json)} (hkeys : (keys o).Nodup) (h : o.Perm o') :
      change k (.object o) (.object o')
  /-- A value changes under a key that it knows. -/
  | field {front back : List (String × Json)} {key : String} {x x' : Json} (hkey : key ∈ k.names)
      (h : k.inner key x x') :
      change k (.object (front ++ (key, x) :: back)) (.object (front ++ (key, x') :: back))
  /-- Or an item does, of a list that stands for the record. -/
  | item {front back : List Json} {key : String} {x x' : Json}
      (hkey : k.names[front.length]? = some key) (h : k.inner key x x') :
      change k (.array (front ++ x :: back)) (.array (front ++ x' :: back))

end Known

/-- A change of an object whose tag tells which record it is decoded as. -/
def Change.tagged (tag : String) (cases : List (String × Known)) : Change := fun v v' =>
  ∃ name k, v.get? tag = some (.string name) ∧ cases.lookup name = some k
    ∧ (k.reserving tag).change v v'

/-! ## What corresponds -/

/-- Whether the values under some keys are related, each in the way of its
key. -/
def Agree (names : List String) (rel : String → Change) (o o' : List (String × Json)) : Prop :=
  ∀ key ∈ names, Option.Rel (rel key) (o.lookup key) (o'.lookup key)

/-- Whether items are related place by place, and those for which there is no
relation left are the same. -/
inductive Lined : List Change → List Json → List Json → Prop
  | same {vs : List Json} : Lined [] vs vs
  | nil {rels : List Change} : Lined rels [] []
  | cons {rel : Change} {rels : List Change} {v v' : Json} {vs vs' : List Json} (h : rel v v')
      (hs : Lined rels vs vs') : Lined (rel :: rels) (v :: vs) (v' :: vs')

/-- Whether two forms of a record correspond. -/
inductive Alike (names : List String) (rel : String → Change) : Json → Json → Prop
  | object {o o' : List (String × Json)} (h : Agree names rel o o') :
      Alike names rel (.object o) (.object o')
  | array {vs vs' : List Json} (h : Lined (names.map rel) vs vs') :
      Alike names rel (.array vs) (.array vs')

/-- No change, or one. -/
abbrev Known.rel (k : Known) (key : String) : Change := Relation.ReflGen (k.inner key)

section

variable {o o' : List (String × Json)} {key : String} {v x x' : Json}

section

variable {rel : Change} {found found' : Option Json}

/-- Where a value was found, a related one is. -/
theorem exists_of_rel_some (h : Option.Rel rel (some v) found') :
    ∃ v', found' = some v' ∧ rel v v' := by
  cases h with
  | some h => exact ⟨_, rfl, h⟩

/-- Where none was found, none is. -/
theorem eq_none_of_rel_none (h : Option.Rel rel none found') : found' = none := by
  cases h
  rfl

theorem isSome_of_rel (h : Option.Rel rel found found') : found'.isSome = found.isSome := by
  cases h with
  | none => rfl
  | some => rfl

end

/-- A relation that holds of every value holds of what is found. -/
theorem rel_self {rel : Change} (hrefl : ∀ v, rel v v) (found : Option Json) :
    Option.Rel rel found found := by
  cases found with
  | none => exact .none
  | some v => exact .some (hrefl v)

/-- A lookup in an object of which one value changes. -/
theorem rel_lookup_around {rel : String → Change} (hrefl : ∀ key v, rel key v v)
    (front back : List (String × Json)) (hx : rel key x x') (key' : String) :
    Option.Rel (rel key') ((front ++ (key, x) :: back).lookup key')
      ((front ++ (key, x') :: back).lookup key') := by
  rw [List.lookup_append, List.lookup_append]
  cases front.lookup key' with
  | some v => exact .some (hrefl key' v)
  | none =>
    rw [Option.none_or, Option.none_or, List.lookup_cons, List.lookup_cons]
    by_cases hkey : key' = key
    · subst hkey
      rw [beq_self_eq_true]
      exact .some hx
    · rw [beq_eq_false_iff_ne.mpr hkey]
      exact rel_self (hrefl key') _

end

/-- Items are lined with themselves. -/
theorem Lined.self {rels : List Change} {vs : List Json} (h : ∀ rel ∈ rels, ∀ v ∈ vs, rel v v) :
    Lined rels vs vs := by
  induction vs generalizing rels with
  | nil => exact .nil
  | cons v vs ih =>
    cases rels with
    | nil => exact .same
    | cons rel rels =>
      have hhead : rel v v := h rel List.mem_cons_self v List.mem_cons_self
      have htail : ∀ r ∈ rels, ∀ x ∈ vs, r x x := fun r hr x hx =>
        h r (List.mem_cons_of_mem _ hr) x (List.mem_cons_of_mem _ hx)
      exact .cons hhead (ih htail)

/-- One item changes, at a place that has a relation. -/
theorem Lined.around {rels : List Change} {rel : Change} {front back : List Json} {x x' : Json}
    (hrefl : ∀ rel ∈ rels, ∀ v, rel v v) (hrel : rels[front.length]? = some rel) (h : rel x x') :
    Lined rels (front ++ x :: back) (front ++ x' :: back) := by
  induction front generalizing rels with
  | nil =>
    cases rels with
    | nil => cases hrel
    | cons r rels =>
      cases hrel
      exact .cons h (.self fun r hr v _ => hrefl r (List.mem_cons_of_mem _ hr) v)
  | cons v front ih =>
    cases rels with
    | nil => cases hrel
    | cons r rels =>
      exact .cons (hrefl r List.mem_cons_self v)
        (ih (fun r hr => hrefl r (List.mem_cons_of_mem _ hr)) hrel)

namespace Known

variable {k : Known} {v v' : Json}

/-- After a change the values under the known keys correspond. -/
theorem alike_of_change (h : k.change v v') : Alike k.names k.rel v v' := by
  have hrefl (key : String) (v : Json) : k.rel key v v := .refl
  cases h with
  | @insert o key value hkey =>
    refine .object fun key' hkey' => ?_
    have hne : key ≠ key' := by
      rintro rfl
      exact hkey hkey'
    rw [lookup_setField_of_ne hne]
    exact rel_self (hrefl key') _
  | permute hkeys h =>
    refine .object fun key _ => ?_
    rw [lookup_of_perm hkeys h]
    exact rel_self (hrefl key) _
  | field hkey h => exact .object fun key' _ => rel_lookup_around hrefl _ _ (.single h) key'
  | @item front back key x x' hkey h =>
    have hplace : (k.names.map k.rel)[front.length]? = some (k.rel key) := by
      rw [List.getElem?_map, hkey]
      rfl
    refine .array (.around (fun rel hrel => ?_) hplace (.single h))
    obtain ⟨key, -, rfl⟩ := List.mem_map.mp hrel
    exact hrefl key

variable {key : String} {o o' : List (String × Json)}

/-- Under a key without changes the same value is found. -/
theorem eq_of_rel {found found' : Option Json} (hinner : k.inner key = Change.none)
    (h : Option.Rel (k.rel key) found found') : found' = found := by
  cases h with
  | none => rfl
  | some h =>
    cases h with
    | refl => rfl
    | single h =>
      rw [hinner] at h
      exact h.elim

/-- Under a key where nothing changes, nothing has changed. -/
theorem get?_of_change (hkey : key ∈ k.names) (hinner : k.inner key = Change.none)
    (h : k.change v v') : v'.get? key = v.get? key := by
  cases alike_of_change h with
  | object hagree => exact eq_of_rel hinner (hagree key hkey)
  | array => rfl

/-- What is there under a known key stays there. -/
theorem isSome_get?_of_change (hkey : key ∈ k.names) (h : k.change v v') :
    (v'.get? key).isSome = (v.get? key).isSome := by
  cases alike_of_change h with
  | object hagree => exact isSome_of_rel (hagree key hkey)
  | array => rfl

/-- A change makes no `null`, and takes none away. -/
theorem ne_null_of_change (h : k.change v v') : v ≠ .null ∧ v' ≠ .null := by
  cases h <;> exact ⟨nofun, nofun⟩

/-! The values that correspond for a record with a shared part correspond for
both parts, and those for a record with a tag for the record. -/

variable {own shared : Known} {tag : String}

/-- Under an own key the own changes count. -/
theorem inner_beside_of_mem (h : key ∈ own.names) :
    (own.beside shared).inner key = own.inner key := if_pos h

/-- Under any other key those of the shared part do. -/
theorem inner_beside_of_not_mem (h : key ∉ own.names) :
    (own.beside shared).inner key = shared.inner key := if_neg h

/-- A reserved key leaves the others as they are. -/
theorem inner_reserving_of_ne (h : key ≠ tag) : (k.reserving tag).inner key = k.inner key :=
  if_neg h

/-- Under a reserved key nothing changes. -/
theorem inner_reserving_self : (k.reserving tag).inner tag = Change.none := if_pos rfl

/-- A reserved key changes nothing about the rest. -/
theorem change_of_reserving {v' : Json} (h : (k.reserving tag).change (.object o) v') :
    k.change (.object o) v' := by
  cases h with
  | insert value hkey => exact .insert value fun hmem => hkey (List.mem_cons_of_mem _ hmem)
  | permute hkeys h => exact .permute hkeys h
  | @field front back key x x' hkey h =>
    have hne : key ≠ tag := by
      rintro rfl
      rw [inner_reserving_self] at h
      exact h
    rw [inner_reserving_of_ne hne] at h
    exact .field (List.mem_of_ne_of_mem hne hkey) h

/-- Objects that agree on all keys agree on the own ones. -/
theorem agree_own (h : Agree (own.beside shared).names (own.beside shared).rel o o') :
    Agree own.names own.rel o o' := by
  intro key hkey
  have hrel := h key (List.mem_append_left _ hkey)
  rwa [rel, inner_beside_of_mem hkey] at hrel

/-- What is left of corresponding objects corresponds. -/
theorem agree_filter {p : String → Bool}
    (h : ∀ key ∈ k.names, p key = true → Option.Rel (k.rel key) (o.lookup key) (o'.lookup key)) :
    Agree k.names k.rel (o.filter fun field => p field.1) (o'.filter fun field => p field.1) := by
  intro key hkey
  cases hp : p key with
  | true =>
    rw [lookup_filter_of_pos hp, lookup_filter_of_pos hp]
    exact h key hkey hp
  | false =>
    rw [lookup_filter_of_neg hp, lookup_filter_of_neg hp]
    exact .none

/-- The shared part is read from the keys that no own field has. -/
theorem agree_shared (h : Agree (own.beside shared).names (own.beside shared).rel o o') :
    Agree shared.names shared.rel (o.filter fun field => !own.names.contains field.1)
      (o'.filter fun field => !own.names.contains field.1) := by
  refine agree_filter (p := fun key => !own.names.contains key) fun key hkey hleft => ?_
  have hmem : key ∉ own.names := by simpa using hleft
  have hrel := h key (List.mem_append_right _ hkey)
  rwa [rel, inner_beside_of_not_mem hmem] at hrel

/-- Without the tag they agree on the keys of the record. -/
theorem agree_payload (h : Agree (k.reserving tag).names (k.reserving tag).rel o o') :
    Agree k.names k.rel (o.filter fun field => field.1 ≠ tag)
      (o'.filter fun field => field.1 ≠ tag) := by
  refine agree_filter (p := fun key => decide (key ≠ tag)) fun key hkey hleft => ?_
  have hrel := h key (List.mem_cons_of_mem _ hkey)
  rwa [rel, inner_reserving_of_ne (of_decide_eq_true hleft)] at hrel

end Known

/-! ## Decoders that carry on -/

namespace Decoder

variable {α β σ : Type} {R S : Change} {rel : String → Change}

/-- Whether what one decoder answers for a value, another answers for the
changed value. -/
def Carries (R : Change) (d d' : Decoder α) : Prop :=
  ∀ reading v v' a, R v v' → d reading v = .ok a → d' reading v' = .ok a

/-- Whether what some fields are read as, others are read as after changes
under their keys, and from what a list has left. -/
structure Fields.Carries (rel : String → Change) (f f' : Fields α) : Prop where
  names : f'.names = f.names
  ofObject : ∀ reading o o' a, Agree f.names rel o o' → f.ofObject reading o = .ok a →
    f'.ofObject reading o' = .ok a
  ofItems : ∀ reading n shape rels vs vs' a rest, Lined (f.names.map rel ++ rels) vs vs' →
    f.ofItems reading n shape vs = .ok (a, rest) →
    ∃ rest', f'.ofItems reading n shape vs' = .ok (a, rest') ∧ Lined rels rest rest'

/-- A decoder that does not notice some changes does not notice fewer. -/
theorem Carries.mono {d d' : Decoder α} (h : Carries R d d') (hS : ∀ v v', S v v' → R v v') :
    Carries S d d' :=
  fun reading v v' a hv => h reading v v' a (hS v v' hv)

/-- A value that does not change. -/
theorem carries_of_eq {d : Decoder α} (h : ∀ v v', R v v' → v = v') : Carries R d d := by
  intro reading v v' a hv ha
  rw [← h v v' hv]
  exact ha

/-- No decoder notices that nothing changes. -/
theorem carries_same {d : Decoder α} : Carries (Relation.ReflGen Change.none) d d := by
  refine carries_of_eq fun v v' h => ?_
  cases h with
  | refl => rfl
  | single h => exact h.elim

/-- A decoder that does not notice a change does not notice none either. -/
theorem Carries.orSame {d : Decoder α} (h : Carries R d d) : Carries (Relation.ReflGen R) d d := by
  intro reading v v' a hv ha
  cases hv with
  | refl => exact ha
  | single hv => exact h reading v v' a hv ha

/-! ### Lists and absent values -/

/-- Items that correspond decode to the same. -/
theorem Carries.items {item item' : Decoder α} (h : Carries R item item') {reading : Reading}
    {vs vs' : List Json} (hvs : List.Forall₂ R vs vs') :
    ∀ as, items item reading vs = .ok as → items item' reading vs' = .ok as := by
  induction hvs with
  | nil => exact fun as has => has
  | cons hv _ ih =>
    intro as has
    unfold Decoder.items at has ⊢
    split at has
    · cases has
    · next a ha =>
      split at has
      · cases has
      · next rest hrest =>
        rw [h reading _ _ a hv ha]
        dsimp only
        rw [ih rest hrest]
        exact has

/-- A list of which the items are related. -/
theorem Carries.list {item item' : Decoder α} (h : Carries S item item')
    (hR : ∀ vs v', R (.array vs) v' → ∃ vs', v' = .array vs' ∧ List.Forall₂ S vs vs') :
    Carries R (Decoder.list item) (Decoder.list item') := by
  intro reading v v' as hv has
  cases v with
  | array vs =>
    obtain ⟨vs', rfl, hvs⟩ := hR vs v' hv
    exact h.items hvs as has
  | _ => cases has

/-- A list of which one item changes. -/
theorem Carries.each {item : Decoder α} (h : Carries R item item) :
    Carries (Relation.ReflGen (Change.each R)) (Decoder.list item) (Decoder.list item) := by
  refine .orSame (.list h.orSame fun vs v' hv => ?_)
  cases hv with
  | @intro front back x x' hx =>
    refine ⟨front ++ x' :: back, rfl, ?_⟩
    have hrefl (vs : List Json) : List.Forall₂ (Relation.ReflGen R) vs vs :=
      List.forall₂_same.mpr fun _ _ => .refl
    exact List.rel_append (hrefl front) (.cons (.single hx) (hrefl back))

/-- A record that may be absent. -/
theorem Carries.nullable {k : Known} {item : Decoder α} (h : Carries k.change item item) :
    Carries (Relation.ReflGen k.change) (Decoder.nullable item) (Decoder.nullable item) := by
  refine .orSame fun reading v v' o hv ho => ?_
  obtain ⟨hne, hne'⟩ := Known.ne_null_of_change hv
  have hread {v : Json} (hne : v ≠ .null) :
      Decoder.nullable item reading v = (item reading v).map some := by
    unfold Decoder.nullable
    split
    · exact absurd rfl hne
    · rfl
  rw [hread hne] at ho
  obtain ⟨a, ha, rfl⟩ := map_eq_ok_iff.mp ho
  rw [hread hne', h reading v v' a hv ha]
  rfl

/-! ### Fields -/

namespace Fields

/-- Fields that ask for nothing notice nothing. -/
theorem Carries.pure (a : α) : Carries rel (Fields.pure a) (Fields.pure a) where
  names := rfl
  ofObject _ _ _ _ _ h := h
  ofItems _ _ _ _ _ vs' _ _ hvs h := by
    cases h
    exact ⟨vs', rfl, hvs⟩

/-- Fields notice no more together than one by one. -/
theorem Carries.seq {f f' : Fields (α → β)} {x x' : Fields α} (hf : Carries rel f f')
    (hx : Carries rel x x') : Carries rel (f <*> x) (f' <*> x') where
  names := by
    show f'.names ++ x'.names = f.names ++ x.names
    rw [hf.names, hx.names]
  ofObject reading o o' b ho h := by
    obtain ⟨g, a, hg, ha, rfl⟩ := ofObject_seq_eq_ok_iff.mp h
    have hof : Agree f.names rel o o' := fun key hkey => ho key (List.mem_append_left _ hkey)
    have hox : Agree x.names rel o o' := fun key hkey => ho key (List.mem_append_right _ hkey)
    have hg' := hf.ofObject reading o o' g hof hg
    have ha' := hx.ofObject reading o o' a hox ha
    exact ofObject_seq_eq_ok_iff.mpr ⟨g, a, hg', ha', rfl⟩
  ofItems reading n shape rels vs vs' b rest hvs h := by
    obtain ⟨g, left, a, hg, ha, rfl⟩ := ofItems_seq_eq_ok_iff.mp h
    change Lined (List.map rel (f.names ++ x.names) ++ rels) vs vs' at hvs
    rw [List.map_append, List.append_assoc] at hvs
    -- The function's items come first; what they leave is lined up for the rest.
    obtain ⟨left', hg', hleft⟩ := hf.ofItems reading n shape _ vs vs' g left hvs hg
    obtain ⟨rest', ha', hrest⟩ := hx.ofItems reading _ shape rels left left' a rest hleft ha
    refine ⟨rest', ofItems_seq_eq_ok_iff.mpr ⟨g, left', a, hg', ?_, rfl⟩, hrest⟩
    rw [hf.names]
    exact ha'

/-- A function of fields notices no more than these. -/
theorem Carries.map {x x' : Fields α} (f : α → β) (hx : Carries rel x x') :
    Carries rel (f <$> x) (f <$> x') :=
  .seq (.pure f) hx

variable {name : String} {item item' : Decoder α} {absent : Except DecodeError α}
  {tooShort : Option α} {default : α}

/-- A field notices no more than the decoder of its value, and whether there is one. -/
theorem Carries.single (h : Decoder.Carries (rel name) item item') :
    Carries rel (Fields.single name item absent tooShort)
      (Fields.single name item' absent tooShort) where
  names := rfl
  ofObject reading o o' a ho hok := by
    have hname := ho name List.mem_cons_self
    rw [ofObject_single_eq_ok_iff] at hok ⊢
    rcases hok with ⟨v, hv, ha⟩ | ⟨hnone, ha⟩
    · rw [hv] at hname
      obtain ⟨v', hv', hrel⟩ := exists_of_rel_some hname
      exact Or.inl ⟨v', hv', h reading v v' a hrel ha⟩
    · rw [hnone] at hname
      exact Or.inr ⟨eq_none_of_rel_none hname, ha⟩
  ofItems reading n shape rels vs vs' a rest hvs hok := by
    rw [ofItems_single_eq_ok_iff] at hok
    rcases hok with ⟨v, rfl, ha⟩ | ⟨rfl, rfl, ha⟩
    · cases hvs with
      | cons hv hrest =>
        have ha' := h reading _ _ a hv ha
        exact ⟨_, ofItems_single_eq_ok_iff.mpr (Or.inl ⟨_, rfl, ha'⟩), hrest⟩
    · cases hvs with
      | nil => exact ⟨[], ofItems_single_eq_ok_iff.mpr (Or.inr ⟨rfl, rfl, ha⟩), .nil⟩

/-- A field that has to be there is such a field. -/
theorem Carries.required (h : Decoder.Carries (rel name) item item') :
    Carries rel (Fields.required name item) (Fields.required name item') :=
  .single h

/-- So is one with a default, which needs no value. -/
theorem Carries.withDefault (h : Decoder.Carries (rel name) item item') :
    Carries rel (Fields.withDefault name item default) (Fields.withDefault name item' default) :=
  .single h

end Fields

/-! ### Records and alternatives -/

/-- Fields are read from corresponding objects and lists as the same record. -/
theorem Carries.record {name : String} {f f' : Fields α} (h : f.Carries rel f') :
    Carries (Alike f.names rel) (Decoder.record name f) (Decoder.record name f') := by
  intro reading v v' a hv ha
  cases hv with
  | object ho =>
    have hread := ofFields_eq_ok_iff.mp ha
    exact ofFields_eq_ok_iff.mpr (h.ofObject reading _ _ a ho hread)
  | @array vs vs' hvs =>
    rw [record_array_eq_ok_iff] at ha ⊢
    rw [← List.append_nil (List.map _ _)] at hvs
    obtain ⟨rest', ha', hrest⟩ := h.ofItems reading 0 _ [] vs vs' a [] hvs ha
    rw [h.names, ha']
    cases hrest <;> rfl

/-- A record does not notice the changes that it knows. -/
theorem Carries.known {name : String} {k : Known} {f : Fields α} (hnames : k.names = f.names)
    (h : f.Carries k.rel f) : Carries k.change (Decoder.record name f) (Decoder.record name f) := by
  refine (Carries.record h).mono fun v v' hv => ?_
  rw [← hnames]
  exact Known.alike_of_change hv

/-- Whether a decoder answers the same for corresponding objects. -/
def CarriesObject (k : Known) (d : Decoder α) : Prop :=
  ∀ reading o o' a, Agree k.names k.rel o o' → d reading (.object o) = .ok a →
    d reading (.object o') = .ok a

/-- A function of what is decoded notices no more. -/
theorem CarriesObject.map {k : Known} {d : Decoder α} (h : CarriesObject k d) (g : α → β) :
    CarriesObject k fun reading v => (d reading v).map g := by
  intro reading o o' b ho hb
  obtain ⟨a, ha, rfl⟩ := map_eq_ok_iff.mp hb
  exact map_eq_ok_iff.mpr ⟨a, h reading o o' a ho ha, rfl⟩

section

variable {name : String} {own shared : Known} {f : Fields (σ → α)} {x : Fields σ}
  (hown : own.names = f.names) (hshared : shared.names = x.names)
  (hf : f.Carries own.rel f) (hx : x.Carries shared.rel x)
include hown hshared hf hx

/-- A record with a shared part notices no more than its own fields and that part. -/
theorem CarriesObject.withShared :
    CarriesObject (own.beside shared) (Decoder.withShared name f x) := by
  intro reading o o' a ho ha
  obtain ⟨_, g, s, ⟨⟩, hg, hs, rfl⟩ := withShared_eq_ok_iff.mp ha
  have howned := Known.agree_own ho
  have hleft := Known.agree_shared ho
  rw [hown] at howned hleft
  rw [hshared] at hleft
  exact withShared_eq_ok_iff.mpr ⟨o', g, s, rfl, hf.ofObject reading o o' g howned hg,
    hx.ofObject .held _ _ s hleft hs, rfl⟩

/-- A record with a shared part does not notice the changes that it knows. -/
theorem Carries.withShared :
    Carries (own.beside shared).change (Decoder.withShared name f x)
      (Decoder.withShared name f x) := by
  intro reading v v' a hv ha
  cases Known.alike_of_change hv with
  | object ho => exact CarriesObject.withShared hown hshared hf hx reading _ _ a ho ha
  | array => cases ha

end

/-- What has a name in one of two tables that correspond has it in the other. -/
theorem exists_lookup_of_forall₂ {P : Decoder α → Known → Prop} {name : String} {k : Known}
    {cases : List (String × Decoder α)} {known : List (String × Known)}
    (h : List.Forall₂ (fun c k => c.1 = k.1 ∧ P c.2 k.2) cases known)
    (hk : known.lookup name = some k) : ∃ d, cases.lookup name = some d ∧ P d k := by
  induction h with
  | nil => cases hk
  | @cons c k' cases known hhead _ ih =>
    obtain ⟨key, d⟩ := c
    obtain ⟨key', k'⟩ := k'
    obtain ⟨rfl, hd⟩ := hhead
    rw [List.lookup_cons] at hk ⊢
    by_cases hkey : name = key
    · rw [beq_iff_eq.mpr hkey] at hk ⊢
      cases hk
      exact ⟨d, rfl, hd⟩
    · rw [beq_eq_false_iff_ne.mpr hkey] at hk ⊢
      exact ih hk

/-- Nor do alternatives, whose tag stays as it is. -/
theorem Carries.tagged {union tag : String} {cases : List (String × Decoder α)}
    {known : List (String × Known)}
    (h : List.Forall₂ (fun c k => c.1 = k.1 ∧ CarriesObject k.2 c.2) cases known) :
    Carries (Change.tagged tag known) (Decoder.tagged union tag cases)
      (Decoder.tagged union tag cases) := by
  rintro reading v v' a ⟨name, k, htag, hk, hv⟩ ha
  cases Known.alike_of_change hv with
  | array => cases htag
  | @object o o' ho =>
    have htag' : o'.lookup tag = some (.string name) := by
      rw [Known.eq_of_rel Known.inner_reserving_self (ho tag List.mem_cons_self)]
      exact htag
    obtain ⟨d, hd, hcarries⟩ := exists_lookup_of_forall₂ (P := fun d k => CarriesObject k d) h hk
    rw [tagged_object_eq htag hd] at ha
    rw [tagged_object_eq htag' hd]
    exact hcarries .held _ _ a (Known.agree_payload ho) ha

end Decoder

end ApiPages.Json
