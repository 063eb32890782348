import ApiPages.Json.Decoder
import ApiPages.Proofs.Lookup
import ApiPages.Proofs.Result

/-!
# What decoders answer

When a decoder answers, so did the decoders that it is made of; the lemmas of
the first section say for each way of making one what these have answered, and
that nothing else was looked at.

A property of all that a decoder answers is found part by part. `Always`
says it of a decoder and of a record's fields; of a record's function that
still waits for fields it says what holds once they are filled in, so the
fields of a record are taken one by one, in the order of its declaration.
-/

namespace ApiPages.Json.Decoder

variable {α β σ : Type} {P : α → Prop} {Q : β → Prop}

/-! ## What was read -/

/-- What is found under a key is what a lookup finds. -/
theorem map_snd_findField (key : String) (o : List (String × Json)) (place : Nat) :
    (findField key place o).map Prod.snd = o.lookup key := by
  induction o generalizing place with
  | nil => rfl
  | cons field o ih =>
    obtain ⟨k, v⟩ := field
    rw [findField, List.lookup_cons]
    by_cases hk : k = key
    · rw [if_pos hk, beq_iff_eq.mpr hk.symm]
      rfl
    · rw [if_neg hk, beq_eq_false_iff_ne.mpr (Ne.symm hk)]
      exact ih (place + 1)

namespace Fields

variable {f : Fields (α → β)} {x : Fields α} {reading : Reading} {o : List (String × Json)}
  {vs rest : List Json} {n : Nat} {shape : String} {a : α} {b : β}

/-- Two groups of fields are read from one object. -/
theorem ofObject_seq_eq_ok_iff :
    (f <*> x).ofObject reading o = .ok b
      ↔ ∃ g a, f.ofObject reading o = .ok g ∧ x.ofObject reading o = .ok a ∧ g a = b := by
  constructor
  · intro h
    change (Fields.seq f x).ofObject reading o = .ok b at h
    unfold Fields.seq at h
    dsimp only at h
    split at h
    · next g a hg ha => exact ⟨g, a, hg, ha, Except.ok.inj h⟩
    all_goals cases h
  · rintro ⟨g, a, hg, ha, rfl⟩
    show (Fields.seq f x).ofObject reading o = _
    unfold Fields.seq
    dsimp only
    rw [hg, ha]

/-- A function of fields is read when they are. -/
theorem ofObject_map_eq_ok_iff {f : α → β} :
    (f <$> x).ofObject reading o = .ok b ↔ ∃ a, x.ofObject reading o = .ok a ∧ f a = b := by
  show (Fields.pure f <*> x).ofObject reading o = .ok b ↔ _
  rw [ofObject_seq_eq_ok_iff]
  constructor
  · rintro ⟨g, a, hg, ha, rfl⟩
    cases hg
    exact ⟨a, ha, rfl⟩
  · rintro ⟨a, ha, rfl⟩
    exact ⟨f, a, rfl, ha, rfl⟩

/-- From a list, the second group is read from what the first leaves. -/
theorem ofItems_seq_eq_ok_iff :
    (f <*> x).ofItems reading n shape vs = .ok (b, rest)
      ↔ ∃ g left a, f.ofItems reading n shape vs = .ok (g, left)
        ∧ x.ofItems reading (n + f.names.length) shape left = .ok (a, rest) ∧ g a = b := by
  constructor
  · intro h
    change (Fields.seq f x).ofItems reading n shape vs = .ok (b, rest) at h
    unfold Fields.seq at h
    dsimp only at h
    split at h
    · cases h
    · next g left hg =>
      split at h
      · cases h
      · next a after ha =>
        cases h
        exact ⟨g, left, a, hg, ha, rfl⟩
  · rintro ⟨g, left, a, hg, ha, rfl⟩
    show (Fields.seq f x).ofItems reading n shape vs = _
    unfold Fields.seq
    dsimp only
    rw [hg]
    dsimp only
    rw [ha]

variable {name : String} {item : Decoder α} {absent : Except DecodeError α} {tooShort : Option α}

/-- A field is read from the value under its key, or without one as the field says. -/
theorem ofObject_single_eq_ok_iff :
    (Fields.single name item absent tooShort).ofObject reading o = .ok a
      ↔ (∃ v, o.lookup name = some v ∧ item reading v = .ok a)
        ∨ o.lookup name = none ∧ absent = .ok a := by
  unfold Fields.single
  dsimp only
  rw [← map_snd_findField name o 0]
  cases findField name 0 o with
  | none => simp [mapError_eq_ok_iff]
  | some found => simp [mapError_eq_ok_iff]

/-- A required field has a value that is decoded. -/
theorem ofObject_required_eq_ok_iff :
    (Fields.required name item).ofObject reading o = .ok a
      ↔ ∃ v, o.lookup name = some v ∧ item reading v = .ok a := by
  rw [Fields.required, ofObject_single_eq_ok_iff]
  exact or_iff_left fun h => nomatch h.2

/-- From a list, a field is read from the first item, or without one as the field says. -/
theorem ofItems_single_eq_ok_iff :
    (Fields.single name item absent tooShort).ofItems reading n shape vs = .ok (a, rest)
      ↔ (∃ v, vs = v :: rest ∧ item reading v = .ok a)
        ∨ vs = [] ∧ rest = [] ∧ tooShort = some a := by
  unfold Fields.single
  dsimp only
  cases vs with
  | nil =>
    cases tooShort with
    | none => simp
    | some default => simp [and_comm]
  | cons v vs =>
    rw [map_eq_ok_iff]
    constructor
    · rintro ⟨a, ha, heq⟩
      cases heq
      exact Or.inl ⟨v, rfl, ha⟩
    · rintro (⟨v, heq, ha⟩ | ⟨hnil, -⟩)
      · cases heq
        exact ⟨a, ha, rfl⟩
      · cases hnil

end Fields

section

variable {name : String} {fields : Fields α} {own : Fields (σ → α)} {shared : Fields σ}
  {reading : Reading} {a : α}

/-- Fields are decoded exactly when they are read; what remains is not looked at. -/
theorem ofFields_eq_ok_iff {o : List (String × Json)} :
    ofFields fields reading o = .ok a ↔ fields.ofObject reading o = .ok a :=
  mapError_eq_ok_iff

/-- A record in the form of a list has read all of it. -/
theorem record_array_eq_ok_iff {vs : List Json} :
    record name fields reading (.array vs) = .ok a
      ↔ fields.ofItems reading 0
          ("struct " ++ name ++ " with " ++ counted fields.names.length "element") vs
        = .ok (a, []) := by
  unfold record
  dsimp only
  split
  · next e he => simp [he]
  · next a' ha => simp [ha]
  · next a' v rest ha => simp [ha]

/-- A record with a shared part has read that part from the keys that none of
its own fields has. -/
theorem withShared_eq_ok_iff {v : Json} :
    withShared name own shared reading v = .ok a
      ↔ ∃ o f s, v = .object o ∧ own.ofObject reading o = .ok f
        ∧ shared.ofObject .held (o.filter fun field => !own.names.contains field.1) = .ok s
        ∧ f s = a := by
  constructor
  · intro h
    cases v with
    | object o =>
      unfold withShared at h
      dsimp only at h
      split at h
      · cases h
      · next f hf =>
        obtain ⟨s, hs, rfl⟩ := map_eq_ok_iff.mp h
        exact ⟨o, f, s, rfl, ofFields_eq_ok_iff.mp hf, ofFields_eq_ok_iff.mp hs, rfl⟩
    | _ => cases h
  · rintro ⟨o, f, s, rfl, hf, hs, rfl⟩
    unfold withShared
    dsimp only
    rw [ofFields_eq_ok_iff.mpr hf]
    dsimp only
    rw [ofFields_eq_ok_iff.mpr hs]
    rfl

end

/-- An alternative is read from what stands beside its tag. -/
theorem tagged_object_eq {union tag name : String} {cases : List (String × Decoder α)}
    {d : Decoder α} {o : List (String × Json)} {reading : Reading}
    (htag : o.lookup tag = some (.string name)) (hd : cases.lookup name = some d) :
    tagged union tag cases reading (.object o)
      = d .held (.object (o.filter fun field => field.1 ≠ tag)) := by
  unfold tagged
  dsimp only
  rw [htag]
  dsimp only
  rw [hd]

/-! ## Properties of all answers -/

/-- Whether whatever a decoder answers has a property. -/
def Always (P : α → Prop) (d : Decoder α) : Prop :=
  ∀ reading v a, d reading v = .ok a → P a

/-- Whether whatever fields are read as has a property, from an object and
from a list. -/
structure Fields.Always (P : α → Prop) (f : Fields α) : Prop where
  ofObject : ∀ reading o a, f.ofObject reading o = .ok a → P a
  ofItems : ∀ reading n shape vs a rest, f.ofItems reading n shape vs = .ok (a, rest) → P a

theorem always_true (d : Decoder α) : d.Always fun _ => True := fun _ _ _ _ => trivial

/-- What a decoder always answers has every weaker property. -/
theorem Always.mono {R : α → Prop} {d : Decoder α} (hd : d.Always P) (h : ∀ a, P a → R a) :
    d.Always R :=
  fun reading v a ha => h a (hd reading v a ha)

/-! ## Lists and absent values -/

/-- What holds of every item holds of all items of a list. -/
theorem Always.items {item : Decoder α} (h : item.Always P) (reading : Reading) :
    ∀ (vs : List Json) (as : List α), items item reading vs = .ok as → ∀ a ∈ as, P a
  | [], as, hok => by
    cases hok
    simp
  | v :: more, as, hok => by
    unfold Decoder.items at hok
    split at hok
    · cases hok
    · next first hfirst =>
      split at hok
      · cases hok
      · next rest hrest =>
        cases hok
        intro a ha
        rcases List.mem_cons.mp ha with rfl | ha
        · exact h reading v a hfirst
        · exact h.items reading more rest hrest a ha

/-- What holds of the items of a list holds of all that it is read as. -/
theorem Always.list {item : Decoder α} (h : item.Always P) :
    (Decoder.list item).Always fun as => ∀ a ∈ as, P a := by
  intro reading v as hok
  cases v with
  | array vs => exact h.items reading vs as hok
  | _ => cases hok

/-- A natural number that is read is within its bound. -/
theorem always_natural (bound : Nat) (kind : String) :
    (natural bound kind).Always fun n => n < bound := by
  intro reading v n hok
  unfold natural at hok
  split at hok
  · split at hok
    · next h =>
      cases hok
      exact h.2
    · cases hok
  · cases hok

/-- A thing that is not absent has what its decoder answers for values other
than `null`. -/
theorem Always.nullable {item : Decoder α}
    (h : ∀ reading v a, v ≠ .null → item reading v = .ok a → P a) :
    (Decoder.nullable item).Always fun o => ∀ a ∈ o, P a := by
  intro reading v o hok
  unfold Decoder.nullable at hok
  split at hok
  · cases hok
    nofun
  · next hnull =>
    obtain ⟨a, hread, rfl⟩ := map_eq_ok_iff.mp hok
    rintro _ ⟨⟩
    exact h reading v a hnull hread

/-! ## Fields -/

namespace Fields

/-- So have fields. -/
theorem Always.mono {R : α → Prop} {f : Fields α} (hf : f.Always P) (h : ∀ a, P a → R a) :
    f.Always R where
  ofObject reading o a ha := h a (hf.ofObject reading o a ha)
  ofItems reading n shape vs a rest ha := h a (hf.ofItems reading n shape vs a rest ha)

/-- Fields that ask for nothing answer their own value. -/
theorem Always.pure {a : α} (h : P a) : (Fields.pure a).Always P where
  ofObject _ _ _ hok := by
    cases hok
    exact h
  ofItems _ _ _ _ _ _ hok := by
    cases hok
    exact h

/-- A function's fields and those of its argument. -/
theorem Always.seq {f : Fields (α → β)} {x : Fields α}
    (hf : f.Always fun g => ∀ a, P a → Q (g a)) (hx : x.Always P) : (f <*> x).Always Q where
  ofObject reading o b hok := by
    obtain ⟨g, a, hg, ha, rfl⟩ := ofObject_seq_eq_ok_iff.mp hok
    exact hf.ofObject _ _ g hg a (hx.ofObject _ _ a ha)
  ofItems reading n shape vs b rest hok := by
    obtain ⟨g, left, a, hg, ha, rfl⟩ := ofItems_seq_eq_ok_iff.mp hok
    exact hf.ofItems _ _ _ _ g left hg a (hx.ofItems _ _ _ _ a rest ha)

/-- A function carries over what holds of its argument. -/
theorem Always.map {f : α → β} {x : Fields α} (hf : ∀ a, P a → Q (f a)) (hx : x.Always P) :
    (f <$> x).Always Q :=
  .seq (.pure hf) hx

/-- A field has what its values and its defaults have. -/
theorem Always.single {name : String} {item : Decoder α} {absent : Except DecodeError α}
    {tooShort : Option α} (hitem : item.Always P) (habsent : ∀ a, absent = .ok a → P a)
    (hshort : ∀ a, tooShort = some a → P a) :
    (Fields.single name item absent tooShort).Always P where
  ofObject reading o a hok := by
    rcases ofObject_single_eq_ok_iff.mp hok with ⟨v, -, hread⟩ | ⟨-, hread⟩
    · exact hitem _ _ _ hread
    · exact habsent a hread
  ofItems reading n shape vs a rest hok := by
    rcases ofItems_single_eq_ok_iff.mp hok with ⟨v, -, hread⟩ | ⟨-, -, hread⟩
    · exact hitem _ _ _ hread
    · exact hshort a hread

/-- A required field is as its decoder answers. -/
theorem Always.required {name : String} {item : Decoder α} (h : item.Always P) :
    (Fields.required name item).Always P :=
  .single h (fun a ha => by cases ha) (fun a ha => by cases ha)

/-- A field with a default is as its decoder answers, when the default is too. -/
theorem Always.withDefault {name : String} {item : Decoder α} {default : α} (h : item.Always P)
    (hdefault : P default) : (Fields.withDefault name item default).Always P := by
  refine .single h (fun a ha => ?_) (fun a ha => ?_)
  · cases ha
    exact hdefault
  · cases ha
    exact hdefault

/-- A function of which nothing is asked about its argument. -/
theorem Always.seq_of_forall {f : Fields (α → β)} {x : Fields α}
    (hf : f.Always fun g => ∀ a, Q (g a)) : (f <*> x).Always Q :=
  .seq (P := fun _ => True) ⟨fun _ _ g hg a _ => hf.ofObject _ _ g hg a,
    fun _ _ _ _ g _ hg a _ => hf.ofItems _ _ _ _ g _ hg a⟩ ⟨fun _ _ _ _ => trivial,
    fun _ _ _ _ _ _ _ => trivial⟩

/-- What a function always gives needs nothing of its argument. -/
theorem Always.map_of_forall {f : α → β} {x : Fields α} (hf : ∀ a, Q (f a)) :
    (f <$> x).Always Q :=
  .seq_of_forall (.pure hf)

theorem Always.optional {name : String} {item : Decoder α} :
    (Fields.optional name item).Always fun _ => True :=
  .withDefault (always_true _) trivial

end Fields

/-! ## Records -/

/-- A record has what its fields are read as. -/
theorem Always.record {name : String} {fields : Fields α} (h : fields.Always P) :
    (Decoder.record name fields).Always P := by
  intro reading v a hok
  cases v with
  | object o => exact h.ofObject _ _ _ (ofFields_eq_ok_iff.mp hok)
  | array vs => exact h.ofItems _ _ _ _ _ _ (record_array_eq_ok_iff.mp hok)
  | _ => cases hok

/-- A record with a shared part has what its own fields make of that part. -/
theorem Always.withShared {name : String} {own : Fields (β → α)} {shared : Fields β}
    (hown : own.Always fun f => ∀ s, Q s → P (f s)) (hshared : shared.Always Q) :
    (Decoder.withShared name own shared).Always P := by
  intro reading v a hok
  obtain ⟨o, f, s, -, hf, hs, rfl⟩ := withShared_eq_ok_iff.mp hok
  exact hown.ofObject _ _ f hf s (hshared.ofObject _ _ s hs)

/-- Where the own fields leave the shared part as it is, it has what it was
read with. -/
theorem Always.ofShared {name : String} {own : Fields (β → α)} {shared : Fields β} {part : α → β}
    (hpart : own.Always fun f => ∀ s, part (f s) = s) (hshared : shared.Always Q) :
    (Decoder.withShared name own shared).Always fun a => Q (part a) := by
  refine .withShared (hpart.mono fun f hf s hs => ?_) hshared
  rw [hf s]
  exact hs

end ApiPages.Json.Decoder
