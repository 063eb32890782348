import ApiPages.Entry.Tag
import ApiPages.Proofs.Json.Decoder

/-!
# Decoders that undo encoders

An encoded value reads back when its decoder answers what it was made from,
whichever way it comes (`Reads`). There is one lemma for each way of making a
decoder. A record's fields are looked up by their keys, so its lemma asks
what stands under each key of the object (`Fields.Reads.single`), and a shared
part is read from the keys that no own field claims (`Reads.withShared`). Of a
list it is asked only that the items in it read back, because not every value
of a type has to.
-/

namespace ApiPages.Json

namespace Decoder

variable {α β σ : Type}

/-- Whether a decoder reads a value as something, whichever way it comes. -/
def Reads (d : Decoder α) (v : Json) (a : α) : Prop := ∀ reading, d reading v = .ok a

/-- Whether fields are read from an object's fields as something. -/
def Fields.Reads (f : Fields α) (o : List (String × Json)) (a : α) : Prop :=
  ∀ reading, f.ofObject reading o = .ok a

/-! ## Plain values -/

/-- A value that is kept whole reads back. -/
theorem reads_any (v : Json) : any.Reads v v := fun _ => rfl

/-- A text reads back from its string. -/
theorem reads_text (s : String) : text.Reads (.string s) s := fun _ => rfl

/-- A flag reads back. -/
theorem reads_flag (b : Bool) : flag.Reads (.bool b) b := fun _ => rfl

/-- A number reads back when it is below the bound of its kind. -/
theorem reads_natural {bound n : Nat} (kind : String) (h : n < bound) :
    (natural bound kind).Reads (.number (.whole n)) n := by
  intro reading
  show (if 0 ≤ (n : Int) ∧ (n : Int).toNat < bound then _ else _) = _
  rw [if_pos ⟨Int.natCast_nonneg n, by rwa [Int.toNat_natCast]⟩, Int.toNat_natCast]

/-- What is made of a decoded value reads back with it. -/
theorem Reads.map {d : Decoder α} {v : Json} {a : α} (h : d.Reads v a) (f : α → β) :
    Decoder.Reads (fun reading v => (d reading v).map f) v (f a) := by
  intro reading
  show (d reading v).map f = _
  rw [h reading]
  rfl

/-! ## Lists and absent values -/

section Containers

variable {item : Decoder α} {encode : α → Json}

/-- A list reads back when its own items do. -/
theorem Reads.list {as : List α} (h : ∀ a ∈ as, item.Reads (encode a) a) :
    (Decoder.list item).Reads (.array (as.map encode)) as := by
  intro reading
  show items item reading (as.map encode) = _
  induction as with
  | nil => rfl
  | cons a as ih =>
    rw [List.map_cons, items, h a List.mem_cons_self reading,
      ih fun a ha => h a (List.mem_cons_of_mem _ ha)]

/-- So it does when all values of its items do. -/
theorem reads_list (h : ∀ a, item.Reads (encode a) a) (as : List α) :
    (Decoder.list item).Reads (.array (as.map encode)) as :=
  .list fun a _ => h a

/-- A list of texts reads back. -/
theorem reads_texts (texts : List String) : (Decoder.list text).Reads (.ofStrings texts) texts :=
  reads_list reads_text texts

/-- A value that may be missing reads back, as long as none is written as `null`. -/
theorem Reads.nullable {o : Option α}
    (h : ∀ a ∈ o, encode a ≠ .null ∧ item.Reads (encode a) a) :
    (Decoder.nullable item).Reads (.ofOption encode o) o := by
  intro reading
  cases o with
  | none => rfl
  | some a =>
    obtain ⟨hnull, hitem⟩ := h a rfl
    show Decoder.nullable item reading (encode a) = _
    unfold Decoder.nullable
    split
    next heq => exact absurd heq hnull
    next =>
      rw [hitem reading]
      rfl

end Containers

/-! ## Fields -/

namespace Fields

variable {o : List (String × Json)} {name : String} {item : Decoder α} {v : Json} {a : α}

/-- Fields that ask for nothing are read from any object. -/
theorem Reads.pure (a : α) : (Fields.pure a).Reads o a := fun _ => rfl

/-- A function's fields and those of its argument. What they make together is
given by an equation, so that it is only compared once both are known. -/
theorem Reads.seq {f : Fields (α → β)} {x : Fields α} {g : α → β} {b : β} (hf : f.Reads o g)
    (hx : x.Reads o a) (h : g a = b) : (f <*> x).Reads o b :=
  fun reading => ofObject_seq_eq_ok_iff.mpr ⟨g, a, hf reading, hx reading, h⟩

/-- A function of fields is read with them. -/
theorem Reads.map {x : Fields α} {f : α → β} {b : β} (hx : x.Reads o a) (h : f a = b) :
    (f <$> x).Reads o b :=
  .seq (.pure f) hx h

/-- A field is read from the value under its key. -/
theorem Reads.single {absent : Except DecodeError α} {tooShort : Option α}
    (hv : o.lookup name = some v) (hitem : item.Reads v a) :
    (Fields.single name item absent tooShort).Reads o a :=
  fun reading => ofObject_single_eq_ok_iff.mpr (Or.inl ⟨v, hv, hitem reading⟩)

/-- So is a field that has to be there. -/
theorem Reads.required (hv : o.lookup name = some v) (hitem : item.Reads v a) :
    (Fields.required name item).Reads o a :=
  .single hv hitem

/-- So is one with a default, which is not asked for. -/
theorem Reads.withDefault {default : α} (hv : o.lookup name = some v) (hitem : item.Reads v a) :
    (Fields.withDefault name item default).Reads o a :=
  .single hv hitem

/-- A field that may be missing is read from what is written for it. -/
theorem Reads.optional {encode : α → Json} {a : Option α}
    (hv : o.lookup name = some (.ofOption encode a))
    (hitem : ∀ x ∈ a, encode x ≠ .null ∧ item.Reads (encode x) x) :
    (Fields.optional name item).Reads o a :=
  .withDefault hv (.nullable hitem)

/-- A text that may be missing is such a field. -/
theorem Reads.optionalText {a : Option String} (hv : o.lookup name = some (.ofOption .string a)) :
    (Fields.optional name text).Reads o a :=
  .optional hv fun s _ => ⟨nofun, reads_text s⟩

/-- So is a flag. -/
theorem Reads.optionalFlag {a : Option Bool} (hv : o.lookup name = some (.ofOption .bool a)) :
    (Fields.optional name flag).Reads o a :=
  .optional hv fun b _ => ⟨nofun, reads_flag b⟩

end Fields

/-! ## Records and alternatives -/

/-- Fields that are read are decoded, whatever else the object holds. -/
theorem Fields.Reads.ofFields {fields : Fields α} {o : List (String × Json)} {a : α}
    (h : fields.Reads o a) (reading : Reading) : ofFields fields reading o = .ok a :=
  ofFields_eq_ok_iff.mpr (h reading)

/-- A record reads back when its fields are read from its object. -/
theorem Reads.record {name : String} {fields : Fields α} {o : List (String × Json)} {a : α}
    (h : fields.Reads o a) : (Decoder.record name fields).Reads (.object o) a :=
  h.ofFields

/-- A shared part is read from the fields that no own key claims. -/
theorem Reads.withShared {name : String} {own : Fields (σ → α)} {shared : Fields σ}
    {o rest : List (String × Json)} {f : σ → α} {s : σ} (hown : own.Reads o f)
    (hrest : o.filter (fun field => !own.names.contains field.1) = rest)
    (hshared : shared.Reads rest s) :
    (Decoder.withShared name own shared).Reads (.object o) (f s) := by
  intro reading
  subst hrest
  exact withShared_eq_ok_iff.mpr ⟨o, f, s, rfl, hown reading, hshared .held, rfl⟩

/-- A word of a list reads back as what it stands for. -/
theorem reads_constant {known : List (String × α)} {name : String} {a : α}
    (h : known.lookup name = some a) : (constant known).Reads (.string name) a := by
  intro reading
  unfold constant
  dsimp only
  rw [h]

/-- A tagged value reads back as the case of its tag, from the fields beside it. -/
theorem Reads.tagged {union tag name : String} {cases : List (String × Decoder α)} {d : Decoder α}
    {fields : List (String × Json)} {a : α} (hcase : cases.lookup name = some d)
    (hfields : fields.filter (fun field => field.1 ≠ tag) = fields)
    (hd : d.Reads (.object fields) a) :
    (Decoder.tagged union tag cases).Reads (.object ((tag, .string name) :: fields)) a := by
  intro reading
  rw [tagged_object_eq List.lookup_cons_self hcase, List.filter_cons_of_neg (by simp), hfields]
  exact hd .held

/-! ## Round trips -/

/-- A decoder undoes an encoder for the values in some range, and answers no
others. -/
structure Undoes (d : Decoder α) (encode : α → Json) (InRange : α → Prop) : Prop where
  reads : ∀ a, InRange a → d.Reads (encode a) a
  again : ∀ reading v a, d reading v = .ok a → InRange a ∧ d.Reads (encode a) a

/-- A decoder undoes an encoder when it reads back what is in range and answers
nothing else. -/
theorem Undoes.of_always {d : Decoder α} {encode : α → Json} {InRange : α → Prop}
    (hreads : ∀ a, InRange a → d.Reads (encode a) a) (halways : d.Always InRange) :
    d.Undoes encode InRange where
  reads := hreads
  again reading v a ha := ⟨halways reading v a ha, hreads a (halways reading v a ha)⟩

end Decoder

/-! ## Depths -/

/-- No item is deeper than its list. -/
theorem depth_le_depthOfItems {v : Json} :
    ∀ {items : List Json}, v ∈ items → v.depth ≤ depthOfItems items
  | item :: more, h => by
    rw [depthOfItems]
    rcases List.mem_cons.mp h with rfl | h
    · exact Nat.le_max_left _ _
    · exact Nat.le_trans (depth_le_depthOfItems h) (Nat.le_max_right _ _)

/-- No value is deeper than the fields it stands in. -/
theorem depth_le_depthOfFields (key : String) {v : Json} :
    ∀ {fields : List (String × Json)}, (key, v) ∈ fields → v.depth ≤ depthOfFields fields
  | (_, _) :: more, h => by
    rw [depthOfFields]
    rcases List.mem_cons.mp h with h | h
    · cases h
      exact Nat.le_max_left _ _
    · exact Nat.le_trans (depth_le_depthOfFields key h) (Nat.le_max_right _ _)

end ApiPages.Json
