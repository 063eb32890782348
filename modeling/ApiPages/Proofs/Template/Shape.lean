import ApiPages.Template.Basic

/-!
# Shapes of the data that templates read

A shape says what a value consists of, and of its texts which ones are plain:
those may only be shown escaped. `Similar` relates two values of one shape
that differ in nothing but their plain texts, and in these only as long as
an empty one stays empty where a condition may ask for it; a value similar
to itself is a value of the shape.

A tag reads a value through a path. The shape at the path (`Shape.at?`) says
what the tag finds there, and the shape that a condition leaves
(`Shape.narrow`) what is known below one that holds.
-/

namespace ApiPages.Template

/-- What a value consists of. -/
inductive Shape where
  /-- A text that is only ever shown escaped. -/
  | free
  /-- Such a text, of which a condition may ask whether it is empty. -/
  | plain
  /-- Any value, the same in both of two similar ones. -/
  | fixed
  /-- Absent, or of a shape. -/
  | optional (s : Shape)
  | list (item : Shape)
  /-- An object with exactly these keys, in this order. -/
  | record (fields : List (String × Shape))

mutual

/-- Two values of a shape that differ at most in the letters of their plain
texts. -/
inductive Similar : Shape → Json → Json → Prop
  | free (x y : String) : Similar .free (.string x) (.string y)
  | plain {x y : String} (h : x.isEmpty = y.isEmpty) : Similar .plain (.string x) (.string y)
  | fixed (v : Json) : Similar .fixed v v
  | absent {s : Shape} : Similar (.optional s) .null .null
  | present {s : Shape} {v w : Json} (h : Similar s v w) : Similar (.optional s) v w
  | list {s : Shape} {vs ws : List Json} (h : SimilarItems s vs ws) :
      Similar (.list s) (.array vs) (.array ws)
  | record {shapes : List (String × Shape)} {fs gs : List (String × Json)}
      (h : SimilarFields shapes fs gs) : Similar (.record shapes) (.object fs) (.object gs)

/-- Lists of one length with similar items. -/
inductive SimilarItems : Shape → List Json → List Json → Prop
  | nil {s : Shape} : SimilarItems s [] []
  | cons {s : Shape} {v w : Json} {vs ws : List Json} (h : Similar s v w)
      (more : SimilarItems s vs ws) : SimilarItems s (v :: vs) (w :: ws)

/-- The same keys with similar values. -/
inductive SimilarFields :
    List (String × Shape) → List (String × Json) → List (String × Json) → Prop
  | nil : SimilarFields [] [] []
  | cons {key : String} {s : Shape} {v w : Json} {shapes : List (String × Shape)}
      {fs gs : List (String × Json)} (h : Similar s v w) (more : SimilarFields shapes fs gs) :
      SimilarFields ((key, s) :: shapes) ((key, v) :: fs) ((key, w) :: gs)

end

/-! ## Paths -/

namespace Shape

/-- The shape of the value at a path. What is below an absent value has
none. -/
def at? : Path → Shape → Option Shape
  | [], s => some s
  | key :: path, .record fields => (fields.lookup key).bind (at? path)
  | _ :: _, _ => none

/-- The fields with the first one of a key changed. -/
def change (f : Shape → Shape) (key : String) : List (String × Shape) → List (String × Shape)
  | [] => []
  | (k, s) :: more => if key == k then (k, f s) :: more else (k, s) :: change f key more

/-- The shape when the value at a path counts as true, and so is not
absent. -/
def narrow : Path → Shape → Shape
  | [], .optional s => s
  | [], s => s
  | key :: path, .record fields => .record (change (narrow path) key fields)
  | _ :: _, s => s

/-- Whether similar values of the shape are shown alike as they are. -/
def isFixed : Shape → Bool
  | fixed => true
  | optional s => s.isFixed
  | _ => false

/-- Whether a condition may ask for a value of the shape. -/
def isCondition : Shape → Bool
  | free => false
  | optional s => s.isCondition
  | _ => true

/-- Whether the shape is that of an object. -/
def isRecord : Shape → Bool
  | record _ => true
  | _ => false

end Shape

variable {s item : Shape} {v w : Json} {path : Path}

/-- Similar fields have similar values under each key of the shape. -/
theorem SimilarFields.lookup {key : String} {shapes : List (String × Shape)}
    {fs gs : List (String × Json)} (h : SimilarFields shapes fs gs)
    (hs : shapes.lookup key = some s) :
    ∃ v w, fs.lookup key = some v ∧ gs.lookup key = some w ∧ Similar s v w := by
  induction shapes generalizing fs gs with
  | nil => cases hs
  | cons field shapes ih =>
    cases h with
    | @cons k s' v w _ fs gs hhead hmore =>
      rw [List.lookup_cons] at hs
      simp only [List.lookup_cons]
      cases hkey : key == k with
      | true =>
        rw [hkey] at hs
        cases hs
        exact ⟨v, w, rfl, rfl, hhead⟩
      | false =>
        rw [hkey] at hs
        exact ih hmore hs

/-- Similar values hold similar values at every path that their shape
has. -/
theorem Similar.lookup? (h : Similar s v w) (hat : s.at? path = some item) :
    ∃ v' w', lookup? path v = .ok (some v') ∧ lookup? path w = .ok (some w')
      ∧ Similar item v' w' := by
  induction path generalizing s v w with
  | nil =>
    cases hat
    exact ⟨v, w, rfl, rfl, h⟩
  | cons key path ih =>
    cases h with
    | record hfields =>
      obtain ⟨s', hs', hat⟩ := Option.bind_eq_some_iff.mp hat
      obtain ⟨v', w', hv, hw, hsimilar⟩ := hfields.lookup hs'
      rw [Template.lookup?, hv, Template.lookup?, hw]
      exact ih hsimilar hat
    | _ => cases hat

/-- Similar values are both true or both false, where a condition may ask. -/
theorem Similar.isTrue_eq :
    ∀ {s v w}, Similar s v w → s.isCondition = true → isTrue v = isTrue w
  | _, _, _, .plain h, _ => congrArg not h
  | _, _, _, .fixed _, _ => rfl
  | _, _, _, .absent, _ => rfl
  | _, _, _, .present h, hasked => h.isTrue_eq hasked
  | _, _, _, .list .nil, _ => rfl
  | _, _, _, .list (.cons _ _), _ => rfl
  | _, _, _, .record .nil, _ => rfl
  | _, _, _, .record (.cons _ _), _ => rfl

/-- What has nothing plain in it is shown the same. -/
theorem Similar.display_eq :
    ∀ {s v w}, Similar s v w → s.isFixed = true → display v = display w
  | _, _, _, .fixed _, _ => rfl
  | _, _, _, .absent, _ => rfl
  | _, _, _, .present h, hfixed => h.display_eq hfixed

/-- What is known of one value narrows the shape under its key. -/
theorem SimilarFields.change {f : Shape → Shape} {key : String} {shapes : List (String × Shape)}
    {fs gs : List (String × Json)} (h : SimilarFields shapes fs gs)
    (hf : ∀ s v w, fs.lookup key = some v → Similar s v w → Similar (f s) v w) :
    SimilarFields (Shape.change f key shapes) fs gs := by
  induction shapes generalizing fs gs with
  | nil => exact h
  | cons field shapes ih =>
    cases h with
    | @cons k s v w _ fs gs hhead hmore =>
      rw [Shape.change]
      simp only [List.lookup_cons] at hf
      cases hkey : key == k with
      | true =>
        rw [if_pos rfl]
        rw [hkey] at hf
        exact .cons (hf s v w rfl hhead) hmore
      | false =>
        rw [if_neg Bool.false_ne_true]
        rw [hkey] at hf
        exact .cons hhead (ih hmore hf)

/-- What counts as true is there. -/
theorem Similar.narrow (h : Similar s v w) {value : Json}
    (hlookup : Template.lookup? path v = .ok (some value)) (htrue : isTrue value = true) :
    Similar (s.narrow path) v w := by
  induction path generalizing s v w with
  | nil =>
    cases hlookup
    cases h with
    | absent => cases htrue
    | present h => exact h
    | free x y => exact .free x y
    | plain h => exact .plain h
    | fixed => exact .fixed _
    | list h => exact .list h
    | record h => exact .record h
  | cons key path ih =>
    cases h with
    | @record shapes fs gs hfields =>
      refine .record (hfields.change fun s v w hv hsimilar => ih hsimilar ?_)
      rw [Template.lookup?, hv] at hlookup
      exact hlookup
    | absent => exact .absent
    | present h => exact .present h
    | free x y => exact .free x y
    | plain h => exact .plain h
    | fixed => exact .fixed _
    | list h => exact .list h

end ApiPages.Template
