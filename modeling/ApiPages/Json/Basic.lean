import ApiPages.Decimal.Binary64

/-!
# JSON values

A document is read into a `Json` value that keeps the order of an object's
keys: entries are decoded in that order, and which of two faults is reported
depends on it. Numbers are whole numbers of 64 bits or doubles.
-/

namespace ApiPages

/-- A number as the document spells it: whole when it has neither point nor
exponent and fits 64 bits, with or without sign. -/
inductive Number where
  | whole (value : Int)
  | double (value : Decimal.Binary64)
  deriving DecidableEq, Repr

/-- A JSON value; objects keep the order of their keys. -/
inductive Json where
  | null
  | bool (value : Bool)
  | number (value : Number)
  | string (value : String)
  | array (items : List Json)
  | object (fields : List (String × Json))
  deriving Inhabited, Repr

namespace Json

/-- The fields with one of them set: in its place when the key is known, at
the end otherwise. -/
def setField (key : String) (value : Json) : List (String × Json) → List (String × Json)
  | [] => [(key, value)]
  | (k, v) :: more =>
    if k = key then (k, value) :: more else (k, v) :: setField key value more

section

variable {key key' : String} {value : Json} {fields : List (String × Json)}

/-- A field that was set is found with its new value. -/
@[simp] theorem lookup_setField : (setField key value fields).lookup key = some value := by
  induction fields with
  | nil => simp [setField]
  | cons field more ih =>
    obtain ⟨k, v⟩ := field
    rw [setField]
    by_cases hk : k = key
    · rw [if_pos hk, List.lookup_cons, beq_iff_eq.mpr hk.symm]
    · rw [if_neg hk, List.lookup_cons, beq_eq_false_iff_ne.mpr (Ne.symm hk)]
      exact ih

/-- Setting one field leaves the others as they are. -/
theorem lookup_setField_of_ne (hne : key ≠ key') :
    (setField key value fields).lookup key' = fields.lookup key' := by
  induction fields with
  | nil => rw [setField, List.lookup_cons, beq_eq_false_iff_ne.mpr (Ne.symm hne)]
  | cons field more ih =>
    obtain ⟨k, v⟩ := field
    rw [setField]
    by_cases hk : k = key
    · subst hk
      rw [if_pos rfl, List.lookup_cons, List.lookup_cons, beq_eq_false_iff_ne.mpr (Ne.symm hne)]
    · rw [if_neg hk, List.lookup_cons, List.lookup_cons, ih]

end

/-- The value under a key of an object. -/
def get? (key : String) : Json → Option Json
  | object fields => fields.lookup key
  | _ => none

/-- The text of a string value. -/
def asString? : Json → Option String
  | string s => some s
  | _ => none

/-- The keys of an object's fields, in order. -/
def keys (fields : List (String × Json)) : List String := fields.map Prod.fst

mutual

/-- How deep the value nests: a value without parts has depth one. -/
def depth : Json → Nat
  | array items => depthOfItems items + 1
  | object fields => depthOfFields fields + 1
  | _ => 1

/-- The depth of the deepest item. -/
def depthOfItems : List Json → Nat
  | [] => 0
  | v :: more => max v.depth (depthOfItems more)

/-- The depth of the deepest field. -/
def depthOfFields : List (String × Json) → Nat
  | [] => 0
  | (_, v) :: more => max v.depth (depthOfFields more)

end

end Json

end ApiPages
