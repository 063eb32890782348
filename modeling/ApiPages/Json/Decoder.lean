import ApiPages.Json.Printer
import ApiPages.Text.Quoted

/-!
# Decoding JSON values

A `Decoder α` turns a value into an `α` or says why not. Objects are read in
the order of their keys, so of two faults the one at the earlier key is
reported, and a missing field only when no key that is there has a fault;
`Fault` carries the rank that decides this.

`Fields` describes the fields of a record once and reads them in both forms
a document may use: an object with keys, or a list in declaration order.
Unknown keys are ignored, and an absent field with a default takes it. A
record may also spread a shared part over its own object (`withShared`):
then its own fields are read first, and what no own field claimed is held
back for the shared part. `Reading` tells the two situations apart, because
two faults are worded differently in them.
-/

namespace ApiPages.Json

/-- What a value is, as a message shows it. -/
def found : Json → String
  | null => "null"
  | bool b => "boolean `" ++ (if b then "true" else "false") ++ "`"
  | number (.whole i) => "integer `" ++ toString i ++ "`"
  | number (.double x) => "floating point `" ++ x.text ++ "`"
  | string s => "string " ++ Text.quoted s
  | array _ => "sequence"
  | object _ => "map"

/-- Why a value does not decode. -/
inductive DecodeError where
  /-- A value of another kind. -/
  | wrongType (found expected : String)
  /-- A value of the right kind that is out of bounds. -/
  | wrongValue (found expected : String)
  /-- A list of the wrong length. -/
  | wrongLength (length : Nat) (expected : String)
  /-- A field without default is absent. -/
  | missingField (name : String)
  /-- No alternative has this tag. -/
  | unknownVariant (name : String) (known : List String)
  /-- No alternative has this form. -/
  | noVariant (union : String)
  deriving DecidableEq, Repr

/-- Words of a list, each in backticks, with commas between them. -/
def tickedList (names : List String) : String :=
  ", ".intercalate (names.map fun n => "`" ++ n ++ "`")

/-- The wording of a decoding error. -/
def DecodeError.message : DecodeError → String
  | wrongType found expected => "invalid type: " ++ found ++ ", expected " ++ expected
  | wrongValue found expected => "invalid value: " ++ found ++ ", expected " ++ expected
  | wrongLength n expected => "invalid length " ++ toString n ++ ", expected " ++ expected
  | missingField name => "missing field `" ++ name ++ "`"
  | unknownVariant name known =>
    "unknown variant `" ++ name ++ "`, "
      ++ (if known.length == 1 then "expected " else "expected one of ") ++ tickedList known
  | noVariant union => "data did not match any variant of untagged enum " ++ union

/-- How a value came to its decoder. -/
inductive Reading where
  /-- Straight from the document. -/
  | direct
  /-- Held back while the other fields of its object were read. -/
  | held
  deriving DecidableEq, Repr

/-- Turns a value into an `α` or says why not. -/
abbrev Decoder (α : Type) := Reading → Json → Except DecodeError α

namespace Decoder

/-! ## Plain values -/

/-- Any value, as it is. -/
def any : Decoder Json := fun _ v => .ok v

/-- A string. -/
def text : Decoder String := fun _ v =>
  match v with
  | string s => .ok s
  | _ => .error (.wrongType v.found "a string")

/-- A boolean. -/
def flag : Decoder Bool := fun _ v =>
  match v with
  | bool b => .ok b
  | _ => .error (.wrongType v.found "a boolean")

/-- A whole number from zero up to, but not including, `bound`. -/
def natural (bound : Nat) (kind : String) : Decoder Nat := fun _ v =>
  match v with
  | number (.whole i) =>
    if 0 ≤ i ∧ i.toNat < bound then .ok i.toNat else .error (.wrongValue v.found kind)
  | _ => .error (.wrongType v.found kind)

/-- A whole number of 64 bits. -/
def size : Decoder Nat := natural (Nat.pow 2 64) "usize"

/-- A whole number of 32 bits. -/
def position : Decoder Nat := natural (Nat.pow 2 32) "u32"

/-- Decodes items in order; the first fault ends it. -/
def items (item : Decoder α) (reading : Reading) : List Json → Except DecodeError (List α)
  | [] => .ok []
  | v :: more =>
    match item reading v with
    | .error e => .error e
    | .ok a =>
      match items item reading more with
      | .error e => .error e
      | .ok as => .ok (a :: as)

/-- A list of things. -/
def list (item : Decoder α) : Decoder (List α) := fun reading v =>
  match v with
  | array vs => items item reading vs
  | _ => .error (.wrongType v.found "a sequence")

/-- A thing, or `null`. -/
def nullable (item : Decoder α) : Decoder (Option α) := fun reading v =>
  match v with
  | null => .ok none
  | _ => (item reading v).map some

/-! ## Fields -/

/-- A fault among an object's fields, with its rank: the place of the key
for a value that does not decode, the object's size for an absent one. -/
structure Fault where
  rank : Nat
  error : DecodeError

/-- The fault that is met first; of two with one rank the left one. -/
def Fault.first (a b : Fault) : Fault := if b.rank < a.rank then b else a

/-- The fields of a record, readable by key and by position. -/
structure Fields (α : Type) where
  /-- The keys, in declaration order. -/
  names : List String
  /-- Reads from an object's fields. -/
  ofObject : Reading → List (String × Json) → Except Fault α
  /-- Reads from a list, given the number of items read before and the
  record's description; answers what is left. -/
  ofItems : Reading → Nat → String → List Json → Except DecodeError (α × List Json)

/-- The value under a key, with the key's place. -/
def findField (key : String) (place : Nat) : List (String × Json) → Option (Nat × Json)
  | [] => none
  | (k, v) :: more => if k = key then some (place, v) else findField key (place + 1) more

namespace Fields

/-- No field at all. -/
def pure (a : α) : Fields α where
  names := []
  ofObject _ _ := .ok a
  ofItems _ _ _ vs := .ok (a, vs)

/-- The fields of a function and of its argument. -/
def seq (f : Fields (α → β)) (x : Fields α) : Fields β where
  names := f.names ++ x.names
  ofObject reading o :=
    match f.ofObject reading o, x.ofObject reading o with
    | .ok g, .ok a => .ok (g a)
    | .ok _, .error e => .error e
    | .error e, .ok _ => .error e
    | .error e, .error e' => .error (e.first e')
  ofItems reading n shape vs :=
    match f.ofItems reading n shape vs with
    | .error e => .error e
    | .ok (g, vs) =>
      match x.ofItems reading (n + f.names.length) shape vs with
      | .error e => .error e
      | .ok (a, vs) => .ok (g a, vs)

/-- One field. When it is absent, `absent` answers for an object and
`tooShort` for a list. -/
def single (name : String) (item : Decoder α) (absent : Except DecodeError α)
    (tooShort : Option α) : Fields α where
  names := [name]
  ofObject reading o :=
    match findField name 0 o with
    | some (place, v) => (item reading v).mapError (Fault.mk place)
    | none => absent.mapError (Fault.mk o.length)
  ofItems reading n shape vs :=
    match vs with
    | v :: vs => (item reading v).map fun a => (a, vs)
    | [] =>
      match tooShort with
      | some a => .ok (a, [])
      | none => .error (.wrongLength n shape)

/-- A field that has to be there. -/
def required (name : String) (item : Decoder α) : Fields α :=
  single name item (.error (.missingField name)) none

/-- A field that has a default. -/
def withDefault (name : String) (item : Decoder α) (default : α) : Fields α :=
  single name item (.ok default) (some default)

/-- A field that is `none` when absent or `null`. -/
def optional (name : String) (item : Decoder α) : Fields (Option α) :=
  withDefault name (nullable item) none

/-- A field that is `none` when its key is absent or its value `null`; a
list has to hold it. -/
def optionalKey (name : String) (item : Decoder α) : Fields (Option α) :=
  single name (nullable item) (.ok none) none

end Fields

instance : Functor Fields where
  map f x := Fields.seq (Fields.pure f) x

instance : Applicative Fields where
  pure := Fields.pure
  seq f x := Fields.seq f (x ())

/-! ## Records -/

/-- A count of things in words. -/
def counted (n : Nat) (thing : String) : String :=
  toString n ++ " " ++ thing ++ (if n == 1 then "" else "s")

/-- The fields of a record from an object. -/
def ofFields (fields : Fields α) (reading : Reading) (o : List (String × Json)) :
    Except DecodeError α :=
  (fields.ofObject reading o).mapError Fault.error

/-- A record, given as an object or as a list of its fields. -/
def record (name : String) (fields : Fields α) : Decoder α := fun reading v =>
  match v with
  | object o => ofFields fields reading o
  | array vs =>
    let n := fields.names.length
    match fields.ofItems reading 0 ("struct " ++ name ++ " with " ++ counted n "element") vs with
    | .error e => .error e
    | .ok (a, []) => .ok a
    | .ok (_, _ :: _) =>
      .error (.wrongLength vs.length (match reading with
        | .direct => "fewer elements in array"
        | .held => counted n "element" ++ " in sequence"))
  | _ => .error (.wrongType v.found ("struct " ++ name))

/-- A record that spreads a shared part over its object: its own fields
first, then the shared ones from the keys that are left. -/
def withShared (name : String) (own : Fields (σ → α)) (shared : Fields σ) : Decoder α :=
  fun reading v =>
    match v with
    | object o =>
      match ofFields own reading o with
      | .error e => .error e
      | .ok f =>
        (ofFields shared .held (o.filter fun field => !own.names.contains field.1)).map f
    | _ => .error (.wrongType v.found ("struct " ++ name))

/-! ## Alternatives -/

/-- One of some named constants: the name as a string, or an object with
the name as its only key and nothing under it. -/
def constant (known : List (String × α)) : Decoder α := fun reading v =>
  let named (name : String) : Except DecodeError α :=
    match known.lookup name with
    | some a => .ok a
    | none => .error (.unknownVariant name (known.map Prod.fst))
  match v with
  | string name => named name
  | object [(name, payload)] =>
    match named name with
    | .error e => .error e
    | .ok a =>
      match payload, reading with
      | null, _ => .ok a
      | object [], .held => .ok a
      | _, _ => .error (.wrongType payload.found "unit")
  | object _ => .error (.wrongValue v.found "map with a single key")
  | _ => .error (.wrongType v.found "string or map")

/-- Alternatives told apart by a tag among the fields, or by the first item
of a list. -/
def tagged (union tag : String) (cases : List (String × Decoder α)) : Decoder α :=
  let choose (t payload : Json) : Except DecodeError α :=
    match t with
    | string name =>
      match cases.lookup name with
      | some d => d .held payload
      | none => .error (.unknownVariant name (cases.map Prod.fst))
    | _ => .error (.wrongType t.found "variant identifier")
  fun _ v =>
    match v with
    | object o =>
      match o.lookup tag with
      | some t => choose t (object (o.filter fun field => field.1 ≠ tag))
      | none => .error (.missingField tag)
    | array (t :: more) => choose t (array more)
    | array [] => .error (.missingField tag)
    | _ => .error (.wrongType v.found ("internally tagged enum " ++ union))

end Decoder

end ApiPages.Json
