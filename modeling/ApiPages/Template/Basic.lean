import ApiPages.Json.Printer
import ApiPages.Text.Markup

/-!
# Templates

A template is a tree of text and tags over a JSON value, the current one.
Tags insert a value (`value`), keep or drop a part of the page (`given`),
repeat one for the items of a list (`each`), or insert another template as
it stands (`part`). Nothing else happens: there is no state, and a template
cannot name itself, so rendering is structural recursion.

Rendering is strict. A value that the data does not hold is a fault, never
an empty text; only the condition of `given` may be absent, and counts as
false. A fault names the innermost template and the place of the tag in it.
-/

namespace ApiPages.Template

/-- The place of a tag: line and column, both counted from one. -/
structure Position where
  line : Nat
  column : Nat
  deriving DecidableEq, Repr

/-- The keys from the current value to another; none for the value
itself. -/
abbrev Path := List String

/-- Whether an inserted value is escaped. -/
inductive Form where
  | escaped
  | asIs
  deriving DecidableEq, Repr

/-- A piece of a template. -/
inductive Node where
  /-- Text that stands in the page as it is. -/
  | text (content : String)
  /-- The value at a path. -/
  | value (place : Position) (path : Path) (form : Form)
  /-- The first nodes when the value at the path counts as true, the second
  when it does not. -/
  | given (place : Position) (path : Path) (yes no : List Node)
  /-- The nodes once for each item at the path, which is current in
  them. -/
  | each (place : Position) (path : Path) (body : List Node)
  /-- The nodes, except for the last item of the list around them. -/
  | unlessLast (body : List Node)
  /-- Another template. -/
  | part (name : String) (body : List Node)
  deriving Repr

end ApiPages.Template

namespace ApiPages

/-- A named template. -/
structure Template where
  name : String
  nodes : List Template.Node
  deriving Repr

namespace Template

/-- A template as a part of another. -/
def node (t : Template) : Node := .part t.name t.nodes

/-- Why a tag cannot be rendered. -/
inductive Reason where
  /-- The data holds nothing at the path, or nothing to repeat. -/
  | missing (path : Path)
  /-- A key is asked of a list. -/
  | keyOfList (key : String)
  deriving DecidableEq, Repr

/-- The wording of a reason. -/
def Reason.message : Reason → String
  | missing path =>
    "Failed to access variable in strict mode Some(\"" ++ ".".intercalate path ++ "\")"
  | keyOfList key => "Cannot access array/vector with string index, " ++ key

/-- A reason with the template and the tag that met it. -/
structure Fault where
  template : String
  place : Position
  reason : Reason
  deriving DecidableEq, Repr

/-- The wording of a fault. -/
def Fault.message (f : Fault) : String :=
  "Error rendering \"" ++ f.template ++ "\" line " ++ toString f.place.line ++ ", col "
    ++ toString f.place.column ++ ": " ++ f.reason.message

/-- The value at a path, when there is one. -/
def lookup? : Path → Json → Except Reason (Option Json)
  | [], v => .ok (some v)
  | key :: path, .object fields =>
    match fields.lookup key with
    | some v => lookup? path v
    | none => .ok none
  | key :: _, .array _ => .error (.keyOfList key)
  | _ :: _, _ => .ok none

/-- Whether a value counts as true: not zero and not empty. -/
def isTrue : Json → Bool
  | .null => false
  | .bool b => b
  | .number (.whole i) => i != 0
  | .number (.double x) => x.isNormal
  | .string s => !s.isEmpty
  | .array items => !items.isEmpty
  | .object fields => !fields.isEmpty

mutual

/-- A value as text. -/
def display : Json → String
  | .null => ""
  | .bool true => "true"
  | .bool false => "false"
  | .number n => n.text
  | .string s => s
  | .array items => "[" ++ displayItems items ++ "]"
  | .object _ => "[object]"

/-- Items as text, with commas between them. -/
def displayItems : List Json → String
  | [] => ""
  | [v] => display v
  | v :: more => display v ++ ", " ++ displayItems more

end

/-- What `each` repeats for: the items of a list or the values of an
object. -/
def itemsOf? : Json → Option (List Json)
  | .array items => some items
  | .object fields => some (fields.map Prod.snd)
  | _ => none

/-- The value that is current in a part: the current object, and an empty
one when the current value is no object. -/
def partValue : Json → Json
  | .object fields => .object fields
  | _ => .object []

/-- What a node reads. -/
structure Scope where
  /-- The name of the template. -/
  template : String
  /-- The current value. -/
  current : Json
  /-- Whether the current value is the last item of its list. -/
  isLast : Bool

/-- The value at a path of a scope; a fault carries the tag's place. -/
def Scope.lookup? (scope : Scope) (place : Position) (path : Path) :
    Except Fault (Option Json) :=
  (Template.lookup? path scope.current).mapError (Fault.mk scope.template place)

/-- Renders something for each item, telling it whether the item is the
last. -/
def renderEach (body : Json → Bool → Except Fault String) : List Json → Except Fault String
  | [] => .ok ""
  | [v] => body v true
  | v :: more => do
    let first ← body v false
    let rest ← renderEach body more
    .ok (first ++ rest)

mutual

/-- Renders one node. -/
def renderNode (scope : Scope) : Node → Except Fault String
  | .text content => .ok content
  | .value place path form => do
    match ← scope.lookup? place path with
    | none => .error ⟨scope.template, place, .missing path⟩
    | some v =>
      match form with
      | .escaped => .ok (Text.escapeValue (display v))
      | .asIs => .ok (display v)
  | .given place path yes no => do
    let v ← scope.lookup? place path
    if v.any isTrue then renderNodes scope yes else renderNodes scope no
  | .each place path body => do
    let v ← scope.lookup? place path
    match v.bind itemsOf? with
    | none => .error ⟨scope.template, place, .missing path⟩
    | some items =>
      renderEach (fun v isLast => renderNodes { scope with current := v, isLast } body) items
  | .unlessLast body => if scope.isLast then .ok "" else renderNodes scope body
  | .part name body => renderNodes ⟨name, partValue scope.current, false⟩ body

/-- Renders nodes one after another. -/
def renderNodes (scope : Scope) : List Node → Except Fault String
  | [] => .ok ""
  | n :: more => do
    let first ← renderNode scope n
    let rest ← renderNodes scope more
    .ok (first ++ rest)

end

/-- Renders a template with a value. -/
def render (t : Template) (data : Json) : Except Fault String :=
  renderNodes ⟨t.name, data, false⟩ t.nodes

end ApiPages.Template
