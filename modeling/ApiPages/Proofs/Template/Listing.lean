import Mathlib.Data.List.Forall2
import ApiPages.Proofs.Template.Fits
import ApiPages.Proofs.Result

/-!
# Lists in templates

A template shows a list of its data when one tag repeats nodes for the items
and no other tag reads anything at that place (`listing?`). What it renders
is then a text, the rendered items in their order, and a text
(`exists_around`). The two texts come from the nodes that read elsewhere, and
such nodes render the same whatever the list is (`renderNodes_replace`).
-/

namespace ApiPages.Template

/-! ## Values that differ at a path -/

/-- The value with what stands at a path replaced, where the path leads
somewhere. -/
def replace (value : Json) : Path → Json → Json
  | [], _ => value
  | key :: path, .object fields =>
    match fields.lookup key with
    | some v => .object (Json.setField key (replace value path v) fields)
    | none => .object fields
  | _ :: _, v => v

/-- Whether neither of two paths leads through the other's end. -/
def apart : Path → Path → Bool
  | key :: path, key' :: path' => key != key' || apart path path'
  | _, _ => false

variable {key key' name : String} {path path' : Path} {v value old : Json}
  {fields : List (String × Json)}

/-- What stands at a path does not change a value apart from it. -/
theorem lookup?_replace_of_apart (h : apart path path' = true) :
    lookup? path' (replace value path v) = lookup? path' v := by
  induction path generalizing path' v with
  | nil => cases h
  | cons key path ih =>
    cases path' with
    | nil => cases h
    | cons key' path' =>
      cases v with
      | object fields =>
        rw [replace]
        split
        next found hfound =>
          rw [lookup?, lookup?]
          by_cases hkey : key = key'
          · subst hkey
            rw [Json.lookup_setField, hfound]
            exact ih (by simpa [apart] using h)
          · rw [Json.lookup_setField_of_ne hkey]
        next => rfl
      | _ => rfl

/-- A replaced value is found. -/
theorem lookup?_replace (h : lookup? path v = .ok (some old)) :
    lookup? path (replace value path v) = .ok (some value) := by
  induction path generalizing v with
  | nil => rfl
  | cons key path ih =>
    cases v with
    | object fields =>
      rw [lookup?] at h
      rw [replace]
      cases hfound : fields.lookup key with
      | none =>
        rw [hfound] at h
        cases h
      | some found =>
        rw [hfound] at h
        rw [lookup?, Json.lookup_setField]
        exact ih h
    | _ => cases h

/-- Replacing below a key commutes with making the value of a part. -/
theorem partValue_replace :
    partValue (replace value (key :: path) v) = replace value (key :: path) (partValue v) := by
  cases v with
  | object fields =>
    rw [partValue, replace]
    cases fields.lookup key with
    | none => rfl
    | some _ => rfl
  | _ => rfl

/-- The value of a part has all that its record has. -/
theorem lookup?_partValue (h : lookup? (key :: path) v = .ok (some value)) :
    lookup? (key :: path) (partValue v) = .ok (some value) := by
  cases v with
  | object fields => exact h
  | _ => cases h

/-! ## Nodes that read elsewhere -/

mutual

/-- Whether a node reads nothing at a path, on the way to it, or below it. -/
def Node.avoids (path : Path) : Node → Bool
  | .text _ => true
  | .value _ read _ => apart path read
  | .given _ read yes no => apart path read && avoidsAll path yes && avoidsAll path no
  | .each _ read _ => apart path read
  | .unlessLast body => avoidsAll path body
  | .part _ body => avoidsAll path body

/-- Whether none of some nodes reads there. -/
def avoidsAll (path : Path) : List Node → Bool
  | [] => true
  | n :: more => n.avoids path && avoidsAll path more

end

/-- Nothing else changes: paths apart from the replaced one find what they found. -/
theorem Scope.lookup?_replace {isLast : Bool} {place : Position}
    (h : apart path path' = true) :
    Scope.lookup? ⟨name, replace value path v, isLast⟩ place path'
      = Scope.lookup? ⟨name, v, isLast⟩ place path' := by
  rw [Scope.lookup?, Scope.lookup?, lookup?_replace_of_apart h]

mutual

/-- So a node that avoids a path renders the same whatever stands there. -/
theorem renderNode_replace (name : String) (isLast : Bool) : ∀ (n : Node) {v},
    n.avoids (key :: path) = true →
      renderNode ⟨name, replace value (key :: path) v, isLast⟩ n = renderNode ⟨name, v, isLast⟩ n
  | .text _, _, _ => rfl
  | .value .., _, h => by
    rw [renderNode, renderNode, Scope.lookup?_replace h]
  | .given _ _ yes no, _, h => by
    simp only [Node.avoids, Bool.and_eq_true] at h
    rw [renderNode, renderNode, Scope.lookup?_replace h.1.1,
      renderNodes_replace name isLast yes h.1.2, renderNodes_replace name isLast no h.2]
  | .each .., _, h => by
    rw [renderNode, renderNode, Scope.lookup?_replace h]
  | .unlessLast body, _, h => by
    rw [renderNode, renderNode, renderNodes_replace name isLast body h]
  | .part inner body, _, h => by
    rw [renderNode, renderNode]
    show renderNodes ⟨inner, partValue (replace _ _ _), false⟩ body = _
    rw [partValue_replace]
    exact renderNodes_replace inner false body h

/-- Nodes that read elsewhere render the same whatever stands at a path. -/
theorem renderNodes_replace (name : String) (isLast : Bool) : ∀ (nodes : List Node) {v},
    avoidsAll (key :: path) nodes = true →
      renderNodes ⟨name, replace value (key :: path) v, isLast⟩ nodes
        = renderNodes ⟨name, v, isLast⟩ nodes
  | [], _, _ => rfl
  | n :: more, _, h => by
    rw [avoidsAll, Bool.and_eq_true] at h
    rw [renderNodes, renderNodes, renderNode_replace name isLast n h.1,
      renderNodes_replace name isLast more h.2]

end

/-! ## The list -/

/-- How a template shows a list: what it repeats for the items, and the texts
before and after them, which an empty list goes without. -/
structure Listing where
  body : List Node
  opening : String
  closing : String

/-- The list in the page, from its rendered items. -/
def Listing.text (l : Listing) (items : List String) : String :=
  if items.isEmpty then "" else l.opening ++ String.join items ++ l.closing

mutual

/-- How a node shows the list at a path. -/
def Node.listing? (path : Path) : Node → Option Listing
  | .each _ read body => if read = path then some ⟨body, "", ""⟩ else none
  | .given _ asked [.text opening, .each _ read body, .text closing] [] =>
    if asked = path ∧ read = path then some ⟨body, opening, closing⟩ else none
  | .part _ nodes => listing? path nodes
  | _ => none

/-- How nodes show the list at a path, when one of them does and the others
read elsewhere. -/
def listing? (path : Path) : List Node → Option Listing
  | [] => none
  | n :: more =>
    if n.avoids path then listing? path more
    else if avoidsAll path more then n.listing? path else none

end

/-- Items that the nodes repeated for them turn into some texts, whichever
place they have in the list. -/
def Listing.Renders (l : Listing) : List Json → List String → Prop :=
  List.Forall₂ fun item text => ∀ name isLast, renderNodes ⟨name, item, isLast⟩ l.body = .ok text

/-- When each item renders as a text of its own, the list renders as these texts. -/
theorem Listing.renders_map {α : Type} {l : Listing} {value : α → Json} {text : α → String}
    (h : ∀ x name isLast, renderNodes ⟨name, value x, isLast⟩ l.body = .ok (text x))
    (xs : List α) : l.Renders (xs.map value) (xs.map text) := by
  rw [Renders, List.forall₂_map_left_iff, List.forall₂_map_right_iff]
  exact List.forall₂_same.mpr fun x _ => h x

/-- A page with a list in it: one text before the list and one after it,
whatever the items are. -/
def Listing.Stands (l : Listing) (page : List Json → Except Fault String) : Prop :=
  ∃ before after, ∀ items texts, l.Renders items texts →
    page items = .ok (before ++ l.text texts ++ after)

section Steps

variable {l : Listing} {n : Node} {more body : List Node} {out before : String} {isLast : Bool}
  {place : Position} {items : List Json} {texts : List String}

/-- Repeating something that does not depend on the place in the list. -/
theorem renderEach_eq_join {body : Json → Bool → Except Fault String}
    (h : List.Forall₂ (fun item text => ∀ isLast, body item isLast = .ok text) items texts) :
    renderEach body items = .ok (String.join texts) := by
  induction h with
  | nil => rw [renderEach, String.join_nil]
  | @cons item text items texts hitem hmore ih =>
    cases items with
    | nil =>
      cases hmore
      rw [renderEach, hitem, String.join_cons, String.join_nil, String.append_empty]
    | cons next items =>
      rw [renderEach, hitem, ih, String.join_cons]
      · rfl
      · intro hnil
        cases hnil

/-- Nodes that were rendered were rendered one after another. -/
theorem exists_of_renderNodes_cons {scope : Scope} (h : renderNodes scope (n :: more) = .ok out) :
    ∃ first rest, renderNode scope n = .ok first ∧ renderNodes scope more = .ok rest := by
  rw [renderNodes] at h
  obtain ⟨first, hfirst, h⟩ := exists_of_bind_eq_ok h
  obtain ⟨rest, hrest, _⟩ := exists_of_bind_eq_ok h
  exact ⟨first, rest, hfirst, hrest⟩

/-- A list renders as the texts of its items, without anything between. -/
theorem renderNode_each_eq_join {scope : Scope}
    (hat : lookup? path scope.current = .ok (some (.array items)))
    (hitems : l.Renders items texts) :
    renderNode scope (.each place path l.body) = .ok (String.join texts) := by
  rw [renderNode_each hat]
  exact renderEach_eq_join (hitems.imp fun _ _ h isLast => h scope.template isLast)

/-- Nodes that read elsewhere stand before the list. -/
theorem Listing.Stands.skip (hn : n.avoids (key :: path) = true)
    (hfirst : renderNode ⟨name, v, isLast⟩ n = .ok before)
    (hmore : l.Stands fun items =>
      renderNodes ⟨name, replace (.array items) (key :: path) v, isLast⟩ more) :
    l.Stands fun items =>
      renderNodes ⟨name, replace (.array items) (key :: path) v, isLast⟩ (n :: more) := by
  obtain ⟨start, after, hstands⟩ := hmore
  refine ⟨before ++ start, after, fun items texts hitems => ?_⟩
  show renderNodes _ (n :: more) = _
  rw [renderNodes_cons_eq_ok ((renderNode_replace name isLast n hn).trans hfirst)
    (hstands items texts hitems)]
  simp only [String.append_assoc]

/-- Nodes that read elsewhere stand after the list. -/
theorem Listing.Stands.stop {after : String} (hmore : avoidsAll (key :: path) more = true)
    (hrest : renderNodes ⟨name, v, isLast⟩ more = .ok after)
    (hn : l.Stands fun items =>
      renderNode ⟨name, replace (.array items) (key :: path) v, isLast⟩ n) :
    l.Stands fun items =>
      renderNodes ⟨name, replace (.array items) (key :: path) v, isLast⟩ (n :: more) := by
  obtain ⟨before, close, hstands⟩ := hn
  refine ⟨before, close ++ after, fun items texts hitems => ?_⟩
  show renderNodes _ (n :: more) = _
  rw [renderNodes_cons_eq_ok (hstands items texts hitems)
    ((renderNodes_replace name isLast more hmore).trans hrest)]
  simp only [String.append_assoc]

/-- A condition is a listing when it asks for its list and has it as its only
branch, between two texts. -/
theorem exists_of_listing?_given {asked : Path} {yes no : List Node}
    (h : (Node.given place asked yes no).listing? path = some l) :
    ∃ inner, asked = path ∧ no = []
      ∧ yes = [.text l.opening, .each inner path l.body, .text l.closing] := by
  unfold Node.listing? at h
  split at h
  next heq => cases heq
  next heq =>
    cases heq
    rw [Option.ite_none_right_eq_some] at h
    obtain ⟨⟨rfl, rfl⟩, ⟨⟩⟩ := h
    exact ⟨_, rfl, rfl, rfl⟩
  next heq => cases heq
  next => cases h

/-- An empty list counts as false, and the texts around it go with it. -/
theorem stands_given {inner : Position} (hat : lookup? path v = .ok (some old)) :
    l.Stands fun items =>
      renderNode ⟨name, replace (.array items) path v, isLast⟩
        (.given place path [.text l.opening, .each inner path l.body, .text l.closing] []) := by
  refine ⟨"", "", fun items texts hitems => ?_⟩
  show renderNode _ _ = _
  rw [renderNode_given (lookup?_replace hat), Listing.text]
  have hlist (scope : Scope) (h : scope.current = replace (.array items) path v) :
      renderNode scope (.each inner path l.body) = .ok (String.join texts) :=
    renderNode_each_eq_join (h ▸ lookup?_replace hat) hitems
  cases hitems with
  | nil => rfl
  | cons =>
    refine (renderNodes_cons_eq_ok rfl <| renderNodes_cons_eq_ok (hlist _ rfl) <|
      renderNodes_cons_eq_ok rfl rfl).trans ?_
    simp [String.append_assoc]

end Steps

mutual

theorem stands_of_node_listing? (name : String) (isLast : Bool) : ∀ (n : Node) {l v out},
    n.listing? (key :: path) = some l → lookup? (key :: path) v = .ok (some old) →
      renderNode ⟨name, v, isLast⟩ n = .ok out →
        l.Stands fun items => renderNode ⟨name, replace (.array items) (key :: path) v, isLast⟩ n
  | .text _, _, _, _, hl, _, _ => by cases hl
  | .value .., _, _, _, hl, _, _ => by cases hl
  | .unlessLast _, _, _, _, hl, _, _ => by cases hl
  | .each _ _ body, _, _, _, hl, hat, _ => by
    rw [Node.listing?, Option.ite_none_right_eq_some] at hl
    obtain ⟨rfl, ⟨⟩⟩ := hl
    refine ⟨"", "", fun items texts hitems =>
      (renderNode_each_eq_join (lookup?_replace hat) hitems).trans ?_⟩
    rw [Listing.text]
    cases hitems with
    | nil => rfl
    | cons => simp
  | .given .., _, _, _, hl, hat, _ => by
    obtain ⟨inner, rfl, rfl, rfl⟩ := exists_of_listing?_given hl
    exact stands_given hat
  | .part inner nodes, l, v, _, hl, hat, hout => by
    have hpart : l.Stands fun items => renderNodes _ nodes :=
      stands_of_listing? inner false nodes hl (lookup?_partValue hat) hout
    simpa only [renderNode, partValue_replace] using hpart

/-- A template that shows a list shows it between two texts that do not
depend on its items: no item is lost, repeated, moved or changed by what
stands around it. -/
theorem stands_of_listing? (name : String) (isLast : Bool) : ∀ (nodes : List Node) {l v out},
    listing? (key :: path) nodes = some l → lookup? (key :: path) v = .ok (some old) →
      renderNodes ⟨name, v, isLast⟩ nodes = .ok out →
        l.Stands fun items =>
          renderNodes ⟨name, replace (.array items) (key :: path) v, isLast⟩ nodes
  | [], _, _, _, hl, _, _ => by cases hl
  | n :: more, _, _, _, hl, hat, hout => by
    obtain ⟨first, rest, hfirst, hrest⟩ := exists_of_renderNodes_cons hout
    rw [listing?] at hl
    split at hl
    next hn => exact .skip hn hfirst (stands_of_listing? name isLast more hl hat hrest)
    next =>
      obtain ⟨hmore, hl⟩ := Option.ite_none_right_eq_some.mp hl
      exact .stop hmore hrest (stands_of_node_listing? name isLast n hl hat hfirst)

end

end ApiPages.Template
