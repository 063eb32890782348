import ApiPages.Proofs.Template.Shape
import ApiPages.Proofs.Text.Markup

/-!
# Templates that fit the shape of their data

`Shape.fits` checks a template against the shape of its data. It is a check
of the template alone, and it decides two things about every value of the
shape: that each tag finds what it names (`covers_of_fitsAll`), so that
rendering does not fail, and that the plain texts leave no trace among the
characters that make tags and attributes (`alike_of_fitsAll`). Both are by
induction on the template, whatever value is current.
-/

namespace ApiPages.Template

open Text (markup)

mutual

/-- Whether a node finds in each value of the shape what it names, asks for
no text that is only shown, and inserts as they are no plain texts. -/
def Shape.fits : Shape → Node → Bool
  | _, .text _ => true
  | s, .value _ path form => (s.at? path).any fun item => form == .escaped || item.isFixed
  | s, .given _ path yes no =>
    (s.at? path).any Shape.isCondition && (s.narrow path).fitsAll yes && s.fitsAll no
  | s, .each _ path body =>
    match s.at? path with
    | some (.list item) => item.fitsAll body
    | _ => false
  | s, .unlessLast body => s.fitsAll body
  | s, .part _ body => s.isRecord && s.fitsAll body

/-- Whether all of some nodes fit the shape. -/
def Shape.fitsAll : Shape → List Node → Bool
  | _, [] => true
  | s, n :: more => s.fits n && s.fitsAll more

end

mutual

/-- Every tag of a node that is reached with a value finds what it names: a
condition too, and a list where items are repeated. -/
def Covers : Json → Node → Prop
  | _, .text _ => True
  | v, .value _ path _ => ∃ value, lookup? path v = .ok (some value)
  | v, .given _ path yes no =>
    ∃ value, lookup? path v = .ok (some value)
      ∧ if isTrue value then CoversAll v yes else CoversAll v no
  | v, .each _ path body =>
    ∃ items, lookup? path v = .ok (some (.array items)) ∧ ∀ item ∈ items, CoversAll item body
  | v, .unlessLast body => CoversAll v body
  | v, .part _ body => CoversAll (partValue v) body

/-- The same of each of some nodes. -/
def CoversAll : Json → List Node → Prop
  | _, [] => True
  | v, n :: more => Covers v n ∧ CoversAll v more

end

/-- Both renderings succeed, with the same markup. -/
def Alike (x y : Except Fault String) : Prop :=
  ∃ a b, x = .ok a ∧ y = .ok b ∧ markup a = markup b

namespace Alike

variable {x y x' y' : Except Fault String}

/-- Texts with the same markup are alike. -/
theorem ok {a b : String} (h : markup a = markup b) : Alike (.ok a) (.ok b) :=
  ⟨a, b, rfl, rfl, h⟩

/-- Being alike goes both ways. -/
theorem symm (h : Alike x y) : Alike y x := by
  obtain ⟨a, b, hx, hy, hab⟩ := h
  exact ⟨b, a, hy, hx, hab.symm⟩

/-- And in chains. -/
theorem trans (h : Alike x y) (h' : Alike y x') : Alike x x' := by
  obtain ⟨a, b, hx, hy, hab⟩ := h
  obtain ⟨b', c, hy', hx', hbc⟩ := h'
  cases hy.symm.trans hy'
  exact ⟨a, c, hx, hx', hab.trans hbc⟩

/-- Texts that are put together are alike when their parts are. -/
theorem append (h : Alike x y) (h' : Alike x' y') :
    Alike (x >>= fun a => x' >>= fun b => .ok (a ++ b))
      (y >>= fun a => y' >>= fun b => .ok (a ++ b)) := by
  obtain ⟨a, b, rfl, rfl, hab⟩ := h
  obtain ⟨a', b', rfl, rfl, hab'⟩ := h'
  refine ok ?_
  rw [Text.markup_append, Text.markup_append, hab, hab']

end Alike

variable {s item : Shape} {v w value : Json} {path : Path}

/-! ## What fitting says of a tag -/

section Inversion

variable {place : Position} {form : Form} {yes no body : List Node}

/-- A value that fits has a place in the shape, and is escaped or the same in all
alike values. -/
theorem exists_of_fits_value (h : s.fits (.value place path form) = true) :
    ∃ item, s.at? path = some item ∧ (form == .escaped || item.isFixed) = true :=
  Option.any_eq_true _ _ |>.mp h

/-- A condition that fits asks for something that can be true or not, and both its
branches fit, the first one where the condition holds. -/
theorem exists_of_fits_given (h : s.fits (.given place path yes no) = true) :
    (∃ item, s.at? path = some item ∧ item.isCondition = true)
      ∧ (s.narrow path).fitsAll yes = true ∧ s.fitsAll no = true := by
  simp only [Shape.fits, Bool.and_eq_true] at h
  exact ⟨Option.any_eq_true _ _ |>.mp h.1.1, h.1.2, h.2⟩

/-- A list that fits has items whose body fits. -/
theorem exists_of_fits_each (h : s.fits (.each place path body) = true) :
    ∃ item, s.at? path = some (.list item) ∧ item.fitsAll body = true := by
  rw [Shape.fits] at h
  split at h
  next item hat => exact ⟨item, hat, h⟩
  next => cases h

end Inversion

/-! ## What tags render

The tags that read a value, when it is there. -/

section Tags

variable {scope : Scope} {place : Position} {first rest : String} {more yes no : List Node}

/-- What the current value has is not asked of those around it. -/
theorem Scope.lookup?_eq_ok {found : Option Json}
    (h : Template.lookup? path scope.current = .ok found) :
    scope.lookup? place path = .ok found := by
  rw [Scope.lookup?, h]
  rfl

/-- A value is displayed and then escaped. -/
theorem renderNode_escaped (h : lookup? path scope.current = .ok (some value)) :
    renderNode scope (.value place path .escaped) = .ok (Text.escapeValue (display value)) := by
  rw [renderNode, Scope.lookup?_eq_ok h]
  rfl

/-- Or it is displayed as it is. -/
theorem renderNode_asIs (h : lookup? path scope.current = .ok (some value)) :
    renderNode scope (.value place path .asIs) = .ok (display value) := by
  rw [renderNode, Scope.lookup?_eq_ok h]
  rfl

/-- A condition renders the branch of what it found. -/
theorem renderNode_given (h : lookup? path scope.current = .ok (some value)) :
    renderNode scope (.given place path yes no)
      = if isTrue value then renderNodes scope yes else renderNodes scope no := by
  rw [renderNode, Scope.lookup?_eq_ok h]
  rfl

/-- A list renders its body for each item. -/
theorem renderNode_each {items : List Json} {body : List Node}
    (h : lookup? path scope.current = .ok (some (.array items))) :
    renderNode scope (.each place path body)
      = renderEach (fun v isLast => renderNodes { scope with current := v, isLast } body) items := by
  rw [renderNode, Scope.lookup?_eq_ok h]
  rfl

/-- Nodes render one after another. -/
theorem renderNodes_cons_eq_ok {n : Node} (hn : renderNode scope n = .ok first)
    (hmore : renderNodes scope more = .ok rest) :
    renderNodes scope (n :: more) = .ok (first ++ rest) := by
  rw [renderNodes, hn, hmore]
  rfl

end Tags

/-! ## Similar data -/

/-- Repeating something that is alike for similar items. -/
theorem SimilarItems.alike_renderEach {body body' : Json → Bool → Except Fault String}
    {vs ws : List Json} (h : SimilarItems item vs ws)
    (hbody : ∀ v w isLast, Similar item v w → Alike (body v isLast) (body' w isLast)) :
    Alike (renderEach body vs) (renderEach body' ws) := by
  induction vs generalizing ws with
  | nil =>
    cases h
    exact .ok rfl
  | cons v vs ih =>
    cases h with
    | cons hhead hmore =>
      cases hmore with
      | nil => exact hbody _ _ true hhead
      | cons hnext hrest =>
        exact (hbody _ _ false hhead).append (ih (.cons hnext hrest))

/-- Every item has a similar one. -/
theorem SimilarItems.exists_similar {vs ws : List Json} (h : SimilarItems item vs ws)
    (hv : v ∈ vs) : ∃ w, Similar item v w := by
  induction vs generalizing ws with
  | nil => cases hv
  | cons v' vs ih =>
    cases h with
    | cons hhead hmore =>
      cases hv with
      | head => exact ⟨_, hhead⟩
      | tail _ hv => exact ih hmore hv

/-- What a part is rendered from is similar when the records are. -/
theorem Similar.partValue (h : Similar s v w) (hs : s.isRecord = true) :
    Similar s (partValue v) (partValue w) := by
  cases h with
  | record hfields => exact .record hfields
  | _ => cases hs

/-! ## Rendering

One lemma for each tag that reads a value, then the template by recursion. -/

section Steps

variable {name : String} {place : Position} {isLast : Bool}

/-- Similar records render a fitting value alike. -/
theorem alike_value {form : Form} (hfits : s.fits (.value place path form) = true)
    (h : Similar s v w) :
    Alike (renderNode ⟨name, v, isLast⟩ (.value place path form))
      (renderNode ⟨name, w, isLast⟩ (.value place path form)) := by
  obtain ⟨item, hat, hform⟩ := exists_of_fits_value hfits
  obtain ⟨v', w', hv, hw, hsimilar⟩ := h.lookup? hat
  cases form with
  | escaped =>
    rw [renderNode_escaped hv, renderNode_escaped hw]
    refine .ok ?_
    rw [Text.markup_escapeValue, Text.markup_escapeValue]
  | asIs =>
    rw [renderNode_asIs hv, renderNode_asIs hw]
    exact .ok (congrArg markup (hsimilar.display_eq hform))

/-- They render a fitting condition alike when they do so for its branches. -/
theorem alike_given {yes no : List Node}
    (hfits : s.fits (.given place path yes no) = true) (h : Similar s v w)
    (hyes : Similar (s.narrow path) v w →
      Alike (renderNodes ⟨name, v, isLast⟩ yes) (renderNodes ⟨name, w, isLast⟩ yes))
    (hno : Alike (renderNodes ⟨name, v, isLast⟩ no) (renderNodes ⟨name, w, isLast⟩ no)) :
    Alike (renderNode ⟨name, v, isLast⟩ (.given place path yes no))
      (renderNode ⟨name, w, isLast⟩ (.given place path yes no)) := by
  obtain ⟨⟨item, hat, hasked⟩, _⟩ := exists_of_fits_given hfits
  obtain ⟨v', w', hv, hw, hsimilar⟩ := h.lookup? hat
  -- The condition holds of both values or of neither, so both take one branch.
  have htrue : isTrue v' = isTrue w' := hsimilar.isTrue_eq hasked
  rw [renderNode_given hv, renderNode_given hw, ← htrue]
  cases hv' : isTrue v' with
  | true => exact hyes (h.narrow hv hv')
  | false => exact hno

/-- And a fitting list when they do so for its body. -/
theorem alike_each {body : List Node} (hfits : s.fits (.each place path body) = true)
    (h : Similar s v w)
    (hbody : ∀ item, item.fitsAll body = true → ∀ v w isLast, Similar item v w →
      Alike (renderNodes ⟨name, v, isLast⟩ body) (renderNodes ⟨name, w, isLast⟩ body)) :
    Alike (renderNode ⟨name, v, isLast⟩ (.each place path body))
      (renderNode ⟨name, w, isLast⟩ (.each place path body)) := by
  obtain ⟨item, hat, hitem⟩ := exists_of_fits_each hfits
  obtain ⟨v', w', hv, hw, hlist⟩ := h.lookup? hat
  cases hlist with
  | list hitems =>
    rw [renderNode_each hv, renderNode_each hw]
    exact hitems.alike_renderEach (hbody item hitem)

end Steps

mutual

/-- A node that fits a shape renders similar values of the shape alike. -/
theorem alike_of_fits (name : String) (isLast : Bool) : ∀ (n : Node) {s v w},
    s.fits n = true → Similar s v w →
      Alike (renderNode ⟨name, v, isLast⟩ n) (renderNode ⟨name, w, isLast⟩ n)
  | .text _, _, _, _, _, _ => .ok rfl
  | .value .., _, _, _, hfits, h => alike_value hfits h
  | .given _ path yes no, s, v, w, hfits, h => by
    obtain ⟨_, hyes, hno⟩ := exists_of_fits_given hfits
    exact alike_given hfits h (alike_of_fitsAll name isLast yes hyes)
      (alike_of_fitsAll name isLast no hno h)
  | .each _ _ body, _, _, _, hfits, h =>
    alike_each hfits h fun _ hitem _ _ isLast => alike_of_fitsAll name isLast body hitem
  | .unlessLast body, s, v, w, hfits, h => by
    rw [renderNode, renderNode]
    cases isLast with
    | true => exact .ok rfl
    | false => exact alike_of_fitsAll name false body hfits h
  | .part inner body, s, v, w, hfits, h => by
    rw [Shape.fits, Bool.and_eq_true] at hfits
    exact alike_of_fitsAll inner false body hfits.2 (h.partValue hfits.1)

/-- A template that fits a shape renders similar values of the shape
alike. -/
theorem alike_of_fitsAll (name : String) (isLast : Bool) : ∀ (nodes : List Node) {s v w},
    s.fitsAll nodes = true → Similar s v w →
      Alike (renderNodes ⟨name, v, isLast⟩ nodes) (renderNodes ⟨name, w, isLast⟩ nodes)
  | [], _, _, _, _, _ => .ok rfl
  | n :: more, s, v, w, hfits, h => by
    rw [Shape.fitsAll, Bool.and_eq_true] at hfits
    rw [renderNodes, renderNodes]
    exact (alike_of_fits name isLast n hfits.1 h).append
      (alike_of_fitsAll name isLast more hfits.2 h)

end

/-! ## What the tags name

That all is there (`covers_of_fitsAll`), and that nothing else can go wrong
(`exists_renderNodes`). -/

mutual

theorem covers_of_fits : ∀ (n : Node) {s v w}, s.fits n = true → Similar s v w → Covers v n
  | .text _, _, _, _, _, _ => trivial
  | .value _ path form, s, v, w, hfits, h => by
    obtain ⟨item, hat, _⟩ := exists_of_fits_value hfits
    obtain ⟨v', w', hv, _⟩ := h.lookup? hat
    exact ⟨v', hv⟩
  | .given _ path yes no, s, v, w, hfits, h => by
    obtain ⟨⟨item, hat, _⟩, hyes, hno⟩ := exists_of_fits_given hfits
    obtain ⟨v', w', hv, _⟩ := h.lookup? hat
    refine ⟨v', hv, ?_⟩
    cases hv' : isTrue v' with
    | true => exact covers_of_fitsAll yes hyes (h.narrow hv hv')
    | false => exact covers_of_fitsAll no hno h
  | .each _ path body, s, v, w, hfits, h => by
    obtain ⟨item, hat, hitem⟩ := exists_of_fits_each hfits
    obtain ⟨v', w', hv, _, hlist⟩ := h.lookup? hat
    cases hlist with
    | list hitems =>
      refine ⟨_, hv, fun v hmem => ?_⟩
      obtain ⟨w, hsimilar⟩ := hitems.exists_similar hmem
      exact covers_of_fitsAll body hitem hsimilar
  | .unlessLast body, _, _, _, hfits, h => covers_of_fitsAll body hfits h
  | .part _ body, s, v, w, hfits, h => by
    rw [Shape.fits, Bool.and_eq_true] at hfits
    exact covers_of_fitsAll body hfits.2 (h.partValue hfits.1)

/-- In a value of a shape, a template that fits the shape finds all that it
names. -/
theorem covers_of_fitsAll : ∀ (nodes : List Node) {s v w},
    s.fitsAll nodes = true → Similar s v w → CoversAll v nodes
  | [], _, _, _, _, _ => trivial
  | n :: more, s, v, w, hfits, h => by
    rw [Shape.fitsAll, Bool.and_eq_true] at hfits
    exact ⟨covers_of_fits n hfits.1 h, covers_of_fitsAll more hfits.2 h⟩

end

/-- A list is rendered when each of its items is. -/
theorem exists_renderEach {body : Json → Bool → Except Fault String} :
    ∀ {items : List Json}, (∀ v ∈ items, ∀ isLast, ∃ out, body v isLast = .ok out) →
      ∃ out, renderEach body items = .ok out
  | [], _ => ⟨_, rfl⟩
  | [v], h => h v (List.mem_singleton_self v) true
  | v :: next :: more, h => by
    obtain ⟨first, hfirst⟩ := h v List.mem_cons_self false
    obtain ⟨rest, hrest⟩ := exists_renderEach fun v hv => h v (List.mem_cons_of_mem _ hv)
    refine ⟨first ++ rest, ?_⟩
    -- The third equation of the loop asks that more than one item is left.
    rw [renderEach, hfirst, hrest]
    · rfl
    · intro hnil
      cases hnil

mutual

theorem exists_renderNode (name : String) (isLast : Bool) : ∀ (n : Node) {v}, Covers v n →
    ∃ out, renderNode ⟨name, v, isLast⟩ n = .ok out
  | .text _, _, _ => ⟨_, rfl⟩
  | .value _ _ .escaped, _, ⟨_, hvalue⟩ => ⟨_, renderNode_escaped hvalue⟩
  | .value _ _ .asIs, _, ⟨_, hvalue⟩ => ⟨_, renderNode_asIs hvalue⟩
  | .given _ _ yes no, v, ⟨value, hvalue, hbranch⟩ => by
    rw [renderNode_given hvalue]
    split at hbranch
    next htrue =>
      rw [if_pos htrue]
      exact exists_renderNodes name isLast yes hbranch
    next hfalse =>
      rw [if_neg hfalse]
      exact exists_renderNodes name isLast no hbranch
  | .each _ _ body, v, ⟨items, hitems, hbody⟩ => by
    rw [renderNode_each hitems]
    exact exists_renderEach fun v hv isLast => exists_renderNodes name isLast body (hbody v hv)
  | .unlessLast body, v, h => by
    rw [renderNode]
    cases isLast with
    | true => exact ⟨_, rfl⟩
    | false => exact exists_renderNodes name false body h
  | .part inner body, _, h => exists_renderNodes inner false body h

/-- A template that finds all that it names is rendered. -/
theorem exists_renderNodes (name : String) (isLast : Bool) : ∀ (nodes : List Node) {v},
    CoversAll v nodes → ∃ out, renderNodes ⟨name, v, isLast⟩ nodes = .ok out
  | [], _, _ => ⟨_, rfl⟩
  | n :: more, _, ⟨hn, hmore⟩ => by
    obtain ⟨first, hfirst⟩ := exists_renderNode name isLast n hn
    obtain ⟨rest, hrest⟩ := exists_renderNodes name isLast more hmore
    exact ⟨first ++ rest, renderNodes_cons_eq_ok hfirst hrest⟩

end

end ApiPages.Template
