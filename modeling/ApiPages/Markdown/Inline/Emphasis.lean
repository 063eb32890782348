import ApiPages.Markdown.Inline.Basic

/-!
# Emphasis

A first reading of a text leaves the marks `*`, `_` and `~` as runs that
may open or close emphasis. `Item.settle` walks over them: each run that
may close looks back for the nearest run of its mark that may open. What
stands between the two becomes the body, and marks without a partner stay
text.
-/

namespace ApiPages.Markdown

/-- A run of marks that may open or close emphasis. -/
structure Run where
  mark : Char
  /-- The marks that have no partner yet. -/
  count : Nat
  /-- The marks that were written. -/
  length : Nat
  canOpen : Bool
  canClose : Bool
  /-- How far into the text the run ends. -/
  position : Nat
  deriving Repr

/-- An opening bracket that no closing one has answered. -/
structure Bracket where
  /-- Whether the bracket opens an image. -/
  image : Bool
  /-- The text after it. -/
  after : List Char
  /-- Whether another bracket was opened after it. -/
  followed : Bool
  deriving Repr

/-- A part of a text whose emphasis is not settled. -/
inductive Item where
  | node (inline : Inline)
  | run (run : Run)
  | bracket (bracket : Bracket)
  deriving Repr

namespace Run

/-- The marks as text. -/
def text (r : Run) : Inline := .text (List.replicate r.count r.mark)

/-- The run without `n` of its marks. -/
def take (r : Run) (n : Nat) : Run := { r with count := r.count - n }

/-- Runs that look for the same openers: those of one mark. Runs of stars
differ also in what they may open and in their length modulo three. -/
structure Family where
  mark : Char
  canOpen : Bool
  remainder : Nat
  deriving DecidableEq

/-- The family of a run. -/
def family (r : Run) : Family :=
  if r.mark == '*' then ⟨r.mark, r.canOpen, r.length % 3⟩ else ⟨r.mark, false, 0⟩

/-- Whether the lengths of two runs forbid that they pair: where one of
them may both open and close, their sum is no multiple of three, unless
both lengths are. -/
def clash (opener closer : Run) : Bool :=
  (closer.canOpen || opener.canClose) && (opener.length + closer.length) % 3 == 0
    && !(opener.length % 3 == 0 && closer.length % 3 == 0)

/-- Whether `opener` pairs with `closer`. -/
def opens (opener closer : Run) : Bool :=
  opener.canOpen && opener.mark == closer.mark && !clash opener closer

end Run

/-- How far back each family has looked in vain. -/
abbrev SearchLimits := List (Run.Family × Nat)

namespace Item

/-- The part when no more emphasis can come of it. -/
def plain : Item → Inline
  | node inline => inline
  | run r => r.text
  | bracket b => .text (if b.image then ['!', '['] else ['['])

/-- The nearest run before `closer` that pairs with it, among parts in
reverse order: the parts between the two, the run, and the parts before
it. Runs that end before `limit` do not count, and they end the search. -/
def findOpener? (closer : Run) (limit : Nat) :
    List Item → Option (List Item × Run × List Item)
  | [] => none
  | run r :: more =>
    if r.position < limit then none
    else if r.opens closer then some ([], r, more)
    else (findOpener? closer limit more).map fun (inner, found) => (run r :: inner, found)
  | item :: more =>
    (findOpener? closer limit more).map fun (inner, found) => (item :: inner, found)

/-- Emphasis of a kind: one mark or two, or a tilde. -/
def wrap (mark : Char) (count : Nat) (body : List Inline) : Inline :=
  let body := Inline.joinTexts body
  if mark == '~' then .strikethrough body
  else if count == 1 then .emphasis body
  else .strong body

/-- The steps that a part may still need: one, and one for each mark. -/
def weight : Item → Nat
  | run r => 1 + r.count
  | _ => 1

/-- The steps that parts may still need. -/
def totalWeight : List Item → Nat
  | [] => 0
  | item :: more => item.weight + totalWeight more

/-- Settles the parts of `todo`, with the settled ones in reverse order in
`done`. Tildes pair only when both runs are used up; two that are not end
the search for emphasis. -/
def settleFrom (limits : SearchLimits) (done : List Item) : List Item → List Inline
  | [] => done.reverse.map plain
  | run closer :: todo =>
    if closer.canClose then
      match findOpener? closer ((limits.lookup closer.family).getD 0) done with
      | some (inner, opener, before) =>
        let used := if 2 ≤ opener.count && 2 ≤ closer.count then 2 else 1
        if closer.mark == '~' && (opener.count != used || closer.count != used) then
          (done.reverse ++ run closer :: todo).map plain
        else
          let body := wrap closer.mark used (inner.reverse.map plain)
          let before := if opener.count ≤ used then before else run (opener.take used) :: before
          if closer.count ≤ used then settleFrom limits (node body :: before) todo
          else settleFrom limits (node body :: before) (run (closer.take used) :: todo)
      | none =>
        let part := if closer.canOpen then run closer else node closer.text
        settleFrom ((closer.family, closer.position) :: limits) (part :: done) todo
    else settleFrom limits (run closer :: done) todo
  | item :: todo => settleFrom limits (item :: done) todo
termination_by todo => totalWeight todo
decreasing_by
  all_goals simp only [totalWeight, weight, Run.take]
  all_goals try omega
  all_goals split <;> omega

/-- The inline content of parts in their order. -/
def settle (items : List Item) : List Inline := Inline.joinTexts (settleFrom [] [] items)

end Item

end ApiPages.Markdown
