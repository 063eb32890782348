/-!
# Character lists — the cuts and joins every reader uses

Text is worked on as `List Char` and kept as `String`. This module holds
the few cuts that core does not name: splitting at a separator, dropping a
class of characters from the end, and looking for a word inside a text.
`joinWith_splitOn` is the law that ties the first to its inverse.
-/

namespace ApiPages.Text

/-- The pieces of a list between the elements equal to `sep`; one more
piece than there are separators. -/
def splitOn [DecidableEq α] (sep : α) : List α → List (List α)
  | [] => [[]]
  | c :: cs =>
    if c = sep then [] :: splitOn sep cs
    else
      match splitOn sep cs with
      | [] => [[c]]
      | piece :: more => (c :: piece) :: more

/-- The pieces again as one list, with `sep` between them. -/
def joinWith (sep : List α) : List (List α) → List α
  | [] => []
  | [piece] => piece
  | piece :: more => piece ++ sep ++ joinWith sep more

/-- Even the empty list is split into one piece. -/
theorem splitOn_ne_nil [DecidableEq α] (sep : α) (cs : List α) : splitOn sep cs ≠ [] := by
  cases cs with
  | nil => simp [splitOn]
  | cons c cs =>
    unfold splitOn
    split
    · simp
    · split <;> simp

/-- Splitting loses nothing. -/
theorem joinWith_splitOn [DecidableEq α] (sep : α) (cs : List α) :
    joinWith [sep] (splitOn sep cs) = cs := by
  induction cs with
  | nil => rfl
  | cons c cs ih =>
    unfold splitOn
    split
    · next h =>
      subst h
      match hs : splitOn c cs with
      | [] => exact absurd hs (splitOn_ne_nil c cs)
      | piece :: more =>
        rw [hs] at ih
        simp [joinWith, ih]
    · next h =>
      split
      · next hs => exact absurd hs (splitOn_ne_nil sep cs)
      · next piece more hs =>
        rw [hs] at ih
        cases more with
        | nil => simp [joinWith] at ih ⊢; exact ih
        | cons p ps => simp [joinWith] at ih ⊢; exact ih

/-- A list without its last elements of a class. -/
def dropEndWhile (p : α → Bool) (cs : List α) : List α :=
  (cs.reverse.dropWhile p).reverse

/-- A list without the elements of a class at either end. -/
def trimWhile (p : α → Bool) (cs : List α) : List α :=
  dropEndWhile p (cs.dropWhile p)

/-- The rest of `cs` after `word`, when `cs` starts with it. -/
def dropWord? [DecidableEq α] : List α → List α → Option (List α)
  | [], cs => some cs
  | _ :: _, [] => none
  | w :: ws, c :: cs => if w = c then dropWord? ws cs else none

/-- What stands before the first occurrence of `word`, and what stands
after it. -/
def cutAt? [DecidableEq α] (word : List α) : List α → Option (List α × List α)
  | [] => if word.isEmpty then some ([], []) else none
  | c :: cs =>
    match dropWord? word (c :: cs) with
    | some rest => some ([], rest)
    | none => (cutAt? word cs).map fun cut => (c :: cut.1, cut.2)

/-- Whether `word` occurs in the list. -/
def hasWord [DecidableEq α] (word cs : List α) : Bool :=
  (cutAt? word cs).isSome

/-- The bytes that characters have in UTF-8. -/
def byteLength : List Char → Nat
  | [] => 0
  | c :: cs => c.utf8Size + byteLength cs

/-- A word that could be dropped stood at the front. -/
theorem eq_append_of_dropWord? [DecidableEq α] {word cs rest : List α}
    (h : dropWord? word cs = some rest) : cs = word ++ rest := by
  induction word generalizing cs with
  | nil => simpa [dropWord?] using h
  | cons w ws ih =>
    cases cs with
    | nil => simp [dropWord?] at h
    | cons c cs =>
      unfold dropWord? at h
      split at h
      · next e => rw [ih h, e]; rfl
      · simp at h

/-- A word at the front is dropped, whatever follows it. -/
theorem dropWord?_append [DecidableEq α] (word rest : List α) :
    dropWord? word (word ++ rest) = some rest := by
  induction word with
  | nil => rfl
  | cons w ws ih => rw [List.cons_append, dropWord?, if_pos rfl, ih]

end ApiPages.Text
