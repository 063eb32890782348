import ApiPages.Proofs.Page.Depth
import Mathlib.Data.Finset.Card

/-!
# The search for a free name

A claim tries the name itself and then one number after another, and it ends
only because it finds a free one. `Search` is that search as it goes, with no
bound in it; `search_iff` says all of its runs. In small letters the candidates
of a name differ from each other (`lowercase_candidate_injective`): two numbers
are spelt differently, and any number makes the name longer. So each candidate
that is taken uses up a name of its own, and no more of them can be taken than
there are names (`le_card_of_taken`).
-/

namespace ApiPages.Page

/-! ## Candidates -/

/-- The names that a claim tries, in order: the name itself, then the name with
each number from one on. -/
def candidate (name : String) : Nat → String
  | 0 => name
  | k + 1 => numbered name (k + 1)

theorem candidate_of_pos {k : Nat} (h : 1 ≤ k) (name : String) :
    candidate name k = numbered name k := by
  cases k with
  | zero => omega
  | succ k => rfl

/-- The extension is cut off and nothing is lost. -/
theorem append_cutExtension (name : List Char) :
    (cutExtension name).1 ++ (cutExtension name).2 = name := by
  have hboth := List.takeWhile_append_dropWhile (p := (· != '.')) (l := name.reverse)
  unfold cutExtension
  dsimp only
  split
  · exact List.append_nil name
  · next dot stem hdrop =>
    -- What the ending stops at is the dot.
    have hdot : dot = '.' := by
      have hhead := List.head?_dropWhile_not (· != '.') name.reverse
      rw [hdrop] at hhead
      simpa using hhead
    rw [hdrop, hdot] at hboth
    have hname := congrArg List.reverse hboth
    simpa using hname

/-- A number makes a name longer, in small letters too. -/
theorem length_lowercase_lt_numbered (name : String) (k : Nat) :
    (Text.lowercase name).toList.length < (Text.lowercase (numbered name k)).toList.length := by
  have hname : (Text.lowercase name).toList.length
      = (Text.lowercaseFrom [] (cutExtension name.toList).1).length
        + (Text.lowercaseFrom [] (cutExtension name.toList).2).length := by
    rw [Text.lowercase, String.toList_ofList, Text.length_lowercaseFrom [] name.toList,
      Text.length_lowercaseFrom [] (cutExtension name.toList).1,
      Text.length_lowercaseFrom [] (cutExtension name.toList).2, ← List.length_append,
      ← List.flatMap_append, append_cutExtension]
  rw [hname, toList_lowercase_numbered]
  simp only [List.length_append, List.length_cons]
  omega

/-- No two candidates are one name in small letters. -/
theorem lowercase_candidate_injective (name : String) :
    Function.Injective fun k => Text.lowercase (candidate name k) := by
  intro j k h
  have hlonger : ∀ i, Text.lowercase name ≠ Text.lowercase (numbered name i) := by
    intro i heq
    have hlength := length_lowercase_lt_numbered name i
    rw [heq] at hlength
    omega
  cases j with
  | zero =>
    cases k with
    | zero => rfl
    | succ k => exact absurd h (hlonger _)
  | succ j =>
    cases k with
    | zero => exact absurd h.symm (hlonger _)
    | succ k => exact lowercase_numbered_injective name h

/-! ## The search -/

/-- A search for a free name from a candidate on, with the number of candidates
that it tries and the name that it ends with. It ends with the first candidate
that is free, and goes on as long as there is none. -/
inductive Search (claimed : List String) (name : String) : Nat → Nat → String → Prop
  | free {k : Nat} (h : Text.lowercase (candidate name k) ∉ claimed) :
    Search claimed name k 1 (candidate name k)
  | taken {k n : Nat} {page : String} (h : Text.lowercase (candidate name k) ∈ claimed)
    (more : Search claimed name (k + 1) n page) : Search claimed name k (n + 1) page

section

variable {claimed : List String} {name page : String} {k n m : Nat}

/-- A search runs over candidates that are taken to one that is free. -/
theorem search_iff :
    Search claimed name k n page ↔ ∃ m, n = m + 1 ∧ page = candidate name (k + m)
      ∧ Text.lowercase (candidate name (k + m)) ∉ claimed
      ∧ ∀ i < m, Text.lowercase (candidate name (k + i)) ∈ claimed := by
  constructor
  · intro h
    induction h with
    | free hfree => exact ⟨0, rfl, rfl, hfree, fun i hi => by omega⟩
    | @taken k n page htaken _ ih =>
      obtain ⟨m, rfl, rfl, hfree, hbefore⟩ := ih
      have hnext : k + 1 + m = k + (m + 1) := by omega
      rw [hnext] at hfree ⊢
      refine ⟨m + 1, rfl, rfl, hfree, fun i hi => ?_⟩
      cases i with
      | zero => exact htaken
      | succ i =>
        have hi := hbefore i (by omega)
        rwa [show k + 1 + i = k + (i + 1) by omega] at hi
  · rintro ⟨m, rfl, rfl, hfree, hbefore⟩
    induction m generalizing k with
    | zero => exact .free hfree
    | succ m ih =>
      have hnext : k + (m + 1) = k + 1 + m := by omega
      rw [hnext] at hfree ⊢
      refine .taken (hbefore 0 (by omega)) (ih hfree fun i hi => ?_)
      have hi := hbefore (i + 1) (by omega)
      rwa [show k + (i + 1) = k + 1 + i by omega] at hi

/-- As many candidates as are taken in a row, so many names there are. -/
theorem le_card_of_taken (h : ∀ i < m, Text.lowercase (candidate name i) ∈ claimed) :
    m ≤ claimed.toFinset.card := by
  have hinto : ∀ i ∈ Finset.range m, Text.lowercase (candidate name i) ∈ claimed.toFinset := by
    intro i hi
    exact List.mem_toFinset.mpr (h i (Finset.mem_range.mp hi))
  have hcard := Finset.card_le_card_of_injOn _ hinto
    (lowercase_candidate_injective name).injOn
  rwa [Finset.card_range] at hcard

/-- What a claim answers is the first candidate that is free. -/
theorem exists_claim_eq_candidate (claimed : List String) (name : String) :
    ∃ k, claim claimed name = candidate name k
      ∧ Text.lowercase (candidate name k) ∉ claimed
      ∧ ∀ i < k, Text.lowercase (candidate name i) ∈ claimed := by
  rcases claim_cases claimed name with ⟨hfree, hkept⟩ | ⟨htaken, k, hk, hnumber, hfree, hleast⟩
  · exact ⟨0, hkept, hfree, fun i hi => by omega⟩
  · rw [← candidate_of_pos hk] at hnumber hfree
    refine ⟨k, hnumber, hfree, fun i hi => ?_⟩
    cases i with
    | zero => exact htaken
    | succ i => exact hleast (i + 1) (by omega) hi

/-- The search from the name itself has exactly one run, which ends with what a
claim answers. -/
theorem exists_search_iff (claimed : List String) (name : String) :
    ∃ n, n ≤ claimed.toFinset.card + 1
      ∧ ∀ tried answer,
        Search claimed name 0 tried answer ↔ tried = n ∧ answer = claim claimed name := by
  obtain ⟨k, hclaim, hfree, hbefore⟩ := exists_claim_eq_candidate claimed name
  refine ⟨k + 1, Nat.succ_le_succ (le_card_of_taken hbefore), fun tried answer => ?_⟩
  rw [search_iff, hclaim]
  simp only [Nat.zero_add]
  constructor
  · -- Neither run can pass the free candidate that the other one ends with.
    rintro ⟨m, rfl, rfl, hfree', hbefore'⟩
    obtain hlt | rfl | hlt := Nat.lt_trichotomy m k
    · exact absurd (hbefore m hlt) hfree'
    · exact ⟨rfl, rfl⟩
    · exact absurd (hbefore' k hlt) hfree
  · rintro ⟨rfl, rfl⟩
    exact ⟨k, rfl, rfl, hfree, hbefore⟩

/-- Names that are free are kept, and no others. -/
theorem claim_eq_self_iff (claimed : List String) (name : String) :
    claim claimed name = name ↔ Text.lowercase name ∉ claimed := by
  constructor
  · intro hsame
    have hpage := lowercase_claim_not_mem claimed name
    rwa [hsame] at hpage
  · intro hfree
    rcases claim_cases claimed name with ⟨-, hkept⟩ | ⟨htaken, -⟩
    · exact hkept
    · exact absurd htaken hfree

/-- A number before the ending brings no slash with it. -/
theorem count_slash_claim {stem : String} (h : name.toList = stem.toList ++ ending) :
    (claim claimed name).toList.count '/' = name.toList.count '/' := by
  rcases claim_cases claimed name with ⟨-, hkept⟩ | ⟨-, k, -, hnumber, -⟩
  · rw [hkept]
  · have hlonger : (claim claimed name).toList
        = stem.toList ++ ('-' :: Nat.toDigits 10 k ++ ending) := by
      rw [← toList_numbered_of_ending h, ← hnumber]
    exact depth_eq_of_ending h hlonger (slash_not_mem_suffix k)

end

/-- One claim of a name that ends in `.html`. The search for a free candidate
has exactly one run. It tries at most one candidate more than names are claimed,
and ends with the page. That is the name itself exactly when the name is free,
and otherwise the name with the least free number before the ending. The names
claimed afterwards are those before and the page, which was not among them. The
page has as many slashes as the name. -/
theorem claim_settles (claimed : List String) (stem : String) :
    let name := stem ++ ".html"
    let withNumber := fun k : Nat => stem ++ "-" ++ toString k ++ ".html"
    let page := claim claimed name
    let after := (assignEach claimed [some name]).2
    (∃ n, n ≤ claimed.toFinset.card + 1
      ∧ ∀ tried answer, Search claimed name 0 tried answer ↔ tried = n ∧ answer = page)
    ∧ (page = name ↔ Text.lowercase name ∉ claimed)
    ∧ (Text.lowercase name ∈ claimed → ∃ k, 1 ≤ k ∧ page = withNumber k
      ∧ Text.lowercase (withNumber k) ∉ claimed
      ∧ ∀ i, 1 ≤ i → i < k → Text.lowercase (withNumber i) ∈ claimed)
    ∧ (assignEach claimed [some name]).1 = [some page]
    ∧ after.toFinset = insert (Text.lowercase page) claimed.toFinset
    ∧ Text.lowercase page ∉ claimed
    ∧ page.toList.count '/' = name.toList.count '/' := by
  intro name withNumber page after
  have hending : name.toList = stem.toList ++ ending := String.toList_append
  have hnumbered : ∀ k, numbered name k = withNumber k := by
    intro k
    rw [← String.toList_inj, toList_numbered_of_ending hending]
    simp [withNumber, ending]
  refine ⟨exists_search_iff claimed name, claim_eq_self_iff claimed name, fun htaken => ?_, rfl,
    List.toFinset_cons, lowercase_claim_not_mem claimed name, count_slash_claim hending⟩
  rcases claim_cases claimed name with ⟨hfree, -⟩ | ⟨-, k, hk, hnumber, hfree, hleast⟩
  · exact absurd htaken hfree
  · simp only [hnumbered] at hnumber hfree hleast
    exact ⟨k, hk, hnumber, hfree, hleast⟩

example : claim ["a.html", "a-1.html"] "A.html" = "A-2.html" := by decide +kernel

end ApiPages.Page
