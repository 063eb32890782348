import ApiPages.Markdown.Standard
import ApiPages.Proofs.Article.Written

/-!
# Arguments and options

A command declares its positional arguments among its options, in any order.
Its page lists them apart: the arguments by position, the options as declared.
`Splits` says that nothing is lost by that and nothing is added, and that only
positions move an argument; the sort is stable, so arguments of one position
stay as they are declared (`filter_mergeSort`). Each is then shown item by item
(`ShownAs`).
-/

namespace ApiPages.Article

/-! ## Splitting -/

/-- Whether two lists are what is declared, split into the arguments by their
position and the options. -/
structure Splits (declared arguments options : List CommandOption) : Prop where
  /-- Each declared option stands in one of the lists, once. -/
  perm : (arguments ++ options).Perm declared
  /-- The arguments have positions, in order. -/
  ordered : ∃ positions : List Nat, arguments.map CommandOption.positional = positions.map some
    ∧ positions.Pairwise (· ≤ ·)
  /-- Arguments of one position stand as they are declared. -/
  stable : ∀ n, arguments.filter (fun o => o.positional = some n)
    = declared.filter fun o => o.positional = some n
  /-- The options have no position and stand as they are declared. -/
  rest : options = declared.filter fun o => o.positional = none

/-- A sort keeps the order of what it puts in neither order. -/
theorem filter_mergeSort {α : Type} {le : α → α → Bool} (htrans : ∀ a b c, le a b → le b c → le a c)
    (htotal : ∀ a b, le a b || le b a) {p : α → Bool} {xs : List α}
    (h : ∀ a b, p a → p b → le a b) : (xs.mergeSort le).filter p = xs.filter p := by
  have hties : (xs.filter p).Pairwise (fun a b => le a b = true) := by
    refine List.pairwise_of_forall_mem_list fun a ha b hb => ?_
    exact h a b (List.mem_filter.mp ha).2 (List.mem_filter.mp hb).2
  have hkept : (xs.filter p).Sublist (xs.mergeSort le) :=
    List.sublist_mergeSort htrans htotal hties List.filter_sublist
  have hfilter := hkept.filter p
  rw [List.filter_filter, List.filter_congr (q := p) (by simp)] at hfilter
  exact (hfilter.eq_of_length ((List.mergeSort_perm xs le).filter p).length_eq.symm).symm

/-- The positional arguments are the declared options that have a position. -/
theorem mem_positionals {declared : List CommandOption} {o : CommandOption} :
    o ∈ positionals declared ↔ o ∈ declared ∧ o.isPositional = true := by
  rw [positionals, List.mem_mergeSort, List.mem_filter]

/-- No argument stands behind one of a higher position. -/
theorem positionals_pairwise (declared : List CommandOption) :
    (positionals declared).Pairwise fun a b => a.positional.getD 0 ≤ b.positional.getD 0 := by
  refine (List.pairwise_mergeSort (fun a b c => ?_) (fun a b => ?_) _).imp
    fun h => of_decide_eq_true h
  · simp only [decide_eq_true_eq]
    exact Nat.le_trans
  · simp only [Bool.or_eq_true, decide_eq_true_eq]
    exact Nat.le_total _ _

/-- The arguments of one position are those that are declared with it. -/
theorem filter_positionals (declared : List CommandOption) (n : Nat) :
    (positionals declared).filter (fun o => o.positional = some n)
      = declared.filter fun o => o.positional = some n := by
  rw [positionals, filter_mergeSort]
  · rw [List.filter_filter]
    refine List.filter_congr fun o _ => ?_
    cases h : o.positional <;> simp [CommandOption.isPositional, h]
  · simp only [decide_eq_true_eq]
    exact fun _ _ _ => Nat.le_trans
  · simp only [Bool.or_eq_true, decide_eq_true_eq]
    exact fun _ _ => Nat.le_total _ _
  · simp only [decide_eq_true_eq]
    intro a b ha hb
    simp [ha, hb]

/-- What is declared falls into the sorted arguments and the options left in order. -/
theorem splits (declared : List CommandOption) :
    Splits declared (positionals declared) (declared.filter fun o => !o.isPositional) where
  perm := by
    have hsorted := List.mergeSort_perm (declared.filter CommandOption.isPositional)
      fun a b => a.positional.getD 0 ≤ b.positional.getD 0
    exact (hsorted.append_right _).trans
      (List.filter_append_perm CommandOption.isPositional declared)
  ordered := by
    refine ⟨(positionals declared).map fun o => o.positional.getD 0, ?_, ?_⟩
    · rw [List.map_map]
      refine List.map_congr_left fun o ho => ?_
      obtain ⟨n, hn⟩ := Option.isSome_iff_exists.mp (mem_positionals.mp ho).2
      rw [Function.comp_apply, hn, Option.getD_some]
    · exact List.pairwise_map.mpr (positionals_pairwise declared)
  stable := filter_positionals declared
  rest := by
    refine List.filter_congr fun o _ => ?_
    cases h : o.positional <;> simp [CommandOption.isPositional, h]

/-! ## Showing -/

/-- Whether an option is shown as it is declared: under its name, which has angle
brackets when it has a position and dashes when it has none, with each alias,
the default and each allowed value in its turn. -/
structure ShownAs (o : CommandOption) (shown : ShownOption) : Prop where
  name : shown.name = o.name
  argument : o.positional ≠ none → shown.displayName = "<" ++ o.name ++ ">"
  option : o.positional = none → shown.displayName = "--" ++ o.name
  aliases : List.Forall₂ (fun other text =>
    text = if other.length = 1 then "-" ++ other else "--" ++ other) o.aliases shown.aliases
  default : Option.Rel (fun value text => text = value.display) o.default shown.default
  allowedValues : List.Forall₂ (fun value text => text = value.display) o.allowedValues
    shown.allowedValues

/-- Every field of a shown option is that of the declared one. -/
theorem Scribe.shownAs (s : Scribe) (o : CommandOption) : ShownAs o (s.commandOption o) where
  name := rfl
  argument h := by
    have hposition : o.isPositional = true := Option.isSome_iff_ne_none.mpr h
    simp only [commandOption, hposition, if_true]
  option h := by
    simp [commandOption, CommandOption.isPositional, h]
  aliases := by
    refine List.forall₂_map_right_iff.mpr (List.forall₂_same.mpr fun other _ => ?_)
    unfold dashed
    by_cases hone : other.length = 1
    · simp [hone]
    · simp [hone]
  default := by
    change Option.Rel _ o.default (o.default.map Json.display)
    cases o.default with
    | none => exact .none
    | some value => exact .some rfl
  allowedValues := List.forall₂_map_right_iff.mpr (List.forall₂_same.mpr fun _ _ => rfl)

namespace Context

variable {ctx : Context} {place : Place} {moduleName : String} {c : Command} {a : Article}

/-- The page of a command shows its options apart from its arguments, each as it
is declared. The arguments are the options with a position, ordered by it, those
of one position as declared; the options are the others, as declared. -/
theorem options_split (h : ctx.article place moduleName (.command c) = .ok a) :
    ∃ body arguments options, a.body = .command body ∧ Splits c.options arguments options
      ∧ List.Forall₂ ShownAs arguments body.arguments
      ∧ List.Forall₂ ShownAs options body.options := by
  obtain ⟨hwritten, -⟩ := written_of_article h
  generalize hbody : a.body = body at hwritten
  cases hwritten
  refine ⟨_, _, _, rfl, splits c.options, ?_, ?_⟩
  · exact List.forall₂_map_right_iff.mpr (List.forall₂_same.mpr fun o _ => Scribe.shownAs _ o)
  · exact List.forall₂_map_right_iff.mpr (List.forall₂_same.mpr fun o _ => Scribe.shownAs _ o)

/-- A command with a flag among its arguments, two of which have one position. -/
def generate : Command := { Command.plain "generate" with
  options := [⟨"name", "string", "", none, [], [], some 1, none⟩,
    ⟨"schematic", "string", "", none, [.string "component", .string "service"], [], some 0, none⟩,
    ⟨"dry-run", "boolean", "", some (.bool false), [], ["d", "dry"], none, none⟩,
    ⟨"path", "string", "", none, [], [], some 0, none⟩] }

/-- It is accepted, and its page shows the arguments by position, those of one
position as declared. -/
theorem options_split_generate :
    (positionals generate.options).map CommandOption.name = ["schematic", "path", "name"]
      ∧ ∃ a, (ofRun false []).article ⟨0, 0⟩ "generate" (.command generate) = .ok a
        ∧ ∃ body arguments options, a.body = .command body
          ∧ Splits generate.options arguments options
          ∧ List.Forall₂ ShownAs arguments body.arguments
          ∧ List.Forall₂ ShownAs options body.options := by
  have hdeclared : generate.options.filter CommandOption.isPositional
      = [generate.options[0], generate.options[1], generate.options[3]] := rfl
  refine ⟨?_, ?_⟩
  · rw [positionals, hdeclared]
    simp [List.mergeSort, List.MergeSort.Internal.splitInTwo, generate]
  have haccepted :
      ((ofRun false []).article ⟨0, 0⟩ "generate" (.command generate)).toOption.isSome = true := by
    decide +kernel
  obtain ⟨a, ha⟩ := Option.isSome_iff_exists.mp haccepted
  have harticle := toOption_eq_some_iff.mp ha
  exact ⟨a, harticle, options_split harticle⟩

end Context

end ApiPages.Article
