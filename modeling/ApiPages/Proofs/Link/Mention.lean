import ApiPages.Link.Reference
import ApiPages.Link.TypeText

/-!
# What texts mention

The texts of an entry are prose, whose references name symbols, and types,
whose identifiers do. `mentions` lists what a text names, in order, and
`hrefs` the links that these become where it stands. A text as HTML or
Markdown owes nothing else to its site: two sites that agree on the links of
all that a text mentions write the same (`resolveReferences_congr`,
`linkify_congr`).
-/

namespace ApiPages.Link

/-- The references of a text, in order. -/
def references (cs : List Char) : List Reference :=
  match _h : reference? cs with
  | some (r, after) => r :: references after
  | none =>
    match cs with
    | [] => []
    | _ :: cs => references cs
termination_by cs.length
decreasing_by
  · exact length_reference? _h
  · simp

section

variable {cs after : List Char} {c : Char} {r : Reference} {site : Site}

/-- A reference at the start of a text is its first, and the rest is read from behind it. -/
theorem references_of_some (h : reference? cs = some (r, after)) :
    references cs = r :: references after := by
  rw [references]
  split
  · next r' after' hr =>
    rw [h] at hr
    cases hr
    rfl
  · next hr =>
    rw [h] at hr
    cases hr

/-- Where no reference starts, a character is passed over. -/
theorem references_of_none (h : reference? (c :: cs) = none) :
    references (c :: cs) = references cs := by
  rw [references]
  split
  · next r' after' hr =>
    rw [h] at hr
    cases hr
  · rfl

/-- Empty text is left as it is. -/
theorem resolveChars_nil (site : Site) : resolveChars site [] = [] := by
  rw [resolveChars]
  split
  · next hr => exact absurd (length_reference? hr) (Nat.not_lt_zero _)
  · rfl

/-- A reference at the start of a text is written as Markdown, and the rest is read
from behind it. -/
theorem resolveChars_of_some (h : reference? cs = some (r, after)) :
    resolveChars site cs = r.markdown site ++ resolveChars site after := by
  rw [resolveChars]
  split
  · next r' after' hr =>
    rw [h] at hr
    cases hr
    rfl
  · next hr =>
    rw [h] at hr
    cases hr

/-- Where no reference starts, a character is kept. -/
theorem resolveChars_of_none (h : reference? (c :: cs) = none) :
    resolveChars site (c :: cs) = c :: resolveChars site cs := by
  rw [resolveChars]
  split
  · next r' after' hr =>
    rw [h] at hr
    cases hr
  · rfl

end

/-- The identifiers of a type, in order. -/
def identifiers : List Char → List String
  | [] => []
  | c :: cs =>
    if isIdentifierStart c then
      String.ofList (c :: cs.takeWhile isIdentifierPart)
        :: identifiers (cs.dropWhile isIdentifierPart)
    else identifiers cs
termination_by cs => cs.length
decreasing_by
  · have := length_dropWhile_le isIdentifierPart cs
    simp
    omega
  · simp

/-- A text that can hold links. -/
inductive Passage where
  /-- Markdown, with references. -/
  | prose (text : String)
  /-- A type, or code with types in it. -/
  | type (text : String)
  deriving DecidableEq, Repr

namespace Passage

/-- The symbols that a passage names, each with the member it names of it.
A type names all but the entry that it stands at. -/
def mentions (current : String) : Passage → List (String × Option String)
  | prose text => (references text.toList).map fun r => splitTarget r.target
  | type text =>
    ((identifiers text.toList).filter (· != current)).map fun name => (name, none)

/-- The links that a passage holds on a site. -/
def hrefs (site : Site) (p : Passage) : List String :=
  (p.mentions site.current).filterMap fun (symbol, member) => site.href? symbol member

/-- Whether two sites have the same links for a passage. -/
def Agree (site site' : Site) (p : Passage) : Prop :=
  ∀ symbol member, (symbol, member) ∈ p.mentions site.current →
    site.href? symbol member = site'.href? symbol member

end Passage

variable {site site' : Site}

/-- The Markdown of a reference owes to its site the link that it becomes. -/
theorem Reference.markdown_congr {r : Reference}
    (h : site.href? (splitTarget r.target).1 (splitTarget r.target).2
      = site'.href? (splitTarget r.target).1 (splitTarget r.target).2) :
    r.markdown site = r.markdown site' := by
  simp only [Reference.markdown, h]

/-- Sites that link the targets of all references alike write the same Markdown, by
induction along the references. -/
theorem resolveChars_congr (cs : List Char)
    (h : ∀ r ∈ references cs, site.href? (splitTarget r.target).1 (splitTarget r.target).2
      = site'.href? (splitTarget r.target).1 (splitTarget r.target).2) :
    resolveChars site cs = resolveChars site' cs := by
  -- The list of references is read off the way the resolver goes.
  induction cs using references.induct with
  | case1 cs r after hr ih =>
    rw [references_of_some hr] at h
    rw [resolveChars_of_some hr, resolveChars_of_some hr,
      Reference.markdown_congr (h r List.mem_cons_self),
      ih fun r' hr' => h r' (List.mem_cons_of_mem _ hr')]
  | case2 hr => rw [resolveChars_nil, resolveChars_nil]
  | case3 c cs hr ih =>
    rw [references_of_none hr] at h
    rw [resolveChars_of_none hr, resolveChars_of_none hr, ih h]

/-- So sites that agree on a prose write it alike. -/
theorem resolveReferences_congr {text : String} (h : (Passage.prose text).Agree site site') :
    resolveReferences site text = resolveReferences site' text := by
  rw [resolveReferences, resolveReferences, resolveChars_congr]
  intro r hr
  exact h _ _ (List.mem_map_of_mem hr)

/-- An identifier owes to its site the current name, and for any other name the link. -/
theorem linkIdentifier_congr {name : String} (hcurrent : site.current = site'.current)
    (h : name ≠ site.current → site.href? name none = site'.href? name none) :
    linkIdentifier site name = linkIdentifier site' name := by
  unfold linkIdentifier
  rw [← hcurrent]
  by_cases hname : name = site.current
  · simp [hname]
  · simp [hname, h hname]

/-- Sites that link all identifiers of a type alike write the same HTML. -/
theorem linkifyChars_congr (hcurrent : site.current = site'.current) (cs : List Char)
    (h : ∀ name ∈ identifiers cs, name ≠ site.current →
      site.href? name none = site'.href? name none) :
    linkifyChars site cs = linkifyChars site' cs := by
  induction cs using identifiers.induct with
  | case1 => rw [linkifyChars, linkifyChars]
  | case2 c cs hstart ih =>
    rw [identifiers, if_pos hstart] at h
    rw [linkifyChars, linkifyChars, if_pos hstart, if_pos hstart,
      linkIdentifier_congr hcurrent (h _ List.mem_cons_self),
      ih fun name hname => h name (List.mem_cons_of_mem _ hname)]
  | case3 c cs hstart ih =>
    rw [identifiers, if_neg hstart] at h
    rw [linkifyChars, linkifyChars, if_neg hstart, if_neg hstart, ih h]

/-- So sites that agree on a type write it alike. -/
theorem linkify_congr {text : String} (hcurrent : site.current = site'.current)
    (h : (Passage.type text).Agree site site') : linkify site text = linkify site' text := by
  rw [linkify, linkify, linkifyChars_congr hcurrent]
  intro name hname hother
  exact h name none (List.mem_map_of_mem (List.mem_filter.mpr ⟨hname, bne_iff_ne.mpr hother⟩))

end ApiPages.Link
