import ApiPages.Proofs.Article.Nameless
import ApiPages.Proofs.Article.Overloads
import ApiPages.Proofs.Article.Written
import ApiPages.Proofs.Collection.Parent
import ApiPages.Proofs.Link.Anchor
import ApiPages.Proofs.Link.Spelling
import ApiPages.Sample

/-!
# Links to parts of a page

A reference names a part of a symbol behind a dot, and becomes a link to the
symbol's page with the anchor of the part's own name. That is the anchor that a
member is shown with. A function of an initializer API is shown with the anchor
of its full name, which is another one as soon as the name of the API has a
letter or a number.
-/

namespace ApiPages.Link

/-! ## References to parts -/

/-- A name that a reference can be made of: it is not empty, and has neither
blanks nor a character that ends a name in a reference. -/
structure IsPlain (name : String) : Prop where
  ne_nil : name.toList ≠ []
  chars : ∀ c ∈ name.toList,
    Text.isBlank c = false ∧ c ≠ '|' ∧ c ≠ '\x7d' ∧ c ≠ '.' ∧ c ≠ '#'

instance (name : String) : Decidable (IsPlain name) :=
  decidable_of_iff (name.toList ≠ [] ∧ (name.toList.all fun c =>
      !Text.isBlank c && c != '|' && c != '\x7d' && c != '.' && c != '#') = true)
    ⟨fun h => ⟨h.1, by simpa [and_assoc] using h.2⟩, fun h => ⟨h.ne_nil, by
      simpa [and_assoc] using h.chars⟩⟩

/-- The reference to a part of a symbol. -/
def partReference (symbol part : String) : String :=
  "\x7b@link " ++ (symbol ++ "." ++ part) ++ "\x7d"

/-- The Markdown of a link to a part of a symbol: its full name, as code, and
the page with an anchor. -/
def partLink (symbol part href fragment : String) : String :=
  "[\x60" ++ (symbol ++ "." ++ part) ++ "\x60](" ++ (href ++ "#" ++ fragment) ++ ")"

/-- Links to one part differ exactly when their fragments do. -/
theorem partLink_inj {symbol part href fragment fragment' : String} :
    partLink symbol part href fragment = partLink symbol part href fragment'
      ↔ fragment = fragment' := by
  simp [partLink]

namespace IsPlain

variable {name part : String}

/-- A plain name can stand in the target of a reference. -/
theorem isTargetChar (h : IsPlain name) : ∀ c ∈ name.toList, isTargetChar c = true := by
  intro c hc
  obtain ⟨hblank, hbar, hbrace, -, -⟩ := h.chars c hc
  simp [Link.isTargetChar, hblank, hbar, hbrace]

/-- So can two of them with a dot between. -/
theorem isTargetChar_dot (h : IsPlain name) (hpart : IsPlain part) :
    ∀ c ∈ (name ++ "." ++ part).toList, Link.isTargetChar c = true := by
  intro c hc
  simp only [String.toList_append, List.mem_append] at hc
  obtain (hc | hc) | hc := hc
  · exact h.isTargetChar c hc
  · obtain rfl := List.mem_singleton.mp hc
    decide
  · exact hpart.isTargetChar c hc

end IsPlain

/-- A target up to the brace is a reference of its own, labelled by its target. -/
theorem reference?_target {target : List Char} (hne : target ≠ [])
    (h : ∀ c ∈ target, isTargetChar c = true) :
    reference? ("\x7b@link ".toList ++ (target ++ ['\x7d'])) = some (⟨false, target, target⟩, []) := by
  let s : Spelling :=
    { word := "\x7b@link".toList, plain := false, blanks := [' '], target, separator := [],
      label := [], isWord := by decide, blanks_ne_nil := by decide
      isBlanks := List.forall_mem_singleton.mpr (by decide)
      target_ne_nil := hne, isTarget := h, isSeparator := Or.inl nofun, isLabel := by decide }
  have hexact : s.IsExact := ⟨fun _ => nofun, nofun⟩
  have hread := hexact.reference?_spelling []
  rw [s.chars_append] at hread
  exact hread

/-- A dot cuts a target at the name of its symbol. -/
theorem splitTarget_dot {symbol part : String} (h : IsPlain symbol) (hpart : IsPlain part) :
    splitTarget (symbol ++ "." ++ part).toList = (symbol, some part) := by
  have htarget : (symbol ++ "." ++ part).toList = symbol.toList ++ '.' :: part.toList := by
    simp
  have hsymbol : ∀ c ∈ symbol.toList, (!(c == '.' || c == '#')) = true := by
    intro c hc
    obtain ⟨-, -, -, hdot, hhash⟩ := h.chars c hc
    simp [hdot, hhash]
  have htake : (symbol ++ "." ++ part).toList.takeWhile (fun c => !(c == '.' || c == '#'))
      = symbol.toList := by
    rw [htarget]
    exact takeWhile_append_cons hsymbol (by decide) _
  have hdrop : (symbol ++ "." ++ part).toList.dropWhile (fun c => !(c == '.' || c == '#'))
      = '.' :: part.toList := by
    rw [htarget]
    exact dropWhile_append_cons hsymbol (by decide) _
  obtain ⟨c, cs, hcs⟩ := List.exists_cons_of_ne_nil hpart.ne_nil
  simp only [splitTarget, htake, hdrop, hcs]
  rw [← hcs, String.ofList_toList, String.ofList_toList]

/-- A part is linked to below the page of its symbol, at the anchor of its whole name. -/
theorem href?_part {site : Site} {symbol href : String} (h : site.href? symbol none = some href)
    (part : String) : site.href? symbol (some part) = some (href ++ "#" ++ anchor part) := by
  obtain ⟨page, hpage, rfl⟩ := Option.map_eq_some_iff.mp h
  rw [Site.href?, hpage, Option.map_some, String.append_empty, String.append_assoc]

/-- The reference to a part of a symbol with a page is a link to the anchor of
the part's own name. -/
theorem resolveReferences_partReference {site : Site} {symbol part href : String}
    (h : IsPlain symbol) (hpart : IsPlain part) (hhref : site.href? symbol none = some href) :
    resolveReferences site (partReference symbol part)
      = partLink symbol part href (anchor part) := by
  have htarget : (symbol ++ "." ++ part).toList ≠ [] := by
    simp
  have htext : (partReference symbol part).toList
      = "\x7b@link ".toList ++ ((symbol ++ "." ++ part).toList ++ ['\x7d']) := by
    rw [partReference, String.toList_append, String.toList_append, List.append_assoc]
    rfl
  rw [resolveReferences, htext,
    resolveChars_of_some (reference?_target htarget (h.isTargetChar_dot hpart)),
    resolveChars_nil, List.append_nil, Reference.markdown]
  simp only [splitTarget_dot h hpart, href?_part hhref part]
  rw [← String.toList_inj]
  simp [partLink, asCode]

end ApiPages.Link

namespace ApiPages

/-- The initializer API that an entry is. -/
def Entry.initializerApi? : Entry → Option InitializerApiEntry
  | initializerApi f => some f
  | _ => none

theorem Entry.eq_of_initializerApi? {e : Entry} {f : InitializerApiEntry}
    (h : e.initializerApi? = some f) : e = .initializerApi f := by
  cases e with
  | initializerApi g =>
    cases h
    rfl
  | _ => cases h

namespace Article

open Link (IsPlain partReference partLink resolveReferences)

/-! ## What a page gives anchors to -/

namespace Context

variable {ctx : Context} {place : Place} {moduleName : String} {a : Article}

/-- A shown member has the name of a member of the entry, and the anchor of
that name. -/
theorem exists_member_of_mem {entry : Entry} {item : ShownMember}
    (h : ctx.article place moduleName entry = .ok a) (hitem : item ∈ a.body.members) :
    (∃ ms m, entry.Lists ms ∧ m ∈ ms ∧ item.name = m.name)
      ∧ item.anchor = Link.anchor item.name := by
  obtain ⟨ms, hlists, hms⟩ | ⟨-, hempty⟩ := (written_of_article h).1.members_cases
  · obtain ⟨m, hm, his⟩ := Scribe.exists_isItem hms hitem
    exact ⟨⟨ms, m, (hlists ms).mpr rfl, hm, his.name⟩, by rw [his.anchor, his.name]⟩
  · rw [hempty] at hitem
    cases hitem

/-- The functions of an initializer API are shown one by one, each with the
anchor of its full name. -/
theorem subFunctions_of_article {f : InitializerApiEntry}
    (h : ctx.article place moduleName (.initializerApi f) = .ok a) :
    List.Forall₂ (fun c shown => shown.anchor = Link.anchor (f.info.name ++ "." ++ c.name))
      f.subFunctions a.body.subFunctions := by
  have hwritten := (written_of_article h).1
  generalize a.body = b at hwritten ⊢
  cases hwritten with
  | initializerApi hcall hsubs =>
    refine (mapM_eq_ok_iff.mp hsubs).imp fun c shown hshown => ?_
    obtain ⟨overloads, -, hshown⟩ := exists_of_bind_eq_ok hshown
    cases hshown
    rfl

/-- References to the parts of a symbol, from any page. Each becomes a link to
the symbol's page with the anchor of the part's own name. A shown member has
this anchor; a function of an initializer API has it exactly when the name of
the API has neither letters nor numbers. -/
theorem member_links_iff (markdown : Markdown.Engine) (cs : List Collection) :
    let ctx := ofRun markdown cs
    ∀ (place : Place) (moduleName : String) (entry : Entry) (page : String) (a : Article),
      ctx.index.page? entry.name = some page →
      ctx.article place moduleName entry = .ok a → IsPlain entry.name →
      ∀ site : Link.Site, site.index = ctx.index →
        ∃ href, site.href? entry.name none = some href
          ∧ (∀ part, IsPlain part →
            resolveReferences site (partReference entry.name part)
              = partLink entry.name part href (Link.anchor part))
          ∧ (∀ item ∈ a.body.members,
            (∃ ms m, entry.Lists ms ∧ m ∈ ms ∧ item.name = m.name)
            ∧ (IsPlain item.name → resolveReferences site (partReference entry.name item.name)
              = partLink entry.name item.name href item.anchor))
          ∧ ∀ f : InitializerApiEntry, entry = .initializerApi f →
            ∀ (k : Nat) (sub : Callable), f.subFunctions[k]? = some sub →
            ∃ shown, a.body.subFunctions[k]? = some shown
              ∧ (IsPlain sub.name →
                (resolveReferences site (partReference entry.name sub.name)
                    = partLink entry.name sub.name href shown.anchor
                  ↔ ∀ c ∈ entry.name.toList, Text.isAlphanumeric c = false)) := by
  intro ctx place moduleName entry page a hpage harticle hname site hsite
  obtain ⟨href, hhref⟩ : ∃ href, site.href? entry.name none = some href := by
    rw [Link.Site.href?, hsite, hpage]
    exact ⟨_, rfl⟩
  have hresolve : ∀ part, IsPlain part → resolveReferences site (partReference entry.name part)
      = partLink entry.name part href (Link.anchor part) :=
    fun part hpart => Link.resolveReferences_partReference hname hpart hhref
  refine ⟨href, hhref, hresolve, fun item hitem => ?_, ?_⟩
  · obtain ⟨hdeclared, hanchor⟩ := exists_member_of_mem harticle hitem
    refine ⟨hdeclared, fun hplain => ?_⟩
    rw [hresolve item.name hplain, hanchor]
  · rintro f rfl k sub hsub
    obtain ⟨shown, hshown, hanchor⟩ :=
      exists_getElem?_of_forall₂ (subFunctions_of_article harticle).flip hsub
    refine ⟨shown, hshown, fun hplain => ?_⟩
    rw [hresolve sub.name hplain, Link.partLink_inj, hanchor, eq_comm]
    exact Link.anchor_dot_eq_iff

/-- The property `bar` of a class, from a page three directories down. -/
theorem member_links_property :
    let foo := Sample.classLike "Foo" [Sample.property "bar" "T"]
    let cs : List Collection := [⟨"m", [foo]⟩]
    let site : Link.Site := ⟨Link.Index.build cs, 3, "x"⟩
    ∃ a href, (ofRun true cs).article ⟨0, 0⟩ "m" foo = .ok a
      ∧ site.href? "Foo" none = some href
      ∧ a.body.members.map ShownMember.name = ["bar"]
      ∧ ∀ item ∈ a.body.members, resolveReferences site (partReference "Foo" item.name)
        = partLink "Foo" item.name href item.anchor := by
  intro foo cs site
  have hpage : (ofRun true cs).index.page? foo.name = some "m_Foo_class.html" := by decide +kernel
  have hmembers : (((ofRun true cs).article ⟨0, 0⟩ "m" foo).toOption.map fun a =>
      a.body.members.map ShownMember.name) = some ["bar"] := by decide +kernel
  cases harticle : (ofRun true cs).article ⟨0, 0⟩ "m" foo with
  | error failure =>
    rw [harticle] at hmembers
    cases hmembers
  | ok a =>
    rw [harticle] at hmembers
    have hnames : a.body.members.map ShownMember.name = ["bar"] := Option.some.inj hmembers
    obtain ⟨href, hhref, -, hitems, -⟩ :=
      member_links_iff true cs ⟨0, 0⟩ "m" foo _ a hpage harticle (by decide) site rfl
    refine ⟨a, href, rfl, hhref, hnames, fun item hitem => ?_⟩
    have hname : item.name = "bar" := by
      have hmem : item.name ∈ ["bar"] := hnames ▸ List.mem_map_of_mem hitem
      exact List.mem_singleton.mp hmem
    exact (hitems item hitem).2 (by rw [hname]; decide)

/-- An initializer API with one function. -/
def inputDocument : String × String :=
  ("m.json", "\x7b\"moduleName\": \"m\", \"entries\": ["
    ++ "\x7b\"name\": \"input\", \"entryType\": \"initializer_api_function\", "
    ++ "\"subFunctions\": [\x7b\"name\": \"required\"\x7d]\x7d]\x7d")

/-- The function `input.required` is shown with the anchor `input-required`,
and the reference to it is a link to `required`. -/
theorem exists_member_link_astray :
    ∃ cs collection f sub a shown site href, cs = Collection.afterAll [inputDocument]
      ∧ cs[0]? = some collection ∧ collection.entries[0]? = some (.initializerApi f)
      ∧ (Link.Index.build cs).page? f.info.name = (Page.Plan.assign cs).page? 0 0
      ∧ (ofRun true cs).article ⟨0, 0⟩ collection.moduleName (.initializerApi f) = .ok a
      ∧ f.subFunctions[0]? = some sub ∧ a.body.subFunctions[0]? = some shown
      ∧ IsPlain f.info.name ∧ IsPlain sub.name
      ∧ site.index = Link.Index.build cs ∧ site.href? f.info.name none = some href
      ∧ resolveReferences site (partReference f.info.name sub.name)
        ≠ partLink f.info.name sub.name href shown.anchor := by
  let cs := Collection.afterAll [inputDocument]
  have hpages : (Link.Index.build cs).page? "input" = some "m_input_initializer_api_function.html"
      ∧ (Page.Plan.assign cs).page? 0 0 = some "m_input_initializer_api_function.html" := by
    decide +kernel
  have hentries : (cs[0]?.any fun collection =>
      collection.entries[0]?.any fun entry => entry.initializerApi?.any fun f =>
        f.info.name == "input" && f.subFunctions == [⟨"required", [], none⟩]
          && ((ofRun true cs).article ⟨0, 0⟩ collection.moduleName entry).toBool) = true := by
    decide +kernel
  obtain ⟨collection, hcollection, hentries⟩ := (Option.any_eq_true _ _).mp hentries
  obtain ⟨entry, hentry, hapi⟩ := (Option.any_eq_true _ _).mp hentries
  obtain ⟨f, hf, hapi⟩ := (Option.any_eq_true _ _).mp hapi
  obtain rfl := Entry.eq_of_initializerApi? hf
  simp only [Bool.and_eq_true, beq_iff_eq] at hapi
  obtain ⟨⟨hname, hsubs⟩, haccepted⟩ := hapi
  cases harticle : (ofRun true cs).article ⟨0, 0⟩ collection.moduleName (.initializerApi f) with
  | error failure =>
    rw [harticle] at haccepted
    cases haccepted
  | ok a =>
    have hsub : f.subFunctions[0]? = some ⟨"required", [], none⟩ := by
      rw [hsubs]
      rfl
    obtain ⟨shown, hshown, hanchor⟩ :=
      exists_getElem?_of_forall₂ (subFunctions_of_article harticle).flip hsub
    have hplain : IsPlain f.info.name := by
      rw [hname]
      decide
    have hpart : IsPlain "required" := by decide
    let site : Link.Site := ⟨Link.Index.build cs, 0, "x"⟩
    have hhref : site.href? f.info.name none
        = some (site.pathTo "m_input_initializer_api_function.html" ++ "") := by
      rw [hname, Link.Site.href?, hpages.1, Option.map_some]
    refine ⟨cs, collection, f, _, a, shown, site, _, rfl, hcollection, hentry, ?_, harticle,
      hsub, hshown, hplain, hpart, rfl, hhref, fun hlink => ?_⟩
    · rw [hname, hpages.1, hpages.2]
    · rw [Link.resolveReferences_partReference hplain hpart hhref, Link.partLink_inj, hanchor,
        eq_comm, Link.anchor_dot_eq_iff, hname] at hlink
      exact absurd (hlink 'i' (by decide)) (by decide)

end Context

end Article

end ApiPages
