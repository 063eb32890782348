import ApiPages.Markdown.Standard
import ApiPages.Proofs.Article.Written
import ApiPages.Proofs.Collection.Parent
import ApiPages.Proofs.Link.Mention
import ApiPages.Sample

/-!
# Functions in the flat shape

A function is flat when its parameters and its return type stand on the entry
itself. It documents one signature, which has these and neither the entry's
description nor its tags (`signatures_eq`). The same function with one overload
that inherits both has another page as soon as the description or a tag says
something that a signature shows: what is returned, what a parameter is for,
usage notes or a deprecation (`flat_agrees_iff`).
-/

namespace ApiPages

/-- A signature without description and tags. -/
def Signature.bare (sig : Signature) : Signature := { sig with description := "", tags := [] }

namespace FunctionEntry

/-- Whether a function has neither overloads nor an implementation. -/
structure IsFlat (f : FunctionEntry) : Prop where
  overloads : f.overloads = []
  implementation : f.implementation = none

/-- The signature that a function's own fields give together with the entry's
description and tags. -/
def inherited (f : FunctionEntry) : Signature :=
  ⟨f.info.description, f.info.tags, f.params, f.returnType, f.generics⟩

/-- The function with one overload instead of its own. -/
def withOverload (f : FunctionEntry) (sig : Signature) : FunctionEntry :=
  { f with overloads := [sig] }

/-- A flat function has one signature, with neither a description nor tags. -/
theorem IsFlat.signatures_eq {f : FunctionEntry} (h : f.IsFlat) :
    f.signatures = [f.inherited.bare] := by
  rw [signatures, h.overloads, h.implementation]
  rfl

end FunctionEntry

namespace Article

namespace Scribe

variable {s : Scribe} {name : String} {marker : Option Deprecation} {sig : Signature}

/-! ## Signatures without parts to refuse -/

/-- Nothing is written for an empty text, whatever engine there is. -/
theorem blocks_empty (s : Scribe) : s.blocks "" = "" := by
  rw [blocks, Link.resolveReferences, String.toList_empty, Link.resolveChars_nil]
  rfl

theorem inline_empty (s : Scribe) : s.inline "" = "" := by
  have hblocks : Markdown.render s.markdown "" = "" := rfl
  rw [inline, Link.resolveReferences, String.toList_empty, Link.resolveChars_nil,
    String.ofList_nil, Markdown.renderInline, hblocks]
  decide

/-- The text that describes a parameter: its own, or else that of its tag. -/
def parameterText (tags : List DocTag) (p : Parameter) : String :=
  if Text.isBlankText p.description then (paramDescription? tags p.name).getD "" else p.description

/-- A parameter with a name, as it is shown. -/
def shownParameter (s : Scribe) (tags : List DocTag) (p : Parameter) : ShownParameter :=
  ⟨p.name, s.type p.type, s.inline (parameterText tags p), p.isOptional, p.isRest⟩

/-- A signature without a nameless parameter, as it is shown. -/
def shownOverload (s : Scribe) (name : String) (marker : Option Deprecation) (sig : Signature) :
    Overload where
  code := s.code name sig
  description := s.blocks sig.description
  params := sig.params.map (s.shownParameter sig.tags)
  returnType := s.type sig.returnTypeOrVoid
  returnsDescription := s.returnsDescription sig.tags
  usageNotes := s.usageNotes none sig.tags
  deprecation := s.deprecation marker sig.tags

/-- A signature is refused for a nameless parameter, and shown otherwise. -/
theorem overload_eq (s : Scribe) (name : String) (marker : Option Deprecation) (sig : Signature) :
    s.overload name marker sig
      = if ∃ p ∈ sig.params, Text.isBlankText p.name = true
        then .error (s.malformed "parameter" "parameter has no name")
        else .ok (s.shownOverload name marker sig) := by
  split
  · rename_i hnameless
    obtain ⟨p, hp, hblank⟩ := hnameless
    have hexact := s.overload_failsExactly name marker sig
    obtain ⟨f, hf⟩ := hexact.fails _ ⟨p, hp, hblank, rfl⟩
    obtain ⟨-, -, -, rfl⟩ := hexact.failsWith f hf
    exact hf
  · rename_i hnamed
    have hparams : sig.params.mapM (s.parameter sig.tags)
        = .ok (sig.params.map (s.shownParameter sig.tags)) := by
      rw [mapM_eq_ok_iff, List.forall₂_map_right_iff, List.forall₂_same]
      intro p hp
      exact if_neg fun hblank => hnamed ⟨p, hp, hblank⟩
    rw [overload, hparams]
    rfl

/-- Whether the description and the tags of a signature add nothing to what is
shown of it. -/
structure AddsNothing (s : Scribe) (sig : Signature) : Prop where
  description : s.blocks sig.description = ""
  params : ∀ p ∈ sig.params, Text.isBlankText p.description = true →
    s.inline ((paramDescription? sig.tags p.name).getD "") = ""
  returns : s.returnsDescription sig.tags = none
  usageNotes : DocTag.usageNotes none sig.tags = none
  deprecated : DocTag.find? sig.tags "deprecated" = none

/-- A parameter loses something without its tags exactly when it has no description
of its own and a tag gives it one. -/
theorem shownParameter_eq_iff {tags : List DocTag} {p : Parameter} :
    s.shownParameter [] p = s.shownParameter tags p
      ↔ (Text.isBlankText p.description = true →
        s.inline ((paramDescription? tags p.name).getD "") = "") := by
  have hnone : paramDescription? [] p.name = none := rfl
  rw [shownParameter, shownParameter, ShownParameter.mk.injEq, parameterText, parameterText, hnone]
  by_cases hblank : Text.isBlankText p.description = true
  · simp only [hblank, if_true, Option.getD_none, inline_empty, true_and, and_true, forall_const]
    exact eq_comm
  · simp only [hblank, if_false, and_self, false_imp_iff, Bool.false_eq_true]

/-- Without tags a signature shows the same state exactly when no tag deprecates it. -/
theorem deprecation_eq_iff {tags : List DocTag} :
    s.deprecation none [] = s.deprecation none tags ↔ DocTag.find? tags "deprecated" = none := by
  cases htag : DocTag.find? tags "deprecated" with
  | none =>
    have hnone : s.deprecation none tags = s.deprecation none [] := by
      rw [deprecation, Deprecation.resolve, htag]
      rfl
    exact iff_of_true hnone.symm rfl
  | some tag =>
    have hon : (s.deprecation none tags).isDeprecated = true := by
      rw [deprecation, Deprecation.resolve, htag]
      rfl
    refine iff_of_false (fun h => ?_) (Option.some_ne_none tag)
    rw [← h] at hon
    cases hon

/-- Without tags a signature shows the same notes exactly when no tag gives it some. -/
theorem usageNotes_eq_iff {tags : List DocTag} :
    s.usageNotes none [] = s.usageNotes none tags ↔ DocTag.usageNotes none tags = none := by
  have hnone : s.usageNotes none [] = none := rfl
  rw [hnone, usageNotes, eq_comm, Option.map_eq_none_iff]

/-- A signature is shown as it is without description and tags exactly when
these add nothing. -/
theorem shownOverload_bare_eq_iff :
    s.shownOverload name none sig.bare = s.shownOverload name none sig ↔ s.AddsNothing sig := by
  have hdescription : s.blocks sig.bare.description = s.blocks sig.description
      ↔ s.blocks sig.description = "" := by
    rw [Signature.bare, blocks_empty, eq_comm]
  have hparams : sig.bare.params.map (s.shownParameter sig.bare.tags)
        = sig.params.map (s.shownParameter sig.tags)
      ↔ ∀ p ∈ sig.params, Text.isBlankText p.description = true →
        s.inline ((paramDescription? sig.tags p.name).getD "") = "" := by
    simp only [Signature.bare, List.map_inj_left, shownParameter_eq_iff]
  have hreturns : s.returnsDescription sig.bare.tags = s.returnsDescription sig.tags
      ↔ s.returnsDescription sig.tags = none := eq_comm
  rw [shownOverload, shownOverload, Overload.mk.injEq, hdescription, hparams, hreturns]
  constructor
  · rintro ⟨-, hdescription, hparams, -, hreturns, husage, hdeprecation⟩
    exact ⟨hdescription, hparams, hreturns, usageNotes_eq_iff.mp husage,
      deprecation_eq_iff.mp hdeprecation⟩
  · intro h
    exact ⟨rfl, h.description, h.params, rfl, h.returns, usageNotes_eq_iff.mpr h.usageNotes,
      deprecation_eq_iff.mpr h.deprecated⟩

/-- Without description and tags an overload is the same exactly when a nameless
parameter refuses both, or when these added nothing to it. -/
theorem overload_bare_eq_iff :
    s.overload name none sig.bare = s.overload name none sig
      ↔ (∃ p ∈ sig.params, Text.isBlankText p.name = true) ∨ s.AddsNothing sig := by
  have hparams : sig.bare.params = sig.params := rfl
  rw [overload_eq, overload_eq, hparams]
  by_cases hnameless : ∃ p ∈ sig.params, Text.isBlankText p.name = true
  · rw [if_pos hnameless, if_pos hnameless]
    exact iff_of_true rfl (.inl hnameless)
  · rw [if_neg hnameless, if_neg hnameless, Except.ok.injEq, shownOverload_bare_eq_iff,
      or_iff_right hnameless]

/-- A page shows what a signature is written as. -/
theorem article_injective (s : Scribe) (moduleName : String) (info : EntryInfo) :
    Function.Injective fun o => s.article moduleName info (.function false [o]) := by
  intro o o' h
  have hbody := congrArg Article.body h
  injection hbody with _ hoverloads
  exact (List.cons.inj hoverloads).1

end Scribe

/-! ## Pages -/

namespace Context

variable {f : FunctionEntry} {sig : Signature}

/-- The page of a function with one signature is refused when the signature is. -/
theorem article_of_signatures_eq (ctx : Context) (place : Place) (moduleName : String)
    (h : f.signatures = [sig]) :
    ctx.article place moduleName (.function f)
      = ((ctx.scribeOf (.function f)).overload f.info.name none sig).map fun o =>
        (ctx.scribeOf (.function f)).article moduleName f.info (.function false [o]) := by
  have hbody (s : Scribe) : s.functionBody f
      = (s.overload f.info.name none sig).map fun o => .function false [o] := by
    rw [Scribe.functionBody, h, List.mapM_cons, List.mapM_nil]
    cases s.overload f.info.name none sig <;> rfl
  change ((ctx.scribeOf (.function f)).functionBody f).map _ = _
  rw [hbody]
  cases (ctx.scribeOf (.function f)).overload f.info.name none sig <;> rfl

/-- The two shapes of a function. A flat one documents its own parameters, return
type and type parameters, without the entry's description and tags, and has the
page of a function with this as its overload. It is the signature that inherits
description and tags only when there are none, and the page is that of a
function with the inheriting overload exactly when a parameter has no name, so
that both are refused, or when description and tags add nothing. -/
theorem flat_agrees_iff (ctx : Context) (place : Place) (moduleName : String) (h : f.IsFlat) :
    f.signatures = [⟨"", [], f.params, f.returnType, f.generics⟩]
      ∧ ctx.article place moduleName (.function f)
        = ctx.article place moduleName (.function (f.withOverload f.inherited.bare))
      ∧ (f.signatures = [f.inherited] ↔ f.info.description = "" ∧ f.info.tags = [])
      ∧ (ctx.article place moduleName (.function f)
          = ctx.article place moduleName (.function (f.withOverload f.inherited))
        ↔ (∃ p ∈ f.params, Text.isBlankText p.name = true)
          ∨ (ctx.scribeOf (.function f)).AddsNothing f.inherited) := by
  let s := ctx.scribeOf (.function f)
  have hwith (sig : Signature) : ctx.article place moduleName (.function (f.withOverload sig))
      = (s.overload f.info.name none sig).map fun o =>
        s.article moduleName f.info (.function false [o]) :=
    article_of_signatures_eq ctx place moduleName rfl
  have hown : ctx.article place moduleName (.function f)
      = ctx.article place moduleName (.function (f.withOverload f.inherited.bare)) :=
    (article_of_signatures_eq ctx place moduleName h.signatures_eq).trans (hwith _).symm
  refine ⟨h.signatures_eq, hown, ?_, ?_⟩
  · rw [h.signatures_eq, List.singleton_inj, Signature.bare, FunctionEntry.inherited,
      Signature.mk.injEq]
    constructor
    · exact fun h => ⟨h.1.symm, h.2.1.symm⟩
    · exact fun h => ⟨h.1.symm, h.2.symm, rfl, rfl, rfl⟩
  · rw [hown, hwith, hwith, map_eq_map_iff (s.article_injective moduleName f.info)]
    exact Scribe.overload_bare_eq_iff

/-- A flat function without parameters that has one tag. -/
def flatWithTag (tag : DocTag) : FunctionEntry :=
  ⟨{ Sample.info "now" .function with description := "", tags := [tag] }, [], some "number", [], [],
    none⟩

/-- What there is to see also stands on the entry, so the shapes agree. -/
theorem flat_agrees_see :
    let f := flatWithTag ⟨"see", "Date"⟩
    f.IsFlat ∧ ∀ ctx : Context, ctx.article ⟨0, 0⟩ "m" (.function f)
      = ctx.article ⟨0, 0⟩ "m" (.function (f.withOverload f.inherited)) := by
  intro f
  have hflat : f.IsFlat := ⟨rfl, rfl⟩
  refine ⟨hflat, fun ctx => (flat_agrees_iff ctx ⟨0, 0⟩ "m" hflat).2.2.2.mpr (.inr ?_)⟩
  exact ⟨Scribe.blocks_empty _, fun _ h => absurd h List.not_mem_nil, rfl, by decide, by decide⟩

/-- A flat function that says what it returns. -/
def flatDocument : String × String :=
  ("m.json", "\x7b\"moduleName\": \"m\", \"entries\": ["
    ++ "\x7b\"name\": \"add\", \"entryType\": \"function\", \"returnType\": \"number\", "
    ++ "\"jsdocTags\": [\x7b\"name\": \"returns\", \"comment\": \"the sum\"\x7d]\x7d]\x7d")

/-- What the body of a function says of the results of its overloads. -/
def Body.returns : Body → List (Option Html)
  | .function _ overloads => overloads.map Overload.returnsDescription
  | _ => []

/-- The page of a flat function does not say what it returns, the page of the
same function with the inheriting overload does. -/
theorem exists_flat_without_returns :
    ∃ cs collection f, cs = Collection.afterAll [flatDocument]
      ∧ cs[0]? = some collection ∧ collection.entries[0]? = some (.function f) ∧ f.IsFlat
      ∧ f.signatures ≠ [f.inherited]
      ∧ ((ofRun true cs).article ⟨0, 0⟩ collection.moduleName (.function f)).toOption.map
          (Body.returns ·.body) = some [none]
      ∧ ((ofRun true cs).article ⟨0, 0⟩ collection.moduleName
          (.function (f.withOverload f.inherited))).toOption.map (Body.returns ·.body)
        = some [some "the sum"] := by
  let cs := Collection.afterAll [flatDocument]
  have hflat : (cs[0]?.any fun collection => collection.entries[0]?.any fun
      | .function f => f.overloads.isEmpty && f.implementation.isNone
        && f.signatures != [f.inherited]
        && ((ofRun true cs).article ⟨0, 0⟩ collection.moduleName (.function f)).toOption.map
            (Body.returns ·.body) == some [none]
        && ((ofRun true cs).article ⟨0, 0⟩ collection.moduleName
            (.function (f.withOverload f.inherited))).toOption.map (Body.returns ·.body)
          == some [some "the sum"]
      | _ => false) = true := by
    decide +kernel
  obtain ⟨collection, hcollection, hflat⟩ := (Option.any_eq_true _ _).mp hflat
  obtain ⟨entry, hentry, hflat⟩ := (Option.any_eq_true _ _).mp hflat
  cases entry with
  | function f =>
    simp only [Bool.and_eq_true, List.isEmpty_iff, Option.isNone_iff_eq_none, bne_iff_ne,
      beq_iff_eq] at hflat
    obtain ⟨⟨⟨⟨hoverloads, himplementation⟩, hsignatures⟩, hown⟩, hwith⟩ := hflat
    exact ⟨cs, collection, f, rfl, hcollection, hentry, ⟨hoverloads, himplementation⟩, hsignatures,
      hown, hwith⟩
  | _ => cases hflat

end Context

end Article

end ApiPages
