import ApiPages.Article.OfEntry
import ApiPages.Proofs.Result

/-!
# Parts without a name

An entry has no article for one of three reasons: its kind is not known, its
shape is not its kind's, or a part of it that would be shown has no name
(`Entry.Refusal`). Each writer of a part fails exactly when such a part is
among those it writes (`FailsExactly`), whichever of them it meets first.
-/

namespace ApiPages

/-! ## What is shown of an entry -/

/-- The members that an entry lists. -/
inductive Entry.Lists : Entry → List Member → Prop
  | classLike (c : ClassEntry) : Lists (.classLike c) c.members
  | interface (c : ClassEntry) : Lists (.interface c) c.members
  | enumeration (e : EnumEntry) : Lists (.enumeration e) e.members
  | decorator (d : DecoratorEntry) : Lists (.decorator d) d.members

/-- A signature that a function documents: one of its overloads; when it has
none, its implementation; when it has no implementation either, what its own
fields say. -/
inductive FunctionEntry.Documents (f : FunctionEntry) : Signature → Prop
  | overload {sig : Signature} (h : sig ∈ f.overloads) : Documents f sig
  | implementation {sig : Signature} (hnone : f.overloads = [])
      (h : f.implementation = some sig) : Documents f sig
  | fields (hnone : f.overloads = []) (h : f.implementation = none) :
      Documents f ⟨"", [], f.params, f.returnType, f.generics⟩

/-- A signature that a callable documents: one of its overloads, or, when it
has none, its implementation. -/
inductive Callable.Documents (c : Callable) : Signature → Prop
  | overload {sig : Signature} (h : sig ∈ c.overloads) : Documents c sig
  | implementation {sig : Signature} (hnone : c.overloads = [])
      (h : c.implementation = some sig) : Documents c sig

/-- A signature that an entry documents. -/
inductive Entry.Documents : Entry → Signature → Prop
  | method {e : Entry} {ms : List Member} {x : Method} (hlists : e.Lists ms)
      (h : Member.method x ∈ ms) : Documents e x.signature
  | function {f : FunctionEntry} {sig : Signature} (h : f.Documents sig) :
      Documents (.function f) sig
  | call {f : InitializerApiEntry} {sig : Signature} (h : f.call.Documents sig) :
      Documents (.initializerApi f) sig
  | subFunction {f : InitializerApiEntry} {c : Callable} {sig : Signature}
      (hc : c ∈ f.subFunctions) (h : c.Documents sig) : Documents (.initializerApi f) sig

/-- A part of an entry without a name: what it is called, and what is said of
it. -/
inductive Entry.NamelessPart : Entry → String → String → Prop
  | member {e : Entry} {ms : List Member} {m : Member} (hlists : e.Lists ms) (hm : m ∈ ms)
      (hname : Text.isBlankText m.name = true) :
      NamelessPart e "member" (m.typeTag ++ " member has no name")
  | parameter {e : Entry} {sig : Signature} {p : Parameter} (hsig : e.Documents sig)
      (hp : p ∈ sig.params) (hname : Text.isBlankText p.name = true) :
      NamelessPart e "parameter" "parameter has no name"
  | option {c : Command} {o : CommandOption} (ho : o ∈ c.options)
      (hname : Text.isBlankText o.name = true) :
      NamelessPart (.command c) "cli" ("option of type \x60" ++ o.type ++ "\x60 has no name")

/-- Why an entry has no article, and how that is reported. -/
inductive Entry.Refusal : Entry → Failure → Prop
  | unknown (name tag : String) (raw : Json) :
      Refusal (.unknown name tag raw) (.unsupported name tag)
  | malformed (name tag reason : String) :
      Refusal (.malformed name tag reason) (.malformed name tag reason)
  | nameless {e : Entry} {part reason : String} (h : e.NamelessPart part reason) :
      Refusal e (.malformed e.name part reason)

/-- Overloads stand in for what there is without them. -/
theorem mem_overloads_iff {overloads others : List Signature} {sig : Signature} :
    (sig ∈ if overloads.isEmpty then others else overloads)
      ↔ sig ∈ overloads ∨ overloads = [] ∧ sig ∈ others := by
  cases overloads with
  | nil => simp
  | cons first more => simp

/-- The signatures of a function are those that it documents. -/
theorem FunctionEntry.mem_signatures_iff {f : FunctionEntry} {sig : Signature} :
    sig ∈ f.signatures ↔ f.Documents sig := by
  rw [signatures, mem_overloads_iff]
  constructor
  · rintro (h | ⟨hnone, h⟩)
    · exact .overload h
    · split at h
      · rename_i own himpl
        obtain rfl := List.mem_singleton.mp h
        exact .implementation hnone himpl
      · rename_i himpl
        obtain rfl := List.mem_singleton.mp h
        exact .fields hnone himpl
  · rintro (h | ⟨hnone, h⟩ | ⟨hnone, h⟩)
    · exact .inl h
    · exact .inr ⟨hnone, by rw [h]; exact List.mem_singleton_self sig⟩
    · exact .inr ⟨hnone, by rw [h]; exact List.mem_singleton_self _⟩

/-- The signatures of a callable are those that it documents. -/
theorem Callable.mem_signatures_iff {c : Callable} {sig : Signature} :
    sig ∈ c.signatures ↔ c.Documents sig := by
  rw [signatures, mem_overloads_iff, Option.mem_toList]
  constructor
  · rintro (h | ⟨hnone, h⟩)
    · exact .overload h
    · exact .implementation hnone h
  · rintro (h | ⟨hnone, h⟩)
    · exact .inl h
    · exact .inr ⟨hnone, h⟩

/-! ## An implementation behind overloads -/

/-- The function without an implementation that it does not document. -/
def FunctionEntry.documented (f : FunctionEntry) : FunctionEntry :=
  if f.overloads.isEmpty then f else { f with implementation := none }

/-- The callable without an implementation that it does not document. -/
def Callable.documented (c : Callable) : Callable :=
  if c.overloads.isEmpty then c else { c with implementation := none }

/-- The entry without the implementations that it does not document. -/
def Entry.documented : Entry → Entry
  | function f => .function f.documented
  | initializerApi f => .initializerApi { f with
      call := f.call.documented
      subFunctions := f.subFunctions.map Callable.documented }
  | e => e

/-- Leaving out what is not documented keeps the shared fields of a function. -/
@[simp] theorem FunctionEntry.info_documented (f : FunctionEntry) : f.documented.info = f.info := by
  unfold documented
  split <;> rfl

/-- An implementation that is not documented has no part in the signatures. -/
@[simp] theorem FunctionEntry.signatures_documented (f : FunctionEntry) :
    f.documented.signatures = f.signatures := by
  unfold documented
  split
  · rfl
  · rename_i hsome
    rw [signatures, signatures, if_neg hsome, if_neg hsome]

@[simp] theorem Callable.name_documented (c : Callable) : c.documented.name = c.name := by
  unfold documented
  split <;> rfl

/-- Nor has it in those of a callable. -/
@[simp] theorem Callable.signatures_documented (c : Callable) :
    c.documented.signatures = c.signatures := by
  unfold documented
  split
  · rfl
  · rename_i hsome
    rw [signatures, signatures, if_neg hsome, if_neg hsome]

namespace Article

/-! ## Parts -/

namespace Scribe

variable (s : Scribe)

/-- What a signature is refused for. -/
def RefusesSignature (sig : Signature) (f : Failure) : Prop :=
  ∃ p ∈ sig.params, Text.isBlankText p.name = true
    ∧ f = s.malformed "parameter" "parameter has no name"

/-- What a member is refused for. -/
def RefusesMember (m : Member) (f : Failure) : Prop :=
  (Text.isBlankText m.name = true ∧ f = s.malformed "member" (m.typeTag ++ " member has no name"))
    ∨ ∃ x, m = .method x ∧ s.RefusesSignature x.signature f

/-- A parameter is refused exactly when its name is blank. -/
theorem parameter_failsExactly (tags : List DocTag) (p : Parameter) :
    FailsExactly (fun f => Text.isBlankText p.name = true
      ∧ f = s.malformed "parameter" "parameter has no name") (s.parameter tags p) := by
  unfold parameter
  split
  · rename_i hname
    exact .error ⟨hname, rfl⟩
  · rename_i hname
    exact .ok (fun f h => hname h.1) _

/-- An overload is refused exactly for a parameter without a name. -/
theorem overload_failsExactly (name : String) (marker : Option Deprecation) (sig : Signature) :
    FailsExactly (s.RefusesSignature sig) (s.overload name marker sig) :=
  .bind_ok (.mapM (s.parameter_failsExactly sig.tags) sig.params) _

/-- A callable is refused exactly for one of its signatures. -/
theorem callable_failsExactly (name : String) (c : Callable) :
    FailsExactly (fun f => ∃ sig ∈ c.signatures, s.RefusesSignature sig f) (s.callable name c) :=
  .bind_ok (.mapM (s.overload_failsExactly name none) c.signatures) _

/-- A member is refused exactly for its own name or, as a method, for a parameter. -/
theorem member_failsExactly (m : Member) : FailsExactly (s.RefusesMember m) (s.member m) := by
  unfold member
  split
  · rename_i hname
    exact .error (.inl ⟨hname, rfl⟩)
  · rename_i hname
    cases m with
    | method x =>
      refine ((s.overload_failsExactly _ _ _).map _).congr fun f => ⟨fun h => .inr ⟨x, rfl, h⟩, ?_⟩
      rintro (⟨hblank, -⟩ | ⟨y, hy, h⟩)
      · exact absurd hblank hname
      · cases hy
        exact h
    | property p | getter p | setter p | enumItem p =>
      refine .ok ?_ _
      rintro f (⟨hblank, -⟩ | ⟨y, hy, -⟩)
      · exact hname hblank
      · cases hy

/-- Members are refused exactly for one of them: grouping them fails nowhere. -/
theorem members_failsExactly (ms : List Member) :
    FailsExactly (fun f => ∃ m ∈ ms, s.RefusesMember m f) (s.members ms) :=
  .map (.mapM s.member_failsExactly ms) _

/-- A class or an interface is refused exactly for its members. -/
theorem classBody_failsExactly (keyword : String) (c : ClassEntry) :
    FailsExactly (fun f => ∃ m ∈ c.members, s.RefusesMember m f) (s.classBody keyword c) :=
  .bind_ok (s.members_failsExactly c.members) _

/-- A function is refused exactly for a signature that it documents. -/
theorem functionBody_failsExactly (f : FunctionEntry) :
    FailsExactly (fun e => ∃ sig ∈ f.signatures, s.RefusesSignature sig e) (s.functionBody f) :=
  .bind_ok (.mapM (s.overload_failsExactly f.info.name none) f.signatures) _

/-- An initializer API is refused exactly for a signature of its own call or of a
function below it. -/
theorem initializerApiBody_failsExactly (f : InitializerApiEntry) :
    FailsExactly (fun e => (∃ sig ∈ f.call.signatures, s.RefusesSignature sig e)
        ∨ ∃ c ∈ f.subFunctions, ∃ sig ∈ c.signatures, s.RefusesSignature sig e)
      (s.initializerApiBody f) :=
  .bind (s.callable_failsExactly f.info.name f.call) fun _ =>
    .bind_ok (.mapM (fun c => s.callable_failsExactly _ c) f.subFunctions) _

end Scribe

/-! ## Entries -/

section

variable {s : Scribe} {e : Entry} {ms : List Member} {f : Failure}

/-- An entry that lists members is refused for them. -/
theorem refusesMember_iff (hname : e.name = s.site.current) (hlists : e.Lists ms) :
    (∃ m ∈ ms, s.RefusesMember m f) ↔ e.Refusal f := by
  unfold Scribe.RefusesMember Scribe.RefusesSignature Scribe.malformed
  rw [← hname]
  constructor
  · rintro ⟨m, hm, ⟨hblank, rfl⟩ | ⟨x, rfl, p, hp, hblank, rfl⟩⟩
    · exact .nameless (.member hlists hm hblank)
    · exact .nameless (.parameter (.method hlists hm) hp hblank)
  · intro h
    cases h with
    | unknown => cases hlists
    | malformed => cases hlists
    | nameless hpart =>
      -- An entry lists its members in one way, so the part is among these.
      cases hpart with
      | member hlists' hm hblank =>
        cases hlists <;> cases hlists' <;> exact ⟨_, hm, .inl ⟨hblank, rfl⟩⟩
      | parameter hsig hp hblank =>
        cases hsig with
        | method hlists' hm =>
          cases hlists <;> cases hlists' <;> exact ⟨_, hm, .inr ⟨_, rfl, _, hp, hblank, rfl⟩⟩
        | function | call | subFunction => cases hlists
      | option => cases hlists

/-- What lists no members and is no command can only be refused for the
parameters of a signature. -/
theorem exists_signature_of_refusal (hrenderable : e.isRenderable = true)
    (hcommand : e.isCommand = false) (hlists : ∀ ms, ¬e.Lists ms) (h : e.Refusal f) :
    ∃ sig, e.Documents sig ∧ ∃ p ∈ sig.params, Text.isBlankText p.name = true
      ∧ f = .malformed e.name "parameter" "parameter has no name" := by
  cases h with
  | unknown => cases hrenderable
  | malformed => cases hrenderable
  | nameless hpart =>
    cases hpart with
    | member hlists' => exact absurd hlists' (hlists _)
    | parameter hsig hp hblank => exact ⟨_, hsig, _, hp, hblank, rfl⟩
    | option => cases hcommand

/-- For an entry that lists no members and is no command, being refused is
documenting a signature with a nameless parameter. -/
theorem refusesSignature_iff (hname : e.name = s.site.current) (hrenderable : e.isRenderable = true)
    (hcommand : e.isCommand = false) (hlists : ∀ ms, ¬e.Lists ms) :
    (∃ sig, e.Documents sig ∧ s.RefusesSignature sig f) ↔ e.Refusal f := by
  unfold Scribe.RefusesSignature Scribe.malformed
  rw [← hname]
  constructor
  · rintro ⟨sig, hsig, p, hp, hblank, rfl⟩
    exact .nameless (.parameter hsig hp hblank)
  · exact exists_signature_of_refusal hrenderable hcommand hlists

end

namespace Context

variable (ctx : Context)

/-- A command is refused exactly for an option without a name. -/
theorem ofCommand_failsExactly (place : Place) (c : Command) :
    FailsExactly (Entry.command c).Refusal (ctx.ofCommand place c) := by
  unfold ofCommand
  dsimp only
  split
  · rename_i o ho
    have hblank : Text.isBlankText o.name = true := by
      simpa using List.find?_some ho
    exact .error (.nameless (.option (List.mem_of_find?_eq_some ho) hblank))
  · rename_i hnone
    refine .ok ?_ _
    intro f h
    cases h with
    | nameless hpart =>
      cases hpart with
      | member hlists => cases hlists
      | parameter hsig =>
        cases hsig with
        | method hlists => cases hlists
      | option ho hblank => exact List.find?_eq_none.mp hnone _ ho hblank

/-- What all API entries share is never refused, so an article fails exactly as its
body does. -/
theorem ofApi_failsExactly {P : Failure → Prop} (moduleName : String) {info : EntryInfo}
    {body : Scribe → Except Failure Body}
    (h : ∀ s : Scribe, info.name = s.site.current → FailsExactly P (body s)) :
    FailsExactly P (ctx.ofApi moduleName info body) :=
  (h _ rfl).map _

/-- An entry has no article exactly when there is a reason to refuse it, and
the failure is such a reason. -/
theorem article_failsExactly (place : Place) (moduleName : String) (e : Entry) :
    FailsExactly e.Refusal (ctx.article place moduleName e) := by
  cases e with
  | unknown name tag raw => exact .error (.unknown name tag raw)
  | malformed name tag reason => exact .error (.malformed name tag reason)
  | command c => exact ctx.ofCommand_failsExactly place c
  | classLike c =>
    exact ctx.ofApi_failsExactly moduleName fun s hname =>
      ((s.classBody_failsExactly "class" c).map _).congr fun f =>
        refusesMember_iff hname (.classLike c)
  | interface c =>
    exact ctx.ofApi_failsExactly moduleName fun s hname =>
      ((s.classBody_failsExactly "interface" c).map _).congr fun f =>
        refusesMember_iff hname (.interface c)
  | enumeration e =>
    exact ctx.ofApi_failsExactly moduleName fun s hname =>
      ((s.members_failsExactly e.members).map _).congr fun f =>
        refusesMember_iff hname (.enumeration e)
  | decorator d =>
    exact ctx.ofApi_failsExactly moduleName fun s hname =>
      ((s.members_failsExactly d.members).map _).congr fun f =>
        refusesMember_iff hname (.decorator d)
  | function g =>
    refine ctx.ofApi_failsExactly moduleName fun s hname =>
      (s.functionBody_failsExactly g).congr fun f => ?_
    rw [← refusesSignature_iff (e := .function g) hname rfl rfl nofun]
    constructor
    · rintro ⟨sig, hsig, h⟩
      exact ⟨sig, .function (FunctionEntry.mem_signatures_iff.mp hsig), h⟩
    · rintro ⟨sig, ⟨⟨⟩⟩ | hsig, h⟩
      exact ⟨sig, FunctionEntry.mem_signatures_iff.mpr hsig, h⟩
  | initializerApi g =>
    refine ctx.ofApi_failsExactly moduleName fun s hname =>
      (s.initializerApiBody_failsExactly g).congr fun f => ?_
    rw [← refusesSignature_iff (e := .initializerApi g) hname rfl rfl nofun]
    constructor
    · rintro (⟨sig, hsig, h⟩ | ⟨c, hc, sig, hsig, h⟩)
      · exact ⟨sig, .call (Callable.mem_signatures_iff.mp hsig), h⟩
      · exact ⟨sig, .subFunction hc (Callable.mem_signatures_iff.mp hsig), h⟩
    · rintro ⟨sig, ⟨⟨⟩⟩ | _ | hsig | ⟨hc, hsig⟩, h⟩
      · exact .inl ⟨sig, Callable.mem_signatures_iff.mpr hsig, h⟩
      · exact .inr ⟨_, hc, sig, Callable.mem_signatures_iff.mpr hsig, h⟩
  | constant c | typeAlias c | block c =>
    refine ctx.ofApi_failsExactly moduleName fun s _ => .ok (fun f h => ?_) _
    obtain ⟨sig, ⟨⟨⟩⟩, -⟩ := exists_signature_of_refusal rfl rfl (by rintro ms ⟨⟩) h

/-! ## Implementations that are not documented -/

/-- An implementation behind overloads has no say in the article. -/
theorem article_documented (place : Place) (moduleName : String) (e : Entry) :
    ctx.article place moduleName e.documented = ctx.article place moduleName e := by
  cases e with
  | function f =>
    simp only [Entry.documented, article, ofApi, Scribe.functionBody,
      FunctionEntry.info_documented, FunctionEntry.signatures_documented]
  | initializerApi f =>
    have hcallable (s : Scribe) (name : String) (c : Callable) :
        s.callable name c.documented = s.callable name c := by
      rw [Scribe.callable, Callable.signatures_documented, Scribe.callable]
    simp only [Entry.documented, article, ofApi, Scribe.initializerApiBody, List.mapM_map,
      Function.comp_def, Callable.name_documented, hcallable]
  | _ => rfl

/-! ## Which entries are refused -/

/-- An entry has no article exactly when its kind is not known, its shape is
not its kind's, or a part of it that would be shown has no name. The failure
is that of such a reason: for a part without a name, it names the entry.
Constants, type aliases and blocks have no such parts, and an implementation
that is not documented is none. -/
theorem article_refused (place : Place) (moduleName : String) (e : Entry) :
    ((∃ f, ctx.article place moduleName e = .error f) ↔
        (∃ name tag raw, e = .unknown name tag raw)
        ∨ (∃ name tag reason, e = .malformed name tag reason)
        ∨ ∃ part reason, e.NamelessPart part reason)
    ∧ (∀ f, ctx.article place moduleName e = .error f → e.Refusal f)
    ∧ ((∃ c, e = .constant c) ∨ (∃ t, e = .typeAlias t) ∨ (∃ info, e = .block info) →
        ∃ a, ctx.article place moduleName e = .ok a)
    ∧ ∀ e', e'.documented = e.documented →
        ctx.article place moduleName e' = ctx.article place moduleName e := by
  have hexact := ctx.article_failsExactly place moduleName e
  refine ⟨?_, hexact.failsWith, ?_, ?_⟩
  · rw [hexact.exists_error_iff]
    constructor
    · rintro ⟨f, ⟨name, tag, raw⟩ | ⟨name, tag, reason⟩ | hpart⟩
      · exact .inl ⟨name, tag, raw, rfl⟩
      · exact .inr (.inl ⟨name, tag, reason, rfl⟩)
      · exact .inr (.inr ⟨_, _, hpart⟩)
    · rintro (⟨name, tag, raw, rfl⟩ | ⟨name, tag, reason, rfl⟩ | ⟨part, reason, hpart⟩)
      · exact ⟨_, .unknown name tag raw⟩
      · exact ⟨_, .malformed name tag reason⟩
      · exact ⟨_, .nameless hpart⟩
  · rintro (⟨c, rfl⟩ | ⟨t, rfl⟩ | ⟨info, rfl⟩)
    · exact ⟨_, rfl⟩
    · exact ⟨_, rfl⟩
    · exact ⟨_, rfl⟩
  · intro e' he'
    rw [← ctx.article_documented place moduleName e', he', ctx.article_documented]

end Context

end Article

end ApiPages
