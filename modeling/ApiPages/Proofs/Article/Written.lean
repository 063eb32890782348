import ApiPages.Proofs.Article.Nameless
import ApiPages.Proofs.Article.Site

/-!
# What an accepted entry is written as

The writers of a body refuse or write as a whole. `Written` has one case for
each kind of entry: what the body is when no part is refused, and what was
written for it. What holds of all articles is shown along these cases.
-/

namespace ApiPages.Article

/-! ## What a page shows -/

namespace Body

/-- The members that a page shows. -/
def members : Body → List ShownMember
  | .classLike c | .interface c => c.members
  | .enumeration ms | .decorator _ ms => ms
  | _ => []

/-- The functions of an initializer API that a page shows. -/
def subFunctions : Body → List ShownCallable
  | .initializerApi _ subs => subs
  | _ => []

/-- The signatures that a page shows. -/
def overloads : Body → List Overload
  | .function _ overloads => overloads
  | .initializerApi call subs => call.overloads ++ subs.flatMap ShownCallable.overloads
  | b => b.members.flatMap ShownMember.overloads

/-- The arguments and options that a page shows. -/
def options : Body → List ShownOption
  | .command c => c.arguments ++ c.options
  | _ => []

end Body

/-! ## What is written -/

/-- An accepted signature has its code, and what its marker and tags say of
deprecation. -/
theorem Scribe.of_overload {s : Scribe} {name : String} {marker : Option Deprecation}
    {sig : Signature} {o : Overload} (h : s.overload name marker sig = .ok o) :
    o.code = s.code name sig ∧ o.deprecation = s.deprecation marker sig.tags := by
  obtain ⟨_, -, h⟩ := exists_of_bind_eq_ok h
  cases h
  exact ⟨rfl, rfl⟩

/-- What a scribe writes as the body of the entry at a place, when it refuses
no part of it. -/
inductive Context.Written (ctx : Context) (s : Scribe) (place : Place) : Entry → Body → Prop
  | classLike {c : ClassEntry} {members : List ShownMember} (h : s.members c.members = .ok members) :
      Written ctx s place (.classLike c) (.classLike ⟨s.type (c.declaration "class"), c.selector,
        c.exportAs, c.pipeName, c.isStandalone, members⟩)
  | interface {c : ClassEntry} {members : List ShownMember} (h : s.members c.members = .ok members) :
      Written ctx s place (.interface c) (.interface ⟨s.type (c.declaration "interface"), c.selector,
        c.exportAs, c.pipeName, c.isStandalone, members⟩)
  | function {f : FunctionEntry} {overloads : List Overload}
      (h : f.signatures.mapM (s.overload f.info.name none) = .ok overloads) :
      Written ctx s place (.function f) (.function (overloads.length > 1) overloads)
  | initializerApi {f : InitializerApiEntry} {call : ShownCallable} {subs : List ShownCallable}
      (hcall : s.callable f.info.name f.call = .ok call)
      (hsubs : f.subFunctions.mapM (fun c => s.callable (f.info.name ++ "." ++ c.name) c) = .ok subs) :
      Written ctx s place (.initializerApi f) (.initializerApi call subs)
  | constant {c : ConstantEntry} :
      Written ctx s place (.constant c) (.constant (s.type c.declaration))
  | typeAlias {t : TypeAliasEntry} :
      Written ctx s place (.typeAlias t) (.typeAlias (s.type t.head ++ " = " ++ s.type t.type))
  | enumeration {e : EnumEntry} {members : List ShownMember} (h : s.members e.members = .ok members) :
      Written ctx s place (.enumeration e) (.enumeration members)
  | decorator {d : DecoratorEntry} {members : List ShownMember}
      (h : s.members d.members = .ok members) :
      Written ctx s place (.decorator d) (.decorator d.placement.label members)
  | block {info : EntryInfo} : Written ctx s place (.block info) .block
  | command {c : Command} : Written ctx s place (.command c) (.command (ctx.commandBody s place c))

namespace Context

variable {ctx : Context} {s : Scribe} {place : Place} {moduleName : String} {e : Entry} {b : Body}
  {a : Article}

/-- A page shows the members that its entry lists, if it is one that lists
members. -/
theorem Written.members_cases (h : ctx.Written s place e b) :
    (∃ ms, (∀ ms', e.Lists ms' ↔ ms' = ms) ∧ s.members ms = .ok b.members)
      ∨ ((∀ ms, ¬e.Lists ms) ∧ b.members = []) := by
  cases h with
  | classLike h | interface h | enumeration h | decorator h =>
    refine Or.inl ⟨_, fun ms => ⟨?_, ?_⟩, h⟩
    · rintro ⟨⟩
      rfl
    · rintro rfl
      constructor
  | function | initializerApi | constant | typeAlias | block | command =>
    exact Or.inr ⟨by rintro ms ⟨⟩, rfl⟩

/-- The scribe of an entry. -/
def scribeOf (ctx : Context) (e : Entry) : Scribe := ⟨ctx.markdown, ctx.siteOf e⟩

/-- An accepted entry is written by its own scribe, and so is what the page
says of its deprecation. -/
theorem written_of_article (h : ctx.article place moduleName e = .ok a) :
    ctx.Written (ctx.scribeOf e) place e a.body
      ∧ ∃ marker tags, a.deprecation = (ctx.scribeOf e).deprecation marker tags := by
  cases e with
  | unknown | malformed => cases h
  | command c =>
    unfold article ofCommand at h
    dsimp only at h
    split at h
    · cases h
    · cases h
      exact ⟨.command, _, _, rfl⟩
  | classLike c =>
    obtain ⟨_, hbody, rfl⟩ := map_eq_ok_iff.mp h
    obtain ⟨_, hclass, rfl⟩ := map_eq_ok_iff.mp hbody
    obtain ⟨members, hmembers, hclass⟩ := exists_of_bind_eq_ok hclass
    cases hclass
    exact ⟨.classLike hmembers, _, _, rfl⟩
  | interface c =>
    obtain ⟨_, hbody, rfl⟩ := map_eq_ok_iff.mp h
    obtain ⟨_, hclass, rfl⟩ := map_eq_ok_iff.mp hbody
    obtain ⟨members, hmembers, hclass⟩ := exists_of_bind_eq_ok hclass
    cases hclass
    exact ⟨.interface hmembers, _, _, rfl⟩
  | function f =>
    obtain ⟨_, hbody, rfl⟩ := map_eq_ok_iff.mp h
    obtain ⟨overloads, hoverloads, hbody⟩ := exists_of_bind_eq_ok hbody
    cases hbody
    exact ⟨.function hoverloads, _, _, rfl⟩
  | initializerApi f =>
    obtain ⟨_, hbody, rfl⟩ := map_eq_ok_iff.mp h
    obtain ⟨call, hcall, hbody⟩ := exists_of_bind_eq_ok hbody
    obtain ⟨subs, hsubs, hbody⟩ := exists_of_bind_eq_ok hbody
    cases hbody
    exact ⟨.initializerApi hcall hsubs, _, _, rfl⟩
  | constant c =>
    cases h
    exact ⟨.constant, _, _, rfl⟩
  | typeAlias t =>
    cases h
    exact ⟨.typeAlias, _, _, rfl⟩
  | enumeration e =>
    obtain ⟨_, hbody, rfl⟩ := map_eq_ok_iff.mp h
    obtain ⟨members, hmembers, rfl⟩ := map_eq_ok_iff.mp hbody
    exact ⟨.enumeration hmembers, _, _, rfl⟩
  | decorator d =>
    obtain ⟨_, hbody, rfl⟩ := map_eq_ok_iff.mp h
    obtain ⟨members, hmembers, rfl⟩ := map_eq_ok_iff.mp hbody
    exact ⟨.decorator hmembers, _, _, rfl⟩
  | block info =>
    cases h
    exact ⟨.block, _, _, rfl⟩

end Context

end ApiPages.Article
