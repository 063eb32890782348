import ApiPages.Proofs.Article.Overloads
import ApiPages.Proofs.Article.Written
import ApiPages.Proofs.Collection.Parent
import ApiPages.Sample

/-!
# Messages of deprecation

A message says what to do about something deprecated, so it has no place on
anything else (`Consistent`). A marker and its tags settle the flag and the
message together, and what is written from them alone is consistent. An item
for several methods is not written so: it has the message of its first method
and the flag of all of them. So a page has a message out of place exactly when
a method that is not deprecated stands behind a deprecated one of its name that
has a message (`Member.Mixed`).
-/

namespace ApiPages

namespace Deprecation

/-- A message is there on something deprecated only. -/
def State.Consistent (d : State) : Prop := d.message.isSome = true → d.isDeprecated = true

instance (d : State) : Decidable d.Consistent := inferInstanceAs (Decidable (_ → _))

/-- A state that was resolved has a message only when it is deprecated. -/
theorem consistent_resolve (field : Option Deprecation) (tags : List DocTag) :
    (resolve field tags).Consistent := by
  unfold resolve
  dsimp only
  split
  · exact fun _ => rfl
  · intro h
    cases h

end Deprecation

/-- What the marker and the tags of a method say. -/
def Method.deprecation (x : Method) : Deprecation.State :=
  Deprecation.resolve x.info.deprecated x.info.tags

namespace Member

/-- A member that is a method of a name is a method, and has this name. -/
theorem eq_method_of_methodNamed? {m : Member} {y : Method} {name : String}
    (h : methodNamed? name m = some y) : m = .method y ∧ y.info.name = name := by
  cases m with
  | method z =>
    rw [methodNamed?] at h
    split at h
    · rename_i hname
      cases h
      exact ⟨rfl, hname⟩
    · cases h
  | _ => cases h

/-- Only methods have a method name. -/
theorem exists_method_of_methodName? {m : Member} {name : String} (h : m.methodName? = some name) :
    ∃ y, m = .method y := by
  cases m with
  | method y => exact ⟨y, rfl⟩
  | _ => cases h

/-- Whether some name's methods begin with one that has a message of
deprecation, and go on with one that is not deprecated. -/
def Mixed (ms : List Member) : Prop :=
  ∃ name first more, ms.filterMap (methodNamed? name) = first :: more
    ∧ first.deprecation.message.isSome = true ∧ ∃ x ∈ more, x.deprecation.isDeprecated = false

end Member

/-- Whether an entry lists such members. -/
def Entry.Mixed (e : Entry) : Prop := ∃ ms, e.Lists ms ∧ Member.Mixed ms

namespace Article

/-! ## What a page says of deprecation -/

/-- What a page says of the deprecation of its entry and of each member,
signature and option. -/
def deprecations (a : Article) : List Deprecation.State :=
  a.deprecation :: (a.body.members.map ShownMember.deprecation
    ++ a.body.overloads.map Overload.deprecation ++ a.body.options.map ShownOption.deprecation)

namespace Scribe

variable {s : Scribe} {name : String} {marker : Option Deprecation} {m : Member} {y : Method}
  {x : ShownMember} {ms : List Member} {xs out : List ShownMember}

/-- Writing the message of a state keeps the state consistent. -/
theorem consistent_deprecation (s : Scribe) (field : Option Deprecation) (tags : List DocTag) :
    (s.deprecation field tags).Consistent := by
  intro h
  rw [deprecation, Option.isSome_map] at h
  exact Deprecation.consistent_resolve field tags h

/-- An overload is deprecated by its own signature, so its state is consistent. -/
theorem consistent_of_overload {sig : Signature} {o : Overload}
    (h : s.overload name marker sig = .ok o) : o.deprecation.Consistent := by
  rw [(of_overload h).2]
  exact s.consistent_deprecation marker sig.tags

/-- The overloads of several signatures are consistent one by one. -/
theorem consistent_of_mapM_overload {sigs : List Signature} {os : List Overload}
    (h : sigs.mapM (s.overload name marker) = .ok os) : ∀ o ∈ os, o.deprecation.Consistent := by
  intro o ho
  obtain ⟨sig, -, hsig⟩ := exists_mem_of_forall₂ (mapM_eq_ok_iff.mp h) ho
  exact consistent_of_overload hsig

/-- The overloads of a callable are consistent. -/
theorem consistent_of_callable {c : Callable} {shown : ShownCallable}
    (h : s.callable name c = .ok shown) : ∀ o ∈ shown.overloads, o.deprecation.Consistent := by
  obtain ⟨os, hos, h⟩ := exists_of_bind_eq_ok h
  cases h
  exact consistent_of_mapM_overload hos

/-! ## Items -/

/-- A member alone says what its marker and tags do; for a method they are
those of its overload too. -/
theorem deprecation_of_member (h : s.member m = .ok x) :
    x.deprecation = s.deprecation m.info.deprecated m.info.tags := by
  unfold member at h
  split at h
  · cases h
  · cases m with
    | method y =>
      obtain ⟨own, hown, rfl⟩ := map_eq_ok_iff.mp h
      rw [method, (of_overload hown).2]
      rfl
    | property | getter | setter | enumItem =>
      cases h
      rfl

/-- Gathering overloads never changes the message of the first method. -/
theorem message_gathered (x : ShownMember) (xs : List ShownMember) :
    (x.gathered xs).deprecation.message = x.deprecation.message := by
  unfold ShownMember.gathered
  split <;> rfl

/-- The overloads of methods are deprecated where the methods are. -/
theorem map_isDeprecated_of_mapM {methods : List Method} {os : List Overload}
    (h : methods.mapM s.methodOverload = .ok os) :
    os.map (·.deprecation.isDeprecated) = methods.map (·.deprecation.isDeprecated) := by
  rw [← List.forall₂_eq_eq_eq, List.forall₂_map_left_iff, List.forall₂_map_right_iff]
  refine (mapM_eq_ok_iff.mp h).flip.imp fun o x hx => ?_
  rw [(of_overload hx).2]
  rfl

/-- A member that is no method is gathered with nothing, and stays consistent. -/
theorem consistent_of_other (h : s.member m = .ok x) (hx : x.isMethod = false) :
    (x.gathered xs).deprecation.Consistent := by
  have hself : x.gathered xs = x := by
    rw [ShownMember.gathered, hx]
    rfl
  rw [hself, deprecation_of_member h]
  exact s.consistent_deprecation _ _

/-- The message of an item is that of its first method, and its flag is set
when all of its methods are deprecated. -/
theorem consistent_iff_of_method
    (hall : List.Forall₂ (fun m x => s.member m = .ok x) ms xs)
    (h : s.member (.method y) = .ok x) {more : List Method}
    (hmore : (Member.method y).overloads ms = y :: more) :
    (x.gathered xs).deprecation.Consistent
      ↔ (y.deprecation.message.isSome = true → ∀ z ∈ more, z.deprecation.isDeprecated = true) := by
  have hitem := isItem_gathered hall h
  have hmessage : (x.gathered xs).deprecation.message.isSome = y.deprecation.message.isSome := by
    rw [message_gathered, deprecation_of_member h, deprecation, Option.isSome_map]
    rfl
  have hflags := map_isDeprecated_of_mapM hitem.overloads
  have hflag : (x.gathered xs).deprecation.isDeprecated = true
      ↔ ∀ z ∈ y :: more, z.deprecation.isDeprecated = true :=
    calc (x.gathered xs).deprecation.isDeprecated = true
        ↔ ∀ o ∈ (x.gathered xs).overloads, o.deprecation.isDeprecated = true :=
          hitem.isDeprecated hitem.isMethod
      _ ↔ ∀ flag ∈ (x.gathered xs).overloads.map (·.deprecation.isDeprecated), flag = true :=
          (List.forall_mem_map (P := (· = true))).symm
      _ ↔ ∀ z ∈ y :: more, z.deprecation.isDeprecated = true := by
          rw [hflags, hmore, List.forall_mem_map]
  rw [Deprecation.State.Consistent, hmessage, hflag, List.forall_mem_cons]
  constructor
  · exact fun h hsome => (h hsome).2
  · exact fun h hsome => ⟨Deprecation.consistent_resolve _ _ hsome, h hsome⟩

/-- The items of members are consistent unless the members are mixed. -/
theorem consistent_members_iff (h : s.members ms = .ok out) :
    (∀ item ∈ out, item.deprecation.Consistent) ↔ ¬Member.Mixed ms := by
  obtain ⟨xs, hall, hitems⟩ := exists_items h
  constructor
  · rintro hconsistent ⟨name, first, more, hmethods, hmessage, z, hz, hflag⟩
    have hfirst : first ∈ ms.filterMap (Member.methodNamed? name) := by
      rw [hmethods]
      exact List.mem_cons_self
    obtain ⟨m, hm, hnamed⟩ := List.mem_filterMap.mp hfirst
    obtain ⟨rfl, rfl⟩ := Member.eq_method_of_methodNamed? hnamed
    obtain ⟨m', hm', hkey⟩ := exists_mem_firsts Member.methodName? hm
    obtain ⟨y, rfl⟩ := Member.exists_method_of_methodName? hkey
    obtain ⟨more', hmore'⟩ := exists_overloads_of_mem_firsts hm'
    rw [Member.overloads, hkey] at hmore'
    obtain ⟨rfl, rfl⟩ := List.cons.inj (hmore'.symm.trans hmethods)
    obtain ⟨item, hitem, x, hx, rfl⟩ := exists_mem_of_forall₂ hitems.flip hm'
    have hall := (consistent_iff_of_method hall hx hmore').mp (hconsistent _ hitem) hmessage z hz
    exact Bool.false_ne_true (hflag.symm.trans hall)
  · intro hmixed item hitem
    obtain ⟨m, hm, x, hx, rfl⟩ := exists_mem_of_forall₂ hitems hitem
    cases hmethod : x.isMethod with
    | false => exact consistent_of_other hx hmethod
    | true =>
      have hkey : m.methodName? = some x.name := by
        rw [← methodName?_of_member hx, ShownMember.methodName?_of_method hmethod]
      obtain ⟨y, rfl⟩ := Member.exists_method_of_methodName? hkey
      obtain ⟨more, hmore⟩ := exists_overloads_of_mem_firsts hm
      rw [consistent_iff_of_method hall hx hmore]
      intro hmessage z hz
      by_contra hflag
      exact hmixed ⟨_, y, more, hmore, hmessage, z, hz, Bool.eq_false_iff.mpr hflag⟩

/-- The overloads of items are consistent. -/
theorem consistent_overloads_of_members (h : s.members ms = .ok out) :
    ∀ o ∈ out.flatMap ShownMember.overloads, o.deprecation.Consistent := by
  intro o ho
  obtain ⟨item, hitem, ho⟩ := List.mem_flatMap.mp ho
  obtain ⟨m, -, his⟩ := exists_isItem h hitem
  obtain ⟨x, -, hx⟩ := exists_mem_of_forall₂ (mapM_eq_ok_iff.mp his.overloads) ho
  exact consistent_of_overload hx

/-- Among the members of an article only methods can be inconsistent. -/
theorem consistent_of_isMethod_eq_false (h : s.members ms = .ok out) :
    ∀ item ∈ out, item.isMethod = false → item.deprecation.Consistent := by
  intro item hitem hother
  obtain ⟨m, -, his⟩ := exists_isItem h hitem
  rw [deprecation_of_member (his.alone hother)]
  exact s.consistent_deprecation _ _

end Scribe

/-! ## Pages -/

namespace Context

variable {ctx : Context} {s : Scribe} {place : Place} {moduleName : String} {e : Entry} {b : Body}
  {a : Article}

/-- The members of an entry decide whether those that its page shows are
consistent. -/
theorem Written.consistent_members (h : ctx.Written s place e b) :
    ((∀ item ∈ b.members, item.deprecation.Consistent) ↔ ¬e.Mixed)
      ∧ ∀ item ∈ b.members, item.isMethod = false → item.deprecation.Consistent := by
  obtain ⟨ms, hlists, hms⟩ | ⟨hnone, hempty⟩ := h.members_cases
  · refine ⟨?_, Scribe.consistent_of_isMethod_eq_false hms⟩
    rw [Scribe.consistent_members_iff hms, Entry.Mixed]
    simp only [hlists, exists_eq_left]
  · rw [hempty]
    refine ⟨iff_of_true (fun _ h => absurd h List.not_mem_nil) ?_,
      fun _ h => absurd h List.not_mem_nil⟩
    rintro ⟨ms, hms, -⟩
    exact hnone ms hms

/-- The overloads that a body holds beside its members are consistent. -/
theorem Written.consistent_overloads (h : ctx.Written s place e b) :
    ∀ o ∈ b.overloads, o.deprecation.Consistent := by
  cases h with
  | classLike h | interface h | enumeration h | decorator h =>
    exact Scribe.consistent_overloads_of_members h
  | function h => exact Scribe.consistent_of_mapM_overload h
  | initializerApi hcall hsubs =>
    intro o ho
    rcases List.mem_append.mp ho with ho | ho
    · exact Scribe.consistent_of_callable hcall o ho
    · obtain ⟨shown, hshown, ho⟩ := List.mem_flatMap.mp ho
      obtain ⟨c, -, hc⟩ := exists_mem_of_forall₂ (mapM_eq_ok_iff.mp hsubs) hshown
      exact Scribe.consistent_of_callable hc o ho
  | constant | typeAlias | block | command => exact fun _ h => absurd h List.not_mem_nil

/-- The options of a command are consistent. -/
theorem Written.consistent_options (h : ctx.Written s place e b) :
    ∀ o ∈ b.options, o.deprecation.Consistent := by
  cases h with
  | command =>
    intro o ho
    have hshown : ∃ option, s.commandOption option = o := by
      rcases List.mem_append.mp ho with ho | ho
      · obtain ⟨option, -, hoption⟩ := List.mem_map.mp ho
        exact ⟨option, hoption⟩
      · obtain ⟨option, -, hoption⟩ := List.mem_map.mp ho
        exact ⟨option, hoption⟩
    obtain ⟨option, rfl⟩ := hshown
    exact s.consistent_deprecation _ _
  | _ => exact fun _ h => absurd h List.not_mem_nil

/-- The messages of deprecation on a page. On an accepted entry itself, on every
signature, on every option and on every member that is no method, there is one
only if this is deprecated. So it is for all that the page shows exactly when
the entry lists no methods of one name of which the first has a message and a
later one is not deprecated. -/
theorem messages_iff_not_mixed (h : ctx.article place moduleName e = .ok a) :
    ((∀ d ∈ a.deprecations, d.Consistent) ↔ ¬e.Mixed)
      ∧ a.deprecation.Consistent
      ∧ (∀ o ∈ a.body.overloads, o.deprecation.Consistent)
      ∧ (∀ o ∈ a.body.options, o.deprecation.Consistent)
      ∧ ∀ item ∈ a.body.members, item.isMethod = false → item.deprecation.Consistent := by
  obtain ⟨hwritten, marker, tags, hdeprecation⟩ := written_of_article h
  have hown : a.deprecation.Consistent := by
    rw [hdeprecation]
    exact Scribe.consistent_deprecation _ _ _
  obtain ⟨hmembers, hothers⟩ := hwritten.consistent_members
  have hoverloads := hwritten.consistent_overloads
  have hoptions := hwritten.consistent_options
  refine ⟨?_, hown, hoverloads, hoptions, hothers⟩
  rw [← hmembers, deprecations, List.forall_mem_cons]
  simp only [List.forall_mem_append, List.forall_mem_map]
  exact ⟨fun h => h.2.1.1, fun h => ⟨hown, ⟨h, hoverloads⟩, hoptions⟩⟩

/-- Two methods of one name: the first is deprecated with a message, the second
has the given marker. -/
def methodsMarked (second : Option Deprecation) : List Member :=
  [.method ⟨⟨"f", [], "", [], some (.message "Use g.")⟩, [], none, []⟩,
    .method ⟨⟨"f", [], "", [], second⟩, [], none, []⟩]

/-- When the second method is deprecated too, without a word, the page shows the
message of the first for both. -/
theorem messages_of_deprecated_methods :
    let c := Sample.classEntry "C" .classKind (methodsMarked (some (.flag true)))
    ∃ a, (ofRun false []).article ⟨0, 0⟩ "m" (.classLike c) = .ok a
      ∧ (∃ item ∈ a.body.members, item.deprecation.message = some "Use g.")
      ∧ ∀ d ∈ a.deprecations, d.Consistent := by
  intro c
  have hmessage : (((ofRun false []).article ⟨0, 0⟩ "m" (.classLike c)).toOption.any fun a =>
      a.body.members.any fun item => item.deprecation.message == some "Use g.") = true := by
    decide +kernel
  obtain ⟨a, ha, hmessage⟩ := (Option.any_eq_true _ _).mp hmessage
  obtain ⟨item, hitem, hstate⟩ := List.any_eq_true.mp hmessage
  have harticle := toOption_eq_some_iff.mp ha
  refine ⟨a, harticle, ⟨item, hitem, beq_iff_eq.mp hstate⟩, ?_⟩
  rw [(messages_iff_not_mixed harticle).1]
  rintro ⟨_, ⟨⟩, name, first, more, hmethods, -, z, hz, hflag⟩
  have hmem : z ∈ (methodsMarked (some (.flag true))).filterMap (Member.methodNamed? name) :=
    hmethods ▸ List.mem_cons_of_mem _ hz
  obtain ⟨m, hm, hnamed⟩ := List.mem_filterMap.mp hmem
  obtain ⟨rfl, -⟩ := Member.eq_method_of_methodNamed? hnamed
  have hall : ∀ m ∈ methodsMarked (some (.flag true)), ∀ y, m = .method y →
      y.deprecation.isDeprecated = true := by
    simp [methodsMarked, Method.deprecation, Deprecation.resolve, Deprecation.isOn]
  exact Bool.false_ne_true (hflag.symm.trans (hall _ hm z rfl))

/-- A class with a deprecated method and a second one of its name that is not
deprecated. -/
def mixedDocument : String × String :=
  ("m.json", "\x7b\"moduleName\": \"m\", \"entries\": ["
    ++ "\x7b\"name\": \"C\", \"entryType\": \"class\", \"members\": ["
    ++ "\x7b\"memberType\": \"method\", \"name\": \"f\", \"deprecated\": \"Use g.\"\x7d, "
    ++ "\x7b\"memberType\": \"method\", \"name\": \"f\"\x7d]\x7d]\x7d")

/-- The page says of the item for both methods that it is not deprecated, and
has the message of the first. -/
theorem exists_message_out_of_place :
    ∃ cs collection entry a item, cs = Collection.afterAll [mixedDocument]
      ∧ cs[0]? = some collection ∧ collection.entries[0]? = some entry
      ∧ (ofRun true cs).article ⟨0, 0⟩ collection.moduleName entry = .ok a
      ∧ item ∈ a.body.members ∧ item.deprecation ∈ a.deprecations
      ∧ item.deprecation = ⟨false, some "Use g."⟩ ∧ ¬item.deprecation.Consistent := by
  let cs := Collection.afterAll [mixedDocument]
  have hitems : (cs[0]?.any fun collection => collection.entries[0]?.any fun entry =>
      ((ofRun true cs).article ⟨0, 0⟩ collection.moduleName entry).toOption.any fun a =>
        a.body.members.any fun item => item.deprecation == ⟨false, some "Use g."⟩) = true := by
    decide +kernel
  obtain ⟨collection, hcollection, hitems⟩ := (Option.any_eq_true _ _).mp hitems
  obtain ⟨entry, hentry, hitems⟩ := (Option.any_eq_true _ _).mp hitems
  obtain ⟨a, ha, hitems⟩ := (Option.any_eq_true _ _).mp hitems
  obtain ⟨item, hitem, hstate⟩ := List.any_eq_true.mp hitems
  have hstate : item.deprecation = ⟨false, some "Use g."⟩ := beq_iff_eq.mp hstate
  refine ⟨cs, collection, entry, a, item, rfl, hcollection, hentry, toOption_eq_some_iff.mp ha,
    hitem, ?_, hstate, ?_⟩
  · exact List.mem_cons_of_mem _
      (List.mem_append_left _ (List.mem_append_left _ (List.mem_map_of_mem hitem)))
  · rw [hstate]
    decide

end Context

end Article

end ApiPages
