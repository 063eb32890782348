import Mathlib.Data.List.Forall2

/-!
# Results that can fail

What a chain of steps answers is what its steps answer. When the chain
succeeds, every step did (`exists_of_bind_eq_ok`); when it fails, it fails
the way one of them does, so what is true of the failures of all steps is
true of those of the chain (`FailsWith`). Which step failed is left open by
`FailsExactly`, but not whether one did.
-/

namespace ApiPages

/-- A chain that succeeds has steps that succeed. -/
theorem exists_of_bind_eq_ok {ε α β : Type} {x : Except ε α} {g : α → Except ε β} {b : β}
    (h : x >>= g = .ok b) : ∃ a, x = .ok a ∧ g a = .ok b := by
  cases x with
  | error e => cases h
  | ok a => exact ⟨a, rfl, h⟩

/-- A result put through a function succeeds when it does. -/
theorem map_eq_ok_iff {ε α β : Type} {x : Except ε α} {g : α → β} {b : β} :
    x.map g = .ok b ↔ ∃ a, x = .ok a ∧ g a = b := by
  cases x <;> simp [Except.map]

/-- A result that answers something succeeds. -/
theorem toOption_eq_some_iff {ε α : Type} {x : Except ε α} {a : α} :
    x.toOption = some a ↔ x = .ok a := by
  cases x <;> simp [Except.toOption]

/-- What one injective function makes of two results is the same only when
they are. -/
theorem map_eq_map_iff {ε α β : Type} {g : α → β} (hg : Function.Injective g)
    {x y : Except ε α} : x.map g = y.map g ↔ x = y := by
  refine ⟨fun h => ?_, congrArg _⟩
  cases x with
  | error e =>
    cases y with
    | error e' => exact congrArg _ (Except.error.inj h)
    | ok b => cases h
  | ok a =>
    cases y with
    | error e => cases h
    | ok b => exact congrArg _ (hg (Except.ok.inj h))

/-- A step taken for each element succeeds when each time does, and answers
what they do. -/
theorem mapM_eq_ok_iff {ε α β : Type} {g : α → Except ε β} {xs : List α} {ys : List β} :
    xs.mapM g = .ok ys ↔ List.Forall₂ (fun x y => g x = .ok y) xs ys := by
  induction xs generalizing ys with
  | nil =>
    rw [List.forall₂_nil_left_iff, List.mapM_nil]
    exact ⟨fun h => (Except.ok.inj h).symm, fun h => congrArg Except.ok h.symm⟩
  | cons x xs ih =>
    rw [List.mapM_cons]
    constructor
    · intro h
      obtain ⟨y, hy, h⟩ := exists_of_bind_eq_ok h
      obtain ⟨ys, hys, h⟩ := exists_of_bind_eq_ok h
      cases h
      exact .cons hy (ih.mp hys)
    · rintro (_ | ⟨hy, hys⟩)
      rw [hy, ih.mpr hys]
      rfl

/-- What stands at a place of the second list has its partner at that place of the first. -/
theorem exists_getElem?_of_forall₂ {α β : Type} {R : α → β → Prop} {xs : List α} {ys : List β}
    (h : List.Forall₂ R xs ys) {i : Nat} {y : β} (hy : ys[i]? = some y) :
    ∃ x, xs[i]? = some x ∧ R x y := by
  induction h generalizing i with
  | nil => cases hy
  | @cons x _ _ _ hx _ ih =>
    cases i with
    | zero => exact ⟨x, rfl, Option.some.inj hy ▸ hx⟩
    | succ i => exact ih hy

/-- Every element of the second list has a partner in the first. -/
theorem exists_mem_of_forall₂ {α β : Type} {R : α → β → Prop} {xs : List α} {ys : List β}
    (h : List.Forall₂ R xs ys) {y : β} (hy : y ∈ ys) : ∃ x ∈ xs, R x y := by
  obtain ⟨i, hi⟩ := List.mem_iff_getElem?.mp hy
  obtain ⟨x, hx, hxy⟩ := exists_getElem?_of_forall₂ h hi
  exact ⟨x, List.mem_of_getElem? hx, hxy⟩

/-- Other words for a failure leave a success as it is. -/
theorem mapError_eq_ok_iff {ε ε' α : Type} {x : Except ε α} {g : ε → ε'} {a : α} :
    x.mapError g = .ok a ↔ x = .ok a := by
  cases x with
  | error e => exact ⟨nofun, nofun⟩
  | ok b =>
    constructor
    · intro h
      cases h
      rfl
    · intro h
      cases h
      rfl

/-- A result that, when it fails, fails in some way. -/
def FailsWith {ε α : Type} (P : ε → Prop) (x : Except ε α) : Prop :=
  ∀ f, x = .error f → P f

namespace FailsWith

variable {ε α β : Type} {P Q : ε → Prop}

theorem ok (a : α) : FailsWith P (.ok a : Except ε α) := by
  intro f hf
  cases hf

theorem error {f : ε} (h : P f) : FailsWith P (.error f : Except ε α) := by
  intro f' hf
  cases hf
  exact h

/-- What fails in one way fails in every weaker one. -/
theorem mono {x : Except ε α} (hx : FailsWith P x) (h : ∀ f, P f → Q f) : FailsWith Q x :=
  fun f hf => h f (hx f hf)

/-- Steps in a row fail in the ways of each. -/
theorem bind {x : Except ε α} {g : α → Except ε β} (hx : FailsWith P x)
    (hg : ∀ a, FailsWith P (g a)) : FailsWith P (x >>= g) := by
  cases x with
  | ok a => exact hg a
  | error f => exact error (hx f rfl)

end FailsWith

/-- A result that fails in no other way than some, and fails when there is
such a way. -/
structure FailsExactly {ε α : Type} (P : ε → Prop) (x : Except ε α) : Prop where
  failsWith : FailsWith P x
  fails : ∀ f, P f → ∃ f', x = .error f'

namespace FailsExactly

variable {ε α β : Type} {P Q : ε → Prop}

/-- A result is right where no failure is possible. -/
theorem ok (h : ∀ f, ¬P f) (a : α) : FailsExactly P (.ok a : Except ε α) :=
  ⟨.ok a, fun f hf => absurd hf (h f)⟩

/-- A failure is right where it is a possible one. -/
theorem error {f : ε} (h : P f) : FailsExactly P (.error f : Except ε α) :=
  ⟨.error h, fun _ _ => ⟨f, rfl⟩⟩

/-- Only which failures there are matters, not how that is said. -/
theorem congr {x : Except ε α} (hx : FailsExactly P x) (h : ∀ f, P f ↔ Q f) :
    FailsExactly Q x :=
  ⟨hx.failsWith.mono fun f => (h f).mp, fun f hf => hx.fails f ((h f).mpr hf)⟩

/-- Something fails exactly when some failure is possible. -/
theorem exists_error_iff {x : Except ε α} (hx : FailsExactly P x) :
    (∃ f, x = .error f) ↔ ∃ f, P f :=
  ⟨fun ⟨f, hf⟩ => ⟨f, hx.failsWith f hf⟩, fun ⟨f, hf⟩ => hx.fails f hf⟩

/-- A chain of two steps fails as the first or as the second. -/
theorem bind {x : Except ε α} {g : α → Except ε β} (hx : FailsExactly P x)
    (hg : ∀ a, FailsExactly Q (g a)) : FailsExactly (fun f => P f ∨ Q f) (x >>= g) := by
  cases x with
  | error f => exact error (Or.inl (hx.failsWith f rfl))
  | ok a =>
    refine (hg a).congr fun f => ⟨Or.inr, fun h => h.resolve_left fun hf => ?_⟩
    obtain ⟨f', hf'⟩ := hx.fails f hf
    cases hf'

/-- What comes after a step and cannot fail has no say. -/
theorem bind_ok {x : Except ε α} (hx : FailsExactly P x) (g : α → β) :
    FailsExactly P (x >>= fun a => .ok (g a)) :=
  (hx.bind fun a => ok (P := fun _ => False) (fun _ h => h) (g a)).congr fun f => by
    rw [or_false]

/-- What is made of a result fails as the result does. -/
theorem map {x : Except ε α} (hx : FailsExactly P x) (g : α → β) : FailsExactly P (x.map g) := by
  cases x with
  | ok a => exact hx.bind_ok g
  | error f => exact error (hx.failsWith f rfl)

/-- A step taken for each element fails when it does for one. -/
theorem mapM {P : α → ε → Prop} {g : α → Except ε β} (hg : ∀ a, FailsExactly (P a) (g a))
    (xs : List α) : FailsExactly (fun f => ∃ a ∈ xs, P a f) (xs.mapM g) := by
  induction xs with
  | nil => exact ok (by simp) []
  | cons x xs ih =>
    rw [List.mapM_cons]
    refine ((hg x).bind fun y => ih.bind_ok (y :: ·)).congr fun f => ?_
    simp only [List.mem_cons, exists_eq_or_imp]

end FailsExactly

end ApiPages
