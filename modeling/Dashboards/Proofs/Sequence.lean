import Mathlib.Data.List.Forall2

/-!
# Steps over a list

A list of steps succeeds when each step does, and then gives the results in order. The lemmas say so
for steps that may fail with an error (`mapM_eq_ok_iff`) and for steps that may have no result
(`mapM_eq_some_iff`); a list that fails does so with the error of its first failing step
(`mapM_eq_error_iff`).

What all errors of a step have in common is a property of the step (`FailsWith`), which steps after
each other keep (`FailsWith.bind`).

Two results are `Alike` if both are there and related, or both are missing with related errors.
Steps that keep results related leave them alike (`Alike.bind`).
-/

namespace Dashboards

variable {ε α β γ : Type}

/-- Two steps succeed when the first does and the second succeeds on its result. -/
theorem bind_eq_ok_iff {x : Except ε α} {f : α → Except ε β} {b : β} :
    (x >>= f) = .ok b ↔ ∃ a, x = .ok a ∧ f a = .ok b := by
  cases x <;> simp [bind, Except.bind]

/-- A step succeeds if anything is known of its result. -/
theorem exists_ok_of_toOption_map {x : Except ε α} {f : α → β} {b : β}
    (h : x.toOption.map f = some b) : ∃ a, x = .ok a ∧ f a = b := by
  cases x with
  | error e => cases h
  | ok a => exact ⟨a, rfl, Option.some.inj h⟩

/-- A step has a result exactly if it succeeds with it. -/
theorem toOption_eq_some_iff {x : Except ε α} {a : α} : x.toOption = some a ↔ x = .ok a := by
  cases x <;> simp [Except.toOption]

/-- A step succeeds as it does under other errors. -/
theorem mapError_eq_ok_iff {x : Except ε α} {f : ε → β} {a : α} :
    x.mapError f = .ok a ↔ x = .ok a := by
  cases x <;> simp [Except.mapError]

/-- A step whose result is only converted fails as it does. -/
theorem map_eq_error_iff {x : Except ε α} {f : α → β} {e : ε} :
    x.map f = .error e ↔ x = .error e := by
  cases x <;> simp [Except.map]

/-- A step that only gives a result succeeds with this result. -/
theorem pure_eq_ok_iff {a b : α} : (pure a : Except ε α) = .ok b ↔ a = b := by
  simp [pure, Except.pure]

/-- An error is no success. -/
@[simp] theorem throw_ne_ok {e : ε} {a : α} : (throw e : Except ε α) ≠ .ok a := by
  simp [throw, throwThe, MonadExceptOf.throw]

/-- A step whose result is only converted. -/
theorem bind_pure_eq_map (x : Except ε α) (f : α → β) : (x >>= fun a => pure (f a)) = x.map f := by
  cases x <;> rfl

/-- A step behind a guard succeeds when the guard lets it pass. -/
theorem ite_throw_eq_ok_iff {p : Bool} {e : ε} {x : Except ε α} {a : α} :
    (if p = true then (do throw e; x) else x) = .ok a ↔ p = false ∧ x = .ok a := by
  cases p <;> simp [throw, throwThe, MonadExceptOf.throw, bind, Except.bind]

/-- A second step may be replaced by one that is the same on the result of the first. -/
theorem bind_congr_of_ok {x : Except ε α} {f g : α → Except ε β}
    (h : ∀ a, x = .ok a → f a = g a) : (x >>= f) = (x >>= g) := by
  cases x with
  | error e => rfl
  | ok a => exact h a rfl

/-- A step behind a guard may be replaced by one that is the same. -/
theorem ite_throw_congr {p : Bool} {e : ε} {x y : Except ε α} (h : x = y) :
    (if p = true then (do throw e; x) else x) = if p = true then (do throw e; y) else y := by
  rw [h]

/-- Lists of steps are the same if the steps are on each element. -/
theorem mapM_congr_of_mem {m : Type → Type} [Monad m] [LawfulMonad m] {f g : α → m β} {xs : List α}
    (h : ∀ x ∈ xs, f x = g x) : xs.mapM f = xs.mapM g := by
  induction xs with
  | nil => rfl
  | cons x xs ih =>
    rw [List.mapM_cons, List.mapM_cons, h x (by simp), ih fun y hy => h y (by simp [hy])]

/-- A list of steps succeeds exactly with the results of the steps one by one. -/
theorem mapM_eq_ok_iff {f : α → Except ε β} {xs : List α} {ys : List β} :
    xs.mapM f = .ok ys ↔ List.Forall₂ (fun x y => f x = .ok y) xs ys := by
  induction xs generalizing ys with
  | nil => cases ys <;> simp [pure, Except.pure]
  | cons x xs ih =>
    simp only [List.mapM_cons, bind_eq_ok_iff, ih]
    constructor
    · rintro ⟨y, hy, ys', hys, h⟩
      cases h
      exact .cons hy hys
    · rintro (_ | ⟨hy, hys⟩)
      exact ⟨_, hy, _, hys, rfl⟩

/-- A list of steps has a result exactly when the steps have the results one by one. -/
theorem mapM_eq_some_iff {f : α → Option β} {xs : List α} {ys : List β} :
    xs.mapM f = some ys ↔ List.Forall₂ (fun x y => f x = some y) xs ys := by
  induction xs generalizing ys with
  | nil => cases ys <;> simp
  | cons x xs ih =>
    simp only [List.mapM_cons, Option.bind_eq_bind, Option.bind_eq_some_iff, ih]
    constructor
    · rintro ⟨y, hy, ys', hys, h⟩
      cases h
      exact .cons hy hys
    · rintro (_ | ⟨hy, hys⟩)
      exact ⟨_, hy, _, hys, rfl⟩

/-- Elements each of which is related to something are related to a list one by one. -/
theorem exists_forall₂_of_forall {R : α → β → Prop} {xs : List α} (h : ∀ x ∈ xs, ∃ y, R x y) :
    ∃ ys, List.Forall₂ R xs ys := by
  induction xs with
  | nil => exact ⟨[], .nil⟩
  | cons x xs ih =>
    obtain ⟨y, hy⟩ := h x (by simp)
    obtain ⟨ys, hys⟩ := ih fun z hz => h z (by simp [hz])
    exact ⟨y :: ys, .cons hy hys⟩

/-- A list of steps succeeds if each of them does. -/
theorem mapM_ok_of_forall {f : α → Except ε β} {xs : List α} (h : ∀ x ∈ xs, ∃ y, f x = .ok y) :
    ∃ ys, xs.mapM f = .ok ys := by
  obtain ⟨ys, hys⟩ := exists_forall₂_of_forall h
  exact ⟨ys, mapM_eq_ok_iff.2 hys⟩

/-- Steps that succeed before one that fails leave its error as the error of the list. -/
theorem mapM_append_error {f : α → Except ε β} {xs : List α} {x : α} {e : ε} (rest : List α)
    (hxs : ∀ y ∈ xs, ∃ b, f y = .ok b) (hx : f x = .error e) :
    (xs ++ x :: rest).mapM f = .error e := by
  induction xs with
  | nil => simp [hx, bind, Except.bind]
  | cons y ys ih =>
    obtain ⟨b, hb⟩ := hxs y (by simp)
    rw [List.cons_append, List.mapM_cons, hb, ih fun z hz => hxs z (by simp [hz])]
    rfl

/-- A list of steps fails exactly with the error of its first step that fails. -/
theorem mapM_eq_error_iff {f : α → Except ε β} {xs : List α} {e : ε} :
    xs.mapM f = .error e ↔
      ∃ before x after, xs = before ++ x :: after ∧ (∀ y ∈ before, ∃ b, f y = .ok b) ∧
        f x = .error e := by
  constructor
  · intro h
    induction xs with
    | nil => cases h
    | cons x xs ih =>
      rw [List.mapM_cons] at h
      cases hx : f x with
      | error e' =>
        rw [hx] at h
        cases h
        exact ⟨[], x, xs, rfl, by simp, hx⟩
      | ok b =>
        rw [hx] at h
        cases hxs : xs.mapM f with
        | ok ys =>
          rw [hxs] at h
          cases h
        | error e' =>
          rw [hxs] at h
          cases h
          obtain ⟨before, y, after, rfl, hbefore, hy⟩ := ih hxs
          refine ⟨x :: before, y, after, rfl, ?_, hy⟩
          intro z hz
          rcases List.mem_cons.1 hz with rfl | hz
          · exact ⟨b, hx⟩
          · exact hbefore z hz
  · rintro ⟨before, x, after, rfl, hbefore, hx⟩
    exact mapM_append_error after hbefore hx

/-- A list of steps that fails does so with the error of one of them. -/
theorem exists_of_mapM_error {f : α → Except ε β} {xs : List α} {e : ε}
    (h : xs.mapM f = .error e) : ∃ x ∈ xs, f x = .error e := by
  obtain ⟨before, x, after, rfl, -, hx⟩ := mapM_eq_error_iff.1 h
  exact ⟨x, by simp, hx⟩

/-- Elements that are related one by one agree in what related elements agree in. -/
theorem map_eq_map_of_forall₂ {R : α → β → Prop} {f : α → γ} {g : β → γ} {xs : List α}
    {ys : List β} (h : List.Forall₂ R xs ys) (hfg : ∀ x y, R x y → g y = f x) :
    ys.map g = xs.map f := by
  induction h with
  | nil => rfl
  | cons hxy _ ih => rw [List.map_cons, List.map_cons, hfg _ _ hxy, ih]

/-- Elements are related one by one to what is made of something related to them exactly if the
latter is a list that they are related to. -/
theorem forall₂_exists_and_eq_iff {R : α → β → Prop} {f : β → γ} {xs : List α} {zs : List γ} :
    List.Forall₂ (fun x z => ∃ y, R x y ∧ f y = z) xs zs ↔
      ∃ ys, List.Forall₂ R xs ys ∧ ys.map f = zs := by
  constructor
  · intro h
    induction h with
    | nil => exact ⟨[], .nil, rfl⟩
    | cons hx _ ih =>
      obtain ⟨y, hy, rfl⟩ := hx
      obtain ⟨ys, hys, rfl⟩ := ih
      exact ⟨y :: ys, .cons hy hys, rfl⟩
  · rintro ⟨ys, hys, rfl⟩
    exact List.forall₂_map_right_iff.2 (hys.imp fun x y hy => ⟨y, hy, rfl⟩)

/-- An element on the left is related to one on the right. -/
theorem forall₂_exists_of_mem_left {R : α → β → Prop} {xs : List α} {ys : List β}
    (h : List.Forall₂ R xs ys) {x : α} (hx : x ∈ xs) : ∃ y ∈ ys, R x y := by
  induction h with
  | nil => cases hx
  | cons hxy _ ih =>
    rcases List.mem_cons.1 hx with rfl | hx
    · exact ⟨_, by simp, hxy⟩
    · obtain ⟨y, hy, hR⟩ := ih hx
      exact ⟨y, by simp [hy], hR⟩

/-- An element on the right is related to one on the left. -/
theorem forall₂_exists_of_mem_right {R : α → β → Prop} {xs : List α} {ys : List β}
    (h : List.Forall₂ R xs ys) {y : β} (hy : y ∈ ys) : ∃ x ∈ xs, R x y := by
  induction h with
  | nil => cases hy
  | cons hxy _ ih =>
    rcases List.mem_cons.1 hy with rfl | hy
    · exact ⟨_, by simp, hxy⟩
    · obtain ⟨x, hx, hR⟩ := ih hy
      exact ⟨x, by simp [hx], hR⟩

/-! ## Errors of steps -/

/-- All errors of a step have a property. -/
def FailsWith (P : ε → Prop) (x : Except ε α) : Prop :=
  ∀ e, x = .error e → P e

namespace FailsWith

variable {P : ε → Prop} {x : Except ε α} {e : ε}

theorem ok (a : α) : FailsWith P (.ok a : Except ε α) := by
  rintro e ⟨⟩

theorem error (h : P e) : FailsWith P (.error e : Except ε α) := by
  rintro e' ⟨⟩
  exact h

/-- A property of the errors of two steps is one of the steps after each other. -/
theorem bind {f : α → Except ε β} (hx : FailsWith P x)
    (hf : ∀ a, x = .ok a → FailsWith P (f a)) : FailsWith P (x >>= f) := by
  intro e h
  cases hresult : x with
  | error e' =>
    rw [hresult] at h
    cases h
    exact hx e hresult
  | ok a =>
    rw [hresult] at h
    exact hf a hresult e h

/-- A weaker property of errors. -/
theorem imp {Q : ε → Prop} (h : FailsWith P x) (hPQ : ∀ e, P e → Q e) : FailsWith Q x :=
  fun e he => hPQ e (h e he)

/-- A list of steps fails as one of them. -/
theorem mapM {f : α → Except ε β} {xs : List α} (h : ∀ a ∈ xs, FailsWith P (f a)) :
    FailsWith P (xs.mapM f) := by
  intro e he
  obtain ⟨a, ha, hfails⟩ := exists_of_mapM_error he
  exact h a ha e hfails

end FailsWith

/-! ## Results side by side -/

/-- Results that are both there and related, or both missing with related errors. -/
inductive Alike (S : ε → ε → Prop) (R : α → β → Prop) : Except ε α → Except ε β → Prop
  | ok {a : α} {b : β} : R a b → Alike S R (.ok a) (.ok b)
  | error {e e' : ε} : S e e' → Alike S R (.error e) (.error e')

namespace Alike

variable {S : ε → ε → Prop} {R : α → β → Prop} {x : Except ε α} {y : Except ε β}

/-- Results that are alike are so after steps that keep them related. -/
theorem bind {γ δ : Type} {T : γ → δ → Prop} {f : α → Except ε γ} {g : β → Except ε δ}
    (h : Alike S R x y) (hstep : ∀ a b, R a b → Alike S T (f a) (g b)) :
    Alike S T (x >>= f) (y >>= g) := by
  cases h with
  | ok hab => exact hstep _ _ hab
  | error he => exact .error he

/-- Results that are alike are so after functions that keep them related. -/
theorem map {γ δ : Type} {T : γ → δ → Prop} {f : α → γ} {g : β → δ} (h : Alike S R x y)
    (hstep : ∀ a b, R a b → T (f a) (g b)) : Alike S T (x.map f) (y.map g) := by
  cases h with
  | ok hab => exact .ok (hstep _ _ hab)
  | error he => exact .error he

end Alike

end Dashboards
