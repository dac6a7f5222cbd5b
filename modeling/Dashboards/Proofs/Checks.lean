import Dashboards.Proofs.Sequence

/-!
# Checks in order

A declaration is checked for one thing after the other, and the first check that finds a fault says
what is wrong (`FirstFound`). A step performs checks if it fails exactly with that fault
(`Performs`); so it succeeds exactly if no check finds a fault (`Performs.exists_ok_iff`). Steps
after each other perform their checks after each other (`Performs.bind`).
-/

namespace Dashboards

variable {ε κ α β : Type}

/-- The fault of the first check that finds one, given which checks find which faults. -/
def FirstFound (finds : κ → ε → Prop) (checks : List κ) (e : ε) : Prop :=
  ∃ before check after, checks = before ++ check :: after ∧
    (∀ passed ∈ before, ∀ fault, ¬ finds passed fault) ∧ finds check e

variable {finds : κ → ε → Prop} {check : κ} {first rest checks : List κ} {e : ε}

/-- Without checks nothing is found. -/
theorem not_firstFound_nil : ¬ FirstFound finds [] e := by
  rintro ⟨before, check, after, h, -⟩
  cases before <;> cases h

/-- What is found first is found by the first check, or else first by the others. -/
theorem firstFound_cons_iff :
    FirstFound finds (check :: rest) e ↔
      finds check e ∨ (∀ fault, ¬ finds check fault) ∧ FirstFound finds rest e := by
  constructor
  · rintro ⟨before, found, after, h, hpassed, hfound⟩
    cases before with
    | nil =>
      cases h
      exact .inl hfound
    | cons first before =>
      cases h
      rw [List.forall_mem_cons] at hpassed
      exact .inr ⟨hpassed.1, before, found, after, rfl, hpassed.2, hfound⟩
  · rintro (hfound | ⟨hpassed, before, found, after, rfl, hbefore, hfound⟩)
    · exact ⟨[], check, rest, rfl, List.forall_mem_nil _, hfound⟩
    · exact ⟨check :: before, found, after, rfl, List.forall_mem_cons.2 ⟨hpassed, hbefore⟩, hfound⟩

/-- What is found first is found first by the checks in front, or else first by the others. -/
theorem firstFound_append_iff :
    FirstFound finds (first ++ rest) e ↔
      FirstFound finds first e ∨
        (∀ check ∈ first, ∀ fault, ¬ finds check fault) ∧ FirstFound finds rest e := by
  induction first with
  | nil => simp [not_firstFound_nil]
  | cons check first ih =>
    rw [List.cons_append, firstFound_cons_iff, firstFound_cons_iff, ih, List.forall_mem_cons,
      or_assoc, and_or_left, and_assoc]

/-- What is found first is found by one of the checks. -/
theorem FirstFound.exists_finds (h : FirstFound finds checks e) :
    ∃ check ∈ checks, finds check e := by
  obtain ⟨before, check, after, rfl, -, hfound⟩ := h
  exact ⟨check, by simp, hfound⟩

/-- Something is found first exactly if some check finds a fault. -/
theorem exists_firstFound_iff :
    (∃ e, FirstFound finds checks e) ↔ ∃ check ∈ checks, ∃ e, finds check e := by
  induction checks with
  | nil => simp [not_firstFound_nil]
  | cons check rest ih =>
    simp only [firstFound_cons_iff, List.exists_mem_cons_iff, ← ih]
    constructor
    · rintro ⟨e, hfound | ⟨-, hrest⟩⟩
      · exact .inl ⟨e, hfound⟩
      · exact .inr ⟨e, hrest⟩
    · rintro (⟨e, hfound⟩ | ⟨e, hrest⟩)
      · exact ⟨e, .inl hfound⟩
      · by_cases hcheck : ∃ fault, finds check fault
        · obtain ⟨fault, hfault⟩ := hcheck
          exact ⟨fault, .inl hfault⟩
        · exact ⟨e, .inr ⟨not_exists.1 hcheck, hrest⟩⟩

/-- A step fails exactly with what is found first. -/
def Performs (finds : κ → ε → Prop) (checks : List κ) (x : Except ε α) : Prop :=
  ∀ e, x = .error e ↔ FirstFound finds checks e

namespace Performs

variable {x : Except ε α} {f : α → Except ε β}

/-- A result performs no checks. -/
theorem ok (a : α) : Performs finds [] (.ok a) := by
  intro e
  simp [not_firstFound_nil]

/-- A check that finds nothing may be put in front. -/
theorem pass (hcheck : ∀ fault, ¬ finds check fault) (h : Performs finds rest x) :
    Performs finds (check :: rest) x := by
  intro e
  rw [h e, firstFound_cons_iff]
  exact ⟨fun hrest => .inr ⟨hcheck, hrest⟩, fun hfound => (hfound.resolve_left (hcheck e)).2⟩

/-- A check that finds a fault is the last one. -/
theorem error (hcheck : ∀ fault, finds check fault ↔ fault = e) :
    Performs finds (check :: rest) (.error e : Except ε α) := by
  intro fault
  rw [firstFound_cons_iff, hcheck, Except.error.injEq, eq_comm]
  exact ⟨.inl, fun hfound => hfound.resolve_right fun hrest => hrest.1 e ((hcheck e).2 rfl)⟩

/-- A step that performs checks succeeds exactly if none of them finds a fault. -/
theorem exists_ok_iff (h : Performs finds checks x) :
    (∃ a, x = .ok a) ↔ ∀ check ∈ checks, ∀ e, ¬ finds check e := by
  have herror : (∃ e, x = .error e) ↔ ∃ check ∈ checks, ∃ e, finds check e := by
    rw [← exists_firstFound_iff]
    exact exists_congr h
  have hnone : (∃ a, x = .ok a) ↔ ¬ ∃ e, x = .error e := by
    cases x <;> simp
  rw [hnone, herror]
  push Not
  rfl

/-- What all faults have in common that checks find, all errors have of a step that performs
them. -/
theorem failsWith {P : ε → Prop} (h : Performs finds checks x)
    (hfinds : ∀ check e, finds check e → P e) : FailsWith P x := by
  intro e herror
  obtain ⟨check, -, hfound⟩ := ((h e).1 herror).exists_finds
  exact hfinds check e hfound

/-- Steps after each other perform their checks after each other. -/
theorem bind (hx : Performs finds first x) (hf : ∀ a, x = .ok a → Performs finds rest (f a)) :
    Performs finds (first ++ rest) (x >>= f) := by
  intro e
  rw [firstFound_append_iff, ← hx e]
  cases hresult : x with
  | error fault =>
    have hfound : ¬ ∀ check ∈ first, ∀ e, ¬ finds check e := by
      rw [← hx.exists_ok_iff, hresult]
      simp
    change (Except.error fault : Except ε β) = .error e ↔ _
    rw [Except.error.injEq, Except.error.injEq, or_iff_left fun hrest => hfound hrest.1]
  | ok a =>
    have hnone := hx.exists_ok_iff.1 ⟨a, hresult⟩
    refine (hf a hresult e).trans ⟨fun hrest => .inr ⟨hnone, hrest⟩, ?_⟩
    rintro (⟨⟨⟩⟩ | ⟨-, hrest⟩)
    exact hrest

/-- A step that makes one check comes before others. -/
theorem step (hx : ∀ e, x = .error e ↔ finds check e)
    (hf : ∀ a, x = .ok a → Performs finds rest (f a)) :
    Performs finds (check :: rest) (x >>= f) := by
  have hcheck : Performs finds [check] x := by
    intro e
    rw [hx e, firstFound_cons_iff]
    simp [not_firstFound_nil]
  exact bind hcheck hf

/-- A guard that makes a check comes before others. -/
theorem guard {p : Bool} (hcheck : ∀ fault, finds check fault ↔ p = true ∧ fault = e)
    (hx : p = false → Performs finds rest x) :
    Performs finds (check :: rest) (if p = true then (do throw e; x) else x) := by
  cases p with
  | true => exact error fun fault => by simpa using hcheck fault
  | false => exact pass (fun fault hfound => Bool.noConfusion ((hcheck fault).1 hfound).1) (hx rfl)

end Performs

end Dashboards
