import Dashboards.Proofs.Filter.Declared

/-!
# Malformed declarations of filters

A declaration may be malformed on its own, whatever the others are (`Malformed`). These are exactly
the declarations that cannot be read (`malformed_iff`), and the error is of the kind that goes with
the declaration and about nothing else (`readEntry_error`).
-/

namespace Dashboards

/-- The raw operands of a declaration. -/
def Config.Filter.operandValues (config : Config.Filter) : List Yaml.Value :=
  config.and.getD [] ++ config.or.getD []

/-- The filters that a fault of extending filters is about. -/
def ExtendingFault.filters : ExtendingFault → List String
  | definesFields filter | notOneOperator filter | operand filter _ | extendsNothing filter
  | unresolvedReference filter _ => [filter]
  | unresolvable filters => filters

/-- The filters that an error is about. -/
def Error.filters : Error → List String
  | .filter (.eventMissing name) => [name]
  | .extendingFilter fault => fault.filters
  | _ => []

namespace Filter

/-- What a raw value means as an operand: a text that is not blank is a fragment, and a mapping of
one key, `filter` or `condition`, to a text is a reference. Tags on the key and on the text do not
count. -/
inductive Operand.Written : Yaml.Value → Operand → Prop where
  | inline {text : String} : Text.trim text ≠ "" → Written (.text text) (.inline (Text.trim text))
  | reference {key value : Yaml.Value} {word name : String} :
      key.untagged = .text word → word = "filter" ∨ word = "condition" →
      value.untagged = .text name → Written (.mapping [(key, value)]) (.reference name)

/-- A declaration that is malformed on its own. -/
inductive Malformed (config : Config.Filter) : Prop where
  /-- A base filter has no event, or a blank one. -/
  | event : config.isExtending = false →
      (∀ event, config.event = some event → Text.trim event = "") → Malformed config
  /-- An extending filter has an event or a fragment. -/
  | fields : config.isExtending = true → config.event.isSome ∨ config.nrql.isSome →
      Malformed config
  /-- An extending filter has both operators. -/
  | operators : config.and.isSome → config.or.isSome → Malformed config
  /-- An extending filter has an operand that is none. -/
  | operand {value : Yaml.Value} : config.isExtending = true → value ∈ config.operandValues →
      (∀ operand, ¬ Operand.Written value operand) → Malformed config
  /-- An extending filter has no reference. -/
  | references : config.isExtending = true →
      (∀ value ∈ config.operandValues, ∀ name, ¬ Operand.Written value (.reference name)) →
      Malformed config

/-- A value has a text exactly if it is one. -/
theorem text?_eq_some_iff {value : Yaml.Value} {text : String} :
    value.text? = some text ↔ value = .text text := by
  cases value <;> simp [Yaml.Value.text?]

/-- Operands are read as they are written. -/
theorem Operand.ofValue?_eq_some_iff {value : Yaml.Value} {operand : Operand} :
    Operand.ofValue? value = some operand ↔ Operand.Written value operand := by
  constructor
  · intro h
    unfold Operand.ofValue? at h
    split at h
    · rename_i text
      rw [Text.nonBlank?_eq] at h
      split at h
      · cases h
      · cases h
        exact .inline ‹_›
    · rename_i key value
      split at h
      · rename_i word name hword hname
        split at h
        · cases h
          exact .reference (text?_eq_some_iff.1 hword) ‹_› (text?_eq_some_iff.1 hname)
        · cases h
      · cases h
    · cases h
  · rintro (h | ⟨hkey, hword, hvalue⟩)
    · simp [Operand.ofValue?, Text.nonBlank?_eq, h]
    · simp [Operand.ofValue?, hkey, hvalue, Yaml.Value.text?, hword]

variable {name : String} {config : Config.Filter}

/-- An extending filter has one operator exactly if it does not have both, and its operands are then
its raw operands. -/
theorem operator?_eq_some_iff (hext : config.isExtending = true) {values : List Yaml.Value} :
    (∃ operator, operator? config = some (operator, values)) ↔
      ¬ (config.and.isSome ∧ config.or.isSome) ∧ values = config.operandValues := by
  rw [operator?, Config.Filter.operandValues]
  rw [Config.Filter.isExtending] at hext
  cases hand : config.and <;> cases hor : config.or <;> simp_all [eq_comm]

/-- An extending filter has operands exactly if it has one operator and each raw operand is an
operand. -/
theorem operands?_eq_some_iff (hext : config.isExtending = true) {operands : List Operand} :
    (∃ operator, operands? config = some (operator, operands)) ↔
      ¬ (config.and.isSome ∧ config.or.isSome) ∧
        List.Forall₂ Operand.Written config.operandValues operands := by
  simp only [operands?, Option.bind_eq_bind, Option.bind_eq_some_iff]
  constructor
  · rintro ⟨operator, ⟨operator', values⟩, hoperator, operands', hvalues, heq⟩
    cases heq
    obtain ⟨hone, rfl⟩ := (operator?_eq_some_iff hext).1 ⟨_, hoperator⟩
    exact ⟨hone, (mapM_eq_some_iff.1 hvalues).imp fun _ _ => Operand.ofValue?_eq_some_iff.1⟩
  · rintro ⟨hone, hwritten⟩
    obtain ⟨operator, hoperator⟩ := (operator?_eq_some_iff hext).2 ⟨hone, rfl⟩
    refine ⟨operator, _, hoperator, operands, mapM_eq_some_iff.2 (hwritten.imp ?_), rfl⟩
    exact fun _ _ => Operand.ofValue?_eq_some_iff.2

/-- The references among operands are those that are written. -/
theorem mem_references_iff {values : List Yaml.Value} {operands : List Operand}
    (h : List.Forall₂ Operand.Written values operands) {target : String} :
    target ∈ Operand.references operands ↔
      ∃ value ∈ values, Operand.Written value (.reference target) := by
  induction h with
  | nil => simp [Operand.references]
  | @cons value operand _ _ hwritten _ ih =>
    have hhead : operand = .reference target ↔ Operand.Written value (.reference target) := by
      rw [← Operand.ofValue?_eq_some_iff] at hwritten ⊢
      rw [hwritten, Option.some.injEq]
    rw [List.exists_mem_cons_iff, ← ih, ← hhead]
    cases operand <;> simp [Operand.references, eq_comm]

/-- An extending filter can be read exactly if it is not malformed. -/
theorem ofExtending_ok_iff (hext : config.isExtending = true) :
    (∃ filter, ofExtending name config = .ok filter) ↔ ¬ Malformed config := by
  simp only [ofExtending_eq_ok_iff]
  constructor
  · rintro ⟨filter, hevent, hnrql, operator, operands, hoperands, hrefs, -⟩ hmalformed
    obtain ⟨hone, hwritten⟩ := (operands?_eq_some_iff hext).1 ⟨operator, hoperands⟩
    cases hmalformed with
    | event hbase _ => simp [hbase] at hext
    | fields _ h => simp [hevent, hnrql] at h
    | operators hand hor => exact hone ⟨hand, hor⟩
    | operand _ hvalue hnone =>
      obtain ⟨operand, -, hoperand⟩ := forall₂_exists_of_mem_left hwritten hvalue
      exact hnone operand hoperand
    | references _ hnone =>
      obtain ⟨target, htarget⟩ := List.exists_mem_of_ne_nil _ hrefs
      obtain ⟨value, hvalue, hreference⟩ := (mem_references_iff hwritten).1 htarget
      exact hnone value hvalue target hreference
  · intro h
    have hfields : ¬ (config.event.isSome ∨ config.nrql.isSome) := fun hf => h (.fields hext hf)
    have hone : ¬ (config.and.isSome ∧ config.or.isSome) := fun hb => h (.operators hb.1 hb.2)
    have hall : ∀ value ∈ config.operandValues, ∃ operand, Operand.Written value operand := by
      intro value hvalue
      by_contra hnone
      exact h (.operand hext hvalue fun operand hw => hnone ⟨operand, hw⟩)
    obtain ⟨operands, hwritten⟩ := exists_forall₂_of_forall hall
    obtain ⟨operator, hoperands⟩ := (operands?_eq_some_iff hext).2 ⟨hone, hwritten⟩
    refine ⟨_, by simpa using fun e => hfields (.inl e), by simpa using fun e => hfields (.inr e),
      operator, operands, hoperands, fun hnil => h (.references hext ?_), rfl⟩
    intro value hvalue target htarget
    have := (mem_references_iff hwritten).2 ⟨value, hvalue, htarget⟩
    rw [hnil] at this
    cases this

/-- A base filter can be read exactly if it is not malformed. -/
theorem ofBase_ok_iff (hbase : config.isExtending = false) :
    (∃ filter, ofBase name config = .ok filter) ↔ ¬ Malformed config := by
  have hreading : (∃ filter, ofBase name config = .ok filter) ↔
      ∃ event, config.event = some event ∧ Text.trim event ≠ "" := by
    rw [ofBase]
    cases config.event with
    | none => simp
    | some event => by_cases h : Text.trim event = "" <;> simp [Text.nonBlank?_eq, h]
  rw [hreading]
  constructor
  · rintro ⟨event, hevent, hne⟩ hmalformed
    cases hmalformed with
    | event _ h => exact hne (h event hevent)
    | fields hext _ | operand hext _ _ | references hext _ => simp [hbase] at hext
    | operators hand _ => simp [Config.Filter.isExtending, hand] at hbase
  · intro h
    by_contra hnone
    refine h (.event hbase fun event hevent => ?_)
    by_contra hne
    exact hnone ⟨event, hevent, hne⟩

/-- The declarations that cannot be read are the malformed ones. -/
theorem malformed_iff : Malformed config ↔ ∃ e, readEntry name config = .error e := by
  have hreadable : (∃ result, readEntry name config = .ok result) ↔ ¬ Malformed config := by
    rw [readEntry]
    by_cases hext : config.isExtending = true
    · rw [if_pos hext, ← @ofExtending_ok_iff name config hext]
      cases ofExtending name config <;> simp [Except.map]
    · rw [if_neg hext, ← @ofBase_ok_iff name config (by simpa using hext)]
      cases ofBase name config <;> simp [Except.map]
  rw [← not_iff_not, ← hreadable]
  cases readEntry name config <;> simp

/-- An extending filter that cannot be read fails with a fault of its own. -/
theorem ofExtending_error {e : Error} (h : ofExtending name config = .error e) :
    ∃ fault : ExtendingFault, e = .extendingFilter fault ∧ fault.filters = [name] := by
  rw [ofExtending] at h
  by_cases hfields : (config.event.isSome || config.nrql.isSome) = true
  · rw [if_pos hfields] at h
    cases h
    exact ⟨_, rfl, rfl⟩
  rw [if_neg hfields] at h
  cases hoperator : operator? config with
  | none =>
    rw [hoperator] at h
    cases h
    exact ⟨_, rfl, rfl⟩
  | some declared =>
    obtain ⟨operator, values⟩ := declared
    rw [hoperator] at h
    cases hread : readOperands name values with
    | error e' =>
      obtain ⟨value, -, hvalue⟩ := exists_of_mapM_error hread
      have he : e' = e := by
        simp only [hread] at h
        cases h
        rfl
      subst he
      split at hvalue <;> cases hvalue
      exact ⟨_, rfl, rfl⟩
    | ok operands =>
      simp only [hread] at h
      by_cases hrefs : (Operand.references operands).isEmpty = true
      · simp [hrefs, bind, Except.bind, throw, throwThe, MonadExceptOf.throw] at h
        cases h
        exact ⟨_, rfl, rfl⟩
      · simp [hrefs, bind, Except.bind, pure, Except.pure] at h

/-- A declaration that cannot be read fails with an error of its kind that is about it. -/
theorem readEntry_error {e : Error} (h : readEntry name config = .error e) :
    e.kind = .headed (if config.isExtending then .extendingFilter else .filter) ∧
      e.filters = [name] := by
  rw [readEntry] at h
  by_cases hext : config.isExtending = true
  · rw [if_pos hext] at h
    rw [if_pos hext]
    have hread : ofExtending name config = .error e := by
      cases hread : ofExtending name config <;> rw [hread] at h <;> cases h
      rfl
    obtain ⟨fault, rfl, hfilters⟩ := ofExtending_error hread
    exact ⟨rfl, hfilters⟩
  · rw [if_neg hext] at h
    rw [if_neg hext]
    cases hread : ofBase name config <;> rw [hread] at h <;> cases h
    rw [ofBase] at hread
    split at hread <;> cases hread
    exact ⟨rfl, rfl⟩

end Filter

end Dashboards
