import Dashboards.Proofs.Filter.Malformed
import Dashboards.Proofs.Filter.Resolved

/-!
# Values of filters on a row

A row gives every fragment of text a truth value, and so gives one to every formula, and to every
filter; a filter without a formula holds on every row. An extending filter leaves out the references
that select every row. Joined by `AND` it then still holds exactly where all its operands do; joined
by `OR` it holds where one of the operands that are left does, or on every row if none is left
(`extension_value`). So a filter that is joined by `OR` to one that selects every row may select
fewer rows than its operands do (`or_with_match_all_loses_rows`).
-/

namespace Dashboards

/-- The value of operands that are joined. -/
def Filter.Operator.value : Filter.Operator → List Bool → Bool
  | and, values => values.all id
  | or, values => values.any id

/-- The order of operands does not matter for their value. -/
theorem Filter.Operator.value_perm {operator : Filter.Operator} {values others : List Bool}
    (h : values.Perm others) : operator.value values = operator.value others := by
  cases operator with
  | and => exact h.all_eq
  | or => exact h.any_eq

namespace Formula

mutual

/-- The value of a formula on a row. -/
def value (row : String → Bool) : Formula → Bool
  | fragment nrql => row nrql
  | joined operator operands => operator.value (values row operands)

/-- The values of formulas on a row. -/
def values (row : String → Bool) : List Formula → List Bool
  | [] => []
  | operand :: rest => operand.value row :: values row rest

end

/-- `values` in the natural form. -/
theorem values_eq_map (row : String → Bool) (operands : List Formula) :
    values row operands = operands.map (value row) := by
  induction operands with
  | nil => rfl
  | cons operand rest ih => rw [values, ih, List.map_cons]

/-- Joined formulas have the value of their operands, and hold if there are none. -/
theorem join?_value (row : String → Bool) (operator : Filter.Operator)
    (operands : List Formula) :
    ((join? operator operands).map (value row)).getD true =
      (operands.isEmpty || operator.value (operands.map (value row))) := by
  cases operands <;> simp [join?, value, values_eq_map]

end Formula

/-- The value of a filter on a row. A filter without a formula holds. -/
def Reading.value (row : String → Bool) (reading : Reading) : Bool :=
  (reading.formula.map (Formula.value row)).getD true

namespace Filter

variable (declared : Declarations) (row : String → Bool)

/-- The value of the filter of a name on a row. -/
def value (name : String) : Bool :=
  ((declared.reading? name).map (Reading.value row)).getD true

/-- The value of an operand on a row. -/
def Operand.value : Operand → Bool
  | reference name => Filter.value declared row name
  | inline nrql => row nrql

/-- Whether an operand refers to a filter that selects every row. -/
def Operand.matchesAll (resolved : FilterTable) : Operand → Bool
  | reference name => (resolved.get? name).any Filter.matchesAll
  | inline _ => false

/-- The operands without the references to filters that select every row. -/
def Operand.restricting (resolved : FilterTable) (operands : List Operand) : List Operand :=
  operands.filter fun operand => !operand.matchesAll resolved

/-- The formula of an operand. -/
def Operand.formula? : Operand → Option Formula
  | reference name => (declared.reading? name).bind Reading.formula
  | inline nrql => some (.fragment nrql)

/-- An operand has the value of its formula, and holds without one. -/
theorem Operand.value_eq (operand : Operand) :
    operand.value declared row =
      ((operand.formula? declared).map (Formula.value row)).getD true := by
  cases operand with
  | inline nrql => rfl
  | reference name =>
    rw [Operand.value, Filter.value, Operand.formula?]
    cases declared.reading? name <;> rfl

/-- The formulas of operands are those of the references and then those of the fragments, in another
order. -/
theorem operand_formulas_perm (operands : List Operand) :
    (operands.filterMap (Operand.formula? declared)).Perm
      ((Operand.references operands).filterMap
          (fun name => (declared.reading? name).bind Reading.formula) ++
        (Operand.inlines operands).map Formula.fragment) := by
  induction operands with
  | nil => exact .refl _
  | cons operand rest ih =>
    cases operand with
    | inline nrql => exact (ih.cons _).trans List.perm_middle.symm
    | reference name =>
      change (List.filterMap _ _).Perm (List.filterMap _ (name :: Operand.references rest) ++
        (Operand.inlines rest).map Formula.fragment)
      rw [List.filterMap_cons, List.filterMap_cons, Operand.formula?]
      cases (declared.reading? name).bind Reading.formula with
      | none => exact ih
      | some formula => exact ih.cons formula

variable {declared}

/-- The formulas of readings are those of the names that they are the readings of. -/
theorem formulas_of_readings {names : List String} {readings : List Reading}
    (h : List.Forall₂ (fun name reading => declared.reading? name = some reading) names readings) :
    readings.filterMap Reading.formula =
      names.filterMap fun name => (declared.reading? name).bind Reading.formula := by
  induction h with
  | nil => rfl
  | cons hreading _ ih => simp [List.filterMap_cons, hreading, ih]

variable {name : String} {config : Config.Filter}

/-- A reading of an extending filter holds where the formulas of its operands do, joined by its
operator, and on every row if none of its operands has one. -/
theorem value_of_extending {operator : Operator} {operands : List Operand} {reading : Reading}
    (h : declared name = some config) (hext : config.isExtending = true)
    (hoperands : operands? config = some (operator, operands))
    (hreading : declared.reading? name = some reading) :
    reading.value row = ((operands.filterMap (Operand.formula? declared)).isEmpty ||
      operator.value
        ((operands.filterMap (Operand.formula? declared)).map (Formula.value row))) := by
  obtain ⟨targets, htargets, hjoin⟩ := (reading?_extending_iff h hext hoperands).1 hreading
  obtain ⟨first, -, rfl⟩ := joinedReading?_eq_some_iff.1 hjoin
  have hperm := operand_formulas_perm declared operands
  rw [← formulas_of_readings htargets] at hperm
  rw [Reading.value, Formula.join?_value, Operator.value_perm (hperm.map _), hperm.isEmpty_eq]

/-- Operands that do not select every row are those with a formula, and have its value. -/
theorem restricting_values {resolved : FilterTable} {operands : List Operand}
    (h : ∀ operand ∈ operands,
      operand.matchesAll resolved = (operand.formula? declared).isNone) :
    (Operand.restricting resolved operands).map (Operand.value declared row) =
      (operands.filterMap (Operand.formula? declared)).map (Formula.value row) := by
  induction operands with
  | nil => rfl
  | cons operand rest ih =>
    have hoperand := h operand (by simp)
    have hvalue := Operand.value_eq declared row operand
    have hrest := ih fun other hother => h other (by simp [hother])
    rw [Operand.restricting, List.filter_cons, ← Operand.restricting, List.filterMap_cons, hoperand]
    cases hformula : operand.formula? declared with
    | none => simpa using hrest
    | some formula =>
      rw [hformula] at hvalue
      simp [hrest, hvalue]

/-- Every operand holds where those with a formula do. -/
theorem and_value_of_formulas (operands : List Operand) :
    Operator.and.value (operands.map (Operand.value declared row)) =
      Operator.and.value
        ((operands.filterMap (Operand.formula? declared)).map (Formula.value row)) := by
  induction operands with
  | nil => rfl
  | cons operand rest ih =>
    have hvalue := Operand.value_eq declared row operand
    rw [List.map_cons, List.filterMap_cons]
    cases hformula : operand.formula? declared with
    | none =>
      rw [hformula] at hvalue
      simpa [Operator.value, hvalue] using ih
    | some formula =>
      rw [hformula] at hvalue
      simpa [Operator.value, hvalue] using congrArg (formula.value row && ·) ih

variable {configs : Table Config.Filter} {resolved : FilterTable}

/-- An extending filter that compiles has a reading and operands, and the filters that it refers to
compile. -/
theorem extending_of_compile (h : (compile configs).result = .ok resolved)
    (hconfig : configs.get? name = some config) (hext : config.isExtending = true) :
    ∃ reading operator operands, Declarations.reading? configs.get? name = some reading ∧
      operands? config = some (operator, operands) ∧ operands ≠ [] ∧
      ∀ target ∈ Operand.references operands, target ∈ resolved.names := by
  obtain ⟨result, hresult⟩ := Table.mem_names_iff.1
    ((names_perm_of_compile h).mem_iff.2 (Table.mem_names_iff.2 ⟨config, hconfig⟩))
  rw [get?_of_compile h, Option.map_eq_some_iff] at hresult
  obtain ⟨reading, hreading, -⟩ := hresult
  obtain ⟨results, -, -, -, hread, -⟩ := run_of_compile h
  obtain ⟨read, hconfigRead⟩ := Table.exists_read_of_get? hread hconfig
  obtain ⟨filter, hfilter⟩ : ∃ filter, ofExtending name config = .ok filter := by
    cases read with
    | inl filter => exact absurd hext (by simp [(readEntry_eq_inl_iff.1 hconfigRead).1])
    | inr filter => exact ⟨filter, (readEntry_eq_inr_iff.1 hconfigRead).2⟩
  obtain ⟨-, -, operator, operands, hoperands, hrefs, -⟩ := ofExtending_eq_ok_iff.1 hfilter
  refine ⟨reading, operator, operands, hreading, hoperands, ?_, fun target htarget => ?_⟩
  · rintro rfl
    exact hrefs rfl
  · obtain ⟨targets, htargets, -⟩ := (reading?_extending_iff hconfig hext hoperands).1 hreading
    obtain ⟨reading', -, hreading'⟩ := forall₂_exists_of_mem_left htargets htarget
    exact Table.mem_names_iff.2 ⟨_, by rw [get?_of_compile h, hreading']; rfl⟩

/-- An operand selects every row in the table exactly if it has no formula. -/
theorem matchesAll_eq (h : (compile configs).result = .ok resolved) {operands : List Operand}
    (hrefs : ∀ target ∈ Operand.references operands, target ∈ resolved.names) :
    ∀ operand ∈ operands,
      operand.matchesAll resolved = (operand.formula? configs.get?).isNone := by
  intro operand hoperand
  cases operand with
  | inline nrql => rfl
  | reference target =>
    have htarget : target ∈ Operand.references operands :=
      List.mem_filterMap.2 ⟨_, hoperand, rfl⟩
    obtain ⟨result, hresult⟩ := Table.mem_names_iff.1 (hrefs target htarget)
    have hget := get?_of_compile h target
    rw [hresult] at hget
    obtain ⟨reading, hreading, rfl⟩ := Option.map_eq_some_iff.1 hget.symm
    simp only [Operand.matchesAll, hresult, Operand.formula?, hreading, Option.any_some,
      Option.bind_some, Filter.matchesAll, Reading.filter, Option.isNone_map]

/-- Leaving out operands that hold keeps the value of operands joined by `OR` exactly if none is
left out, or none is left, or one that is left holds. -/
theorem or_value_restricting_iff {resolved : FilterTable} {operands : List Operand}
    (hne : operands ≠ [])
    (h : ∀ operand ∈ operands,
      operand.matchesAll resolved = true → operand.value declared row = true) :
    ((Operand.restricting resolved operands).isEmpty || Operator.or.value
        ((Operand.restricting resolved operands).map (Operand.value declared row))) =
      Operator.or.value (operands.map (Operand.value declared row)) ↔
      Operand.restricting resolved operands = operands ∨
        Operand.restricting resolved operands = [] ∨
        ∃ operand ∈ Operand.restricting resolved operands, operand.value declared row = true := by
  by_cases hkept : Operand.restricting resolved operands = operands
  · simp [hkept, hne]
  · -- An operand that is left out holds, so that the operands together do.
    obtain ⟨operand, hoperand, hmatches⟩ : ∃ operand ∈ operands,
        operand.matchesAll resolved = true := by
      simpa [Operand.restricting] using hkept
    have hholds : Operator.or.value (operands.map (Operand.value declared row)) = true := by
      simpa [Operator.value] using ⟨operand, hoperand, h operand hoperand hmatches⟩
    rw [hholds]
    simp [hkept, Operator.value]

/-- A filter that joins others by `AND` holds where all its operands do. One that joins them by `OR`
holds where an operand does that does not select every row, or everywhere if there is none. So it
holds where one of all its operands does, provided that all of them select every row, or none does,
or one of the others holds. -/
theorem extension_value (h : (compile configs).result = .ok resolved)
    (row : String → Bool) (hconfig : configs.get? name = some config)
    (hext : config.isExtending = true) :
    ∃ reading operator operands,
      Declarations.reading? configs.get? name = some reading ∧
      resolved.get? name = some (reading.filter name) ∧
      operands? config = some (operator, operands) ∧
      (∀ target ∈ Operand.references operands, target ∈ resolved.names) ∧
      (operator = .and → reading.value row =
        operator.value (operands.map (Operand.value configs.get? row))) ∧
      (operator = .or → reading.value row = ((Operand.restricting resolved operands).isEmpty ||
        operator.value
          ((Operand.restricting resolved operands).map (Operand.value configs.get? row)))) ∧
      (operator = .or →
        (reading.value row = operator.value (operands.map (Operand.value configs.get? row)) ↔
          Operand.restricting resolved operands = operands ∨
          Operand.restricting resolved operands = [] ∨
          ∃ operand ∈ Operand.restricting resolved operands,
            operand.value configs.get? row = true)) := by
  obtain ⟨reading, operator, operands, hreading, hoperands, hne, hrefs⟩ :=
    extending_of_compile h hconfig hext
  have hall := matchesAll_eq h hrefs
  have hvalue := value_of_extending row hconfig hext hoperands hreading
  have hterms := restricting_values row hall
  have hempty : (operands.filterMap (Operand.formula? configs.get?)).isEmpty =
      (Operand.restricting resolved operands).isEmpty := by
    rw [← List.isEmpty_map (f := Formula.value row), ← hterms, List.isEmpty_map]
  have hor : operator = .or → reading.value row =
      ((Operand.restricting resolved operands).isEmpty || operator.value
        ((Operand.restricting resolved operands).map (Operand.value configs.get? row))) := by
    intro _
    rw [hvalue, hempty, hterms]
  refine ⟨reading, operator, operands, hreading, ?_, hoperands, hrefs, ?_, hor, ?_⟩
  · rw [get?_of_compile h, hreading, Option.map_some]
  · rintro rfl
    rw [hvalue, and_value_of_formulas]
    cases operands.filterMap (Operand.formula? configs.get?) <;> rfl
  · rintro rfl
    rw [hor rfl]
    refine or_value_restricting_iff row hne fun operand hoperand hmatches => ?_
    rw [hall operand hoperand, Option.isNone_iff_eq_none] at hmatches
    rw [Operand.value_eq, hmatches]
    rfl

/-- Where only the amount is positive, the chain's payments are selected by their own fragment. -/
theorem extension_value_chain :
    ∃ reading : Reading, chainResolved.get? "paid" = some (reading.filter "paid") ∧
      reading.value (fun nrql => nrql == "amount > 0") = true := by
  have h : (compile chainConfigs).result = .ok chainResolved := rfl
  have hpaid : chainConfigs.get? "paid" = some
    { or := some [.mapping [(.text "filter", .text "slow")], .text "amount > 0"] } := rfl
  obtain ⟨reading, operator, operands, -, hget, hoperands, -, -, hor, -⟩ :=
    extension_value h (fun nrql => nrql == "amount > 0") hpaid rfl
  cases hoperands
  have htrim : Text.trim "amount > 0" = "amount > 0" := rfl
  refine ⟨reading, hget, ?_⟩
  rw [hor rfl]
  simp [Operator.value, Operand.restricting, Operand.matchesAll, Operand.value, htrim]

/-- A filter that joins by `OR` a filter that selects every row and a fragment. -/
def eitherConfigs : Table Config.Filter := Table.ofList [
  ("everything", { event := some "Transaction" }),
  ("either", { or := some [.mapping [(.text "filter", .text "everything")], .text "a = 1"] })]

/-- What it resolves to: the fragment alone. -/
def eitherResolved : FilterTable := Table.ofList [
  ("everything", ⟨"everything", "Transaction", none⟩),
  ("either", ⟨"either", "Transaction", some "(a = 1)"⟩)]

/-- A filter that joins others by `OR` need not hold where one of its operands does: where the
fragment is false, the filter that selects every row still holds. -/
theorem or_with_match_all_loses_rows :
    (compile eitherConfigs).result = .ok eitherResolved ∧
      ∃ config, ∃ reading : Reading, ∃ operator operands,
        eitherConfigs.get? "either" = some config ∧
        config.isExtending = true ∧
        operands? config = some (operator, operands) ∧
        Declarations.reading? eitherConfigs.get? "either" = some reading ∧
        eitherResolved.get? "either" = some (reading.filter "either") ∧
        reading.value (fun _ => false) ≠
          operator.value (operands.map (Operand.value eitherConfigs.get? fun _ => false)) := by
  have heverythingConfig : eitherConfigs.get? "everything" =
    some { event := some "Transaction" } := rfl
  have heitherConfig : eitherConfigs.get? "either" = some
    { or := some [.mapping [(.text "filter", .text "everything")], .text "a = 1"] } := rfl
  have heverything : Declarations.reading? eitherConfigs.get? "everything" =
      some ⟨"Transaction", none⟩ :=
    reading?_base heverythingConfig rfl
  have heither : Declarations.reading? eitherConfigs.get? "either" =
      some ⟨"Transaction", some (.joined .or [.fragment "a = 1"])⟩ :=
    (reading?_extending_iff heitherConfig rfl rfl).2 ⟨_, .cons heverything .nil, rfl⟩
  refine ⟨rfl, _, _, .or, [.reference "everything", .inline "a = 1"], rfl, rfl, rfl, heither, rfl,
    ?_⟩
  simp [Operator.value, Reading.value, Formula.value, Formula.values, Operand.value, Filter.value,
    heverything]

end Filter

end Dashboards
