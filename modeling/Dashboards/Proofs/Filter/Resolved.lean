import Dashboards.Proofs.Filter.Run

/-!
# Resolved filters are what the declarations mean

The table of resolved filters has the declared names, and holds under each the filter that its
declaration reads as (`compile_eq_readings`). The invariant is that every record of the table is a
reading (`Progress.HoldsReadings`): a filter that is ready refers to records that are readings, so
its own record is the reading that joins them (`Pass.holdsReadings`).
-/

namespace Dashboards

/-- The text of joined formulas joins their texts. -/
theorem Formula.join?_map_text (operator : Filter.Operator) (operands : List Formula) :
    (join? operator operands).map text =
      ExtendingFilter.joinedText? operator (operands.map text) := by
  cases operands with
  | nil => rfl
  | cons operand rest =>
    simp [join?, ExtendingFilter.joinedText?, text, texts_eq_map, Function.comp_def]

namespace Filter

/-- Records that are in a table of readings are the readings of their names. -/
theorem readings_of_targets {declared : Declarations} {resolved : FilterTable}
    (hread : ∀ name result, resolved.get? name = some result →
      ∃ reading, declared.reading? name = some reading ∧ result = reading.filter name)
    {names : List String} {targets : List Filter}
    (h : List.Forall₂ (fun name target => resolved.get? name = some target) names targets) :
    ∃ readings, List.Forall₂ (fun name reading => declared.reading? name = some reading) names
        readings ∧
      targets.map Filter.event = readings.map Reading.event ∧
      targets.filterMap Filter.nrql = (readings.filterMap Reading.formula).map Formula.text := by
  induction h with
  | nil => exact ⟨[], .nil, rfl, rfl⟩
  | @cons name target _ _ htarget _ ih =>
    obtain ⟨reading, hreading, rfl⟩ := hread _ _ htarget
    obtain ⟨readings, hreadings, hevents, hnrqls⟩ := ih
    refine ⟨reading :: readings, .cons hreading hreadings, ?_, ?_⟩
    · rw [List.map_cons, List.map_cons, hevents]
      rfl
    · cases hformula : reading.formula <;> simp [Reading.filter, hformula, hnrqls]

/-- Every record of the table is the reading of its name. -/
def Progress.HoldsReadings (declared : Declarations) (s : Progress) : Prop :=
  ∀ name result, s.resolved.get? name = some result →
    ∃ reading, declared.reading? name = some reading ∧ result = reading.filter name

/-- A filter that resolves against readings is the reading of its declaration. -/
theorem Progress.HoldsReadings.resolve {declared : Declarations} {s : Progress}
    (hs : s.HoldsReadings declared) (hdeclared : s.AsDeclared declared)
    {filter : ExtendingFilter} (hfilter : filter ∈ s.pending)
    {result : Filter} (hresolve : filter.resolve s.resolved = .ok result) :
    ∃ reading, declared.reading? filter.name = some reading ∧
      result = reading.filter filter.name := by
  obtain ⟨config, hconfig, hread⟩ := hdeclared filter hfilter
  obtain ⟨hext, hread⟩ := readEntry_eq_inr_iff.1 hread
  obtain ⟨-, -, operator, operands, hoperands, -, hshape⟩ := ofExtending_eq_ok_iff.1 hread
  obtain ⟨first, rest, htargets, rfl⟩ := ExtendingFilter.resolve_eq_ok_iff.1 hresolve
  obtain ⟨readings, hreadings, hevents, hnrqls⟩ := readings_of_targets hs htargets
  cases readings with
  | nil => cases hevents
  | cons reading readings =>
    obtain ⟨hevent, -⟩ := List.cons.inj hevents
    rw [hshape] at hreadings
    refine ⟨_, (reading?_extending_iff hconfig hext hoperands).2
      ⟨_, hreadings, joinedReading?_eq_some_iff.2 ⟨reading, rfl, rfl⟩⟩, ?_⟩
    rw [hnrqls, hevent, hshape]
    simp [Reading.filter, Formula.join?_map_text, Formula.text, Function.comp_def]

/-- A pass adds readings to a table of readings. -/
theorem Pass.holdsReadings {declared : Declarations} {s t : Progress}
    (h : Pass s t) (hproper : s.Proper) (hdeclared : s.AsDeclared declared)
    (hs : s.HoldsReadings declared) : t.HoldsReadings declared := by
  intro name result hget
  rcases h.get?_cases hproper hget with hold | ⟨filter, hfilter, rfl, hresolve⟩
  · exact hs name result hold
  · exact hs.resolve hdeclared (List.mem_of_mem_filter hfilter) hresolve

variable {configs : Table Config.Filter} {results : List (String × (Filter ⊕ ExtendingFilter))}

/-- A run starts with the readings of the base filters. -/
theorem Starts.holdsReadings {s : Progress} (hs : Starts results s)
    (h : readEntries readEntry configs.entries = .ok results) :
    s.HoldsReadings configs.get? := by
  intro name result hget
  rw [Table.get?_eq_some_iff, hs.resolved, mem_baseEntries_iff] at hget
  obtain ⟨config, hconfig, hread⟩ := Table.get?_of_mem_readEntries h hget
  obtain ⟨hbase, hread⟩ := readEntry_eq_inl_iff.1 hread
  rw [reading?_base hconfig hbase]
  exact ofBase_eq_ok_iff.1 hread

/-- A section that compiles was read, and its run ended with no filter waiting. -/
theorem run_of_compile {resolved : FilterTable} (h : (compile configs).result = .ok resolved) :
    ∃ results n s t, readEntries readEntry configs.entries = .ok results ∧ Starts results s ∧
      Passes n s t ∧ t.pending = [] ∧ t.resolved = resolved := by
  cases hread : readEntries readEntry configs.entries with
  | error e =>
    rw [compile_of_error hread] at h
    cases h
  | ok results =>
    obtain ⟨n, s, t, hs, hpasses, -, hresult⟩ := compile_of_ok hread
    rw [hresult, Progress.outcome] at h
    split at h
    · cases h
      exact ⟨results, n, s, t, rfl, hs, hpasses, List.isEmpty_iff.1 ‹_›, rfl⟩
    · cases h

/-- Compiled filters have the declared names. -/
theorem names_perm_of_compile {resolved : FilterTable}
    (h : (compile configs).result = .ok resolved) : resolved.names.Perm configs.names := by
  obtain ⟨results, n, s, t, hread, hs, hpasses, hpending, rfl⟩ := run_of_compile h
  have := (hpasses.names_perm (hs.proper hread)).trans (hs.names_perm hread)
  simpa [hpending] using this

/-- A compiled filter is what its declaration means when its references are followed. -/
theorem get?_of_compile {resolved : FilterTable} (h : (compile configs).result = .ok resolved)
    (name : String) :
    resolved.get? name =
      (Declarations.reading? configs.get? name).map fun reading => reading.filter name := by
  have hnames := names_perm_of_compile h
  obtain ⟨results, n, s, t, hread, hs, hpasses, -, rfl⟩ := run_of_compile h
  have ⟨_, _, hreadings⟩ := hpasses.invariant
    (P := fun s => s.AsDeclared configs.get? ∧ s.HoldsReadings configs.get?)
    (fun _ _ hp hs hpass => ⟨hpass.asDeclared hp hs.1, hpass.holdsReadings hp hs.1 hs.2⟩)
    (hs.proper hread) ⟨hs.asDeclared hread, hs.holdsReadings hread⟩
  cases hget : t.resolved.get? name with
  | some result =>
    obtain ⟨reading, hreading, rfl⟩ := hreadings name result hget
    rw [hreading]
    rfl
  | none =>
    have hundeclared : configs.get? name = none := by
      rw [Table.get?_eq_none_iff, ← hnames.mem_iff]
      exact Table.get?_eq_none_iff.1 hget
    rw [reading?_eq_none hundeclared]
    rfl

/-- Compiled filters have the declared names, and each is what its declaration means when its
references are followed. -/
theorem compile_eq_readings {resolved : FilterTable}
    (h : (compile configs).result = .ok resolved) :
    resolved.names.Perm configs.names ∧
      ∀ name, resolved.get? name =
        (Declarations.reading? configs.get? name).map fun reading => reading.filter name :=
  ⟨names_perm_of_compile h, get?_of_compile h⟩

/-- A chain that is declared backwards and goes through a filter that selects every row. -/
def chainConfigs : Table Config.Filter := Table.ofList [
  ("paid", { or := some [.mapping [(.text "filter", .text "slow")], .text "amount > 0"] }),
  ("slow", { and := some [.mapping [(.text "filter", .text "everything")],
    .text "duration > 1", .mapping [(.text "condition", .text "checkout")]] }),
  ("everything", { event := some "Transaction" }),
  ("checkout", { event := some "Span", nrql := some " name = 'checkout' " })]

/-- What the chain resolves to. -/
def chainResolved : FilterTable := Table.ofList [
  ("everything", ⟨"everything", "Transaction", none⟩),
  ("checkout", ⟨"checkout", "Span", some "name = 'checkout'"⟩),
  ("slow", ⟨"slow", "Transaction", some "(name = 'checkout') AND (duration > 1)"⟩),
  ("paid", ⟨"paid", "Transaction",
    some "((name = 'checkout') AND (duration > 1)) OR (amount > 0)"⟩)]

/-- The chain compiles, and `compile_eq_readings` says what to. -/
theorem compile_eq_readings_chain :
    (compile chainConfigs).result = .ok chainResolved ∧
      chainResolved.names.Perm chainConfigs.names ∧
      ∀ name, chainResolved.get? name =
        (Declarations.reading? chainConfigs.get? name).map fun reading => reading.filter name :=
  ⟨rfl, compile_eq_readings rfl⟩

end Filter

end Dashboards
