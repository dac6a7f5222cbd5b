import Dashboards.Proofs.Filter.Value
import Dashboards.Proofs.Parentheses

/-!
# Parentheses in resolved filters

If the fragments of a section of filters are balanced, so are the texts of all filters that it
resolves to: every pass keeps the table so (`Pass.holdsBalanced`). The text of an extending filter
is then cut by the parentheses in it into exactly the texts that it joins, with its operator between
each two (`stretches_of_compile`), whatever operators and parentheses these texts hold themselves.
-/

namespace Dashboards

/-- The texts that a declaration gives as they are written: its fragment, and its own operands. -/
def Config.Filter.texts (config : Config.Filter) : List String :=
  config.nrql.toList ++ config.operandValues.filterMap Yaml.Value.text?

/-- The texts of all declarations of a section are balanced. -/
def Config.Filter.AllBalanced (configs : Table Config.Filter) : Prop :=
  ∀ entry ∈ configs.entries, ∀ text ∈ entry.2.texts, Text.Balanced text.toList

/-- A balanced text is so when it is trimmed. -/
theorem Text.Balanced.trim {text : String} (h : Text.Balanced text.toList) :
    Text.Balanced (Text.trim text).toList := by
  rw [Text.trim, String.toList_ofList]
  exact h.trimChars

namespace Filter

/-- What stands between two operands. -/
def Operator.separator (operator : Operator) : String :=
  " " ++ operator.keyword ++ " "

theorem Operator.separator_ne_empty (operator : Operator) : operator.separator ≠ "" := by
  cases operator <;> decide

theorem Operator.plain_separator (operator : Operator) :
    Text.Plain operator.separator.toList := by
  cases operator <;> decide

/-- The operator that stands between the first two units of a text. -/
def Operator.ofUnits? (text : String) : Option Operator :=
  (Text.separator? text).bind fun between => Operator.all.find? (·.separator == between)

/-- The texts that an extending filter joins: those of the filters that it refers to and that
restrict anything, in order, and then its own. -/
def Operand.texts (resolved : FilterTable) (operands : List Operand) : List String :=
  ((references operands).filterMap fun name => (resolved.get? name).bind Filter.nrql) ++
    inlines operands

/-- The fragments among operands are the trimmed texts that are written. -/
theorem mem_inlines_iff {values : List Yaml.Value} {operands : List Operand}
    (h : List.Forall₂ Operand.Written values operands) {nrql : String} :
    nrql ∈ Operand.inlines operands ↔ ∃ value ∈ values, Operand.Written value (.inline nrql) := by
  induction h with
  | nil => simp [Operand.inlines]
  | @cons value operand _ _ hwritten _ ih =>
    have hhead : operand = .inline nrql ↔ Operand.Written value (.inline nrql) := by
      rw [← Operand.ofValue?_eq_some_iff] at hwritten ⊢
      rw [hwritten, Option.some.injEq]
    rw [List.exists_mem_cons_iff, ← ih, ← hhead]
    cases operand <;> simp [Operand.inlines, eq_comm]

/-- The fragments of an extending filter with balanced texts are balanced. -/
theorem balanced_of_mem_inlines {config : Config.Filter} {operator : Operator}
    {operands : List Operand} (h : ∀ text ∈ config.texts, Text.Balanced text.toList)
    (hext : config.isExtending = true)
    (hoperands : operands? config = some (operator, operands)) :
    ∀ nrql ∈ Operand.inlines operands, Text.Balanced nrql.toList := by
  intro nrql hnrql
  have hwritten := ((operands?_eq_some_iff hext).1 ⟨operator, hoperands⟩).2
  obtain ⟨value, hvalue, ⟨_⟩⟩ := (mem_inlines_iff hwritten).1 hnrql
  exact (h _ (List.mem_append_right _ (List.mem_filterMap.2 ⟨_, hvalue, rfl⟩))).trim

/-! ## What passes keep -/

/-- The texts in the table are balanced. -/
def Progress.HoldsBalanced (s : Progress) : Prop :=
  ∀ name filter nrql, s.resolved.get? name = some filter → filter.nrql = some nrql →
    Text.Balanced nrql.toList

variable {configs : Table Config.Filter} {results : List (String × (Filter ⊕ ExtendingFilter))}
  {s t : Progress}

/-- A run starts with balanced texts in the table. -/
theorem Starts.holdsBalanced (hs : Starts results s)
    (h : readEntries readEntry configs.entries = .ok results)
    (hconfigs : Config.Filter.AllBalanced configs) :
    s.HoldsBalanced := by
  intro name filter nrql hget hnrql
  rw [Table.get?_eq_some_iff, hs.resolved, mem_baseEntries_iff] at hget
  obtain ⟨config, hconfig, hread⟩ := Table.get?_of_mem_readEntries h hget
  obtain ⟨reading, hreading, rfl⟩ := ofBase_eq_ok_iff.1 (readEntry_eq_inl_iff.1 hread).2
  simp only [baseReading?, Option.bind_eq_bind, Option.bind_eq_some_iff, Option.pure_def,
    Option.some.injEq] at hreading
  obtain ⟨event, -, rfl⟩ := hreading
  simp only [Reading.filter, Option.map_map, Option.map_eq_some_iff, Text.trimmed?,
    Option.filter_eq_some_iff] at hnrql
  obtain ⟨_, ⟨⟨written, hwritten, rfl⟩, -⟩, rfl⟩ := hnrql
  have htext : written ∈ config.texts := by simp [Config.Filter.texts, hwritten]
  exact (hconfigs _ (configs.get?_eq_some_iff.1 hconfig) written htext).trim

/-- A pass puts balanced texts into the table: what a filter joins is in the table already, or is a
fragment of its own. -/
theorem Pass.holdsBalanced (h : Pass s t) (hproper : s.Proper)
    (hdeclared : s.AsDeclared configs.get?)
    (hconfigs : Config.Filter.AllBalanced configs)
    (hs : s.HoldsBalanced) : t.HoldsBalanced := by
  intro name result nrql hget hnrql
  rcases h.get?_cases hproper hget with hold | ⟨filter, hfilter, rfl, hresolve⟩
  · exact hs name result nrql hold hnrql
  · obtain ⟨config, hconfig, hread⟩ := hdeclared filter (List.mem_of_mem_filter hfilter)
    obtain ⟨hext, hread⟩ := readEntry_eq_inr_iff.1 hread
    obtain ⟨-, -, operator, operands, hoperands, -, hshape⟩ := ofExtending_eq_ok_iff.1 hread
    obtain ⟨first, rest, htargets, rfl⟩ := ExtendingFilter.resolve_eq_ok_iff.1 hresolve
    simp only [ExtendingFilter.joinedText?, Option.ite_none_left_eq_some, Option.some.injEq]
      at hnrql
    obtain ⟨-, rfl⟩ := hnrql
    refine Text.balanced_intercalate filter.operator.plain_separator fun text htext => ?_
    rcases List.mem_append.1 htext with htext | htext
    · obtain ⟨target, htarget, hnrql⟩ := List.mem_filterMap.1 htext
      obtain ⟨name, -, hget⟩ := forall₂_exists_of_mem_right htargets htarget
      exact hs name target text hget hnrql
    · rw [hshape] at htext
      exact balanced_of_mem_inlines (hconfigs _ (configs.get?_eq_some_iff.1 hconfig)) hext
        hoperands text htext

variable {resolved : FilterTable}

/-- Balanced declarations compile to filters with balanced texts. -/
theorem balanced_of_compile (h : (compile configs).result = .ok resolved)
    (hconfigs : Config.Filter.AllBalanced configs) :
    ∀ name filter nrql, resolved.get? name = some filter → filter.nrql = some nrql →
      Text.Balanced nrql.toList := by
  obtain ⟨results, n, s, t, hread, hs, hpasses, -, rfl⟩ := run_of_compile h
  obtain ⟨-, -, hbalanced⟩ := hpasses.invariant
    (P := fun s => s.AsDeclared configs.get? ∧ s.HoldsBalanced)
    (fun _ _ hp hs hpass =>
      ⟨hpass.asDeclared hp hs.1, hpass.holdsBalanced hp hs.1 hconfigs hs.2⟩)
    (hs.proper hread) ⟨hs.asDeclared hread, hs.holdsBalanced hread hconfigs⟩
  exact hbalanced

/-! ## The text of an extending filter -/

/-- An extending filter that compiles joins the texts of its operands, as the table has them. -/
theorem nrql_of_compile (h : (compile configs).result = .ok resolved) {name : String}
    {config : Config.Filter} (hconfig : configs.get? name = some config)
    (hext : config.isExtending = true) :
    ∃ operator operands filter, operands? config = some (operator, operands) ∧
      resolved.get? name = some filter ∧
      filter.nrql = ExtendingFilter.joinedText? operator (Operand.texts resolved operands) := by
  obtain ⟨reading, operator, operands, hreading, hoperands, -, -⟩ :=
    extending_of_compile h hconfig hext
  refine ⟨operator, operands, reading.filter name, hoperands,
    by rw [get?_of_compile h, hreading, Option.map_some], ?_⟩
  obtain ⟨targets, htargets, hjoin⟩ := (reading?_extending_iff hconfig hext hoperands).1 hreading
  obtain ⟨first, -, rfl⟩ := joinedReading?_eq_some_iff.1 hjoin
  have htexts : ((targets.filterMap Reading.formula).map Formula.text) =
      (Operand.references operands).filterMap fun name =>
        (resolved.get? name).bind Filter.nrql := by
    rw [formulas_of_readings htargets, List.map_filterMap]
    refine List.filterMap_congr fun target _ => ?_
    rw [get?_of_compile h]
    cases Declarations.reading? configs.get? target <;> rfl
  have hinlines : ((Operand.inlines operands).map Formula.fragment).map Formula.text =
      Operand.inlines operands := by
    rw [List.map_map]
    exact List.map_id _
  have hjoin := Formula.join?_map_text operator
    (targets.filterMap Reading.formula ++ (Operand.inlines operands).map Formula.fragment)
  rw [List.map_append, htexts, hinlines] at hjoin
  exact hjoin

/-- If the fragments of declarations are balanced, so are the texts of all filters that they compile
to. A reader that counts parentheses then finds in the text of an extending filter, inside of
parentheses, just the texts that the filter joins, in order, and between each two of them its
operator. So it can read back the texts, and the operator if there are several. -/
theorem stretches_of_compile (h : (compile configs).result = .ok resolved)
    (hconfigs : Config.Filter.AllBalanced configs) :
    (∀ name filter nrql, resolved.get? name = some filter → filter.nrql = some nrql →
      Text.Balanced nrql.toList) ∧
    ∀ name config, configs.get? name = some config → config.isExtending = true →
      ∃ operator operands filter, operands? config = some (operator, operands) ∧
        resolved.get? name = some filter ∧
        (filter.nrql = none ↔ Operand.texts resolved operands = []) ∧
        ∀ nrql, filter.nrql = some nrql →
          Text.stretches nrql =
            ((Operand.texts resolved operands).map fun text =>
              Text.Stretch.inside ("(" ++ text ++ ")")).intersperse (.outside operator.separator) ∧
          Text.units nrql = Operand.texts resolved operands ∧
          (2 ≤ (Operand.texts resolved operands).length →
            Operator.ofUnits? nrql = some operator) := by
  have hbalanced := balanced_of_compile h hconfigs
  refine ⟨hbalanced, fun name config hconfig hext => ?_⟩
  obtain ⟨operator, operands, filter, hoperands, hfilter, hjoined⟩ := nrql_of_compile h hconfig hext
  have htexts : ∀ text ∈ Operand.texts resolved operands, Text.Balanced text.toList := by
    intro text htext
    rcases List.mem_append.1 htext with htext | htext
    · obtain ⟨target, -, htarget⟩ := List.mem_filterMap.1 htext
      obtain ⟨referred, hget, hnrql⟩ := Option.bind_eq_some_iff.1 htarget
      exact hbalanced target referred text hget hnrql
    · exact balanced_of_mem_inlines (hconfigs _ (configs.get?_eq_some_iff.1 hconfig)) hext
        hoperands text htext
  refine ⟨operator, operands, filter, hoperands, hfilter, ?_, fun nrql hnrql => ?_⟩
  · rw [hjoined, ExtendingFilter.joinedText?]
    simp
  · rw [hjoined, ExtendingFilter.joinedText?, Option.ite_none_left_eq_some] at hnrql
    obtain ⟨-, hnrql⟩ := hnrql
    cases hnrql
    have hne := operator.separator_ne_empty
    have hplain := operator.plain_separator
    refine ⟨Text.stretches_intercalate hne hplain htexts, Text.units_intercalate hne hplain htexts,
      fun hseveral => ?_⟩
    have hbetween := Text.separator?_intercalate hne hplain htexts hseveral
    rw [Operator.separator] at hbetween
    rw [Operator.ofUnits?, hbetween, Option.bind_some]
    cases operator <;> decide

/-- The chain's last filter joins a filter that is joined itself, and is cut into its own two
operands. -/
theorem stretches_of_compile_chain :
    (compile chainConfigs).result = .ok chainResolved ∧
      Config.Filter.AllBalanced chainConfigs ∧
      ∃ nrql, chainResolved.get? "paid" = some ⟨"paid", "Transaction", some nrql⟩ ∧
        Text.Balanced nrql.toList ∧
        Text.stretches nrql = [.inside "((name = 'checkout') AND (duration > 1))",
          .outside " OR ", .inside "(amount > 0)"] ∧
        Text.units nrql = ["(name = 'checkout') AND (duration > 1)", "amount > 0"] ∧
        Operator.ofUnits? nrql = some .or := by
  have hcompile : (compile chainConfigs).result = .ok chainResolved := rfl
  have hbalanced : Config.Filter.AllBalanced chainConfigs := by
    unfold Config.Filter.AllBalanced
    decide +kernel
  have hpaid : chainConfigs.get? "paid" = some
    { or := some [.mapping [(.text "filter", .text "slow")], .text "amount > 0"] } := rfl
  obtain ⟨htable, hextending⟩ := stretches_of_compile hcompile hbalanced
  obtain ⟨operator, operands, filter, hoperands, hfilter, -, hread⟩ :=
    hextending "paid" _ hpaid rfl
  have hwritten : operands?
      { or := some [.mapping [(.text "filter", .text "slow")], .text "amount > 0"] } =
    some (.or, [.reference "slow", .inline "amount > 0"]) := rfl
  cases hoperands.symm.trans hwritten
  cases hfilter
  obtain ⟨hstretches, hunits, hoperator⟩ := hread _ rfl
  have htexts : Operand.texts chainResolved [.reference "slow", .inline "amount > 0"] =
    ["(name = 'checkout') AND (duration > 1)", "amount > 0"] := rfl
  rw [htexts] at hstretches hunits hoperator
  exact ⟨hcompile, hbalanced, _, rfl, htable "paid" _ _ rfl rfl, hstretches, hunits,
    hoperator le_rfl⟩

end Filter

end Dashboards
