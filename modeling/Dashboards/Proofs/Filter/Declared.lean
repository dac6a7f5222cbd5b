import Dashboards.Proofs.Filter.Reading
import Dashboards.Proofs.Table
import Dashboards.Proofs.Text

/-!
# Reading the declarations of filters

Each declaration is read on its own (`readEntry`), into a base filter or into a filter that waits,
and the first one that cannot be read ends the work (`readDeclared_result`). So what is known before
any filter is resolved are the base filters and the waiting ones, each kind in the order of
declaration, and together they have the declared names (`readEntries_names_perm`).
-/

namespace Dashboards.Filter

/-- Reads one declaration: a base filter, or a filter that waits for others. -/
def readEntry (name : String) (config : Config.Filter) : Except Error (Filter ⊕ ExtendingFilter) :=
  if config.isExtending then (ofExtending name config).map .inr
  else (ofBase name config).map .inl

/-- The base filters among entries that are read, under their names. -/
def baseEntries (entries : List (String × (Filter ⊕ ExtendingFilter))) : List (String × Filter) :=
  entries.filterMap fun entry => entry.2.getLeft?.map (entry.1, ·)

/-- The waiting filters among entries that are read. -/
def waiting (entries : List (String × (Filter ⊕ ExtendingFilter))) : List ExtendingFilter :=
  entries.filterMap fun entry => entry.2.getRight?

section
variable (name : String) (rest : List (String × (Filter ⊕ ExtendingFilter)))

@[simp]
theorem baseEntries_nil : baseEntries [] = [] := rfl

@[simp]
theorem baseEntries_inl (filter : Filter) :
    baseEntries ((name, .inl filter) :: rest) = (name, filter) :: baseEntries rest := rfl

@[simp]
theorem baseEntries_inr (filter : ExtendingFilter) :
    baseEntries ((name, .inr filter) :: rest) = baseEntries rest := rfl

@[simp]
theorem waiting_nil : waiting [] = [] := rfl

@[simp]
theorem waiting_inl (filter : Filter) : waiting ((name, .inl filter) :: rest) = waiting rest := rfl

@[simp]
theorem waiting_inr (filter : ExtendingFilter) :
    waiting ((name, .inr filter) :: rest) = filter :: waiting rest := rfl

end

/-- The base filters are the entries that read as one. -/
theorem mem_baseEntries_iff {entries : List (String × (Filter ⊕ ExtendingFilter))} {name : String}
    {filter : Filter} : (name, filter) ∈ baseEntries entries ↔ (name, .inl filter) ∈ entries := by
  simp [baseEntries]

/-- The waiting filters are what the other entries read as. -/
theorem mem_waiting_iff {entries : List (String × (Filter ⊕ ExtendingFilter))}
    {filter : ExtendingFilter} :
    filter ∈ waiting entries ↔ ∃ name, (name, .inr filter) ∈ entries := by
  simp [waiting]

/-- The declarations are read one by one, and what they read as is added in order. -/
theorem readDeclared_result {entries : List (String × Config.Filter)} {declared : Declared}
    (hnodup : (declared.base.names ++ entries.map Prod.fst).Nodup) :
    (readDeclared entries declared).map (fun d => (d.base.entries, d.pending)) =
      (readEntries readEntry entries).map fun results =>
        (declared.base.entries ++ baseEntries results, declared.pending ++ waiting results) := by
  induction entries generalizing declared with
  | nil => simp [readDeclared, readEntries, Except.map, pure, Except.pure]
  | cons entry rest ih =>
    obtain ⟨name, config⟩ := entry
    rw [readDeclared, readEntries, List.mapM_cons, ← readEntries, readEntry]
    by_cases hext : config.isExtending = true
    · rw [if_pos hext, if_pos hext]
      cases ofExtending name config with
      | error e => rfl
      | ok filter =>
        have hrest : (declared.base.names ++ rest.map Prod.fst).Nodup :=
          hnodup.sublist (List.Sublist.append_left (List.sublist_cons_self ..) _)
        change (readDeclared rest
          { declared with pending := declared.pending ++ [filter] }).map _ = _
        rw [@ih ⟨declared.base, declared.pending ++ [filter]⟩ hrest]
        cases readEntries readEntry rest <;> simp [bind, Except.bind, Except.map, pure, Except.pure]
    · rw [if_neg hext, if_neg hext]
      cases ofBase name config with
      | error e => rfl
      | ok filter =>
        have hnew : name ∉ declared.base.names := by
          intro hmem
          exact (List.nodup_append.1 hnodup).2.2 name hmem name (by simp) rfl
        have hrest : ((declared.base.insert name filter).names ++ rest.map Prod.fst).Nodup := by
          rw [Table.names_insert_of_not_mem filter hnew]
          simpa using hnodup
        change (readDeclared rest
          { declared with base := declared.base.insert name filter }).map _ = _
        rw [@ih ⟨declared.base.insert name filter, declared.pending⟩ hrest,
          Table.entries_insert_of_not_mem filter hnew]
        cases readEntries readEntry rest <;> simp [bind, Except.bind, Except.map, pure, Except.pure]

/-- A declaration that reads as a base filter is one. -/
theorem readEntry_eq_inl_iff {name : String} {config : Config.Filter} {filter : Filter} :
    readEntry name config = .ok (.inl filter) ↔
      config.isExtending = false ∧ ofBase name config = .ok filter := by
  rw [readEntry]
  cases config.isExtending with
  | true => cases ofExtending name config <;> simp [Except.map]
  | false => cases ofBase name config <;> simp [Except.map]

/-- A declaration that reads as a waiting filter is an extending filter. -/
theorem readEntry_eq_inr_iff {name : String} {config : Config.Filter} {filter : ExtendingFilter} :
    readEntry name config = .ok (.inr filter) ↔
      config.isExtending = true ∧ ofExtending name config = .ok filter := by
  rw [readEntry]
  cases config.isExtending with
  | true => cases ofExtending name config <;> simp [Except.map]
  | false => cases ofBase name config <;> simp [Except.map]

/-! ## Single declarations -/

/-- A declaration is a base filter exactly if it has a reading as one, and is then that reading. -/
theorem ofBase_eq_ok_iff {name : String} {config : Config.Filter} {filter : Filter} :
    ofBase name config = .ok filter ↔
      ∃ reading, baseReading? config = some reading ∧ filter = reading.filter name := by
  have htext (nrql : Option String) : (nrql.map Formula.fragment).map Formula.text = nrql := by
    cases nrql <;> rfl
  rw [ofBase, baseReading?, Text.bind_nonBlank?]
  cases Text.trimmed? config.event with
  | none => simp
  | some event =>
    have hmake : make name event config.nrql =
        Reading.filter ⟨event, (Text.trimmed? config.nrql).map Formula.fragment⟩ name := by
      rw [make, Reading.filter, Text.bind_nonBlank?, htext]
    simp [hmake, eq_comm]

/-- A list of raw values is read exactly if each is an operand. -/
theorem readOperands_eq_ok_iff {name : String} {values : List Yaml.Value}
    {operands : List Operand} :
    readOperands name values = .ok operands ↔ values.mapM Operand.ofValue? = some operands := by
  rw [readOperands, mapM_eq_ok_iff, mapM_eq_some_iff]
  constructor <;> intro h <;> refine h.imp fun value operand hvalue => ?_
  · cases ho : Operand.ofValue? value <;> simp_all
  · simp [hvalue]

/-- A declaration is an extending filter exactly if it has neither an event nor a fragment, one
operator, and among its operands a reference. -/
theorem ofExtending_eq_ok_iff {name : String} {config : Config.Filter}
    {filter : ExtendingFilter} :
    ofExtending name config = .ok filter ↔
      config.event = none ∧ config.nrql = none ∧
        ∃ operator operands, operands? config = some (operator, operands) ∧
          Operand.references operands ≠ [] ∧
          filter = ⟨name, operator, Operand.references operands, Operand.inlines operands⟩ := by
  have hfields : (config.event.isSome || config.nrql.isSome) = false ↔
      config.event = none ∧ config.nrql = none := by simp
  rw [ofExtending, ite_throw_eq_ok_iff, hfields, and_assoc, operands?]
  refine and_congr_right fun _ => and_congr_right fun _ => ?_
  cases operator? config with
  | none =>
    constructor
    · nofun
    · rintro ⟨_, _, ⟨⟩, -⟩
  | some declared =>
    obtain ⟨operator, values⟩ := declared
    simp only [bind_eq_ok_iff, ite_throw_eq_ok_iff, pure_eq_ok_iff, readOperands_eq_ok_iff]
    constructor
    · rintro ⟨operands, hoperands, hrefs, rfl⟩
      exact ⟨operator, operands, by simp [hoperands], by simpa using hrefs, rfl⟩
    · rintro ⟨operator', operands, hread, hrefs, rfl⟩
      obtain ⟨_, ⟨⟩, hread⟩ := Option.bind_eq_some_iff.1 hread
      obtain ⟨operands', hoperands, hresult⟩ := Option.bind_eq_some_iff.1 hread
      cases hresult
      exact ⟨operands, hoperands, by simpa using hrefs, rfl⟩

/-- A waiting filter has the name of its declaration. -/
theorem name_of_readEntry {name : String} {config : Config.Filter} {filter : ExtendingFilter}
    (h : readEntry name config = .ok (.inr filter)) : filter.name = name := by
  obtain ⟨-, -, _, _, -, -, rfl⟩ := ofExtending_eq_ok_iff.1 (readEntry_eq_inr_iff.1 h).2
  rfl

variable {entries : List (String × Config.Filter)}
  {results : List (String × (Filter ⊕ ExtendingFilter))}

/-- The base filters have the names of their declarations, in order, and so have the waiting
ones. -/
theorem readEntries_names (h : readEntries readEntry entries = .ok results) :
    (baseEntries results).map Prod.fst =
        (entries.filter fun entry => !entry.2.isExtending).map Prod.fst ∧
      (waiting results).map ExtendingFilter.name =
        (entries.filter fun entry => entry.2.isExtending).map Prod.fst := by
  have members := readEntries_eq_ok_iff.1 h
  clear h
  induction members with
  | nil => exact ⟨rfl, rfl⟩
  | @cons entry result _ _ hentry _ ih =>
    obtain ⟨name, config⟩ := entry
    obtain ⟨name', read⟩ := result
    obtain ⟨rfl, hread⟩ := hentry
    cases read with
    | inl filter =>
      have hbase := (readEntry_eq_inl_iff.1 hread).1
      simpa [hbase] using ih
    | inr filter =>
      have hext := (readEntry_eq_inr_iff.1 hread).1
      simpa [hext, name_of_readEntry hread] using ih

/-- The base filters and the waiting ones together have the declared names. -/
theorem readEntries_names_perm (h : readEntries readEntry entries = .ok results) :
    ((baseEntries results).map Prod.fst ++ (waiting results).map ExtendingFilter.name).Perm
      (entries.map Prod.fst) := by
  obtain ⟨hbase, hwaiting⟩ := readEntries_names h
  rw [hbase, hwaiting, ← List.map_append]
  have := List.filter_append_perm
    (fun entry : String × Config.Filter => entry.2.isExtending) entries
  exact (List.perm_append_comm.trans this).map _

end Dashboards.Filter
