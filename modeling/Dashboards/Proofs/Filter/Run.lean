import Dashboards.Proofs.Filter.Declared
import Dashboards.Proofs.Filter.Passes

/-!
# Runs from the declarations

Compiling a section of filters reads all declarations and then makes passes from what they read as:
the base filters are the table at the start, and the extending filters wait (`Starts`). A section
with a declaration that cannot be read fails with the error of the reading (`compile_of_error`); any
other notes its passes and gives the outcome of the last one (`compile_eq_of_ok`).
-/

namespace Dashboards.Filter

/-- The start of a run: the base filters that were read are the table, and the others wait. -/
structure Starts (results : List (String × (Filter ⊕ ExtendingFilter))) (s : Progress) : Prop where
  resolved : s.resolved.entries = baseEntries results
  pending : s.pending = waiting results

variable {configs : Table Config.Filter} {results : List (String × (Filter ⊕ ExtendingFilter))}

/-- What is known before any filter is resolved is what the declarations read as. -/
theorem readDeclared_configs (configs : Table Config.Filter) :
    (readDeclared configs.entries {}).map (fun d => (d.base.entries, d.pending)) =
      (readEntries readEntry configs.entries).map fun results =>
        (baseEntries results, waiting results) := by
  have hnodup : ((Table.empty : FilterTable).names ++ configs.entries.map Prod.fst).Nodup := by
    simpa [Table.names] using configs.names_nodup
  simpa using @readDeclared_result configs.entries {} hnodup

/-- A declaration that cannot be read ends the work with its error. -/
theorem compile_of_error {e : Error} (h : readEntries readEntry configs.entries = .error e) :
    (compile configs).result = .error e := by
  have hread := readDeclared_configs configs
  rw [h] at hread
  rw [compile, Traced.result_bind, Traced.result_lift]
  cases hd : readDeclared configs.entries {} with
  | error e' =>
    rw [hd] at hread
    cases hread
    rfl
  | ok declared =>
    rw [hd] at hread
    cases hread

/-- The names at the start of a run are the declared ones. -/
theorem Starts.names_perm {s : Progress} (hs : Starts results s)
    (h : readEntries readEntry configs.entries = .ok results) :
    (s.resolved.names ++ s.pending.map ExtendingFilter.name).Perm configs.names := by
  rw [Table.names, hs.resolved, hs.pending]
  exact readEntries_names_perm h

/-- Every waiting filter is an extending filter as it is declared. -/
def Progress.AsDeclared (declared : Declarations) (s : Progress) : Prop :=
  ∀ filter ∈ s.pending, ∃ config, declared filter.name = some config ∧
    readEntry filter.name config = .ok (.inr filter)

/-- At the start of a run the waiting filters are as they are declared. -/
theorem Starts.asDeclared {s : Progress} (hs : Starts results s)
    (h : readEntries readEntry configs.entries = .ok results) : s.AsDeclared configs.get? := by
  intro filter hfilter
  rw [hs.pending, mem_waiting_iff] at hfilter
  obtain ⟨name, hmem⟩ := hfilter
  obtain ⟨config, hconfig, hread⟩ := Table.get?_of_mem_readEntries h hmem
  rw [← name_of_readEntry hread] at hconfig hread
  exact ⟨config, hconfig, hread⟩

/-- A run starts with distinct names, and with waiting filters that refer to something. -/
theorem Starts.proper {s : Progress} (hs : Starts results s)
    (h : readEntries readEntry configs.entries = .ok results) : s.Proper where
  refers filter hfilter := by
    obtain ⟨config, -, hread⟩ := hs.asDeclared h filter hfilter
    rw [readEntry_eq_inr_iff, ofExtending_eq_ok_iff] at hread
    obtain ⟨-, -, -, operator, operands, -, hrefs, hshape⟩ := hread
    rw [hshape]
    exact hrefs
  distinct := (hs.names_perm h).nodup_iff.2 configs.names_nodup

/-- After a pass the waiting filters are as they are declared. -/
theorem Pass.asDeclared {declared : Declarations} {s t : Progress}
    (h : Pass s t) (hproper : s.Proper) (hs : s.AsDeclared declared) : t.AsDeclared declared := by
  intro filter hfilter
  rw [(h.entries hproper).1] at hfilter
  exact hs filter (List.mem_of_mem_filter hfilter)

/-- A run starts from what the declarations read as. -/
theorem exists_starts (h : readEntries readEntry configs.entries = .ok results) :
    ∃ declared, readDeclared configs.entries {} = .ok declared ∧
      Starts results ⟨declared.base, declared.pending⟩ := by
  have hread := readDeclared_configs configs
  rw [h] at hread
  cases hd : readDeclared configs.entries {} with
  | error e =>
    rw [hd] at hread
    cases hread
  | ok declared =>
    rw [hd] at hread
    obtain ⟨hbase, hpending⟩ := Prod.mk.inj (Except.ok.inj hread)
    exact ⟨declared, rfl, hbase, hpending⟩

/-- The note of how many filters are declared of each kind. -/
def Declared.note (declared : Declared) : Note where
  level := .debug
  text :=
    s!"Parsed {declared.base.size} base filters and {declared.pending.length} extending filters"

/-- Declarations that can be read are resolved in passes until none is ready. The numbers of
declarations and the passes are noted, and the outcome is that of the last pass. -/
theorem compile_eq_of_ok (h : readEntries readEntry configs.entries = .ok results) :
    ∃ declared batches t, readDeclared configs.entries {} = .ok declared ∧
      Starts results ⟨declared.base, declared.pending⟩ ∧
      Batches batches ⟨declared.base, declared.pending⟩ t ∧ t.ready = [] ∧
      compile configs = ⟨declared.note :: passNotes 1 batches, t.outcome⟩ := by
  obtain ⟨declared, hdeclared, hs⟩ := exists_starts h
  obtain ⟨batches, t, hbatches, hdone, hrun⟩ :=
    resolvePasses_eq 1 (hs.proper h) (le_refl declared.pending.length)
  refine ⟨declared, batches, t, hdeclared, hs, hbatches, hdone, ?_⟩
  rw [compile, hdeclared]
  change (do
    Traced.debug declared.note.text
    resolvePasses declared.pending.length 1 declared.base declared.pending) = _
  rw [hrun]
  rfl

/-- The outcome of readable declarations is that of their last pass. -/
theorem compile_of_ok (h : readEntries readEntry configs.entries = .ok results) :
    ∃ n s t, Starts results s ∧ Passes n s t ∧ t.ready = [] ∧
      (compile configs).result = t.outcome := by
  obtain ⟨_, _, t, -, hs, hbatches, hdone, hcompile⟩ := compile_eq_of_ok h
  exact ⟨_, _, t, hs, hbatches.passes, hdone, by rw [hcompile]⟩

end Dashboards.Filter
