import Dashboards.Proofs.Filter.Run

/-!
# The loop of passes ends

`Loop` says what the loop over the waiting filters does, without a bound on its passes: it ends
where nothing waits, where no filter is ready, and where a ready filter cannot be resolved. It has
one course only (`Loop.unique`), and `resolvePasses` follows it whenever it may make as many passes
as filters wait (`loop_resolvePasses`).

From a proper state the last of these ends never comes (`Loop.soundRun`): a filter that is ready
resolves, every pass takes filters from those that wait to the end of the table, and no name is lost
or doubled. `loop_terminates` puts this together, for every table and for every section of filters.
-/

namespace Dashboards.Filter

/-! ## The loop -/

/-- The loop over the waiting filters from a state on, before the pass of a number: the states
between its passes, the first and the last one included, and what it gives. -/
inductive Loop : (number : Nat) → Progress → List Progress → Traced Error FilterTable → Prop where
  /-- Nothing waits. -/
  | done {number : Nat} {s : Progress} : s.pending = [] → Loop number s [s] ⟨[], .ok s.resolved⟩
  /-- A pass that finds no filter ready is the last one. -/
  | stuck {number : Nat} {s : Progress} : s.pending ≠ [] → s.ready = [] →
      Loop number s [s]
        ⟨[], .error (.extendingFilter (.unresolvable (s.blocked.map ExtendingFilter.name)))⟩
  /-- A pass in which a ready filter cannot be resolved is the last one. -/
  | fault {number : Nat} {s : Progress} {e : Error} : s.ready ≠ [] →
      s.ready.mapM (·.resolve s.resolved) = .error e → Loop number s [s] ⟨[], .error e⟩
  /-- Any other pass is noted, and the loop goes on behind it. -/
  | pass {number : Nat} {s : Progress} {batch : List Filter} {states : List Progress}
      {run : Traced Error FilterTable} : s.ready ≠ [] →
      s.ready.mapM (·.resolve s.resolved) = .ok batch →
      Loop (number + 1) ⟨addAll s.resolved batch, s.blocked⟩ states run →
      Loop number s (s :: states)
        ⟨⟨.debug, s!"Resolved {batch.length} extending filters in pass {number}"⟩ :: run.notes,
          run.result⟩

variable {number fuel : Nat} {s : Progress} {states : List Progress}
  {run : Traced Error FilterTable}

/-- A run ends with the fault of a ready filter. -/
theorem resolvePasses_of_fault {e : Error} (number : Nat) (hready : s.ready ≠ [])
    (hfault : s.ready.mapM (·.resolve s.resolved) = .error e) :
    resolvePasses (fuel + 1) number s.resolved s.pending = ⟨[], .error e⟩ := by
  have hpending := Progress.pending_ne_nil hready
  rw [Progress.ready] at hready hfault
  rw [resolvePasses, List.partition_eq_filter_filter]
  · simp only
    rw [if_neg (by simpa using hready), hfault]
    rfl
  · exact hpending

/-- A run follows the loop if it may make as many passes as filters wait. -/
theorem loop_resolvePasses (number : Nat) (s : Progress) (h : s.pending.length ≤ fuel) :
    ∃ states, Loop number s states (resolvePasses fuel number s.resolved s.pending) := by
  induction fuel generalizing number s with
  | zero =>
    have hpending : s.pending = [] := List.length_eq_zero_iff.1 (Nat.le_zero.1 h)
    refine ⟨[s], ?_⟩
    rw [hpending, resolvePasses]
    exact .done hpending
  | succ fuel ih =>
    by_cases hready : s.ready = []
    · rw [resolvePasses_of_ready_eq_nil number hready h, Progress.outcome]
      refine ⟨[s], ?_⟩
      by_cases hpending : s.pending = []
      · rw [if_pos (List.isEmpty_iff.2 hpending)]
        exact .done hpending
      · rw [if_neg (by simpa using hpending), ← Progress.blocked_eq_pending hready]
        exact .stuck hpending hready
    · cases hbatch : s.ready.mapM (·.resolve s.resolved) with
      | error e =>
        rw [resolvePasses_of_fault number hready hbatch]
        exact ⟨[s], .fault hready hbatch⟩
      | ok batch =>
        have hlength : s.ready.length = batch.length := (mapM_eq_ok_iff.1 hbatch).length_eq
        have hblocked := Progress.blocked_lt_pending hready
        obtain ⟨states, hloop⟩ := ih (number + 1) ⟨addAll s.resolved batch, s.blocked⟩ (by
          change s.blocked.length ≤ fuel
          omega)
        rw [resolvePasses_of_pass fuel number (.mk hready hbatch), hlength]
        exact ⟨s :: states, .pass hready hbatch hloop⟩

/-- The loop has one course only. -/
theorem Loop.unique {states' : List Progress} {run' : Traced Error FilterTable}
    (h : Loop number s states run) (h' : Loop number s states' run') :
    states = states' ∧ run = run' := by
  induction h generalizing states' run' with
  | done hpending =>
    cases h' with
    | done _ => exact ⟨rfl, rfl⟩
    | stuck hother _ => exact absurd hpending hother
    | fault hready _ | pass hready _ _ => exact absurd hpending (Progress.pending_ne_nil hready)
  | stuck hpending hready =>
    cases h' with
    | done hother => exact absurd hother hpending
    | stuck _ _ => exact ⟨rfl, rfl⟩
    | fault hother _ | pass hother _ _ => exact absurd hready hother
  | fault hready hfault =>
    cases h' with
    | done hother => exact absurd hother (Progress.pending_ne_nil hready)
    | stuck _ hother => exact absurd hother hready
    | fault _ hother =>
      cases hfault.symm.trans hother
      exact ⟨rfl, rfl⟩
    | pass _ hother _ => cases hfault.symm.trans hother
  | pass hready hbatch _ ih =>
    cases h' with
    | done hother => exact absurd hother (Progress.pending_ne_nil hready)
    | stuck _ hother => exact absurd hother hready
    | fault _ hother => cases hbatch.symm.trans hother
    | pass _ hother hloop =>
      cases hbatch.symm.trans hother
      obtain ⟨rfl, rfl⟩ := ih hloop
      exact ⟨rfl, rfl⟩

/-! ## What the loop keeps -/

/-- What holds of a state to which passes lead from another one. -/
structure Progress.Continues (s t : Progress) : Prop where
  /-- The filters that are ready there can be resolved. -/
  resolves : ∀ filter ∈ t.ready, ∃ result, filter.resolve t.resolved = .ok result
  /-- The names that are in the table or wait are still the same. -/
  names : (t.resolved.names ++ t.pending.map ExtendingFilter.name).Perm
    (s.resolved.names ++ s.pending.map ExtendingFilter.name)
  /-- No name is there twice. -/
  distinct : (t.resolved.names ++ t.pending.map ExtendingFilter.name).Nodup
  /-- The table begins with the records that it had, each in its place. -/
  kept : s.resolved.entries <+: t.resolved.entries

/-- A proper state continues itself. -/
theorem Progress.Proper.continues (hs : s.Proper) : s.Continues s where
  resolves := hs.resolves
  names := .refl _
  distinct := hs.distinct
  kept := List.prefix_refl _

/-- What continues the state behind a pass continues the one before it. -/
theorem Progress.Continues.of_pass {t u : Progress} (h : t.Continues u) (hpass : Pass s t)
    (hs : s.Proper) : s.Continues u where
  resolves := h.resolves
  names := h.names.trans (hpass.names_perm hs)
  distinct := h.distinct
  kept := by
    obtain ⟨-, batch, -, hentries⟩ := hpass.entries hs
    exact (hentries ▸ List.prefix_append ..).trans h.kept

/-- A pass that is made: it puts filters to the end of the table, and fewer wait then. -/
structure Advance (s t : Progress) : Prop where
  pass : Pass s t
  kept : s.resolved.entries <+: t.resolved.entries
  grows : s.resolved.size < t.resolved.size
  shrinks : t.pending.length < s.pending.length

/-- From a proper state every pass that is made is an advance. -/
theorem Pass.advance {t : Progress} (h : Pass s t) (hs : s.Proper) : Advance s t := by
  obtain ⟨hpending, batch, members, hentries⟩ := h.entries hs
  have hready : s.ready ≠ [] := by
    cases h
    assumption
  have hpositive := List.length_pos_iff.2 hready
  have hlength := members.length_eq
  refine ⟨h, hentries ▸ List.prefix_append .., ?_, ?_⟩
  · rw [Table.size, Table.size, hentries, List.length_append, List.length_map]
    omega
  · rw [hpending]
    exact Progress.blocked_lt_pending hready

/-- How a loop goes that is begun in a state. -/
structure SoundRun (s : Progress) (states : List Progress) (run : Traced Error FilterTable) :
    Prop where
  /-- It begins in this state. -/
  head : states.head? = some s
  /-- From a state to the next one leads a pass that resolves something. -/
  advances : states.IsChain Advance
  /-- Passes are begun where filters wait, so there are at most as many as filters. -/
  bounded : states.countP (fun t => !t.pending.isEmpty) ≤ s.pending.length
  continues : ∀ t ∈ states, s.Continues t
  /-- No later pass changes, moves or replaces a record. -/
  kept : states.Pairwise fun t u => t.resolved.entries <+: u.resolved.entries
  /-- It ends with the table where nothing waits, or else with the names of those that wait and are
  not ready. -/
  ends : ∃ t, states.getLast? = some t ∧ t.ready = [] ∧ run.result = t.outcome

/-- From a proper state the loop is sound. -/
theorem Loop.soundRun (h : Loop number s states run) (hs : s.Proper) : SoundRun s states run := by
  induction h with
  | @done _ s hpending =>
    refine ⟨rfl, .singleton s, ?_, ?_, List.pairwise_singleton .., s, rfl, ?_, ?_⟩
    · simp [hpending]
    · simpa using hs.continues
    · rw [Progress.ready, hpending]
      rfl
    · rw [Progress.outcome, if_pos (List.isEmpty_iff.2 hpending)]
  | @stuck _ s hpending hready =>
    refine ⟨rfl, .singleton s, ?_, ?_, List.pairwise_singleton .., s, rfl, hready, ?_⟩
    · have hpositive := List.length_pos_iff.2 hpending
      simpa [hpending] using Nat.succ_le_of_lt hpositive
    · simpa using hs.continues
    · rw [Progress.outcome, if_neg (by simpa using hpending),
        Progress.blocked_eq_pending hready]
  | @fault _ s e hready hfault =>
    -- Resolving a ready filter fails nowhere.
    obtain ⟨filter, hfilter, he⟩ := exists_of_mapM_error hfault
    obtain ⟨result, hresult⟩ := hs.resolves filter hfilter
    cases he.symm.trans hresult
  | @pass _ s batch states run hready hbatch _ ih =>
    have hpass : Pass s ⟨addAll s.resolved batch, s.blocked⟩ := .mk hready hbatch
    have hadvance := hpass.advance hs
    have htail := ih (hpass.proper hs)
    have hcontinues : ∀ t ∈ states, s.Continues t := fun t ht =>
      (htail.continues t ht).of_pass hpass hs
    obtain ⟨t, hlast, hdone, hresult⟩ := htail.ends
    refine ⟨rfl, ?_, ?_, ?_, ?_, t, ?_, hdone, hresult⟩
    · cases states with
      | nil => cases htail.head
      | cons u rest =>
        cases htail.head
        exact .cons_cons hadvance htail.advances
    · have hshrinks := hadvance.shrinks
      have hbounded := htail.bounded
      rw [List.countP_cons]
      split <;> omega
    · exact List.forall_mem_cons.2 ⟨hs.continues, hcontinues⟩
    · exact List.pairwise_cons.2 ⟨fun u hu => (hcontinues u hu).kept, htail.kept⟩
    · rw [List.getLast?_cons, hlast]
      rfl

/-! ## Every table and every section -/

/-- The loop over waiting filters ends, whatever refers to what. It makes at most as many passes as
filters wait, each but a last one in vain resolves some, no ready filter fails to be resolved, and
the names and records stay what they are. A section of filters whose declarations can be read enters
the loop in a proper state, so it ends with the table or with the names that are left; one whose
declarations cannot all be read does not enter it. -/
theorem loop_terminates :
    (∀ s : Progress, s.Proper → ∃ states run, Loop 1 s states run ∧ SoundRun s states run ∧
      (∀ states' run', Loop 1 s states' run' → states' = states ∧ run' = run) ∧
      ∀ fuel ≥ s.pending.length, resolvePasses fuel 1 s.resolved s.pending = run) ∧
    ∀ configs : Table Config.Filter,
      (∀ e, readDeclared configs.entries {} = .error e → compile configs = ⟨[], .error e⟩) ∧
      ∀ declared, readDeclared configs.entries {} = .ok declared →
        (⟨declared.base, declared.pending⟩ : Progress).Proper ∧
        ∃ states run, Loop 1 ⟨declared.base, declared.pending⟩ states run ∧
          compile configs = ⟨declared.note :: run.notes, run.result⟩ := by
  refine ⟨fun s hs => ?_, fun configs => ⟨fun e he => ?_, fun declared hdeclared => ?_⟩⟩
  · obtain ⟨states, hloop⟩ := loop_resolvePasses 1 s le_rfl
    refine ⟨states, _, hloop, hloop.soundRun hs, fun _ _ hother => hother.unique hloop,
      fun fuel hfuel => ?_⟩
    obtain ⟨_, hother⟩ := loop_resolvePasses 1 s hfuel
    exact (hother.unique hloop).2
  · rw [compile, he]
    rfl
  · obtain ⟨states, hloop⟩ :=
      loop_resolvePasses 1 ⟨declared.base, declared.pending⟩ (le_refl declared.pending.length)
    refine ⟨?_, states, _, hloop, ?_⟩
    · cases hread : readEntries readEntry configs.entries with
      | error e =>
        have hresult := readDeclared_configs configs
        rw [hdeclared, hread] at hresult
        cases hresult
      | ok results =>
        obtain ⟨declared', hdeclared', hs⟩ := exists_starts hread
        cases hdeclared.symm.trans hdeclared'
        exact hs.proper hread
    · rw [compile, hdeclared]
      rfl

/-- Filters of which one is resolved in the first pass, one in the second, and two never. -/
def entangledConfigs : Table Config.Filter := Table.ofList [
  ("left", { or := some [.mapping [(.text "filter", .text "right")]] }),
  ("large", { and := some [.mapping [(.text "filter", .text "paid")], .text "amount > 9"] }),
  ("paid", { and := some [.mapping [(.text "filter", .text "all")], .text "amount > 0"] }),
  ("right", { and := some [
    .mapping [(.text "filter", .text "left")], .mapping [(.text "filter", .text "paid")]] }),
  ("all", { event := some "Transaction" })]

/-- The loop over these filters is begun in a proper state, and it makes two passes that resolve
something before it ends with the names of the other two. -/
theorem loop_terminates_entangled :
    ∃ declared, readDeclared entangledConfigs.entries {} = .ok declared ∧
      (⟨declared.base, declared.pending⟩ : Progress).Proper ∧
      ∃ states run, Loop 1 ⟨declared.base, declared.pending⟩ states run ∧
        SoundRun ⟨declared.base, declared.pending⟩ states run ∧
        states.map (fun s => (s.resolved.names, s.pending.map ExtendingFilter.name)) =
          [(["all"], ["left", "large", "paid", "right"]),
            (["all", "paid"], ["left", "large", "right"]),
            (["all", "paid", "large"], ["left", "right"])] ∧
        run.result = .error (.extendingFilter (.unresolvable ["left", "right"])) := by
  obtain ⟨hloops, hsections⟩ := loop_terminates
  obtain ⟨hproper, -⟩ := (hsections entangledConfigs).2 _ rfl
  obtain ⟨states, run, hloop, hsound, hunique, -⟩ := hloops _ hproper
  -- The loop has one course, so it is this one: two passes, and none in which a filter is ready.
  obtain ⟨rfl, rfl⟩ := hunique _ _ <| .pass nofun rfl <| .pass nofun rfl <| .stuck nofun rfl
  exact ⟨_, rfl, hproper, _, _, hloop, hsound, rfl, rfl⟩

end Dashboards.Filter
