import Dashboards.Filter.Resolve
import Dashboards.Proofs.Table
import Dashboards.Proofs.Text

/-!
# Passes of resolution

A pass (`Pass`) takes all waiting filters whose references are in the table and puts them into it.
Resolving a filter never fails there (`ExtendingFilter.resolve_of_isReady`), and what it gives is
the texts of its references and its own, each between parentheses
(`ExtendingFilter.resolve_eq_ok_iff`). The names that are in the table or wait are always the same,
none of them twice (`Pass.names_perm`, `Pass.proper`), and a table only grows at its end
(`Pass.entries`).

A run makes passes until none is possible and notes each of them (`resolvePasses_eq`), and what
every pass preserves holds where the run ends (`Passes.invariant`).
-/

namespace Dashboards

namespace ExtendingFilter

/-- The text that joins texts, each between parentheses, if there is any. -/
def joinedText? (operator : Filter.Operator) (texts : List String) : Option String :=
  if texts.isEmpty then none
  else some ((" " ++ operator.keyword ++ " ").intercalate
    (texts.map fun text => "(" ++ text ++ ")"))

/-- A joined text is trimmed and not blank. -/
theorem joinedText?_bind_nonBlank? (operator : Filter.Operator) (texts : List String) :
    (joinedText? operator texts).bind Text.nonBlank? = joinedText? operator texts := by
  cases texts with
  | nil => rfl
  | cons text rest =>
    obtain ⟨inner, hinner⟩ :=
      Text.intercalate_parenthesized (" " ++ operator.keyword ++ " ") text rest
    rw [joinedText?, if_neg (by simp), hinner, Option.bind_some, Text.nonBlank?_parenthesized]

variable {filter : ExtendingFilter} {resolved : FilterTable}

/-- A filter is ready exactly if its references are in the table. -/
theorem isReady_iff :
    filter.isReady resolved = true ↔ ∀ name ∈ filter.references, name ∈ resolved.names := by
  simp only [isReady, List.all_eq_true, Table.contains_iff]

/-- The filters that are referred to are found one by one. -/
theorem targets_eq_ok_iff {targets : List Filter} :
    filter.targets resolved = .ok targets ↔
      List.Forall₂ (fun name target => resolved.get? name = some target) filter.references
        targets := by
  rw [ExtendingFilter.targets, mapM_eq_ok_iff]
  constructor <;> intro h <;> refine h.imp fun name target htarget => ?_
  · cases hget : resolved.get? name <;> simp_all
  · simp [htarget]

/-- A filter resolves exactly if its references are found and there are some. It then has the event
of the first, and joins the texts of those that restrict anything and its own. -/
theorem resolve_eq_ok_iff {result : Filter} :
    filter.resolve resolved = .ok result ↔
      ∃ first rest,
        List.Forall₂ (fun name target => resolved.get? name = some target) filter.references
          (first :: rest) ∧
        result = ⟨filter.name, first.event,
          joinedText? filter.operator
            ((first :: rest).filterMap Filter.nrql ++ filter.inline)⟩ := by
  have hterms : ∀ targets : List Filter, filter.terms targets =
      (targets.filterMap Filter.nrql ++ filter.inline).map fun text => "(" ++ text ++ ")" := by
    intro targets
    rw [terms, List.map_append, List.map_filterMap]
    rfl
  have hmake : ∀ first rest, Filter.make filter.name first.event
      (if (filter.terms (first :: rest)).isEmpty then none
        else some ((" " ++ filter.operator.keyword ++ " ").intercalate
          (filter.terms (first :: rest)))) =
      ⟨filter.name, first.event,
        joinedText? filter.operator ((first :: rest).filterMap Filter.nrql ++ filter.inline)⟩ := by
    intro first rest
    rw [Filter.make, hterms, List.isEmpty_map, ← joinedText?, joinedText?_bind_nonBlank?]
  rw [resolve, bind_eq_ok_iff]
  constructor
  · rintro ⟨targets, htargets, h⟩
    cases targets with
    | nil => cases h
    | cons first rest =>
      cases h
      exact ⟨first, rest, targets_eq_ok_iff.1 htargets, hmake first rest⟩
  · rintro ⟨first, rest, htargets, rfl⟩
    refine ⟨first :: rest, targets_eq_ok_iff.2 htargets, ?_⟩
    rw [← hmake]
    rfl

/-- A filter that is ready and refers to something resolves. -/
theorem resolve_of_isReady (hready : filter.isReady resolved = true)
    (hrefs : filter.references ≠ []) : ∃ result, filter.resolve resolved = .ok result := by
  obtain ⟨targets, htargets⟩ := exists_forall₂_of_forall fun name hname =>
    Table.mem_names_iff.1 (isReady_iff.1 hready name hname)
  cases targets with
  | nil =>
    rw [List.forall₂_nil_right_iff] at htargets
    exact absurd htargets hrefs
  | cons first rest => exact ⟨_, resolve_eq_ok_iff.2 ⟨first, rest, htargets, rfl⟩⟩

/-- A resolved filter keeps its name. -/
theorem name_of_resolve {result : Filter} (h : filter.resolve resolved = .ok result) :
    result.name = filter.name := by
  obtain ⟨_, _, _, rfl⟩ := resolve_eq_ok_iff.1 h
  rfl

end ExtendingFilter

namespace Filter

/-- How far filters are resolved: the table so far, and the filters that wait. -/
structure Progress where
  resolved : FilterTable
  pending : List ExtendingFilter

namespace Progress

variable (s : Progress)

/-- The waiting filters whose references are in the table. -/
def ready : List ExtendingFilter :=
  s.pending.filter (·.isReady s.resolved)

/-- The waiting filters of which a reference is not in the table. -/
def blocked : List ExtendingFilter :=
  s.pending.filter fun filter => !filter.isReady s.resolved

/-- Every waiting filter refers to something, and no name is in the table or waits twice. -/
structure Proper : Prop where
  refers : ∀ filter ∈ s.pending, filter.references ≠ []
  distinct : (s.resolved.names ++ s.pending.map ExtendingFilter.name).Nodup

/-- What a run gives that ends here: the table, or the names that still wait. -/
def outcome : Except Error FilterTable :=
  if s.pending.isEmpty then .ok s.resolved
  else .error (.extendingFilter (.unresolvable (s.pending.map ExtendingFilter.name)))

end Progress

/-- One pass: the filters that are ready go into the table, resolved against the table before. -/
inductive Pass (s : Progress) : Progress → Prop where
  | mk {batch : List Filter} : s.ready ≠ [] → s.ready.mapM (·.resolve s.resolved) = .ok batch →
      Pass s ⟨addAll s.resolved batch, s.blocked⟩

/-- A number of passes, one after the other. -/
inductive Passes : Nat → Progress → Progress → Prop where
  | refl {s : Progress} : Passes 0 s s
  | step {n : Nat} {s t u : Progress} : Pass s t → Passes n t u → Passes (n + 1) s u

/-! ## What a pass does -/

/-- Filters under distinct new names go to the end of a table, in order. -/
theorem addAll_entries {resolved : FilterTable} {batch : List Filter}
    (h : (resolved.names ++ batch.map Filter.name).Nodup) :
    (addAll resolved batch).entries =
      resolved.entries ++ batch.map fun filter => (filter.name, filter) := by
  have hfold : addAll resolved batch = (batch.map fun filter => (filter.name, filter)).foldl
      (fun table entry => table.insert entry.1 entry.2) resolved := by
    rw [List.foldl_map]
    rfl
  rw [hfold, Table.entries_foldl_insert]
  simpa [Function.comp_def] using h

section
variable {s t : Progress}

/-- The ready and the blocked filters are those that wait. -/
theorem Progress.ready_append_blocked_perm (s : Progress) :
    (s.ready ++ s.blocked).Perm s.pending :=
  List.filter_append_perm _ _

/-- Where no filter is ready all that wait are blocked. -/
theorem Progress.blocked_eq_pending (h : s.ready = []) : s.blocked = s.pending := by
  have hlength := s.ready_append_blocked_perm.length_eq
  rw [h, List.nil_append] at hlength
  exact List.filter_sublist.eq_of_length hlength

/-- Where a filter is ready fewer are blocked than wait. -/
theorem Progress.blocked_lt_pending (h : s.ready ≠ []) :
    s.blocked.length < s.pending.length := by
  have hlength := s.ready_append_blocked_perm.length_eq
  have hpositive := List.length_pos_iff.2 h
  rw [List.length_append] at hlength
  omega

/-- Where a filter is ready some wait. -/
theorem Progress.pending_ne_nil (h : s.ready ≠ []) : s.pending ≠ [] :=
  List.ne_nil_of_length_pos (Nat.zero_lt_of_lt (Progress.blocked_lt_pending h))

/-- The filters that are ready can be resolved. -/
theorem Progress.Proper.resolves (hs : s.Proper) :
    ∀ filter ∈ s.ready, ∃ result, filter.resolve s.resolved = .ok result := by
  intro filter hfilter
  obtain ⟨hmem, hready⟩ := List.mem_filter.1 hfilter
  exact ExtendingFilter.resolve_of_isReady hready (hs.refers filter hmem)

/-- The names of the table and of the ready and the blocked filters are those before the pass. -/
theorem Progress.names_perm (s : Progress) :
    (s.resolved.names ++ s.ready.map ExtendingFilter.name ++
      s.blocked.map ExtendingFilter.name).Perm
      (s.resolved.names ++ s.pending.map ExtendingFilter.name) := by
  rw [List.append_assoc, ← List.map_append]
  exact (s.ready_append_blocked_perm.map _).append_left _

/-- A pass adds the filters that are ready to the end of the table, in the order in which they
waited, and leaves the blocked ones waiting. -/
theorem Pass.entries (h : Pass s t) (hs : s.Proper) :
    t.pending = s.blocked ∧ ∃ batch,
      List.Forall₂ (fun filter result => filter.resolve s.resolved = .ok result) s.ready batch ∧
      t.resolved.entries = s.resolved.entries ++ batch.map fun filter => (filter.name, filter) := by
  obtain @⟨batch, -, hbatch⟩ := h
  have members := mapM_eq_ok_iff.1 hbatch
  refine ⟨rfl, batch, members, addAll_entries ?_⟩
  have hnames : batch.map Filter.name = s.ready.map ExtendingFilter.name :=
    map_eq_map_of_forall₂ members fun _ _ hresolve => ExtendingFilter.name_of_resolve hresolve
  rw [hnames]
  exact (s.names_perm.nodup_iff.2 hs.distinct).sublist (List.sublist_append_left ..)

/-- After a pass the names in the table are those before it and those of the ready filters. -/
theorem Pass.names (h : Pass s t) (hs : s.Proper) :
    t.resolved.names = s.resolved.names ++ s.ready.map ExtendingFilter.name := by
  obtain ⟨-, batch, members, hentries⟩ := h.entries hs
  have hnames := map_eq_map_of_forall₂ members fun _ _ hresolve =>
    ExtendingFilter.name_of_resolve hresolve
  rw [Table.names, hentries, List.map_append, ← Table.names, ← hnames]
  simp

/-- The names that are in the table or wait are the same after a pass. -/
theorem Pass.names_perm (h : Pass s t) (hs : s.Proper) :
    (t.resolved.names ++ t.pending.map ExtendingFilter.name).Perm
      (s.resolved.names ++ s.pending.map ExtendingFilter.name) := by
  rw [h.names hs, (h.entries hs).1]
  exact s.names_perm

/-- A pass keeps what is proper. -/
theorem Pass.proper (h : Pass s t) (hs : s.Proper) : t.Proper where
  refers := by
    rw [(h.entries hs).1]
    exact fun filter hfilter => hs.refers filter (List.mem_of_mem_filter hfilter)
  distinct := (h.names_perm hs).nodup_iff.2 hs.distinct

/-- A record of the table after a pass was there before or is that of a ready filter. -/
theorem Pass.get?_cases (h : Pass s t) (hs : s.Proper) {name : String} {result : Filter}
    (hget : t.resolved.get? name = some result) :
    s.resolved.get? name = some result ∨
      ∃ filter ∈ s.ready, filter.name = name ∧ filter.resolve s.resolved = .ok result := by
  obtain ⟨-, batch, members, hentries⟩ := h.entries hs
  rw [Table.get?_eq_some_iff] at hget
  rw [hentries, List.mem_append] at hget
  rcases hget with hold | hnew
  · exact .inl (s.resolved.get?_eq_some_iff.2 hold)
  · obtain ⟨result', hresult, heq⟩ := List.mem_map.1 hnew
    cases heq
    obtain ⟨filter, hfilter, hresolve⟩ := forall₂_exists_of_mem_right members hresult
    exact .inr ⟨filter, hfilter, (ExtendingFilter.name_of_resolve hresolve).symm, hresolve⟩

end

/-! ## What a run does -/

section
variable {n : Nat} {s t : Progress}

/-- What every pass preserves holds where a run ends. -/
theorem Passes.invariant {P : Progress → Prop}
    (hstep : ∀ s t, s.Proper → P s → Pass s t → P t) (h : Passes n s t) (hs : s.Proper)
    (hP : P s) : t.Proper ∧ P t := by
  induction h with
  | refl => exact ⟨hs, hP⟩
  | step hpass _ ih => exact ih (hpass.proper hs) (hstep _ _ hs hP hpass)

/-- The filters that wait after a run waited before it, in the same order. -/
theorem Passes.pending_sublist (h : Passes n s t) (hs : s.Proper) :
    t.pending.Sublist s.pending := by
  induction h with
  | refl => exact .refl _
  | step hpass _ ih =>
    refine (ih (hpass.proper hs)).trans ?_
    rw [(hpass.entries hs).1]
    exact List.filter_sublist

/-- The names that are in the table or wait are the same after a run. -/
theorem Passes.names_perm (h : Passes n s t) (hs : s.Proper) :
    (t.resolved.names ++ t.pending.map ExtendingFilter.name).Perm
      (s.resolved.names ++ s.pending.map ExtendingFilter.name) := by
  induction h with
  | refl => exact .refl _
  | step hpass _ ih => exact (ih (hpass.proper hs)).trans (hpass.names_perm hs)

end

/-! ## Runs of the code -/

section
variable {s t : Progress}

/-- Passes one after the other that resolve the filters of these names. -/
inductive Batches : List (List String) → Progress → Progress → Prop where
  | nil {s : Progress} : Batches [] s s
  | cons {batches : List (List String)} {s t u : Progress} : Pass s t → Batches batches t u →
      Batches (s.ready.map ExtendingFilter.name :: batches) s u

/-- Batches are resolved by as many passes. -/
theorem Batches.passes {batches : List (List String)} (h : Batches batches s t) :
    Passes batches.length s t := by
  induction h with
  | nil => exact .refl
  | cons hpass _ ih => exact .step hpass ih

/-- What is noted of passes, the first of which has a number. -/
def passNotes (pass : Nat) : List (List String) → List Note
  | [] => []
  | batch :: rest =>
    ⟨.debug, s!"Resolved {batch.length} extending filters in pass {pass}"⟩ ::
      passNotes (pass + 1) rest

/-- Where filters are ready a pass is possible, and it leaves fewer filters waiting. -/
theorem Progress.Proper.exists_pass (hs : s.Proper) (hready : s.ready ≠ []) :
    ∃ t, Pass s t ∧ t.pending.length < s.pending.length := by
  obtain ⟨batch, hbatch⟩ := mapM_ok_of_forall hs.resolves
  exact ⟨⟨addAll s.resolved batch, s.blocked⟩, .mk hready hbatch,
    Progress.blocked_lt_pending hready⟩

/-- A run goes on behind a pass, which it notes. -/
theorem resolvePasses_of_pass (fuel pass : Nat) (h : Pass s t) :
    resolvePasses (fuel + 1) pass s.resolved s.pending = (do
      Traced.debug s!"Resolved {s.ready.length} extending filters in pass {pass}"
      resolvePasses fuel (pass + 1) t.resolved t.pending) := by
  obtain @⟨batch, hready, hbatch⟩ := h
  have hlength : s.ready.length = batch.length := (mapM_eq_ok_iff.1 hbatch).length_eq
  rw [hlength]
  rw [Progress.ready] at hready hbatch
  rw [Progress.blocked]
  cases hpending : s.pending with
  | nil => simp [hpending] at hready
  | cons filter rest =>
    rw [← hpending, resolvePasses, List.partition_eq_filter_filter]
    · simp only
      rw [if_neg (by simpa using hready), hbatch]
      rfl
    · rw [hpending]
      exact nofun

/-- A run ends where no filter is ready. -/
theorem resolvePasses_of_ready_eq_nil {fuel : Nat} (pass : Nat) (hready : s.ready = [])
    (hfuel : s.pending.length ≤ fuel) :
    resolvePasses fuel pass s.resolved s.pending = ⟨[], s.outcome⟩ := by
  have hblocked : s.pending.filter (not ∘ (·.isReady s.resolved)) = s.pending :=
    Progress.blocked_eq_pending hready
  rw [Progress.outcome]
  cases hpending : s.pending with
  | nil =>
    rw [resolvePasses]
    rfl
  | cons filter rest =>
    obtain ⟨fuel, rfl⟩ : ∃ n, fuel = n + 1 := Nat.exists_eq_add_one.2 (by
      rw [hpending, List.length_cons] at hfuel
      omega)
    rw [Progress.ready] at hready
    rw [← hpending, resolvePasses, List.partition_eq_filter_filter]
    · simp only [hready, hblocked]
      rw [hpending]
      rfl
    · rw [hpending]
      exact nofun

/-- Filters are resolved in passes until none is ready. The run notes its passes, and its outcome is
that of the last one. -/
theorem resolvePasses_eq {fuel : Nat} (pass : Nat) {s : Progress} (hs : s.Proper)
    (hfuel : s.pending.length ≤ fuel) :
    ∃ batches t, Batches batches s t ∧ t.ready = [] ∧
      resolvePasses fuel pass s.resolved s.pending = ⟨passNotes pass batches, t.outcome⟩ := by
  induction fuel generalizing pass s with
  | zero =>
    have hnil : s.pending = [] := List.length_eq_zero_iff.1 (Nat.le_zero.1 hfuel)
    have hready : s.ready = [] := by rw [Progress.ready, hnil]; rfl
    exact ⟨[], s, .nil, hready, resolvePasses_of_ready_eq_nil pass hready hfuel⟩
  | succ fuel ih =>
    by_cases hready : s.ready = []
    · exact ⟨[], s, .nil, hready, resolvePasses_of_ready_eq_nil pass hready hfuel⟩
    · obtain ⟨t, hpass, hlength⟩ := hs.exists_pass hready
      obtain ⟨batches, u, hbatches, hdone, hrest⟩ := ih (pass + 1) (hpass.proper hs) (by omega)
      refine ⟨_, u, .cons hpass hbatches, hdone, ?_⟩
      rw [resolvePasses_of_pass fuel pass hpass, hrest, passNotes, List.length_map]
      rfl

end

end Filter

end Dashboards
