import Dashboards.Proofs.Filter.Malformed
import Dashboards.Proofs.Filter.Run
import Dashboards.Proofs.Grounded

/-!
# When filters cannot be resolved

An extending filter is unresolvable if its references lead to a name that is not declared, or into a
circle (`Unresolvable`). `compile_failure` says when and how a section of filters fails: with the
error of its first malformed declaration, or else with the names of exactly its unresolvable filters
in the order of declaration, or not at all.

Every name that a pass puts into the table is grounded (`Pass.holdsGrounded`), and a run ends only
when every grounded name is in the table (`mem_resolved_of_grounded`). So the filters that still
wait are those that are not grounded, and over finitely many declarations these are the unresolvable
ones.
-/

namespace Dashboards.Filter

open Relation

/-- A declaration refers to the targets among its raw operands. -/
def Refers (declared : Declarations) (name target : String) : Prop :=
  ∃ config, declared name = some config ∧
    ∃ value ∈ config.operandValues, Operand.Written value (.reference target)

/-- An extending filter whose references lead to a name that is not declared, or into a circle. -/
def Unresolvable (configs : Table Config.Filter) (name : String) : Prop :=
  (∃ config, configs.get? name = some config ∧ config.isExtending = true) ∧
    ∃ target, ReflTransGen (Refers configs.get?) name target ∧
      (target ∉ configs.names ∨ TransGen (Refers configs.get?) target target)

open Classical in
/-- The unresolvable filters, in the order of declaration. -/
noncomputable def unresolvableNames (configs : Table Config.Filter) : List String :=
  configs.names.filter fun name => decide (Unresolvable configs name)

/-- A name is grounded if it is declared and refers to grounded names only. -/
abbrev GroundedName (configs : Table Config.Filter) : String → Prop :=
  Grounded (· ∈ configs.names) (Refers configs.get?)

variable {configs : Table Config.Filter} {results : List (String × (Filter ⊕ ExtendingFilter))}
  {s t : Progress}

/-- A base filter refers to nothing. -/
theorem not_refers_of_base {declared : Declarations} {name target : String}
    {config : Config.Filter} (h : declared name = some config)
    (hbase : config.isExtending = false) : ¬ Refers declared name target := by
  rintro ⟨config', hconfig', value, hvalue, -⟩
  cases h.symm.trans hconfig'
  simp only [Config.Filter.isExtending, Bool.or_eq_false_iff, Option.isSome_eq_false_iff,
    Option.isNone_iff_eq_none] at hbase
  simp [Config.Filter.operandValues, hbase] at hvalue

/-- A waiting filter refers to what its declaration does. -/
theorem refers_iff_of_readEntry {declared : Declarations}
    {filter : ExtendingFilter} {config : Config.Filter} (h : declared filter.name = some config)
    (hread : readEntry filter.name config = .ok (.inr filter)) {target : String} :
    Refers declared filter.name target ↔ target ∈ filter.references := by
  obtain ⟨hext, hread⟩ := readEntry_eq_inr_iff.1 hread
  obtain ⟨-, -, operator, operands, hoperands, -, hshape⟩ := ofExtending_eq_ok_iff.1 hread
  have hwritten := ((operands?_eq_some_iff hext).1 ⟨operator, hoperands⟩).2
  have hrefs : filter.references = Operand.references operands := by rw [hshape]
  rw [hrefs, mem_references_iff hwritten]
  constructor
  · rintro ⟨config', hconfig', hvalue⟩
    cases h.symm.trans hconfig'
    exact hvalue
  · exact fun hvalue => ⟨config, h, hvalue⟩

/-- The names in the table are grounded. -/
def Progress.HoldsGrounded (configs : Table Config.Filter) (s : Progress) : Prop :=
  ∀ name ∈ s.resolved.names, GroundedName configs name

/-- A run starts with grounded names in the table. -/
theorem Starts.holdsGrounded (hs : Starts results s)
    (h : readEntries readEntry configs.entries = .ok results) : s.HoldsGrounded configs := by
  intro name hname
  obtain ⟨result, hresult⟩ := Table.mem_names_iff.1 hname
  rw [Table.get?_eq_some_iff, hs.resolved, mem_baseEntries_iff] at hresult
  obtain ⟨config, hconfig, hread⟩ := Table.get?_of_mem_readEntries h hresult
  refine .mk (Table.mem_names_iff.2 ⟨config, hconfig⟩) fun target htarget => ?_
  exact absurd htarget (not_refers_of_base hconfig (readEntry_eq_inl_iff.1 hread).1)

/-- A pass puts grounded names into the table. -/
theorem Pass.holdsGrounded (h : Pass s t) (hproper : s.Proper)
    (hdeclared : s.AsDeclared configs.get?) (hs : s.HoldsGrounded configs) :
    t.HoldsGrounded configs := by
  intro name hname
  rw [h.names hproper, List.mem_append] at hname
  rcases hname with hold | hnew
  · exact hs name hold
  · obtain ⟨filter, hfilter, rfl⟩ := List.mem_map.1 hnew
    obtain ⟨hmem, hready⟩ := List.mem_filter.1 hfilter
    obtain ⟨config, hconfig, hread⟩ := hdeclared filter hmem
    refine .mk (Table.mem_names_iff.2 ⟨config, hconfig⟩) fun target htarget => ?_
    rw [refers_iff_of_readEntry hconfig hread] at htarget
    exact hs target (ExtendingFilter.isReady_iff.1 hready target htarget)

/-- Where no waiting filter is ready, every grounded name is in the table. -/
theorem mem_resolved_of_grounded (hdeclared : s.AsDeclared configs.get?)
    (hnames : (s.resolved.names ++ s.pending.map ExtendingFilter.name).Perm configs.names)
    (hdone : s.ready = []) {name : String} (h : GroundedName configs name) :
    name ∈ s.resolved.names := by
  induction h with
  | @mk name hname _ ih =>
    rw [← hnames.mem_iff, List.mem_append] at hname
    rcases hname with hname | hname
    · exact hname
    · obtain ⟨filter, hfilter, rfl⟩ := List.mem_map.1 hname
      obtain ⟨config, hconfig, hread⟩ := hdeclared filter hfilter
      have hready : filter.isReady s.resolved = true := by
        refine ExtendingFilter.isReady_iff.2 fun target htarget => ih target ?_
        exact (refers_iff_of_readEntry hconfig hread).2 htarget
      exact absurd hready (List.filter_eq_nil_iff.1 hdone filter hfilter)

/-- The names that are not grounded are those of the unresolvable filters. -/
theorem unresolvable_iff {name : String} (hname : name ∈ configs.names) :
    Unresolvable configs name ↔ ¬ GroundedName configs name := by
  have hgrounded := @grounded_iff _ (· ∈ configs.names) (Refers configs.get?) name
    configs.names.finite_toSet
  rw [GroundedName, hgrounded]
  constructor
  · rintro ⟨-, target, hreach, hbad⟩ h
    obtain ⟨hknown, hcycle⟩ := h target hreach
    exact hbad.elim (fun hn => hn hknown) hcycle
  · intro h
    simp only [not_forall, not_and_or, not_not] at h
    obtain ⟨target, hreach, hbad⟩ := h
    obtain ⟨config, hconfig⟩ := Table.mem_names_iff.1 hname
    refine ⟨⟨config, hconfig, ?_⟩, target, hreach, hbad⟩
    by_contra hbase
    have hleaf : ∀ other, ¬ Refers configs.get? name other := fun other =>
      not_refers_of_base hconfig (by simpa using hbase)
    rcases hreach.cases_head with rfl | ⟨other, hstep, -⟩
    · rcases hbad with hundeclared | hcycle
      · exact hundeclared hname
      · obtain ⟨other, hstep, -⟩ := TransGen.head'_iff.1 hcycle
        exact hleaf other hstep
    · exact hleaf other hstep

/-- Names among others in their order are those that are picked out by what they have in common. -/
theorem eq_filter_of_sublist {names picked : List String} {p : String → Bool}
    (hsublist : picked.Sublist names) (hnodup : names.Nodup)
    (hmem : ∀ name ∈ names, name ∈ picked ↔ p name = true) : picked = names.filter p := by
  have hpicked : picked.filter p = picked := by
    refine List.filter_eq_self.2 fun name hname => ?_
    exact (hmem name (hsublist.subset hname)).1 hname
  have hsub : picked.Sublist (names.filter p) := hpicked ▸ hsublist.filter p
  refine hsub.eq_of_length_le (List.Subperm.length_le ?_)
  refine (hnodup.filter p).subperm fun name hname => ?_
  obtain ⟨hname, hp⟩ := List.mem_filter.1 hname
  exact (hmem name hname).2 hp

/-- The filters that wait where a run ends are the unresolvable ones. -/
theorem pending_names_eq {n : Nat} (h : readEntries readEntry configs.entries = .ok results)
    (hs : Starts results s) (hpasses : Passes n s t) (hdone : t.ready = []) :
    t.pending.map ExtendingFilter.name = unresolvableNames configs := by
  have hproper := hs.proper h
  have ⟨htproper, hdeclared, hgrounded⟩ := hpasses.invariant
    (P := fun s => s.AsDeclared configs.get? ∧ s.HoldsGrounded configs)
    (fun _ _ hp hs hpass => ⟨hpass.asDeclared hp hs.1, hpass.holdsGrounded hp hs.1 hs.2⟩)
    hproper ⟨hs.asDeclared h, hs.holdsGrounded h⟩
  have hnames := (hpasses.names_perm hproper).trans (hs.names_perm h)
  have hsublist : (t.pending.map ExtendingFilter.name).Sublist configs.names := by
    refine ((hpasses.pending_sublist hproper).map _).trans ?_
    rw [hs.pending, (readEntries_names h).2]
    exact List.filter_sublist.map _
  classical
  refine eq_filter_of_sublist hsublist configs.names_nodup fun name hname => ?_
  rw [decide_eq_true_iff, unresolvable_iff hname]
  constructor
  · intro hwaits hg
    have hmem := mem_resolved_of_grounded hdeclared hnames hdone hg
    exact (List.nodup_append.1 htproper.distinct).2.2 name hmem name hwaits rfl
  · intro hg
    rcases List.mem_append.1 (hnames.mem_iff.2 hname) with hmem | hwaits
    · exact absurd (hgrounded name hmem) hg
    · exact hwaits

/-- The first malformed declaration ends the work with its own error. -/
theorem compile_of_malformed {before after : List (String × Config.Filter)} {name : String}
    {config : Config.Filter} (h : configs.entries = before ++ (name, config) :: after)
    (hbefore : ∀ entry ∈ before, ¬ Malformed entry.2) (hmalformed : Malformed config) :
    ∃ e, readEntry name config = .error e ∧ (compile configs).result = .error e := by
  obtain ⟨e, he⟩ := malformed_iff.1 hmalformed
  refine ⟨e, he, compile_of_error ?_⟩
  rw [h, readEntries]
  refine mapM_append_error after (fun entry hentry => ?_) (by simp only [he]; rfl)
  cases hread : readEntry entry.1 entry.2 with
  | error e => exact absurd (malformed_iff.2 ⟨e, hread⟩) (hbefore entry hentry)
  | ok result => exact ⟨(entry.1, result), rfl⟩

/-- Declarations none of which is malformed give the table, or the names of the unresolvable
filters. -/
theorem compile_of_wellFormed (h : ∀ entry ∈ configs.entries, ¬ Malformed entry.2) :
    (unresolvableNames configs = [] → ∃ resolved, (compile configs).result = .ok resolved) ∧
      (unresolvableNames configs ≠ [] → (compile configs).result =
        .error (.extendingFilter (.unresolvable (unresolvableNames configs)))) := by
  cases hread : readEntries readEntry configs.entries with
  | error e =>
    obtain ⟨entry, hentry, he⟩ := exists_of_mapM_error hread
    cases hone : readEntry entry.1 entry.2 with
    | error e => exact absurd (malformed_iff.2 ⟨e, hone⟩) (h entry hentry)
    | ok result =>
      rw [hone] at he
      cases he
  | ok results =>
    obtain ⟨n, s, t, hs, hpasses, hdone, hresult⟩ := compile_of_ok hread
    have hnames := pending_names_eq hread hs hpasses hdone
    rw [hresult, Progress.outcome, ← hnames]
    cases t.pending <;> simp

/-- How a section of filters fails. Its first malformed declaration fails it with an error of its
own. Without one, it compiles exactly if no filter is unresolvable, and else the error names exactly
the unresolvable filters, in the order of declaration. -/
theorem compile_failure (configs : Table Config.Filter) :
    (∀ before name config after, configs.entries = before ++ (name, config) :: after →
      (∀ entry ∈ before, ¬ Malformed entry.2) → Malformed config →
      ∃ e, (compile configs).result = .error e ∧ readEntry name config = .error e ∧
        e.kind = .headed (if config.isExtending then .extendingFilter else .filter) ∧
        e.filters = [name]) ∧
    ((∀ entry ∈ configs.entries, ¬ Malformed entry.2) →
      ((∃ resolved, (compile configs).result = .ok resolved) ↔ unresolvableNames configs = []) ∧
      (unresolvableNames configs ≠ [] → ∃ e, (compile configs).result = .error e ∧
        e = .extendingFilter (.unresolvable (unresolvableNames configs)) ∧
        e.message = "invalid extending filter: " ++
          ("filters reference missing or cyclic filters and cannot be resolved: " ++
            ", ".intercalate (unresolvableNames configs)))) := by
  refine ⟨fun before name config after h hbefore hmalformed => ?_, fun h => ?_⟩
  · obtain ⟨e, hread, hresult⟩ := compile_of_malformed h hbefore hmalformed
    obtain ⟨hkind, hfilters⟩ := readEntry_error hread
    exact ⟨e, hresult, hread, hkind, hfilters⟩
  · obtain ⟨hok, herror⟩ := compile_of_wellFormed h
    refine ⟨⟨fun ⟨resolved, hresolved⟩ => ?_, hok⟩, fun hne => ⟨_, herror hne, rfl, rfl⟩⟩
    by_contra hne
    rw [herror hne] at hresolved
    cases hresolved

/-- Filters of which the third is malformed, and so is the last. -/
def blankConfigs : Table Config.Filter := Table.ofList [
  ("all", { event := some "Transaction" }),
  ("paid", { and := some [.mapping [(.text "filter", .text "nowhere")]] }),
  ("blank", { event := some "  " }),
  ("empty", { and := some [] })]

/-- Filters of which two refer to each other, one refers to them and to another, and one to a name
that is not declared. -/
def circularConfigs : Table Config.Filter := Table.ofList [
  ("all", { event := some "Transaction" }),
  ("behind", { and := some [
    .mapping [(.text "filter", .text "all")], .mapping [(.text "filter", .text "left")]] }),
  ("left", { or := some [.mapping [(.text "filter", .text "right")]] }),
  ("paid", { and := some [.mapping [(.text "filter", .text "all")], .text "amount > 0"] }),
  ("right", { or := some [.mapping [(.text "condition", .text "left")]] }),
  ("lost", { and := some [.mapping [(.text "filter", .text "nowhere")]] })]

/-- Of two malformed filters the first is reported, though one before it leads nowhere. Where none
is malformed, the filters are reported that lead into the circle or to the name that is not
declared. -/
theorem compile_failure_circular :
    (∃ e, (compile blankConfigs).result = .error e ∧ e.filters = ["blank"] ∧
      e.message = "invalid filter: field event is required for filter blank") ∧
    unresolvableNames circularConfigs = ["behind", "left", "right", "lost"] ∧
    ∃ e, (compile circularConfigs).result = .error e ∧
      e.message = "invalid extending filter: filters reference missing or cyclic filters and " ++
        "cannot be resolved: behind, left, right, lost" := by
  have hreadable : ∀ {entries : List (String × Config.Filter)},
      (entries.all fun entry => (readEntry entry.1 entry.2).toOption.isSome) = true →
      ∀ entry ∈ entries, ¬ Malformed entry.2 := by
    intro entries hall entry hentry hmalformed
    obtain ⟨e, he⟩ := (malformed_iff.1 hmalformed : ∃ e, readEntry entry.1 entry.2 = .error e)
    have hread := List.all_eq_true.1 hall entry hentry
    rw [he] at hread
    cases hread
  constructor
  · have hblank : Malformed { event := some "  " } :=
      .event rfl fun event hevent => by
        cases hevent
        decide
    obtain ⟨e, hresult, hread, -, hfilters⟩ :=
      (compile_failure blankConfigs).1 [_, _] "blank" _ [_] rfl (hreadable rfl) hblank
    cases hread
    exact ⟨_, hresult, hfilters, rfl⟩
  · obtain ⟨hcompiles, hfails⟩ := (compile_failure circularConfigs).2 (hreadable rfl)
    have hresult : (compile circularConfigs).result =
        .error (.extendingFilter (.unresolvable ["behind", "left", "right", "lost"])) := rfl
    have hsome : unresolvableNames circularConfigs ≠ [] := by
      intro hnone
      obtain ⟨resolved, hresolved⟩ := hcompiles.2 hnone
      cases hresult.symm.trans hresolved
    obtain ⟨e, he, rfl, -⟩ := hfails hsome
    have hnames := hresult.symm.trans he
    simp only [Except.error.injEq, Error.extendingFilter.injEq,
      ExtendingFault.unresolvable.injEq] at hnames
    exact ⟨hnames.symm, _, hresult, rfl⟩

end Dashboards.Filter
