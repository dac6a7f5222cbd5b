import Dashboards.Proofs.Filter.Resolved
import Dashboards.Proofs.Filter.Unresolvable

/-!
# The depth of filters

A base filter has depth zero, and an extending filter one more than the deepest filter that it
refers to (`Declarations.depth?`). The depth of a filter is the number of the pass that resolves it:
after `d` passes the table has exactly the filters of depth `d` or less (`Progress.AtDepth`), so the
next pass finds those of depth `d + 1` ready and no others (`Progress.AtDepth.ready_names`).

`compile_by_depth` says what follows for a whole run: there are as many passes as the greatest
depth, and the table lists the filters by their depth, and those of one depth in the order of
declaration.
-/

namespace Dashboards.Filter

/-! ## Depths -/

/-- How far the references of a filter go down. Those in a circle have no depth. -/
def Declarations.depth? (declared : Declarations) (name : String) : Option Nat := do
  let config ← declared name
  if config.isExtending then
    let (_, operands) ← operands? config
    let depths ← (Operand.references operands).mapM fun target => declared |>.depth? target
    let deepest ← depths.max?
    return deepest + 1
  else
    return 0
partial_fixpoint

/-- The names of the filters of a depth, in the order of declaration. -/
def namesOfDepth (configs : Table Config.Filter) (depth : Nat) : List String :=
  configs.names.filter fun name => Declarations.depth? configs.get? name = some depth

/-- The depth of the deepest filter, or zero if there are no filters. -/
def greatestDepth (configs : Table Config.Filter) : Nat :=
  (configs.names.filterMap (Declarations.depth? configs.get?)).max?.getD 0

/-- The names of the filters of depth one, of those of depth two, and so on. -/
def namesByDepth (configs : Table Config.Filter) : List (List String) :=
  (List.range' 1 (greatestDepth configs)).map (namesOfDepth configs)

section
variable {declared : Declarations} {name : String} {config : Config.Filter}

/-- A base filter has depth zero. -/
theorem depth?_base (h : declared name = some config) (hbase : config.isExtending = false) :
    declared.depth? name = some 0 := by
  rw [Declarations.depth?, h]
  simp [hbase]

/-- An extending filter is one deeper than the deepest filter that it refers to. -/
theorem depth?_extending_iff {operator : Operator} {operands : List Operand} {depth : Nat}
    (h : declared name = some config) (hext : config.isExtending = true)
    (hoperands : operands? config = some (operator, operands)) :
    declared.depth? name = some depth ↔
      ∃ depths deepest, List.Forall₂ (fun target depth => declared.depth? target = some depth)
        (Operand.references operands) depths ∧
        depths.max? = some deepest ∧ depth = deepest + 1 := by
  rw [Declarations.depth?, h]
  simp only [Option.bind_eq_bind, Option.bind_some, hext, if_true, hoperands]
  simp only [Option.bind_eq_some_iff, mapM_eq_some_iff, Option.pure_def, Option.some.injEq,
    exists_and_left, @eq_comm _ _ depth]

/-- A filter that has a depth is declared. -/
theorem exists_declared_of_depth? {depth : Nat} (h : declared.depth? name = some depth) :
    ∃ config, declared name = some config := by
  cases hconfig : declared name with
  | some config => exact ⟨config, rfl⟩
  | none =>
    rw [Declarations.depth?, hconfig] at h
    cases h

/-- All references of a waiting filter go down no further than some depth exactly if the filter is
at most one deeper. -/
theorem depth?_le_iff {filter : ExtendingFilter} (h : declared filter.name = some config)
    (hread : readEntry filter.name config = .ok (.inr filter)) {bound : Nat} :
    (∀ target ∈ filter.references, ∃ depth ≤ bound, declared.depth? target = some depth) ↔
      ∃ depth ≤ bound, declared.depth? filter.name = some (depth + 1) := by
  obtain ⟨hext, hread⟩ := readEntry_eq_inr_iff.1 hread
  obtain ⟨-, -, operator, operands, hoperands, hrefs, hshape⟩ := ofExtending_eq_ok_iff.1 hread
  have hreferences : filter.references = Operand.references operands := by rw [hshape]
  rw [hreferences]
  constructor
  · intro htargets
    obtain ⟨depths, hdepths⟩ := exists_forall₂_of_forall htargets
    have hnonempty : depths ≠ [] := by
      rintro rfl
      exact hrefs (List.forall₂_nil_right_iff.1 hdepths)
    obtain ⟨deepest, hdeepest⟩ := Option.isSome_iff_exists.1 (List.isSome_max?_iff.2 hnonempty)
    have hbound : deepest ≤ bound := (List.max?_le_iff hdeepest).2 fun depth hdepth =>
      have ⟨_, _, hle, _⟩ := forall₂_exists_of_mem_right hdepths hdepth
      hle
    exact ⟨deepest, hbound, (depth?_extending_iff h hext hoperands).2
      ⟨depths, deepest, hdepths.imp fun _ _ hdepth => hdepth.2, hdeepest, rfl⟩⟩
  · rintro ⟨depth, hbound, hname⟩ target htarget
    obtain ⟨depths, deepest, hdepths, hdeepest, heq⟩ :=
      (depth?_extending_iff h hext hoperands).1 hname
    obtain ⟨found, hfound, htargetDepth⟩ := forall₂_exists_of_mem_left hdepths htarget
    have hle : found ≤ deepest := (List.max?_le_iff hdeepest).1 le_rfl found hfound
    exact ⟨found, by omega, htargetDepth⟩

/-- A waiting filter does not have depth zero. -/
theorem depth?_ne_zero {filter : ExtendingFilter} (h : declared filter.name = some config)
    (hread : readEntry filter.name config = .ok (.inr filter)) :
    declared.depth? filter.name ≠ some 0 := by
  obtain ⟨hext, hread⟩ := readEntry_eq_inr_iff.1 hread
  obtain ⟨-, -, operator, operands, hoperands, -, -⟩ := ofExtending_eq_ok_iff.1 hread
  rw [ne_eq, depth?_extending_iff h hext hoperands]
  rintro ⟨_, _, _, _, ⟨⟩⟩

end

/-! ## Passes by depth -/

variable {configs : Table Config.Filter} {results : List (String × (Filter ⊕ ExtendingFilter))}
  {s t : Progress} {pass : Nat}

/-- After a number of passes the table has the filters of that depth or less, and the others wait in
the order of declaration. -/
structure Progress.AtDepth (configs : Table Config.Filter) (pass : Nat) (s : Progress) : Prop where
  proper : s.Proper
  declared : s.AsDeclared configs.get?
  names : (s.resolved.names ++ s.pending.map ExtendingFilter.name).Perm configs.names
  order : (s.pending.map ExtendingFilter.name).Sublist configs.names
  resolved : ∀ name, name ∈ s.resolved.names ↔
    ∃ depth ≤ pass, Declarations.depth? configs.get? name = some depth

/-- A run starts with the filters of depth zero in the table. -/
theorem Starts.atDepth (hs : Starts results s)
    (h : readEntries readEntry configs.entries = .ok results) : s.AtDepth configs 0 where
  proper := hs.proper h
  declared := hs.asDeclared h
  names := hs.names_perm h
  order := by
    rw [hs.pending, (readEntries_names h).2]
    exact List.filter_sublist.map _
  resolved name := by
    constructor
    · intro hname
      obtain ⟨result, hresult⟩ := Table.mem_names_iff.1 hname
      rw [Table.get?_eq_some_iff, hs.resolved, mem_baseEntries_iff] at hresult
      obtain ⟨config, hconfig, hread⟩ := Table.get?_of_mem_readEntries h hresult
      exact ⟨0, le_rfl, depth?_base hconfig (readEntry_eq_inl_iff.1 hread).1⟩
    · rintro ⟨depth, hle, hdepth⟩
      cases Nat.le_zero.1 hle
      have hdeclared := Table.mem_names_iff.2 (exists_declared_of_depth? hdepth)
      rcases List.mem_append.1 ((hs.names_perm h).mem_iff.2 hdeclared) with hname | hname
      · exact hname
      · obtain ⟨filter, hfilter, rfl⟩ := List.mem_map.1 hname
        obtain ⟨config, hconfig, hread⟩ := hs.asDeclared h filter hfilter
        exact absurd hdepth (depth?_ne_zero hconfig hread)

namespace Progress.AtDepth

/-- A waiting filter is ready exactly if its depth is the number of the next pass. -/
theorem isReady_iff (hs : s.AtDepth configs pass) {filter : ExtendingFilter}
    (hfilter : filter ∈ s.pending) :
    filter.isReady s.resolved = true ↔
      Declarations.depth? configs.get? filter.name = some (pass + 1) := by
  obtain ⟨config, hconfig, hread⟩ := hs.declared filter hfilter
  have hwaits : filter.name ∉ s.resolved.names := fun hmem =>
    (List.nodup_append.1 hs.proper.distinct).2.2 _ hmem _ (List.mem_map_of_mem hfilter) rfl
  rw [ExtendingFilter.isReady_iff]
  simp only [hs.resolved, depth?_le_iff hconfig hread] at hwaits ⊢
  constructor
  · rintro ⟨depth, hle, hdepth⟩
    have hlt : ¬ depth + 1 ≤ pass := fun hbound => hwaits ⟨depth + 1, hbound, hdepth⟩
    rwa [show pass = depth by omega]
  · exact fun hdepth => ⟨pass, le_rfl, hdepth⟩

/-- The filters that are ready are those of the next depth, in the order of declaration. -/
theorem ready_names (hs : s.AtDepth configs pass) :
    s.ready.map ExtendingFilter.name = namesOfDepth configs (pass + 1) := by
  have hsublist : (s.ready.map ExtendingFilter.name).Sublist configs.names :=
    (List.filter_sublist.map _).trans hs.order
  refine eq_filter_of_sublist hsublist configs.names_nodup fun name hname => ?_
  rw [decide_eq_true_iff, List.mem_map]
  constructor
  · rintro ⟨filter, hfilter, rfl⟩
    obtain ⟨hmem, hready⟩ := List.mem_filter.1 hfilter
    exact (hs.isReady_iff hmem).1 hready
  · intro hdepth
    rcases List.mem_append.1 (hs.names.mem_iff.2 hname) with hresolved | hwaits
    · -- In the table are only filters that are not as deep.
      obtain ⟨depth, hle, hother⟩ := (hs.resolved name).1 hresolved
      cases hdepth.symm.trans hother
      omega
    · obtain ⟨filter, hfilter, rfl⟩ := List.mem_map.1 hwaits
      exact ⟨filter, List.mem_filter.2 ⟨hfilter, (hs.isReady_iff hfilter).2 hdepth⟩, rfl⟩

/-- A pass puts the filters of the next depth at the end of the table. -/
theorem names_of_pass (hs : s.AtDepth configs pass) (h : Pass s t) :
    t.resolved.names = s.resolved.names ++ namesOfDepth configs (pass + 1) := by
  rw [h.names hs.proper, hs.ready_names]

/-- A pass takes the table one depth further. -/
theorem of_pass (hs : s.AtDepth configs pass) (h : Pass s t) : t.AtDepth configs (pass + 1) where
  proper := h.proper hs.proper
  declared := h.asDeclared hs.proper hs.declared
  names := (h.names_perm hs.proper).trans hs.names
  order := by
    rw [(h.entries hs.proper).1]
    exact (List.filter_sublist.map _).trans hs.order
  resolved name := by
    rw [hs.names_of_pass h, List.mem_append, hs.resolved, namesOfDepth, List.mem_filter,
      decide_eq_true_iff]
    constructor
    · rintro (⟨depth, hle, hdepth⟩ | ⟨-, hdepth⟩)
      · exact ⟨depth, by omega, hdepth⟩
      · exact ⟨pass + 1, le_rfl, hdepth⟩
    · rintro ⟨depth, hle, hdepth⟩
      rcases Nat.le_succ_iff.1 hle with hle | rfl
      · exact .inl ⟨depth, hle, hdepth⟩
      · exact .inr ⟨Table.mem_names_iff.2 (exists_declared_of_depth? hdepth), hdepth⟩

/-- Passes resolve one depth after the other, each at the end of the table, and none of them is
empty. -/
theorem of_batches {batches : List (List String)} (h : Batches batches s t)
    (hs : s.AtDepth configs pass) :
    t.AtDepth configs (pass + batches.length) ∧
      batches = (List.range' (pass + 1) batches.length).map (namesOfDepth configs) ∧
      t.resolved.names = s.resolved.names ++ batches.flatten ∧ [] ∉ batches := by
  induction h generalizing pass with
  | nil => exact ⟨hs, rfl, by simp, by simp⟩
  | @cons batches s t u hpass _ ih =>
    obtain ⟨hu, hbatches, hnames, hnonempty⟩ := ih (hs.of_pass hpass)
    have hready : s.ready ≠ [] := by
      cases hpass
      assumption
    refine ⟨?_, ?_, ?_, ?_⟩
    · rwa [List.length_cons, ← Nat.add_assoc, Nat.add_right_comm]
    · rw [List.length_cons, List.range'_succ, List.map_cons, ← hbatches, hs.ready_names]
    · rw [hnames, hs.names_of_pass hpass, hs.ready_names, List.flatten_cons, List.append_assoc]
    · simpa [List.mem_cons, hnonempty] using hready

end Progress.AtDepth

/-! ## Whole runs -/

/-- A depth that no filter exceeds and that some filter has is the greatest. -/
theorem greatestDepth_eq {greatest : Nat}
    (hbound : ∀ name ∈ configs.names, ∃ depth ≤ greatest,
      Declarations.depth? configs.get? name = some depth)
    (hattained : greatest ≠ 0 → namesOfDepth configs greatest ≠ []) :
    greatestDepth configs = greatest := by
  refine Nat.le_antisymm ?_ ?_
  · rw [greatestDepth]
    cases hmax : (configs.names.filterMap (Declarations.depth? configs.get?)).max? with
    | none => exact Nat.zero_le _
    | some deepest =>
      obtain ⟨name, hname, hdepth⟩ := List.mem_filterMap.1 (List.max?_mem hmax)
      obtain ⟨depth, hle, hsame⟩ := hbound name hname
      cases hdepth.symm.trans hsame
      exact hle
  · by_cases hzero : greatest = 0
    · exact hzero ▸ Nat.zero_le _
    · obtain ⟨name, hname⟩ := List.exists_mem_of_ne_nil _ (hattained hzero)
      obtain ⟨hname, hdepth⟩ := List.mem_filter.1 hname
      exact List.le_max?_getD_of_mem
        (List.mem_filterMap.2 ⟨name, hname, of_decide_eq_true hdepth⟩)

/-- The filters of depth zero are the base filters. -/
theorem namesOfDepth_zero (h : readEntries readEntry configs.entries = .ok results)
    (hs : Starts results s) :
    s.resolved.names = namesOfDepth configs 0 ∧
      namesOfDepth configs 0 =
        (configs.entries.filter fun entry => !entry.2.isExtending).map Prod.fst := by
  have hbase : s.resolved.names =
      (configs.entries.filter fun entry => !entry.2.isExtending).map Prod.fst := by
    rw [Table.names, hs.resolved, (readEntries_names h).1]
  have hzero : s.resolved.names = namesOfDepth configs 0 := by
    refine eq_filter_of_sublist (hbase ▸ List.filter_sublist.map _) configs.names_nodup
      fun name _ => ?_
    rw [(hs.atDepth h).resolved, decide_eq_true_iff]
    constructor
    · rintro ⟨depth, hle, hdepth⟩
      rwa [← Nat.le_zero.1 hle]
    · exact fun hdepth => ⟨0, le_rfl, hdepth⟩
  exact ⟨hzero, hzero ▸ hbase⟩

/-- A section of filters that compiles is resolved by depth: every filter has one, each pass
resolves exactly the filters whose depth is its number, and there are as many passes as the greatest
depth. So the table lists the base filters in the order of declaration and then the others by their
depth, those of one depth in the order of declaration. -/
theorem compile_by_depth {resolved : FilterTable} (h : (compile configs).result = .ok resolved) :
    (∀ name ∈ configs.names, ∃ depth ≤ greatestDepth configs,
      Declarations.depth? configs.get? name = some depth) ∧
    namesOfDepth configs 0 =
      (configs.entries.filter fun entry => !entry.2.isExtending).map Prod.fst ∧
    resolved.names = namesOfDepth configs 0 ++ (namesByDepth configs).flatten ∧
    ∃ declared, readDeclared configs.entries {} = .ok declared ∧
      Batches (namesByDepth configs) ⟨declared.base, declared.pending⟩ ⟨resolved, []⟩ ∧
      (compile configs).notes = declared.note :: passNotes 1 (namesByDepth configs) := by
  obtain ⟨results, _, _, _, hread, -⟩ := run_of_compile h
  obtain ⟨declared, batches, t, hdeclared, hs, hbatches, -, hcompile⟩ := compile_eq_of_ok hread
  obtain ⟨ht, hlevels, hnames, hnonempty⟩ := (hs.atDepth hread).of_batches hbatches
  obtain ⟨hzero, hbase⟩ := namesOfDepth_zero hread hs
  obtain ⟨resolved', pending⟩ := t
  obtain ⟨rfl, rfl⟩ : pending = [] ∧ resolved' = resolved := by
    rw [hcompile, Progress.outcome] at h
    split at h
    · exact ⟨List.isEmpty_iff.1 ‹_›, Except.ok.inj h⟩
    · cases h
  have hbound : ∀ name ∈ configs.names, ∃ depth ≤ batches.length,
      Declarations.depth? configs.get? name = some depth := by
    intro name hname
    have := (ht.resolved name).1 (by simpa using ht.names.mem_iff.2 hname)
    rwa [Nat.zero_add] at this
  have hgreatest : greatestDepth configs = batches.length := by
    refine greatestDepth_eq hbound fun hpositive hnone => hnonempty ?_
    rw [hlevels, List.mem_map]
    exact ⟨batches.length, by rw [List.mem_range'_1]; omega, hnone⟩
  have hall : namesByDepth configs = batches := by
    rw [namesByDepth, hgreatest]
    exact hlevels.symm
  rw [hall, hgreatest]
  exact ⟨hbound, hbase, by rw [hnames, ← hzero], declared, hdeclared, hbatches, by rw [hcompile]⟩

/-- Filters in three tiers. The second tier is declared between filters of the first. -/
def tieredConfigs : Table Config.Filter := Table.ofList [
  ("slow", { and := some [.mapping [(.text "filter", .text "all")], .text "duration > 1"] }),
  ("worst", { or := some [.mapping [(.text "filter", .text "slow")],
    .mapping [(.text "filter", .text "paid")]] }),
  ("paid", { and := some [.mapping [(.text "filter", .text "all")], .text "amount > 0"] }),
  ("all", { event := some "Transaction" })]

/-- What the tiers resolve to. -/
def tieredResolved : FilterTable := Table.ofList [
  ("all", ⟨"all", "Transaction", none⟩),
  ("slow", ⟨"slow", "Transaction", some "(duration > 1)"⟩),
  ("paid", ⟨"paid", "Transaction", some "(amount > 0)"⟩),
  ("worst", ⟨"worst", "Transaction", some "((duration > 1)) OR ((amount > 0))"⟩)]

/-- The tiers are resolved by depth, so the filter between those of the first tier comes last. -/
theorem compile_by_depth_tiers :
    (compile tieredConfigs).result = .ok tieredResolved ∧
      ["all", "slow", "paid", "worst"] =
        namesOfDepth tieredConfigs 0 ++ (namesByDepth tieredConfigs).flatten ∧
      ∃ declared, readDeclared tieredConfigs.entries {} = .ok declared ∧
        Batches (namesByDepth tieredConfigs) ⟨declared.base, declared.pending⟩
          ⟨tieredResolved, []⟩ ∧
        (compile tieredConfigs).notes = declared.note :: passNotes 1 (namesByDepth tieredConfigs) :=
  have ⟨_, _, hnames, hbatches⟩ := @compile_by_depth tieredConfigs tieredResolved rfl
  ⟨rfl, hnames, hbatches⟩

end Dashboards.Filter
