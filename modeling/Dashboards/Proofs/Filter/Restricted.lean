import Dashboards.Proofs.Filter.Resolved
import Dashboards.Proofs.Filter.Unresolvable
import Dashboards.Proofs.Restriction

/-!
# Filters without those that are not needed

A section of filters may be restricted to names that refer to each other only. The passes then
resolve other filters at other times, but a section compiles exactly if its declarations are well
formed and its names grounded (`compile_ok_iff`), and both survive. What is left compiles to the
same filters, since they read the same (`reading?_restrict`, `compile_restrict`).
-/

namespace Dashboards.Filter

variable {configs : Table Config.Filter}

/-- A section compiles exactly if no declaration is malformed and every name is grounded. -/
theorem compile_ok_iff : (∃ resolved, (compile configs).result = .ok resolved) ↔
    (∀ entry ∈ configs.entries, ¬ Malformed entry.2) ∧
      ∀ name ∈ configs.names, GroundedName configs name := by
  classical
  have hnames : unresolvableNames configs = [] ↔
      ∀ name ∈ configs.names, GroundedName configs name := by
    rw [unresolvableNames, List.filter_eq_nil_iff]
    refine forall₂_congr fun name hname => ?_
    rw [decide_eq_true_iff, unresolvable_iff hname, not_not]
  constructor
  · rintro ⟨resolved, hresolved⟩
    have hwellFormed : ∀ entry ∈ configs.entries, ¬ Malformed entry.2 := by
      intro entry hentry hmalformed
      obtain ⟨results, -, -, -, hread, -⟩ := run_of_compile hresolved
      obtain ⟨e, he⟩ := malformed_iff.1 hmalformed
      obtain ⟨result, hresult⟩ :=
        Table.exists_read_of_get? hread (configs.get?_eq_some_iff.2 hentry)
      cases he.symm.trans hresult
    refine ⟨hwellFormed, hnames.1 ?_⟩
    by_contra hne
    cases hresolved.symm.trans ((compile_of_wellFormed hwellFormed).2 hne)
  · rintro ⟨hwellFormed, hgrounded⟩
    exact (compile_of_wellFormed hwellFormed).1 (hnames.2 hgrounded)

/-! ## Names that refer to each other only -/

variable {p : String → Prop} [DecidablePred p]

/-- What a part of a section refers to, the whole section does. -/
theorem refers_of_restrict {name target : String}
    (h : Refers (configs.restrict p).get? name target) : Refers configs.get? name target := by
  obtain ⟨config, hconfig, hvalue⟩ := h
  rw [Table.get?_restrict] at hconfig
  split at hconfig
  · exact ⟨config, hconfig, hvalue⟩
  · cases hconfig

variable (hclosed : ∀ name target, p name → Refers configs.get? name target → p target)
include hclosed

/-- A name that is kept with all that it leads to stays grounded. -/
theorem groundedName_restrict {name : String} (h : GroundedName configs name) (hname : p name) :
    GroundedName (configs.restrict p) name := by
  induction h with
  | @mk name hmem _ ih =>
    refine .mk (Table.mem_names_restrict.2 ⟨hname, hmem⟩) fun target htarget => ?_
    have hrefers := refers_of_restrict htarget
    exact ih target hrefers (hclosed name target hname hrefers)

/-- A grounded name that is kept with all that it leads to reads as before. -/
theorem reading?_restrict {name : String} (h : GroundedName configs name) (hname : p name) :
    Declarations.reading? (configs.restrict p).get? name =
      Declarations.reading? configs.get? name := by
  induction h with
  | @mk name hmem _ ih =>
    obtain ⟨config, hconfig⟩ := Table.mem_names_iff.1 hmem
    have hkept : (configs.restrict p).get? name = some config := by
      rw [Table.get?_restrict, if_pos hname, hconfig]
    cases hext : config.isExtending with
    | false => rw [reading?_base hkept hext, reading?_base hconfig hext]
    | true =>
      -- Nothing says that the declaration is well formed. Without operands it reads as nothing.
      rw [Declarations.reading?, hkept, Declarations.reading?, hconfig]
      simp only [Option.bind_eq_bind, Option.bind_some, hext, if_true]
      cases hoperands : operands? config with
      | none => rfl
      | some operands =>
        obtain ⟨operator, operands⟩ := operands
        have hwritten := ((operands?_eq_some_iff hext).1 ⟨operator, hoperands⟩).2
        have htargets : ∀ target ∈ Operand.references operands,
            Declarations.reading? (configs.restrict p).get? target =
              Declarations.reading? configs.get? target := by
          intro target htarget
          have hrefers : Refers configs.get? name target :=
            ⟨config, hconfig, (mem_references_iff hwritten).1 htarget⟩
          exact ih target hrefers (hclosed name target hname hrefers)
        rw [Option.bind_some, Option.bind_some, mapM_congr_of_mem htargets]

/-- A section that compiles still does when only names are kept that refer to each other, and then
to the same filters under these names. -/
theorem compile_restrict {resolved : FilterTable} (h : (compile configs).result = .ok resolved) :
    ∃ kept, (compile (configs.restrict p)).result = .ok kept ∧ resolved.AgreeOn p kept := by
  obtain ⟨hwellFormed, hgrounded⟩ := compile_ok_iff.1 ⟨resolved, h⟩
  obtain ⟨kept, hkept⟩ : ∃ kept, (compile (configs.restrict p)).result = .ok kept := by
    refine compile_ok_iff.2 ⟨fun entry hentry => hwellFormed entry (List.mem_of_mem_filter hentry),
      fun name hname => ?_⟩
    obtain ⟨hp, hmem⟩ := Table.mem_names_restrict.1 hname
    exact groundedName_restrict hclosed (hgrounded name hmem) hp
  refine ⟨kept, hkept, fun name hname => ?_⟩
  rw [get?_of_compile hkept, get?_of_compile h]
  by_cases hmem : name ∈ configs.names
  · rw [reading?_restrict hclosed (hgrounded name hmem) hname]
  · have hnone := Table.get?_eq_none_iff.2 hmem
    rw [reading?_eq_none hnone,
      reading?_eq_none (by rw [Table.get?_restrict, hnone, ite_self])]

end Dashboards.Filter
