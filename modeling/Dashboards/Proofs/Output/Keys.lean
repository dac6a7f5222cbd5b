import Dashboards.Proofs.Output.Grammar

/-!
# Which keys of a component count

A component of an output selection that is a mapping is read for one entry of it, that of its
wrapper. An output selection that is accepted is therefore the same as the one in which every such
component has this entry only (`kept`), and what it renders comes from these entries
(`one_key_counts`). Other keys of a component are passed over without a fault: the ones of a body in
the wrong place, and the second wrapper of a component that has both (`others_are_dropped`).
-/

namespace Dashboards.OutputSelection

open Text

/-- A component of an output selection is a mapping with some entries. -/
inductive HasMapping : Yaml.Value → List (Yaml.Value × Yaml.Value) → Prop
  | alone {entries : List (Yaml.Value × Yaml.Value)} : HasMapping (.mapping entries) entries
  | element {items : List Yaml.Value} {entries : List (Yaml.Value × Yaml.Value)} :
      .mapping entries ∈ items → HasMapping (.sequence items) entries

/-- The key of a wrapper is the only one. -/
def Wrapper.OnlyKey (entries : List (Yaml.Value × Yaml.Value)) : Prop :=
  ∃ (wrapper : Wrapper) (value : Yaml.Value), entries = [(.text wrapper.key, value)]

/-- The entry of the wrapper, if there is one. -/
def Wrapper.kept (entries : List (Yaml.Value × Yaml.Value)) : List (Yaml.Value × Yaml.Value) :=
  match Component.wrapped? entries with
  | some (wrapper, value) => [(.text wrapper.key, value)]
  | none => entries

/-- A component with the entry of its wrapper only. -/
def Component.kept : Yaml.Value → Yaml.Value
  | .mapping entries => .mapping (Wrapper.kept entries)
  | value => value

/-- An output selection whose components have the entries of their wrappers only. -/
def kept : Yaml.Value → Yaml.Value
  | .sequence items => .sequence (items.map Component.kept)
  | value => Component.kept value

variable {filters : FilterTable} {output : String} {value : Yaml.Value}
  {entries : List (Yaml.Value × Yaml.Value)} {wrapper : Wrapper}

/-! ## One entry counts -/

/-- A mapping with the key of a wrapper only has this wrapper. -/
@[simp]
theorem Component.wrapped?_singleton (wrapper : Wrapper) (value : Yaml.Value) :
    wrapped? [(.text wrapper.key, value)] = some (wrapper, value) := by
  cases wrapper <;> rfl

/-- The entry of the wrapper has this wrapper. -/
theorem Wrapper.wrapped?_kept : Component.wrapped? (kept entries) = Component.wrapped? entries := by
  rw [kept]
  split
  · next h => rw [h, Component.wrapped?_singleton]
  · rfl

/-- Of a mapping with a wrapper everything is kept exactly if it has no other key. -/
theorem Wrapper.kept_eq_self_iff (h : wrapper.Chosen entries value) :
    kept entries = entries ↔ OnlyKey entries := by
  have hwrapped := Component.wrapped?_eq_some_iff.2 h
  rw [kept, hwrapped]
  constructor
  · exact fun heq => ⟨wrapper, value, heq.symm⟩
  · rintro ⟨wrapper', value', rfl⟩
    rw [Component.wrapped?_singleton, Option.some.injEq, Prod.mk.injEq] at hwrapped
    obtain ⟨rfl, rfl⟩ := hwrapped
    rfl

/-- A component is read for the entry of its wrapper only. -/
theorem Component.ofValue_kept (value : Yaml.Value) :
    ofValue output filters (kept value) = ofValue output filters value := by
  cases value with
  | mapping entries => rw [kept, ofValue, ofValue, Wrapper.wrapped?_kept]
  | _ => rfl

/-- The components of an output selection are read for the entries of their wrappers only. -/
theorem components_kept (value : Yaml.Value) :
    components output filters (kept value) = components output filters value := by
  cases value with
  | mapping entries =>
    change (Component.ofValue output filters (Component.kept (.mapping entries)) >>= _) = _
    rw [Component.ofValue_kept]
    rfl
  | sequence items =>
    rw [kept]
    by_cases hitems : items = []
    · subst hitems
      rfl
    · rw [components_sequence hitems, components_sequence (by simpa using hitems), List.mapM_map]
      exact mapM_congr_of_mem fun item _ => Component.ofValue_kept item
  | _ => rfl

/-- An output selection is read for the entries of wrappers only. -/
theorem ofValue_kept (value : Yaml.Value) :
    ofValue output filters (kept value) = ofValue output filters value := by
  rw [ofValue, ofValue, components_kept]

/-- All of a component is kept exactly if it is no mapping or all of its entries are. -/
theorem Component.kept_eq_self_iff :
    kept value = value ↔
      ∀ entries, value = .mapping entries → Wrapper.kept entries = entries := by
  cases value <;> simp [kept]

/-- All of an output selection is kept exactly if all entries of its components are. -/
theorem kept_eq_self_iff :
    kept value = value ↔ ∀ entries, HasMapping value entries → Wrapper.kept entries = entries := by
  have hmap : ∀ items : List Yaml.Value,
      items.map Component.kept = items ↔ ∀ item ∈ items, Component.kept item = item := by
    intro items
    rw [← List.map_inj_left, List.map_id']
  cases value with
  | mapping entries =>
    change Component.kept (.mapping entries) = .mapping entries ↔ _
    rw [Component.kept_eq_self_iff]
    constructor
    · rintro h _ ⟨⟩
      exact h entries rfl
    · rintro h _ ⟨⟩
      exact h entries .alone
  | sequence items =>
    rw [kept, Yaml.Value.sequence.injEq, hmap]
    simp only [Component.kept_eq_self_iff]
    constructor
    · intro h entries hentries
      cases hentries with
      | element hitem => exact h _ hitem entries rfl
    · rintro h _ hitem entries rfl
      exact h entries (.element hitem)
  | _ =>
    constructor
    · rintro - _ ⟨⟩
    · exact fun _ => rfl

/-! ## Accepted output selections -/

/-- Every mapping of an output selection that is accepted is read as a component of it. -/
theorem exists_component {read : List Component} (h : components output filters value = .ok read)
    (hentries : HasMapping value entries) :
    ∃ component ∈ read, Component.ofValue output filters (.mapping entries) = .ok component := by
  cases hentries with
  | alone =>
    obtain ⟨component, hcomponent, hresult⟩ := bind_eq_ok_iff.1 h
    cases hresult
    exact ⟨component, List.mem_singleton_self component, hcomponent⟩
  | element hitem =>
    exact forall₂_exists_of_mem_left (components_sequence_eq_ok_iff.1 h).2 hitem

/-- A component of an output selection is in its clause. -/
theorem occurs_clause {read : List Component} {component : Component} (h : component ∈ read) :
    Occurs component.text (clause read) :=
  (Occurs.intercalate ", " (List.mem_map_of_mem h)).append_right

/-- Of every component of an output selection that is accepted, the entry of its wrapper shows in
the clause, and nothing else counts: the output selection is the same if only these entries are
kept. That changes nothing exactly if the components have no other keys. -/
theorem one_key_counts {name : String} {selection : OutputSelection}
    (h : ofValue name filters value = .ok selection) :
    (∀ entries, HasMapping value entries →
      ∃ (wrapper : Wrapper) (body : Yaml.Value) (text : String), wrapper.Chosen entries body ∧
        Component.Renders filters (.mapping [(.text wrapper.key, body)]) text ∧
        Occurs text selection.nrql) ∧
    ofValue name filters (kept value) = .ok selection ∧
    (kept value = value ↔ ∀ entries, HasMapping value entries → Wrapper.OnlyKey entries) := by
  obtain ⟨read, hread, rfl⟩ := ofValue_eq_ok_iff.1 h
  have hmapping : ∀ entries, HasMapping value entries → ∃ wrapper body,
      Wrapper.Chosen entries wrapper body ∧ ∃ component ∈ read,
        Component.ofValue name filters (.mapping [(.text wrapper.key, body)]) = .ok component := by
    intro entries hentries
    obtain ⟨component, hmem, hcomponent⟩ := exists_component hread hentries
    obtain ⟨wrapper, body, hwrapped, hgroup⟩ := Component.ofValue_mapping_eq_ok_iff.1 hcomponent
    exact ⟨wrapper, body, Component.wrapped?_eq_some_iff.1 hwrapped, component, hmem,
      Component.ofValue_mapping_eq_ok_iff.2
        ⟨wrapper, body, Component.wrapped?_singleton wrapper body, hgroup⟩⟩
  refine ⟨fun entries hentries => ?_, (ofValue_kept value).trans h, ?_⟩
  · obtain ⟨wrapper, body, hchosen, component, hmem, hcomponent⟩ := hmapping entries hentries
    exact ⟨wrapper, body, component.text, hchosen,
      Component.renders_iff.2 ⟨component, hcomponent, rfl⟩, occurs_clause hmem⟩
  · rw [kept_eq_self_iff]
    refine forall_congr' fun entries => forall_congr' fun hentries => ?_
    obtain ⟨wrapper, body, hchosen, -⟩ := hmapping entries hentries
    exact Wrapper.kept_eq_self_iff hchosen

/-- A component with the keys of both wrappers, and with a label beside their bodies. -/
def mislabelled : Yaml.Value :=
  .mapping [
    (.text "filter",
      .mapping [(.text "function", .text "count(*)"), (.text "condition", .text "error")]),
    (.text "percentage", .null),
    (.text "label", .text "Errors")]

/-- The component with three keys renders as if it had the first of them only. -/
theorem ofValue_mislabelled :
    ofValue "errors" Table.empty mislabelled =
      .ok ⟨"errors", "SELECT FILTER(count(*), WHERE error)"⟩ :=
  rfl

/-- The component with three keys is accepted, and two of its keys are not kept. -/
theorem one_key_counts_mislabelled :
    ofValue "errors" Table.empty mislabelled =
        .ok ⟨"errors", "SELECT FILTER(count(*), WHERE error)"⟩ ∧
      ofValue "errors" Table.empty (kept mislabelled) =
        .ok ⟨"errors", "SELECT FILTER(count(*), WHERE error)"⟩ ∧
      kept mislabelled ≠ mislabelled := by
  obtain ⟨-, hkept, hself⟩ := one_key_counts ofValue_mislabelled
  refine ⟨ofValue_mislabelled, hkept, fun heq => ?_⟩
  obtain ⟨wrapper, body, hentries⟩ := hself.1 heq _ .alone
  simp at hentries

/-- An output selection may be accepted though a component of it has other keys. -/
theorem others_are_dropped :
    ¬ ∀ name filters value selection, ofValue name filters value = .ok selection →
      ∀ entries, HasMapping value entries → Wrapper.OnlyKey entries := by
  intro h
  obtain ⟨wrapper, body, hentries⟩ := h _ _ _ _ ofValue_mislabelled _ .alone
  simp at hentries

end Dashboards.OutputSelection
