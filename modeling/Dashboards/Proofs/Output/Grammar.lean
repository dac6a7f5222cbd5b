import Dashboards.Proofs.Document.Components
import Dashboards.Proofs.Messages
import Dashboards.Proofs.Output.Body

/-!
# The grammar of output selections

An output selection is a text, a list of components or one component. `OutputSelection.Renders` is
its grammar: it says which values are output selections and which clause each renders as, given the
filters that its conditions may name. Reading and rendering follow it exactly
(`OutputSelection.renders_iff`), and all faults of a value outside the grammar are faults of its
output selection (`OutputSelection.failsWith_ofValue`). A section is therefore compiled to the
clauses of its entries, or it is refused for the first entry outside the grammar
(`OutputSelection.compile_follows_grammar`).
-/

namespace Dashboards.OutputSelection

/-! ## Grammar -/

/-- What a text means as a condition: the text of the filter of that name, or itself if there is no
such filter. A filter without a text means nothing. -/
inductive Component.Means (filters : FilterTable) : String → String → Prop
  | filter {condition nrql : String} {filter : Filter} : filters.get? condition = some filter →
      filter.nrql = some nrql → Means filters condition nrql
  | verbatim {condition : String} : filters.get? condition = none →
      Means filters condition condition

/-- What is written behind a component for its label. -/
inductive Component.Labels : Option String → String → Prop
  | absent : Labels none ""
  | blank {label : String} : Text.trim label = "" → Labels (some label) ""
  | label {label : String} : Text.trim label ≠ "" →
      Labels (some label) (" AS \x60" ++ Text.trim label ++ "\x60")

/-- The wrapper that a mapping chooses, with the value under its key. -/
inductive Wrapper.Chosen (entries : List (Yaml.Value × Yaml.Value)) : Wrapper → Yaml.Value → Prop
  | filter {value : Yaml.Value} : Yaml.Value.lookup "filter" entries = some value →
      Chosen entries filter value
  | percentage {value : Yaml.Value} : Yaml.Value.lookup "filter" entries = none →
      Yaml.Value.lookup "percentage" entries = some value → Chosen entries percentage value

/-- The word that a wrapper renders as. -/
inductive Wrapper.Word : Wrapper → String → Prop
  | filter : Word filter "FILTER"
  | percentage : Word percentage "PERCENTAGE"

/-- The text that an element of a list renders as. -/
inductive Component.Renders (filters : FilterTable) : Yaml.Value → String → Prop
  | text {nrql : String} : Renders filters (.text nrql) nrql
  | mapping {entries : List (Yaml.Value × Yaml.Value)} {wrapper : Wrapper} {value : Yaml.Value}
      {body : Body} {word function condition nrql label : String} :
      wrapper.Chosen entries value → wrapper.Word word → body.Written value →
      body.function = some function → body.condition = some condition →
      Means filters condition nrql → Labels body.label label →
      Renders filters (.mapping entries)
        (word ++ "(" ++ function ++ ", WHERE " ++ nrql ++ ")" ++ label)

/-- The clause that an output selection renders as. -/
inductive Renders (filters : FilterTable) : Yaml.Value → String → Prop
  | text {nrql : String} : Renders filters (.text nrql) ("SELECT " ++ nrql)
  | list {items : List Yaml.Value} {texts : List String} : items ≠ [] →
      List.Forall₂ (Component.Renders filters) items texts →
      Renders filters (.sequence items) ("SELECT " ++ String.intercalate ", " texts)
  | mapping {entries : List (Yaml.Value × Yaml.Value)} {nrql : String} :
      Renders filters (.sequence [.mapping entries]) nrql → Renders filters (.mapping entries) nrql

variable {filters : FilterTable} {output nrql : String} {value : Yaml.Value}

/-! ## Components -/

namespace Component

/-- A text stands for what it means as a condition. -/
theorem conditionOf_eq_ok_iff {condition : String} :
    conditionOf output filters condition = .ok nrql ↔ Means filters condition nrql := by
  rw [conditionOf]
  constructor
  · intro h
    split at h
    · next hget =>
      cases h
      exact .verbatim hget
    · next filter hget =>
      split at h
      · next hnrql =>
        cases h
        exact .filter hget hnrql
      · cases h
  · intro h
    cases h with
    | filter hget hnrql => simp [hget, hnrql]
    | verbatim hget => rw [hget]

/-- A label is written as its trimmed text, if it is not blank. -/
theorem labels_iff {label : Option String} {text : String} :
    Labels label text ↔ text = labelText (Text.trimmed? label) := by
  cases label with
  | none =>
    constructor
    · rintro ⟨⟩
      rfl
    · rintro rfl
      exact .absent
  | some label =>
    by_cases hblank : Text.trim label = ""
    · have htrimmed : Text.trimmed? (some label) = none := by simp [Text.trimmed?, hblank]
      rw [htrimmed]
      constructor
      · rintro (_ | _ | hlabel)
        · rfl
        · exact absurd hblank hlabel
      · rintro rfl
        exact .blank hblank
    · have htrimmed : Text.trimmed? (some label) = some (Text.trim label) := by
        simp [Text.trimmed?, Option.filter, hblank]
      rw [htrimmed]
      constructor
      · rintro (_ | hempty | _)
        · exact absurd hempty hblank
        · rfl
      · rintro rfl
        exact .label hblank

/-- A mapping has the wrapper that it chooses. -/
theorem wrapped?_eq_some_iff {entries : List (Yaml.Value × Yaml.Value)} {wrapper : Wrapper} :
    wrapped? entries = some (wrapper, value) ↔ wrapper.Chosen entries value := by
  simp only [wrapped?, Wrapper.all, Wrapper.key, List.findSome?_cons, List.findSome?_nil]
  constructor
  · intro h
    cases hfilter : Yaml.Value.lookup "filter" entries with
    | some body =>
      rw [hfilter] at h
      cases h
      exact .filter hfilter
    | none =>
      cases hpercentage : Yaml.Value.lookup "percentage" entries with
      | some body =>
        rw [hfilter, hpercentage] at h
        cases h
        exact .percentage hfilter hpercentage
      | none =>
        rw [hfilter, hpercentage] at h
        cases h
  · intro h
    cases h with
    | filter hfilter => simp [hfilter]
    | percentage hfilter hpercentage => simp [hfilter, hpercentage]

/-- A wrapper renders as its keyword. -/
theorem word_iff {wrapper : Wrapper} {word : String} :
    wrapper.Word word ↔ word = wrapper.keyword := by
  constructor
  · rintro (_ | _) <;> rfl
  · rintro rfl
    cases wrapper with
    | filter => exact .filter
    | percentage => exact .percentage

/-- An element of a list renders exactly as the component that it is read as. -/
theorem renders_iff :
    Renders filters value nrql ↔
      ∃ component, ofValue output filters value = .ok component ∧ component.text = nrql := by
  cases value with
  | text written =>
    constructor
    · rintro ⟨⟩
      exact ⟨_, rfl, rfl⟩
    · rintro ⟨_, ⟨⟩, rfl⟩
      exact .text
  | mapping entries =>
    constructor
    · intro h
      cases h with
      | mapping hchosen hword hbody hfunction hcondition hmeans hlabel =>
        refine ⟨_, ofValue_mapping_eq_ok_iff.2 ⟨_, _, wrapped?_eq_some_iff.2 hchosen,
          ofGroup_eq_ok_iff.2 ⟨_, _, _, _, Body.ofValue_eq_ok_iff.2 hbody, hfunction, hcondition,
            conditionOf_eq_ok_iff.2 hmeans, rfl⟩⟩, ?_⟩
        rw [labels_iff.1 hlabel, word_iff.1 hword]
        rfl
    · rintro ⟨component, hread, rfl⟩
      obtain ⟨wrapper, value, hwrapped, hgroup⟩ := ofValue_mapping_eq_ok_iff.1 hread
      obtain ⟨body, function, written, condition, hbody, hfunction, hwritten, hcondition, rfl⟩ :=
        ofGroup_eq_ok_iff.1 hgroup
      exact .mapping (wrapped?_eq_some_iff.1 hwrapped) (word_iff.2 rfl)
        (Body.ofValue_eq_ok_iff.1 hbody) hfunction hwritten (conditionOf_eq_ok_iff.1 hcondition)
        (labels_iff.2 rfl)
  | _ =>
    constructor
    · rintro ⟨⟩
    · rintro ⟨_, ⟨⟩, -⟩

end Component

/-! ## Output selections -/

/-- A component on its own is read as the list that has it as its only element. -/
theorem ofValue_mapping (entries : List (Yaml.Value × Yaml.Value)) :
    ofValue output filters (.mapping entries) =
      ofValue output filters (.sequence [.mapping entries]) := by
  rw [ofValue, ofValue, components_sequence (List.cons_ne_nil _ _), List.mapM_cons, List.mapM_nil]
  rfl

/-- A list renders exactly as it is read. -/
theorem renders_sequence_iff {items : List Yaml.Value} :
    Renders filters (.sequence items) nrql ↔
      ofValue output filters (.sequence items) = .ok ⟨output, nrql⟩ := by
  have htexts : ∀ texts, List.Forall₂ (Component.Renders filters) items texts ↔
      ∃ read, List.Forall₂
          (fun item component => Component.ofValue output filters item = .ok component)
          items read ∧
        read.map Component.text = texts := by
    intro texts
    rw [← forall₂_exists_and_eq_iff]
    simp only [← Component.renders_iff]
  simp only [ofValue_eq_ok_iff, components_sequence_eq_ok_iff, mk.injEq, true_and]
  constructor
  · rintro (_ | ⟨hitems, hrenders⟩)
    obtain ⟨read, hread, rfl⟩ := (htexts _).1 hrenders
    exact ⟨read, ⟨hitems, hread⟩, rfl⟩
  · rintro ⟨read, ⟨hitems, hread⟩, rfl⟩
    exact .list hitems ((htexts _).2 ⟨read, hread, rfl⟩)

/-- An output selection renders exactly as it is read. -/
theorem renders_iff :
    Renders filters value nrql ↔ ofValue output filters value = .ok ⟨output, nrql⟩ := by
  cases value with
  | text written =>
    constructor
    · rintro ⟨⟩
      exact ofValue_eq_ok_iff.2 ⟨_, rfl, by simp [clause, Component.text]⟩
    · intro h
      obtain ⟨_, ⟨⟩, hselection⟩ := ofValue_eq_ok_iff.1 h
      have hclause : nrql = "SELECT " ++ written := by
        simpa [clause, Component.text] using congrArg OutputSelection.nrql hselection
      rw [hclause]
      exact .text
  | sequence items => exact renders_sequence_iff
  | mapping entries =>
    rw [ofValue_mapping, ← renders_sequence_iff]
    constructor
    · intro h
      cases h with
      | mapping h => exact h
    · exact .mapping
  | _ =>
    constructor
    · rintro ⟨⟩
    · rintro ⟨⟩

/-- A value is read exactly as an output selection with the clause that it renders as. -/
theorem ofValue_eq_ok_iff_renders {selection : OutputSelection} :
    ofValue output filters value = .ok selection ↔
      selection.name = output ∧ Renders filters value selection.nrql := by
  constructor
  · intro h
    obtain ⟨read, -, rfl⟩ := ofValue_eq_ok_iff.1 h
    exact ⟨rfl, renders_iff.2 h⟩
  · rintro ⟨rfl, h⟩
    exact renders_iff.1 h

/-! ## Faults -/

/-- An error of an output selection is a fault of it. -/
def Faulty (name : String) (e : Error) : Prop :=
  ∃ fault, e = .output fault ∧ fault.output = name

/-- A fault of an output selection is one of its errors. -/
theorem failsWith_fault {α : Type} {name : String} (fault : OutputFault) (h : fault.output = name) :
    FailsWith (Faulty name) (.error (.output fault) : Except Error α) :=
  .error ⟨fault, rfl, h⟩

/-- Errors of a structured component are faults of its output selection. -/
theorem Component.failsWith_ofGroup (name : String) (filters : FilterTable) (wrapper : Wrapper)
    (value : Yaml.Value) : FailsWith (Faulty name) (ofGroup name filters wrapper value) := by
  have hrequired : ∀ field text, FailsWith (Faulty name) (required name wrapper field text) := by
    intro field text
    cases text with
    | some text => exact .ok text
    | none => exact failsWith_fault _ rfl
  have hcondition : ∀ condition, FailsWith (Faulty name) (conditionOf name filters condition) := by
    intro condition
    rw [conditionOf]
    split
    · exact .ok _
    · split
      · exact .ok _
      · exact failsWith_fault _ rfl
  rw [ofGroup]
  split
  · exact failsWith_fault _ rfl
  · exact .bind (hrequired _ _) fun function _ => .bind (hrequired _ _) fun written _ =>
      .bind (hcondition _) fun condition _ => .ok _

/-- Errors of a component are faults of its output selection. -/
theorem Component.failsWith_ofValue (name : String) (filters : FilterTable) (value : Yaml.Value) :
    FailsWith (Faulty name) (ofValue name filters value) := by
  cases value with
  | text nrql => exact .ok _
  | mapping entries =>
    rw [ofValue]
    split
    · exact failsWith_ofGroup _ _ _ _
    · exact failsWith_fault _ rfl
  | _ => exact failsWith_fault _ rfl

/-- Errors of an output selection are faults of it. -/
theorem failsWith_ofValue (name : String) (filters : FilterTable) (value : Yaml.Value) :
    FailsWith (Faulty name) (ofValue name filters value) := by
  refine .bind ?_ fun read _ => .ok _
  cases value with
  | text nrql => exact .ok _
  | mapping entries => exact .bind (Component.failsWith_ofValue _ _ _) fun component _ => .ok _
  | sequence items =>
    cases items with
    | nil => exact failsWith_fault _ rfl
    | cons item rest => exact .mapM fun value _ => Component.failsWith_ofValue name filters value
  | _ => exact failsWith_fault _ rfl

/-- What compiling output selections gives: the clause of each if all of them follow the grammar, or
else a fault of the first one that does not. A component on its own is one in a list. -/
theorem compile_follows_grammar (configs : Table Yaml.Value) (filters : FilterTable) :
    (∀ outputs, (compile configs filters).result = .ok outputs ↔
      List.Forall₂ (fun entry output => output.1 = entry.1 ∧ output.2.name = entry.1 ∧
          Renders filters entry.2 output.2.nrql)
        configs.entries outputs.entries) ∧
    (∀ e, (compile configs filters).result = .error e →
      ∃ before name value after, configs.entries = before ++ (name, value) :: after ∧
        (∀ entry ∈ before, ∃ nrql, Renders filters entry.2 nrql) ∧
        (∀ nrql, ¬ Renders filters value nrql) ∧
        ∃ fault, e = .output fault ∧ fault.output = name) ∧
    ∀ name entries, ofValue name filters (.mapping entries) =
      ofValue name filters (.sequence [.mapping entries]) := by
  refine ⟨fun outputs => ?_, fun e herror => ?_, fun name entries => ofValue_mapping entries⟩
  · rw [Table.section_eq_ok_iff (compile_entries configs filters), readEntries_eq_ok_iff]
    simp only [ofValue_eq_ok_iff_renders]
  · obtain ⟨name, before, value, after, hentries, hbefore, hread⟩ :=
      (Table.section_eq_error_iff (compile_entries configs filters)).1 herror
    refine ⟨before, name, value, after, hentries, ?_, ?_, failsWith_ofValue _ _ _ e hread⟩
    · intro entry hentry
      obtain ⟨selection, hselection⟩ := hbefore entry hentry
      exact ⟨_, (ofValue_eq_ok_iff_renders.1 hselection).2⟩
    · intro nrql hrenders
      cases hread.symm.trans (renders_iff.1 hrenders)

/-- A filter with a text and one without. -/
def shareFilters : FilterTable := Table.ofList [
  ("paid", ⟨"paid", "Transaction", some "amount > 0"⟩),
  ("all", ⟨"all", "Transaction", none⟩)]

/-- A list with a text and a component whose condition is the name of a filter. -/
def share : Yaml.Value :=
  .sequence [
    .text "count(*)",
    .mapping [(.text "percentage", .mapping [
      (.text "label", .text " paid "),
      (.text "function", .text "count(*)"),
      (.text "condition", .text "paid")])]]

/-- A component on its own whose condition is no name. -/
def errorSum : Yaml.Value :=
  .mapping [(.text "filter", .mapping [
    (.text "function", .text "sum(n)"),
    (.text "condition", .text "error")])]

/-- A component whose condition is a filter without a text. -/
def everything : Yaml.Value :=
  .mapping [(.text "filter", .mapping [
    (.text "function", .text "count(*)"),
    (.text "condition", .text "all")])]

/-- The clauses of two output selections, and the error of one whose condition means nothing. -/
theorem compile_follows_grammar_share :
    Renders shareFilters share
      "SELECT count(*), PERCENTAGE(count(*), WHERE amount > 0) AS \x60paid\x60" ∧
    Renders shareFilters errorSum "SELECT FILTER(sum(n), WHERE error)" ∧
    (∀ nrql, ¬ Renders shareFilters everything nrql) ∧
    ∃ e, (compile (Table.ofList [("everything", everything)]) shareFilters).result = .error e ∧
      e.message = "invalid output selection: filter all matches every row and cannot be used " ++
        "as a condition in output selection everything" := by
  obtain ⟨hok, -, -⟩ := compile_follows_grammar
    (Table.ofList [("share", share), ("errors", errorSum)]) shareFilters
  have hrenders := (hok (Table.ofList [
    ("share", ⟨"share",
      "SELECT count(*), PERCENTAGE(count(*), WHERE amount > 0) AS \x60paid\x60"⟩),
    ("errors", ⟨"errors", "SELECT FILTER(sum(n), WHERE error)"⟩)])).1 rfl
  obtain ⟨-, herror, -⟩ := compile_follows_grammar (Table.ofList [("everything", everything)])
    shareFilters
  obtain ⟨before, name, value, after, hentries, -, hnone, -⟩ := herror _ rfl
  obtain ⟨rfl, rfl, rfl⟩ : before = [] ∧ value = everything ∧ after = [] := by
    cases before with
    | nil =>
      cases hentries
      exact ⟨rfl, rfl, rfl⟩
    | cons entry before =>
      cases before <;> cases hentries
  cases hrenders with
  | cons hshare hrest =>
    cases hrest with
    | cons hsum hnil => exact ⟨hshare.2.2, hsum.2.2, hnone, _, rfl, rfl⟩

end Dashboards.OutputSelection
