import Dashboards.Config.Read
import Dashboards.Proofs.Table
import Dashboards.Proofs.Yaml.Records

/-!
# Sections of a configuration

Each section of a configuration is read from the pairs of one mapping, one record for each pair, and
the records go into the table of the section one after the other. A name that is repeated in a
section keeps its first place and gets its last record, and the records before are lost: a table has
an entry for each pair exactly if no name is repeated (`sections_of_ofDocument`).
-/

namespace Dashboards.Config

open Yaml (Decoder Fills Node RecordField Surroundings)

variable {α β : Type} {document : Yaml.Document} {around : Surroundings}

/-- The pairs of the root; none if there is no root, or a null one. -/
def rootPairs (document : Yaml.Document) : List (Node × Node) :=
  (document.root.map document.surroundings.pairs).getD []

/-- The pairs of the section whose name is spelled in one of some ways; none if the section is
absent or null. -/
def sectionPairs (document : Yaml.Document) (spellings : List String) : List (Node × Node) :=
  let around := document.surroundings
  ((around.valueOf? spellings (rootPairs document)).map around.pairs).getD []

/-- A table is what a section declares, which is a record for each pair: the name is what the key
shows, and the value is read as the record. -/
structure Section (decode : Decoder α) (document : Yaml.Document) (spellings : List String)
    (records : List (String × α)) (table : Table α) : Prop where
  /-- Each pair declares the record at its position, and nothing else declares any. -/
  declared : List.Forall₂ (fun pair record =>
    document.surroundings.shown? pair.1 = some record.1 ∧
      decode.Reads document.surroundings pair.2 record.2) (sectionPairs document spellings) records
  /-- A name is where it is first declared. -/
  names : table.names = (records.map Prod.fst).eraseDups
  /-- Of the records under a name, the last one counts. -/
  last : ∀ name, table.get? name = records.reverse.lookup name
  /-- Unless a name is repeated, the table has the declared records in order. -/
  entries : table.entries = records ↔ (records.map Prod.fst).Nodup
  /-- Unless a name is repeated, the table has as many entries as the section has pairs. -/
  size : table.size = (sectionPairs document spellings).length ↔ (records.map Prod.fst).Nodup

/-- The sections are filled from the pairs of the root. -/
theorem fills_of_ofDocument {config : Config} (h : ofDocument document = .ok config) :
    Fills fields document.surroundings (rootPairs document) [] {} config := by
  rcases Yaml.Document.reads_of_read h with ⟨hroot, hempty⟩ | ⟨root, hroot, hread⟩
  · cases hempty
    rw [rootPairs, hroot]
    exact .nil
  · have hdirect := document.direct_surroundings
    rw [rootPairs, hroot, Option.map_some, Option.getD_some]
    rcases Decoder.reads_orDefault hread with ⟨rfl, hpairs⟩ | hread
    · rw [hpairs]
      exact .nil
    · rw [← hdirect.pairs_origin]
      exact Decoder.fills_of_record hdirect hread

/-- A section keeps the others. -/
theorem keeps_sectionField {name : String} {spellings : List String} {decode : Decoder α}
    {put : Config → Table α → Config} {get : Config → Table β}
    (hput : ∀ config table, get (put config table) = get config) :
    ((sectionField name decode put).spelled spellings).Keeps get around := by
  intro config value next hread
  obtain ⟨table, -, rfl⟩ := RecordField.reads_plain name hread
  exact hput config table

/-- A section that no other field writes is what its pairs declare. -/
theorem exists_section (name : String) (spellings : List String) (decode : Decoder α)
    (get : Config → Table α) (put : Config → Table α → Config) {config : Config}
    (h : ofDocument document = .ok config) (hempty : get {} = Table.empty)
    (hput : ∀ config table, get (put config table) = table)
    (hothers : ∀ other ∈ fields, other = (sectionField name decode put).spelled spellings ∨
      other.Keeps get document.surroundings)
    (hspell : ∀ spelling ∈ spellings,
      RecordField.find? fields spelling = some ((sectionField name decode put).spelled spellings)) :
    ∃ records, Section decode document spellings records (get config) := by
  have hdirect := document.direct_surroundings
  obtain ⟨records, hdeclared, htable⟩ : ∃ records : List (String × α),
      List.Forall₂ (fun pair record => document.surroundings.shown? pair.1 = some record.1 ∧
        decode.Reads document.surroundings pair.2 record.2) (sectionPairs document spellings)
        records ∧
      get config = Table.ofList records := by
    have hget := (fills_of_ofDocument h).get_of_valueOf? hothers hspell
    rw [sectionPairs]
    cases hvalue : document.surroundings.valueOf? spellings (rootPairs document) with
    | none =>
      simp only [RecordField.spelled, hvalue] at hget
      exact ⟨[], .nil, hget.trans hempty⟩
    | some value =>
      simp only [RecordField.spelled, hvalue] at hget
      obtain ⟨before, next, hread, hnext⟩ := hget
      obtain ⟨table, htable, rfl⟩ := RecordField.reads_plain name hread
      rw [hput] at hnext
      simp only [Option.map_some, Option.getD_some]
      rcases Decoder.reads_orDefault htable with ⟨rfl, hpairs⟩ | htable
      · rw [hpairs]
        exact ⟨[], .nil, hnext⟩
      · obtain ⟨records, hrecords, rfl⟩ := Decoder.records_of_table htable
        rw [hdirect.pairs_origin] at hrecords
        exact ⟨records, hrecords.imp fun pair record hpair =>
          ⟨Decoder.shown_of_ownText hpair.1, hpair.2⟩, hnext⟩
  refine ⟨records, hdeclared, ?_, ?_, ?_, ?_⟩
  · rw [htable, Table.names_ofList]
  · intro name
    rw [htable, Table.get?_ofList]
  · rw [htable, Table.entries_ofList_iff]
  · rw [htable, hdeclared.length_eq, Table.size_ofList_iff]

/-- The tables of a configuration are what the sections of a document declare. -/
structure Sections (document : Yaml.Document) (config : Config) : Prop where
  filters : ∃ records,
    Section Filter.decode document ["conditions", "filters"] records config.filters
  outputs : ∃ records, Section (Yaml.rawValue .document) document
    ["output-selections", "output_selections"] records config.outputs
  displays : ∃ records, Section Display.decode document ["displays"] records config.displays
  queries : ∃ records, Section Query.decode document ["queries"] records config.queries
  widgets : ∃ records, Section Widget.decode document ["widgets"] records config.widgets
  dashboards : ∃ records, Section Dashboard.decode document ["dashboards"] records config.dashboards

/-- Each table of a configuration is what the pairs of its section declare, each record read from
its own pair, and it has an entry for each pair exactly if no name is repeated. -/
theorem sections_of_ofDocument {config : Config} (h : ofDocument document = .ok config) :
    Sections document config := by
  refine ⟨exists_section "filters" _ _ Config.filters
      (fun config filters => { config with filters }) h rfl
      (fun _ _ => rfl) ?_ (List.forall_mem_cons.2 ⟨rfl, List.forall_mem_singleton.2 rfl⟩),
    exists_section "output-selections" _ _ Config.outputs
      (fun config outputs => { config with outputs }) h rfl
      (fun _ _ => rfl) ?_ (List.forall_mem_cons.2 ⟨rfl, List.forall_mem_singleton.2 rfl⟩),
    exists_section "displays" _ _ Config.displays
      (fun config displays => { config with displays }) h rfl
      (fun _ _ => rfl) ?_ (List.forall_mem_singleton.2 rfl),
    exists_section "queries" _ _ Config.queries
      (fun config queries => { config with queries }) h rfl
      (fun _ _ => rfl) ?_ (List.forall_mem_singleton.2 rfl),
    exists_section "widgets" _ _ Config.widgets
      (fun config widgets => { config with widgets }) h rfl
      (fun _ _ => rfl) ?_ (List.forall_mem_singleton.2 rfl),
    exists_section "dashboards" _ _ Config.dashboards
      (fun config dashboards => { config with dashboards }) h rfl
      (fun _ _ => rfl) ?_ (List.forall_mem_singleton.2 rfl)⟩
  all_goals
    intro other hother
    simp only [fields, List.mem_cons, List.not_mem_nil, or_false] at hother
    rcases hother with rfl | rfl | rfl | rfl | rfl | rfl
  -- One of the six fields is the section itself, and the others keep it.
  all_goals first
    | exact .inl rfl
    | exact .inr (keeps_sectionField fun _ _ => rfl)

/-- A text with three sections, one of them under its other spelling and one of them null. -/
def threeSections : String :=
  "conditions:\n  shop:\n    event: Buy\nqueries: ~\ndisplays:\n  first:\n  second:\n"

/-- The tables of a text with three sections are what these declare. -/
theorem sections_of_threeSections :
    ∃ config, ofText threeSections = .ok config ∧
      Sections (Yaml.Document.ofText threeSections) config ∧
      config.filters.names = ["shop"] ∧ config.queries.size = 0 ∧
      config.displays.entries = [("first", {}), ("second", {})] := by
  obtain ⟨config, hconfig, htables⟩ : ∃ config, ofText threeSections = .ok config ∧
      (config.filters.names, config.queries.size, config.displays.entries) =
        (["shop"], 0, [("first", {}), ("second", {})]) :=
    exists_ok_of_toOption_map (by decide +kernel)
  simp only [Prod.mk.injEq] at htables
  exact ⟨config, hconfig, sections_of_ofDocument hconfig, htables⟩

/-- A text with two displays of one name. -/
def repeatedDisplay : String :=
  "displays:\n  trend:\n    visualization: list\n  trend:\n    visualization: funnel\n"

/-- Not every declared entry is kept: of two displays with one name, the first is lost. -/
theorem repeated_display_is_lost :
    ∃ config, ofText repeatedDisplay = .ok config ∧
      (sectionPairs (Yaml.Document.ofText repeatedDisplay) ["displays"]).length = 2 ∧
      config.displays.entries = [("trend", { visualization := some "funnel" })] := by
  obtain ⟨config, hconfig, hdisplays⟩ : ∃ config, ofText repeatedDisplay = .ok config ∧
      config.displays.entries = [("trend", { visualization := some "funnel" })] :=
    exists_ok_of_toOption_map (by decide +kernel)
  exact ⟨config, hconfig, by decide +kernel, hdisplays⟩

end Dashboards.Config
