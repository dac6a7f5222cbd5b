import Dashboards.Config.Basic
import Dashboards.Yaml.Reading

/-!
# Reading configurations

A configuration is read from the tree of a document, record by record. A record refuses fields that
it does not know and fields that are repeated; some fields have two spellings; an absent field and a
null one are alike. A reference to a query is buffered as a raw value first: if that is a text it is
a name, and else it has to be a query, whose fields are then typed values and not the texts that the
scalars show.
-/

namespace Dashboards

open Yaml (Decoder RecordField Reading Value)

namespace Config

/-- A field that holds a text or is absent. -/
def textField {ρ : Type} (name : String) (put : ρ → Option String → ρ) : RecordField ρ :=
  RecordField.plain name (Decoder.optional Decoder.text) put

/-- The fields of a filter. -/
def Filter.fields : List (RecordField Filter) :=
  let operands := Decoder.optional (Decoder.sequence (Yaml.rawValue .document))
  [textField "event" fun filter event => { filter with event },
    textField "nrql" fun filter nrql => { filter with nrql },
    RecordField.plain "and" operands fun filter and => { filter with and },
    RecordField.plain "or" operands fun filter or => { filter with or }]

/-- Reads a filter. -/
def Filter.decode : Decoder Filter :=
  Decoder.record "struct FilterConfig" Filter.fields {}

/-- The fields of a display. -/
def Display.fields : List (RecordField Display) :=
  [textField "nrql" fun display nrql => { display with nrql },
    textField "visualization" fun display visualization => { display with visualization }]

/-- Reads a display. -/
def Display.decode : Decoder Display :=
  Decoder.record "struct DisplayConfig" Display.fields {}

/-- A field of a query, which is always a text: its spellings and how it is put into the query. -/
structure Query.TextField where
  name : String
  spellings : List String
  put : Query → Option String → Query

/-- The fields of a query. -/
def Query.textFields : List Query.TextField :=
  [⟨"title", ["title"], fun query title => { query with title }⟩,
    ⟨"notes", ["notes"], fun query notes => { query with notes }⟩,
    ⟨"nrql", ["nrql"], fun query nrql => { query with nrql }⟩,
    ⟨"visualization", ["visualization"], fun query visualization => { query with visualization }⟩,
    ⟨"event", ["event"], fun query event => { query with event }⟩,
    ⟨"filter", ["condition", "filter"], fun query filter => { query with filter }⟩,
    ⟨"output", ["output"], fun query output => { query with output }⟩,
    ⟨"display", ["display"], fun query display => { query with display }⟩]

/-- Reads a query. -/
def Query.decode : Decoder Query :=
  Decoder.record "struct QueryConfig"
    (Query.textFields.map fun field => (textField field.name field.put).spelled field.spellings) {}

/-! ## References to queries -/

/-- The field of a query that a buffered key means: a text is a spelling, and a number the position
of a field. -/
def Query.fieldOf? : Value → Option Query.TextField
  | .text spelling => Query.textFields.find? fun field => field.spellings.contains spelling
  | .int (.ofNat position) => Query.textFields[position]?
  | _ => none

/-- A buffered text that may be absent. -/
def optionalText? : Value → Option (Option String)
  | .null => some none
  | .text text => some (some text)
  | _ => none

/-- The query that buffered entries make, given the names of the fields before them. -/
def Query.ofEntries? : List (Value × Value) → (seen : List String) → Query → Option Query
  | [], _, query => some query
  | (key, value) :: rest, seen, query => do
    let field ← Query.fieldOf? key
    guard (!seen.contains field.name)
    let text ← optionalText? value
    Query.ofEntries? rest (field.name :: seen) (field.put query text)

/-- The query that buffered elements make, one for each of the first fields. -/
def Query.ofItems? : List Value → List Query.TextField → Query → Option Query
  | [], _, query => some query
  | _ :: _, [], _ => none
  | item :: items, field :: fields, query => do
    let text ← optionalText? item
    Query.ofItems? items fields (field.put query text)

/-- The query that a buffered value is. -/
def Query.ofValue? : Value → Option Query
  | .mapping entries => Query.ofEntries? entries [] {}
  | .sequence items => Query.ofItems? items Query.textFields {}
  | _ => none

/-- The reference that a buffered value is. -/
def QueryReference.ofValue? : Value → Option QueryReference
  | .text name => some (.named name)
  | value => (Query.ofValue? value).map .inline

/-- Reads a reference to a query. -/
def QueryReference.decode : Decoder QueryReference := fun depth path node => do
  let value ← Yaml.rawValue .buffer depth path node
  match QueryReference.ofValue? value with
  | some reference => return reference
  | none => Reading.mismatch .noReference

/-! ## Widgets, dashboards and documents -/

/-- The fields of a widget. -/
def Widget.fields : List (RecordField Widget) :=
  [RecordField.plain "query" (Decoder.optional QueryReference.decode) fun widget query =>
      { widget with query },
    textField "title" fun widget title => { widget with title },
    textField "notes" fun widget notes => { widget with notes }]

/-- Reads a widget. -/
def Widget.decode : Decoder Widget :=
  Decoder.record "struct WidgetConfig" Widget.fields {}

/-- A field that holds a number or is absent. -/
def numberField (name : String) (put : Placement → Option Nat → Placement) :
    RecordField Placement :=
  RecordField.plain name (Decoder.optional Decoder.unsigned32) put

/-- The fields of a placement. -/
def Placement.fields : List (RecordField Placement) :=
  [RecordField.plain "query" (Decoder.optional QueryReference.decode) fun placement query =>
      { placement with query },
    textField "widget" fun placement widget => { placement with widget },
    numberField "row" fun placement row => { placement with row },
    numberField "column" fun placement column => { placement with column },
    numberField "width" fun placement width => { placement with width },
    numberField "height" fun placement height => { placement with height }]

/-- Reads a placement. -/
def Placement.decode : Decoder Placement :=
  Decoder.record "struct PlacementConfig" Placement.fields {}

/-- The fields of a dashboard. -/
def Dashboard.fields : List (RecordField Dashboard) :=
  [textField "title" fun dashboard title => { dashboard with title },
    RecordField.plain "widgets" (Decoder.orDefault (Decoder.sequence Placement.decode))
      fun dashboard widgets => { dashboard with widgets }]

/-- Reads a dashboard. -/
def Dashboard.decode : Decoder Dashboard :=
  Decoder.record "struct DashboardConfig" Dashboard.fields {}

/-- A field that holds a section of a configuration; a null one is empty. -/
def sectionField {α : Type} (name : String) (decode : Decoder α)
    (put : Config → Table α → Config) : RecordField Config :=
  RecordField.plain name (Decoder.orDefault (Decoder.table decode)) put

/-- The sections of a configuration. -/
def fields : List (RecordField Config) :=
  [(sectionField "filters" Filter.decode fun config filters => { config with filters }).spelled
      ["conditions", "filters"],
    (sectionField "output-selections" (Yaml.rawValue .document) fun config outputs =>
      { config with outputs }).spelled ["output-selections", "output_selections"],
    sectionField "displays" Display.decode fun config displays => { config with displays },
    sectionField "queries" Query.decode fun config queries => { config with queries },
    sectionField "widgets" Widget.decode fun config widgets => { config with widgets },
    sectionField "dashboards" Dashboard.decode fun config dashboards => { config with dashboards }]

/-- Reads a configuration. -/
def decode : Decoder Config :=
  Decoder.record "struct DocumentConfig" fields {}

/-- The configuration that a document declares. An empty document or a null one declares nothing. -/
def ofDocument (document : Yaml.Document) : Except Yaml.Error Config :=
  document.read (Decoder.orDefault decode) (.ok {})

/-- The configuration that a text declares. -/
def ofText (text : String) : Except Yaml.Error Config :=
  ofDocument (Yaml.Document.ofText text)

end Config

end Dashboards
