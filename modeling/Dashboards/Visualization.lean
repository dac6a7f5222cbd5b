import Dashboards.Text.Blank

/-!
# Visualizations

The ways in which a widget shows its data: a closed list, each with the name that the interface
knows it by. A document may write the name with white space around it and with ASCII letters of
either case (`Visualization.ofText?`); no name fits two visualizations (`name_injective`). In JSON a
visualization is its identifier in small letters, and that is the same name (`jsonName_eq_name`).
-/

namespace Dashboards

/-- A way of showing data. -/
inductive Visualization where
  | billboard | gauge | billboardComparison | facetBarChart | facetedLineChart | facetPieChart
  | facetTable | facetedAreaChart | heatmap | attributeSheet | singleEvent | histogram | funnel
  | rawJson | eventFeed | eventTable | uniquesList | lineChart | comparisonLineChart | markdown
  | metricLineChart | list
deriving DecidableEq, Inhabited

namespace Visualization

/-- All visualizations, in the order of the interface. -/
def all : List Visualization :=
  [billboard, gauge, billboardComparison, facetBarChart, facetedLineChart, facetPieChart,
    facetTable, facetedAreaChart, heatmap, attributeSheet, singleEvent, histogram, funnel, rawJson,
    eventFeed, eventTable, uniquesList, lineChart, comparisonLineChart, markdown, metricLineChart,
    list]

/-- The name of a visualization. -/
def name : Visualization → String
  | billboard => "billboard"
  | gauge => "gauge"
  | billboardComparison => "billboard_comparison"
  | facetBarChart => "facet_bar_chart"
  | facetedLineChart => "faceted_line_chart"
  | facetPieChart => "facet_pie_chart"
  | facetTable => "facet_table"
  | facetedAreaChart => "faceted_area_chart"
  | heatmap => "heatmap"
  | attributeSheet => "attribute_sheet"
  | singleEvent => "single_event"
  | histogram => "histogram"
  | funnel => "funnel"
  | rawJson => "raw_json"
  | eventFeed => "event_feed"
  | eventTable => "event_table"
  | uniquesList => "uniques_list"
  | lineChart => "line_chart"
  | comparisonLineChart => "comparison_line_chart"
  | markdown => "markdown"
  | metricLineChart => "metric_line_chart"
  | list => "list"

/-- Every visualization is listed. -/
theorem mem_all (v : Visualization) : v ∈ all := by
  cases v <;> decide

/-- Two visualizations never have one name. -/
theorem name_injective {v w : Visualization} (h : v.name = w.name) : v = w :=
  have distinct : ∀ v ∈ all, ∀ w ∈ all, v.name = w.name → v = w := by decide +kernel
  distinct v v.mem_all w w.mem_all h

/-- The letter without its case, if it is an ASCII letter. -/
def lowerLetter (c : Char) : Char :=
  if 'A' ≤ c ∧ c ≤ 'Z' then Char.ofNat (c.toNat + 32) else c

/-- A text with its ASCII letters lowered. -/
def lower (text : String) : String :=
  String.ofList (text.toList.map lowerLetter)

/-- Whether two texts are the same but for the case of their ASCII letters. -/
def sameLetters (first second : String) : Bool :=
  lower first == lower second

/-- The visualization that a text names. -/
def ofText? (text : String) : Option Visualization :=
  all.find? fun v => sameLetters v.name (Text.trim text)

/-- The name of a visualization names it. -/
theorem ofText?_name (v : Visualization) : ofText? v.name = some v := by
  have named : ∀ v ∈ all, ofText? v.name = some v := by decide +kernel
  exact named v v.mem_all

/-! ## The name in JSON -/

/-- A visualization as a word of capitalized parts. -/
def identifier : Visualization → String
  | billboard => "Billboard"
  | gauge => "Gauge"
  | billboardComparison => "BillboardComparison"
  | facetBarChart => "FacetBarChart"
  | facetedLineChart => "FacetedLineChart"
  | facetPieChart => "FacetPieChart"
  | facetTable => "FacetTable"
  | facetedAreaChart => "FacetedAreaChart"
  | heatmap => "Heatmap"
  | attributeSheet => "AttributeSheet"
  | singleEvent => "SingleEvent"
  | histogram => "Histogram"
  | funnel => "Funnel"
  | rawJson => "RawJson"
  | eventFeed => "EventFeed"
  | eventTable => "EventTable"
  | uniquesList => "UniquesList"
  | lineChart => "LineChart"
  | comparisonLineChart => "ComparisonLineChart"
  | markdown => "Markdown"
  | metricLineChart => "MetricLineChart"
  | list => "List"

/-- A word of capitalized parts in small letters, with an underscore between the parts. -/
def snakeCase : List Char → List Char
  | [] => []
  | first :: rest =>
    lowerLetter first :: rest.flatMap fun c => if c.isUpper then ['_', lowerLetter c] else [c]

/-- The name of a visualization in JSON. -/
def jsonName (v : Visualization) : String :=
  String.ofList (snakeCase v.identifier.toList)

/-- JSON has the same names. -/
@[simp]
theorem jsonName_eq_name (v : Visualization) : v.jsonName = v.name := by
  have alike : ∀ v ∈ all, v.jsonName = v.name := by decide +kernel
  exact alike v v.mem_all

end Visualization

end Dashboards
