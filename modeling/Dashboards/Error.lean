import Dashboards.Json.Fault
import Dashboards.Yaml.Written

/-!
# Errors

Everything that can go wrong between a document and the dashboards it stands for, by cause. An error
of a stage names the entry at fault. `Error.message` has the wording and `Error.kind` the kind, by
which callers tell errors apart.
-/

namespace Dashboards

/-- A fault of a base filter. -/
inductive FilterFault where
  | eventMissing (filter : String)
deriving DecidableEq

/-- The words for a fault of a base filter. -/
def FilterFault.text : FilterFault → String
  | eventMissing filter => s!"field event is required for filter {filter}"

/-- A fault of extending filters. -/
inductive ExtendingFault where
  | definesFields (filter : String)
  | notOneOperator (filter : String)
  | operand (filter : String) (value : Yaml.Value)
  | extendsNothing (filter : String)
  | unresolvedReference (filter target : String)
  | unresolvable (filters : List String)

/-- The words for a fault of extending filters. -/
def ExtendingFault.text : ExtendingFault → String
  | definesFields filter =>
    s!"filter {filter} cannot define event or nrql while extending other filters"
  | notOneOperator filter => s!"filter {filter} must use exactly one of the and/or operators"
  | operand filter value => s!"invalid operand for filter {filter}: {value.written}"
  | extendsNothing filter => s!"filter {filter} does not extend any other filters"
  | unresolvedReference filter target => s!"filter {filter} references unresolved filter {target}"
  | unresolvable filters =>
    "filters reference missing or cyclic filters and cannot be resolved: " ++
      String.intercalate ", " filters

/-- What a raw value is, in words. -/
def Yaml.Value.describe : Yaml.Value → String
  | .null => "null"
  | .bool _ => "a boolean"
  | .int _ | .float _ => "a number"
  | .text _ => "a string"
  | .sequence _ => "a list"
  | .mapping _ => "a mapping"
  | .tagged .. => "a tagged value"

/-- A fault of an output selection. -/
inductive OutputFault where
  | emptyList (output : String)
  | shape (output : String) (value : Yaml.Value)
  | componentShape (output : String) (value : Yaml.Value)
  | keyMissing (output : String)
  | body (keyword output : String) (reason : Yaml.Mismatch)
  | fieldMissing (field keyword output : String)
  | matchesAll (condition output : String)

/-- The words for a fault of an output selection. -/
def OutputFault.text : OutputFault → String
  | emptyList output => s!"output selection {output} is an empty list"
  | shape output value =>
    s!"output selection {output} must be a string, list or mapping, got {value.describe}"
  | componentShape output value =>
    s!"component of output selection {output} must be a string or mapping, got {value.describe}"
  | keyMissing output =>
    s!"component of output selection {output} must contain a filter or percentage key"
  | body keyword output reason =>
    s!"invalid {keyword} component in output selection {output}: {reason.text}"
  | fieldMissing field keyword output =>
    s!"field {field} is required for {keyword} component in output selection {output}"
  | matchesAll condition output =>
    s!"filter {condition} matches every row and cannot be used as a condition in output " ++
      s!"selection {output}"

/-- A fault of a query. -/
inductive QueryFault where
  | fieldMissing (field query : String)
  | notInline (field query : String)
  | eventOrFilterMissing (query : String)
  | visualizationNotInline (query : String)
  | unknownComponent (field value query : String)
  | eventConflict (event query filterEvent filter : String)
deriving DecidableEq

/-- The words for a fault of a query. -/
def QueryFault.text : QueryFault → String
  | fieldMissing field query => s!"field {field} is required for query {query}"
  | notInline field query =>
    s!"field {field} cannot be combined with inline nrql in query {query}"
  | eventOrFilterMissing query => s!"field event or filter is required for query {query}"
  | visualizationNotInline query =>
    "field visualization is only valid for inline queries; set it on the display used by query " ++
      query
  | unknownComponent field value query => s!"invalid {field}, {value}, specified for query {query}"
  | eventConflict event query filterEvent filter =>
    s!"event {event} of query {query} conflicts with event {filterEvent} of filter {filter}"

/-- A fault of a widget. -/
inductive WidgetFault where
  | queryMissing (widget : String)
  | unknownQuery (query widget : String)
  | placementField (field dashboard : String)
  | queryAndWidget (dashboard : String)
  | unknownWidget (widget dashboard : String)
  | unknownPlacedQuery (query dashboard : String)
deriving DecidableEq

/-- The words for a fault of a widget. -/
def WidgetFault.text : WidgetFault → String
  | queryMissing widget => s!"field query is required for widget {widget}"
  | unknownQuery query widget => s!"invalid query name, {query}, specified for widget {widget}"
  | placementField field dashboard =>
    s!"field {field} is required for widget on dashboard {dashboard}"
  | queryAndWidget dashboard =>
    s!"widget on dashboard {dashboard} cannot specify both query and widget"
  | unknownWidget widget dashboard =>
    s!"invalid widget name, {widget}, specified on dashboard {dashboard}"
  | unknownPlacedQuery query dashboard =>
    s!"invalid query name, {query}, specified for widget on dashboard {dashboard}"

/-- A fault of a dashboard. -/
inductive DashboardFault where
  | titleMissing (dashboard : String)
deriving DecidableEq

/-- The words for a fault of a dashboard. -/
def DashboardFault.text : DashboardFault → String
  | titleMissing dashboard => s!"field title is required for dashboard {dashboard}"

/-- A fault of a visualization. -/
inductive VisualizationFault where
  | missing (display : String)
  | unknown (text : String)
deriving DecidableEq

/-- The words for a fault of a visualization. -/
def VisualizationFault.text : VisualizationFault → String
  | missing display => s!"field visualization is required for display {display}"
  | unknown text => s!"unknown visualization '{text}'"

/-- A fault of the interface or of what it answers. -/
inductive ApiFault where
  | lookupStatus (title : String) (status : Nat) (body : String)
  | listing (title : String) (fault : Json.Fault)
  | ambiguousTitle (title : String)
  | submitStatus (action dashboard : String) (status : Nat) (body : String)
  /-- A request that cannot be put together. -/
  | unsendable
  /-- A request that cannot be sent to an address. -/
  | unsendableTo (url : String)
  /-- Nobody answers at an address. -/
  | unreachable (url : String)
deriving DecidableEq

/-- The words for a fault of the interface. -/
def ApiFault.text : ApiFault → String
  | lookupStatus title status body =>
    s!"failed looking up dashboard {title} with status {status}: {body}"
  | listing title fault => s!"failed to decode dashboard listing for {title}: {fault.message}"
  | ambiguousTitle title => s!"multiple dashboards found with title '{title}'"
  | submitStatus action dashboard status body =>
    s!"failed {action} dashboard {dashboard} with status {status}: {body}"
  | unsendable => "builder error"
  | unsendableTo url => s!"builder error for url ({url})"
  | unreachable url => s!"error sending request for url ({url})"

/-- The kinds of errors that are a message under a heading. -/
inductive Error.Heading where
  | filter | extendingFilter | output | query | widget | dashboard | visualization | api
deriving DecidableEq

/-- The words of a heading. -/
def Error.Heading.text : Error.Heading → String
  | filter => "invalid filter: "
  | extendingFilter => "invalid extending filter: "
  | output => "invalid output selection: "
  | query => "invalid query configuration: "
  | widget => "invalid widget configuration: "
  | dashboard => "invalid dashboard configuration: "
  | visualization => "invalid visualization: "
  | api => "New Relic API error: "

/-- An error, by its cause. -/
inductive Error where
  /-- A file that cannot be read, for a reason that the system gives. -/
  | file (path reason : String)
  /-- A document that is not a configuration. -/
  | parse (cause : Yaml.Error)
  /-- A text that is no JSON. -/
  | serialize (cause : Json.Fault)
  | filter (fault : FilterFault)
  | extendingFilter (fault : ExtendingFault)
  | output (fault : OutputFault)
  | query (fault : QueryFault)
  | widget (fault : WidgetFault)
  | dashboard (fault : DashboardFault)
  | visualization (fault : VisualizationFault)
  | api (fault : ApiFault)
  /-- So many of so many documents are not valid. -/
  | lint (failed total : Nat)
  /-- An error that a caller states in words of its own. -/
  | stated (heading : Error.Heading) (text : String)

namespace Error

/-- The kinds of errors. -/
inductive Kind where
  | file | parse | serialize | lint
  | headed (heading : Heading)
deriving DecidableEq

/-- The kind of an error. -/
def kind : Error → Kind
  | file .. => .file
  | parse _ => .parse
  | serialize _ => .serialize
  | filter _ => .headed .filter
  | extendingFilter _ => .headed .extendingFilter
  | output _ => .headed .output
  | query _ => .headed .query
  | widget _ => .headed .widget
  | dashboard _ => .headed .dashboard
  | visualization _ => .headed .visualization
  | api _ => .headed .api
  | lint .. => .lint
  | stated heading _ => .headed heading

/-- The text of an error. -/
def message : Error → String
  | file path reason => s!"failed to read configuration from {Text.quote path}: {reason}"
  | parse cause => s!"failed to parse configuration: {cause.message}"
  | serialize cause => s!"failed to serialize dashboards: {cause.message}"
  | filter fault => Heading.filter.text ++ fault.text
  | extendingFilter fault => Heading.extendingFilter.text ++ fault.text
  | output fault => Heading.output.text ++ fault.text
  | query fault => Heading.query.text ++ fault.text
  | widget fault => Heading.widget.text ++ fault.text
  | dashboard fault => Heading.dashboard.text ++ fault.text
  | visualization fault => Heading.visualization.text ++ fault.text
  | api fault => Heading.api.text ++ fault.text
  | lint failed total => s!"{failed} of {total} configuration files failed validation"
  | stated heading text => heading.text ++ text

end Error

end Dashboards
