import Dashboards.Proofs.Checks
import Dashboards.Proofs.Document.Views

/-!
# Which queries compile, and what is wrong with the others

A query is written in one of two ways, with an expression of its own or with components, and each
way asks for fields and excludes others (`Query.Written`). A declaration that is written in neither
way is refused with what the first check finds, in the order of its way (`Query.Check.of`,
`Query.Finds`), and the message names the query, the field and what is wrong with it
(`Query.Says`). Together they say what compiling a query gives, for every declaration and all tables
of components (`Query.ofConfig_outcome`).
-/

namespace Dashboards.Query

/-! ## Queries as they are written -/

/-- The condition of a query is the filter that it names, if it names one. -/
inductive ConditionNamed (filters : FilterTable) : Option String → Option Filter → Prop
  | none : ConditionNamed filters none none
  | filter {name : String} {filter : Filter} : filters.get? name = some filter →
      ConditionNamed filters (some name) (some filter)

/-- The event of a query is its own without white space around it, or else that of its condition. If
there are both, they agree. -/
inductive EventGiven : Option String → Option Filter → String → Prop
  | own {text : String} : EventGiven (some text) none (Text.trim text)
  | inherited {filter : Filter} : EventGiven none (some filter) filter.event
  | both {text : String} {filter : Filter} : Text.trim text = filter.event →
      EventGiven (some text) (some filter) (Text.trim text)

/-- What a declaration of a query means under a name: a query with an expression of its own, or one
that is put together from components. -/
inductive Written (name : String) (declared : Config.Query) (components : Components) :
    Query → Prop
  | inline {title nrql text : String} {visualization : Visualization} :
      declared.nrql = some nrql → declared.title = some title →
      declared.visualization = some text → Visualization.ofText? text = some visualization →
      declared.event = none → declared.filter = none → declared.output = none →
      declared.display = none →
      Written name declared components
        ⟨name, title, declared.notes, .inline (Text.trim nrql) visualization⟩
  | components {title outputName displayName event : String} {condition : Option Filter}
      {output : OutputSelection} {display : Display} :
      declared.nrql = none → declared.title = some title → declared.visualization = none →
      declared.output = some outputName → components.outputs.get? outputName = some output →
      declared.display = some displayName → components.displays.get? displayName = some display →
      ConditionNamed components.filters declared.filter condition →
      EventGiven declared.event condition event →
      Written name declared components
        ⟨name, title, declared.notes, .components ⟨event, condition, output, display⟩⟩

/-! ## What declarations are checked for -/

/-- A field of a query that is checked. -/
inductive Field where
  | title | visualization | event | filter | output | display
deriving DecidableEq

namespace Field

/-- The name of a field. -/
def name : Field → String
  | title => "title"
  | visualization => "visualization"
  | event => "event"
  | filter => "filter"
  | output => "output"
  | display => "display"

/-- The text that a declaration gives in a field. -/
def text? (declared : Config.Query) : Field → Option String
  | title => declared.title
  | visualization => declared.visualization
  | event => declared.event
  | filter => declared.filter
  | output => declared.output
  | display => declared.display

/-- The fields that only a query from components has. -/
def ofComponents : List Field := [event, filter, output, display]

end Field

/-- Whether the component that a field names is in its table. A field that names none asks for
none. -/
def Field.isKnown (components : Components) (key : String) : Field → Bool
  | filter => components.filters.contains key
  | output => components.outputs.contains key
  | display => components.displays.contains key
  | title | visualization | event => true

/-- What a declaration of a query is checked for. -/
inductive Check where
  /-- A field is given. -/
  | required (field : Field)
  /-- A field for components is not given. -/
  | excluded (field : Field)
  /-- The visualization is known. -/
  | visualization
  /-- An event or a filter is given. -/
  | eventOrFilter
  /-- The visualization is left to the display. -/
  | noVisualization
  /-- The component that a field names is known. -/
  | known (field : Field)
  /-- The event is that of the filter. -/
  | agreement
deriving DecidableEq

namespace Check

/-- The checks of a query with an expression of its own, in order. -/
def inline : List Check :=
  .required .title :: .required .visualization ::
    (Field.ofComponents.map excluded ++ [.visualization])

/-- The checks of a query that is put together from components, in order. -/
def components : List Check :=
  [.required .title, .eventOrFilter, .required .output, .required .display, .noVisualization,
    .known .filter, .known .output, .known .display, .agreement]

/-- The checks of a query, by the way that it is written in. -/
def of (declared : Config.Query) : List Check :=
  if declared.nrql.isSome then inline else components

end Check

/-- What a check finds wrong with a declaration of a query under a name. -/
inductive Finds (name : String) (declared : Config.Query) (components : Components) :
    Check → Error → Prop
  | required {field : Field} : field.text? declared = none →
      Finds name declared components (.required field) (.query (.fieldMissing field.name name))
  | excluded {field : Field} {text : String} : field.text? declared = some text →
      Finds name declared components (.excluded field) (.query (.notInline field.name name))
  | visualization {text : String} : declared.visualization = some text →
      Visualization.ofText? text = none →
      Finds name declared components .visualization (.visualization (.unknown text))
  | eventOrFilter : declared.event = none → declared.filter = none →
      Finds name declared components .eventOrFilter (.query (.eventOrFilterMissing name))
  | noVisualization {text : String} : declared.visualization = some text →
      Finds name declared components .noVisualization (.query (.visualizationNotInline name))
  | known {field : Field} {key : String} : field.text? declared = some key →
      field.isKnown components key = false →
      Finds name declared components (.known field)
        (.query (.unknownComponent field.name key name))
  | agreement {text key : String} {filter : Filter} : declared.event = some text →
      declared.filter = some key → components.filters.get? key = some filter →
      Text.trim text ≠ filter.event →
      Finds name declared components .agreement
        (.query (.eventConflict (Text.trim text) name filter.event filter.name))

/-- What the message says of a fault that a check finds with a declaration of a query under a
name. -/
inductive Says (name : String) (declared : Config.Query) (components : Components) :
    Check → String → Prop
  | required {field : Field} :
      Says name declared components (.required field) ("invalid query configuration: " ++
        ("field " ++ field.name ++ " is required for query " ++ name))
  | excluded {field : Field} :
      Says name declared components (.excluded field) ("invalid query configuration: " ++
        ("field " ++ field.name ++ " cannot be combined with inline nrql in query " ++ name))
  | visualization {text : String} : declared.visualization = some text →
      Says name declared components .visualization ("invalid visualization: " ++
        ("unknown visualization '" ++ text ++ "'"))
  | eventOrFilter :
      Says name declared components .eventOrFilter ("invalid query configuration: " ++
        ("field event or filter is required for query " ++ name))
  | noVisualization :
      Says name declared components .noVisualization ("invalid query configuration: " ++
        ("field visualization is only valid for inline queries; " ++
          "set it on the display used by query " ++ name))
  | known {field : Field} {key : String} : field.text? declared = some key →
      Says name declared components (.known field) ("invalid query configuration: " ++
        ("invalid " ++ field.name ++ ", " ++ key ++ ", specified for query " ++ name))
  | agreement {text key : String} {filter : Filter} : declared.event = some text →
      declared.filter = some key → components.filters.get? key = some filter →
      Says name declared components .agreement ("invalid query configuration: " ++
        ("event " ++ Text.trim text ++ " of query " ++ name ++ " conflicts with event " ++
          filter.event ++ " of filter " ++ filter.name))

/-! ## Results -/

variable {name : String} {declared : Config.Query} {components : Components} {query : Query}
  {condition : Option Filter} {e : Error}

/-- The condition of a query is the filter that it names. -/
theorem condition_eq_ok_iff {filters : FilterTable} {named : Option String} :
    (named.mapM fun filter => component name "filter" filter filters) = .ok condition ↔
      ConditionNamed filters named condition := by
  cases named with
  | none =>
    constructor
    · rintro ⟨⟩
      exact .none
    · rintro ⟨⟩
      rfl
  | some key =>
    constructor
    · intro h
      obtain ⟨filter, hfilter, hresult⟩ := bind_eq_ok_iff.1 h
      cases hresult
      exact .filter (component_eq_ok_iff.1 hfilter)
    · intro h
      cases h with
      | filter hget => exact bind_eq_ok_iff.2 ⟨_, component_eq_ok_iff.2 hget, rfl⟩

/-- An event and a condition have to agree. -/
theorem eventOf_both (text : String) (filter : Filter) :
    eventOf name (some text) (some filter) =
      if Text.trim text = filter.event then .ok (Text.trim text)
      else .error (.query (.eventConflict (Text.trim text) name filter.event filter.name)) := rfl

/-- The event of a query is the one that is given. -/
theorem eventOf_eq_ok_iff {event : Option String} {result : String} :
    eventOf name event condition = .ok result ↔ EventGiven event condition result := by
  constructor
  · intro h
    cases event with
    | none =>
      cases condition with
      | none => cases h
      | some filter =>
        cases h
        exact .inherited
    | some text =>
      cases condition with
      | none =>
        cases h
        exact .own
      | some filter =>
        rw [eventOf_both] at h
        split at h
        · next hagree =>
          cases h
          exact .both hagree
        · cases h
  · rintro (_ | _ | hagree)
    · rfl
    · rfl
    · rw [eventOf_both, if_pos hagree]

/-- A query names no components exactly if it has none of the fields for them. -/
theorem componentFields_eq_nil_iff :
    componentFields declared = [] ↔ declared.event = none ∧ declared.filter = none ∧
      declared.output = none ∧ declared.display = none := by
  simp [componentFields, List.filterMap_eq_nil_iff]

/-- A query compiles exactly to what its declaration means. -/
theorem ofConfig_eq_ok_iff :
    ofConfig name declared components = .ok query ↔ Written name declared components query := by
  rw [ofConfig]
  constructor
  · intro h
    split at h
    · obtain ⟨title, nrql, text, visualization, htitle, hnrql, htext, hfields, hvisualization,
        rfl⟩ := compileInline_eq_ok_iff.1 h
      obtain ⟨hevent, hfilter, houtput, hdisplay⟩ := componentFields_eq_nil_iff.1 hfields
      exact .inline hnrql htitle htext hvisualization hevent hfilter houtput hdisplay
    · next hnrql =>
      obtain ⟨title, outputName, displayName, condition, output, display, event, htitle, -,
        houtputName, hdisplayName, hvisualization, hcondition, houtput, hdisplay, hevent, rfl⟩ :=
        compileComponents_eq_ok_iff.1 h
      exact .components (by simpa using hnrql) htitle hvisualization houtputName houtput
        hdisplayName hdisplay (condition_eq_ok_iff.1 hcondition) (eventOf_eq_ok_iff.1 hevent)
  · intro h
    cases h with
    | inline hnrql htitle htext hvisualization hevent hfilter houtput hdisplay =>
      rw [hnrql, Option.isSome_some, if_pos rfl]
      exact compileInline_eq_ok_iff.2 ⟨_, _, _, _, htitle, hnrql, htext,
        componentFields_eq_nil_iff.2 ⟨hevent, hfilter, houtput, hdisplay⟩, hvisualization, rfl⟩
    | components hnrql htitle hvisualization houtputName houtput hdisplayName hdisplay hcondition
        hevent =>
      rw [hnrql, Option.isSome_none, if_neg Bool.false_ne_true]
      have hgiven : ¬ (declared.event = none ∧ declared.filter = none) := by
        rintro ⟨hnoEvent, hnoFilter⟩
        rw [hnoFilter] at hcondition
        cases hcondition
        rw [hnoEvent] at hevent
        cases hevent
      exact compileComponents_eq_ok_iff.2 ⟨_, _, _, _, _, _, _, htitle, hgiven, houtputName,
        hdisplayName, hvisualization, condition_eq_ok_iff.2 hcondition, houtput, hdisplay,
        eventOf_eq_ok_iff.2 hevent, rfl⟩

/-! ## Errors -/

/-- A field that a query has to have is missing exactly if the check for it finds that. -/
theorem required_eq_error_iff (field : Field) :
    required name field.name (field.text? declared) = .error e ↔
      Finds name declared components (.required field) e := by
  constructor
  · intro h
    cases hvalue : field.text? declared with
    | some text =>
      rw [hvalue] at h
      cases h
    | none =>
      rw [hvalue] at h
      cases h
      exact .required hvalue
  · rintro ⟨hvalue⟩
    rw [hvalue]
    rfl

/-- A component is not found exactly if the check of its field finds that. -/
theorem component_eq_error_iff {α : Type} {table : Table α} (field : Field) {key : String}
    (hkey : field.text? declared = some key)
    (htable : field.isKnown components key = table.contains key) :
    component name field.name key table = .error e ↔
      Finds name declared components (.known field) e := by
  constructor
  · intro h
    rw [component] at h
    split at h
    · cases h
    · next hget =>
      cases h
      refine .known hkey ?_
      rw [htable, Table.contains, hget, Option.isSome_none]
  · intro h
    cases h with
    | known hkey' hunknown =>
      cases hkey.symm.trans hkey'
      rw [htable, Table.contains, Option.isSome_eq_false_iff, Option.isNone_iff_eq_none] at hunknown
      rw [component, hunknown]

/-- A text is no visualization exactly if the check of it finds that. -/
theorem ofText_eq_error_iff {text : String} (h : declared.visualization = some text) :
    Visualization.ofText text = .error e ↔ Finds name declared components .visualization e := by
  rw [Visualization.ofText]
  constructor
  · intro herror
    split at herror
    · cases herror
    · next hunknown =>
      cases herror
      exact .visualization h hunknown
  · intro hfinds
    cases hfinds with
    | visualization htext hunknown =>
      cases h.symm.trans htext
      rw [hunknown]

/-- The filter that a query names is not found exactly if the check of it finds that. -/
theorem condition_eq_error_iff :
    (declared.filter.mapM fun filter => component name "filter" filter components.filters) =
      .error e ↔ Finds name declared components (.known .filter) e := by
  cases hfilter : declared.filter with
  | none =>
    constructor
    · rintro ⟨⟩
    · intro h
      cases h with
      | known hkey _ => cases hfilter.symm.trans hkey
  | some key =>
    rw [← component_eq_error_iff .filter hfilter rfl]
    exact map_eq_error_iff

/-- The event of a query is refused exactly if the check for agreement finds that, given an event or
a filter. -/
theorem eventOf_eq_error_iff (hgiven : ¬ (declared.event = none ∧ declared.filter = none))
    (hcondition : ConditionNamed components.filters declared.filter condition) :
    eventOf name declared.event condition = .error e ↔
      Finds name declared components .agreement e := by
  constructor
  · intro h
    generalize hfilter : declared.filter = named at hcondition
    cases hcondition with
    | none =>
      cases hevent : declared.event with
      | none => exact absurd ⟨hevent, hfilter⟩ hgiven
      | some text =>
        rw [hevent] at h
        cases h
    | filter hget =>
      cases hevent : declared.event with
      | none =>
        rw [hevent] at h
        cases h
      | some text =>
        rw [hevent, eventOf_both] at h
        split at h
        · cases h
        · next hagree =>
          cases h
          exact .agreement hevent hfilter hget hagree
  · intro h
    cases h with
    | agreement hevent hfilter hget hagree =>
      rw [hfilter] at hcondition
      cases hcondition with
      | filter hget' =>
        cases hget.symm.trans hget'
        rw [hevent, eventOf_both, if_neg hagree]

/-- The fields for components that are given, by their names. -/
theorem componentFields_eq :
    componentFields declared =
      (Field.ofComponents.filter fun field => (field.text? declared).isSome).map Field.name := by
  cases hevent : declared.event <;> cases hfilter : declared.filter <;>
    cases houtput : declared.output <;> cases hdisplay : declared.display <;>
    simp [componentFields, Field.ofComponents, Field.text?, Field.name, hevent, hfilter, houtput,
      hdisplay]

/-- Of some fields that are excluded the first that is given is found. -/
theorem performs_excluded {α : Type} {rest : List Check} {x : Except Error α}
    (hx : Performs (Finds name declared components) rest x) (fields : List Field) :
    Performs (Finds name declared components) (fields.map Check.excluded ++ rest)
      (match (fields.filter fun field => (field.text? declared).isSome).map Field.name with
        | field :: _ => throw (.query (.notInline field name))
        | [] => x) := by
  induction fields with
  | nil => exact hx
  | cons field fields ih =>
    cases hvalue : field.text? declared with
    | none =>
      rw [List.filter_cons_of_neg (by simp [hvalue])]
      refine .pass (fun fault hfound => ?_) ih
      cases hfound with
      | excluded hgiven => cases hvalue.symm.trans hgiven
    | some text =>
      rw [List.filter_cons_of_pos (by simp [hvalue])]
      refine .error fun fault => ⟨fun hfound => ?_, ?_⟩
      · cases hfound
        rfl
      · rintro rfl
        exact .excluded hvalue

/-- A query with an expression of its own is checked as such. -/
theorem performs_compileInline {nrql : String} (hnrql : declared.nrql = some nrql) :
    Performs (Finds name declared components) Check.inline (compileInline name declared) := by
  refine .step (fun e => required_eq_error_iff .title) fun title _ => ?_
  rw [hnrql]
  change Performs _ _ (required name "visualization" declared.visualization >>= _)
  refine .step (fun e => required_eq_error_iff .visualization) fun text htext => ?_
  rw [required_eq_ok_iff] at htext
  rw [componentFields_eq]
  refine performs_excluded (.step (fun e => ofText_eq_error_iff htext) fun visualization _ => ?_) _
  exact .ok _

/-- Neither an event nor a filter is given exactly if the check for them finds that. -/
theorem finds_eventOrFilter_iff :
    Finds name declared components .eventOrFilter e ↔
      (declared.event.isNone && declared.filter.isNone) = true ∧
        e = .query (.eventOrFilterMissing name) := by
  rw [Bool.and_eq_true, Option.isNone_iff_eq_none, Option.isNone_iff_eq_none]
  constructor
  · intro h
    cases h with
    | eventOrFilter hevent hfilter => exact ⟨⟨hevent, hfilter⟩, rfl⟩
  · rintro ⟨⟨hevent, hfilter⟩, rfl⟩
    exact .eventOrFilter hevent hfilter

/-- A visualization is given exactly if the check against it finds that. -/
theorem finds_noVisualization_iff :
    Finds name declared components .noVisualization e ↔
      declared.visualization.isSome = true ∧ e = .query (.visualizationNotInline name) := by
  rw [Option.isSome_iff_exists]
  constructor
  · intro h
    cases h with
    | noVisualization htext => exact ⟨⟨_, htext⟩, rfl⟩
  · rintro ⟨⟨text, htext⟩, rfl⟩
    exact .noVisualization htext

/-- A query from components is checked as such. -/
theorem performs_compileComponents :
    Performs (Finds name declared components) Check.components
      (compileComponents name declared components) := by
  refine .step (fun e => required_eq_error_iff .title) fun title _ => ?_
  refine .guard (fun fault => finds_eventOrFilter_iff) fun hgiven => ?_
  refine .step (fun e => required_eq_error_iff .output) fun outputName houtput => ?_
  refine .step (fun e => required_eq_error_iff .display) fun displayName hdisplay => ?_
  refine .guard (fun fault => finds_noVisualization_iff) fun _ => ?_
  refine .step (fun e => condition_eq_error_iff) fun condition hcondition => ?_
  rw [required_eq_ok_iff] at houtput hdisplay
  refine .step (fun e => component_eq_error_iff .output houtput rfl) fun output _ => ?_
  refine .step (fun e => component_eq_error_iff .display hdisplay rfl)
    fun display _ => ?_
  rw [condition_eq_ok_iff] at hcondition
  refine .step (fun e => eventOf_eq_error_iff ?_ hcondition) fun event _ => .ok _
  rintro ⟨hevent, hfilter⟩
  simp [hevent, hfilter] at hgiven

/-- A query is checked in the order of the way that it is written in. -/
theorem performs_ofConfig :
    Performs (Finds name declared components) (Check.of declared)
      (ofConfig name declared components) := by
  rw [ofConfig, Check.of]
  cases hnrql : declared.nrql with
  | some nrql => exact performs_compileInline hnrql
  | none => exact performs_compileComponents

/-- The message of what a check finds says it. -/
theorem Finds.says {check : Check} (h : Finds name declared components check e) :
    Says name declared components check e.message := by
  cases h with
  | required _ => exact .required
  | excluded _ => exact .excluded
  | visualization htext _ => exact .visualization htext
  | eventOrFilter _ _ => exact .eventOrFilter
  | noVisualization _ => exact .noVisualization
  | known hkey _ => exact .known hkey
  | agreement hevent hfilter hget _ => exact .agreement hevent hfilter hget

/-! ## Outcomes -/

/-- What compiling a query gives: the query that is written, or what the first check finds, in the
order of the way that it is written in. The message of what a check finds says it. -/
theorem ofConfig_outcome (name : String) (declared : Config.Query) (components : Components) :
    (∀ query, ofConfig name declared components = .ok query ↔
      Written name declared components query) ∧
    (∀ e, ofConfig name declared components = .error e ↔
      FirstFound (Finds name declared components) (Check.of declared) e) ∧
    ∀ check e, Finds name declared components check e →
      Says name declared components check e.message := by
  refine ⟨fun query => ?_, fun e => ?_, fun check e hfinds => ?_⟩
  · exact ofConfig_eq_ok_iff
  · exact performs_ofConfig e
  · exact hfinds.says

/-- Of several faults of a query with an expression of its own the first is told. -/
example (components : Components) :
    (ofConfig "slow"
      { title := some "Slow", nrql := some "SELECT 1", visualization := some "unheard of",
        output := some "count", display := some "nowhere" } components).map (fun _ => ()) =
      .error (.query (.notInline "output" "slow")) :=
  rfl

end Dashboards.Query
