import Dashboards.Proofs.Document.Dashboards
import Dashboards.Proofs.Document.Queries

/-!
# Which dashboards compile, and what is wrong with the others

A dashboard is sound if it has a title and every placement on it gives a place and leads to
something to show (`Config.Placement.Sound`, `Config.Dashboard.Sound`). Dashboards compile exactly
if all of them are sound; else the first one that is not is refused, for its title or for the first
placement that is not sound, with what the first check of that placement finds. The message names
the dashboard, and the field or the name that is at fault (`Widget.Says`). All this is
`Dashboard.compile_outcome`.
-/

namespace Dashboards

/-! ## Sound declarations -/

/-- A query compiles, whatever its name is. -/
def Config.Query.Compiles (components : Components) (declared : Config.Query) : Prop :=
  ∀ name, ∃ query, Query.ofConfig name declared components = .ok query

/-- A field of the place that a placement gives. -/
inductive Widget.Field where
  | row | column | width | height
deriving DecidableEq

namespace Widget.Field

/-- The name of a field. -/
def name : Field → String
  | row => "row"
  | column => "column"
  | width => "width"
  | height => "height"

/-- The number that a placement gives in a field. -/
def number? (declared : Config.Placement) : Field → Option Nat
  | row => declared.row
  | column => declared.column
  | width => declared.width
  | height => declared.height

/-- All fields, in order. -/
def all : List Field := [row, column, width, height]

end Widget.Field

/-- A placement leads to a reusable widget, to a query of the table, or to a query in place that
compiles, and to no two of them. -/
inductive Config.Placement.LeadsOn (tables : Placeable) (declared : Config.Placement) : Prop
  | widget {name : String} {definition : WidgetDefinition} : declared.query = none →
      declared.widget = some name → tables.widgets.get? name = some definition →
      LeadsOn tables declared
  | named {name : String} {query : Dashboards.Query} : declared.widget = none →
      declared.query = some (.named name) → tables.queries.get? name = some query →
      LeadsOn tables declared
  | inline {query : Config.Query} : declared.widget = none →
      declared.query = some (.inline query) → query.Compiles tables.components →
      LeadsOn tables declared

/-- A placement leads to something to show and gives the whole place for it. -/
structure Config.Placement.Sound (tables : Placeable) (declared : Config.Placement) : Prop where
  leads : declared.LeadsOn tables
  place : ∀ field : Widget.Field, field.number? declared ≠ none

/-- A dashboard has a title, and its placements are sound. -/
structure Config.Dashboard.Sound (tables : Placeable) (declared : Config.Dashboard) : Prop where
  title : declared.title ≠ none
  placements : ∀ placement ∈ declared.widgets, placement.Sound tables

/-! ## What placements are checked for -/

namespace Widget

/-- What a placement is checked for. -/
inductive Check where
  /-- A query or a reusable widget is given. -/
  | given
  /-- There are not both. -/
  | single
  /-- A field of the place is given. -/
  | required (field : Field)
  /-- What the placement refers to is there. -/
  | target
deriving DecidableEq

/-- All checks of a placement, in order. -/
def Check.all : List Check :=
  .given :: .single :: (Field.all.map required ++ [.target])

/-- What a check finds wrong with the placement at a position on a dashboard. -/
inductive Finds (dashboard : String) (position : Nat) (declared : Config.Placement)
    (tables : Placeable) : Check → Error → Prop
  | given : declared.query = none → declared.widget = none →
      Finds dashboard position declared tables .given (.widget (.placementField "query" dashboard))
  | single {reference : Config.QueryReference} {name : String} :
      declared.query = some reference → declared.widget = some name →
      Finds dashboard position declared tables .single (.widget (.queryAndWidget dashboard))
  | required {field : Field} : field.number? declared = none →
      Finds dashboard position declared tables (.required field)
        (.widget (.placementField field.name dashboard))
  | widget {name : String} : declared.widget = some name → tables.widgets.get? name = none →
      Finds dashboard position declared tables .target (.widget (.unknownWidget name dashboard))
  | named {name : String} : declared.query = some (.named name) →
      tables.queries.get? name = none →
      Finds dashboard position declared tables .target
        (.widget (.unknownPlacedQuery name dashboard))
  | inline {query : Config.Query} {e : Error} : declared.query = some (.inline query) →
      Query.ofConfig s!"{dashboard}-inline-query-{position + 1}" query tables.components =
        .error e →
      Finds dashboard position declared tables .target e

/-- What the message says of a fault that a check finds with the placement at a position on a
dashboard. Of a query in place it says what it says of a query of its name. -/
inductive Says (dashboard : String) (position : Nat) (declared : Config.Placement)
    (tables : Placeable) : Check → String → Prop
  | given :
      Says dashboard position declared tables .given ("invalid widget configuration: " ++
        ("field query is required for widget on dashboard " ++ dashboard))
  | single :
      Says dashboard position declared tables .single ("invalid widget configuration: " ++
        ("widget on dashboard " ++ dashboard ++ " cannot specify both query and widget"))
  | required {field : Field} :
      Says dashboard position declared tables (.required field)
        ("invalid widget configuration: " ++
          ("field " ++ field.name ++ " is required for widget on dashboard " ++ dashboard))
  | widget {name : String} : declared.widget = some name →
      Says dashboard position declared tables .target ("invalid widget configuration: " ++
        ("invalid widget name, " ++ name ++ ", specified on dashboard " ++ dashboard))
  | named {name : String} : declared.query = some (.named name) →
      Says dashboard position declared tables .target ("invalid widget configuration: " ++
        ("invalid query name, " ++ name ++ ", specified for widget on dashboard " ++ dashboard))
  | inline {query : Config.Query} {check : Query.Check} {text : String} :
      declared.query = some (.inline query) → check ∈ Query.Check.of query →
      Query.Says (dashboard ++ "-inline-query-" ++ toString (position + 1)) query tables.components
        check text →
      Says dashboard position declared tables .target text

end Widget

/-- What is wrong with a dashboard: it has no title, or else the first placement that is not sound
is refused at its position, with what the first check of it finds. -/
inductive Dashboard.Refused (name : String) (declared : Config.Dashboard) (tables : Placeable) :
    Error → Prop
  | title : declared.title = none → Refused name declared tables (.dashboard (.titleMissing name))
  | placement {before after : List Config.Placement} {placement : Config.Placement} {e : Error} :
      declared.title ≠ none → declared.widgets = before ++ placement :: after →
      (∀ other ∈ before, other.Sound tables) →
      FirstFound (Widget.Finds name before.length placement tables) Widget.Check.all e →
      Refused name declared tables e

/-! ## Sound placements -/

/-- A query means the same under any name. -/
theorem Query.Written.rename {name : String} {declared : Config.Query} {components : Components}
    {query : Query} (h : Written name declared components query) (name' : String) :
    Written name' declared components { query with name := name' } := by
  cases h with
  | inline hnrql htitle htext hvisualization hevent hfilter houtput hdisplay =>
    exact .inline hnrql htitle htext hvisualization hevent hfilter houtput hdisplay
  | components hnrql htitle hvisualization houtputName houtput hdisplayName hdisplay hcondition
      hevent =>
    exact .components hnrql htitle hvisualization houtputName houtput hdisplayName hdisplay
      hcondition hevent

/-- A query compiles exactly if it does under one name. -/
theorem Config.Query.compiles_iff {components : Components} {declared : Config.Query}
    (name : String) :
    declared.Compiles components ↔
      ∃ query, Query.ofConfig name declared components = .ok query := by
  refine ⟨fun h => h name, ?_⟩
  rintro ⟨query, hquery⟩ name'
  exact ⟨_, Query.ofConfig_eq_ok_iff.2 ((Query.ofConfig_eq_ok_iff.1 hquery).rename name')⟩

/-- A placement has a place exactly if it gives every field of it. -/
theorem Config.exists_layout?_iff {declared : Config.Placement} :
    (∃ layout, Config.layout? declared = some layout) ↔
      ∀ field : Widget.Field, field.number? declared ≠ none := by
  simp only [Config.layout?, Option.bind_eq_bind, Option.bind_eq_some_iff, Option.pure_def,
    Option.some.injEq]
  constructor
  · rintro ⟨_, row, hrow, column, hcolumn, width, hwidth, height, hheight, rfl⟩ field
    cases field <;> simp [Widget.Field.number?, hrow, hcolumn, hwidth, hheight]
  · intro hgiven
    obtain ⟨row, hrow⟩ := Option.ne_none_iff_exists'.1 (hgiven .row)
    obtain ⟨column, hcolumn⟩ := Option.ne_none_iff_exists'.1 (hgiven .column)
    obtain ⟨width, hwidth⟩ := Option.ne_none_iff_exists'.1 (hgiven .width)
    obtain ⟨height, hheight⟩ := Option.ne_none_iff_exists'.1 (hgiven .height)
    exact ⟨_, row, hrow, column, hcolumn, width, hwidth, height, hheight, rfl⟩

namespace Widget

variable {dashboard : String} {position : Nat} {declared : Config.Placement} {tables : Placeable}
  {e : Error}

/-- A placement is read exactly if it is sound. -/
theorem exists_ofConfig_iff :
    (∃ widget, ofConfig dashboard position declared tables = .ok widget) ↔
      declared.Sound tables := by
  constructor
  · rintro ⟨widget, h⟩
    obtain ⟨layout, hlayout, hshown⟩ := ofConfig_eq_ok_iff.1 h
    refine ⟨?_, Config.exists_layout?_iff.1 ⟨layout, hlayout⟩⟩
    obtain ⟨name, definition, hquery, hwidget, hget, -⟩ |
      ⟨reference, query, hquery, hwidget, hreference, -⟩ := hshown
    · exact .widget hquery hwidget hget
    · cases reference with
      | named name => exact .named hwidget hquery (Query.ofReference_named_eq_ok_iff.1 hreference)
      | inline declared =>
        exact .inline hwidget hquery ((Config.Query.compiles_iff _).2 ⟨query, hreference⟩)
  · rintro ⟨hleads, hplace⟩
    obtain ⟨layout, hlayout⟩ := Config.exists_layout?_iff.2 hplace
    cases hleads with
    | widget hquery hwidget hget =>
      exact ⟨_, ofConfig_eq_ok_iff.2 ⟨layout, hlayout, .inl ⟨_, _, hquery, hwidget, hget, rfl⟩⟩⟩
    | named hwidget hquery hget =>
      exact ⟨_, ofConfig_eq_ok_iff.2 ⟨layout, hlayout, .inr ⟨_, _, hquery, hwidget,
        Query.ofReference_named_eq_ok_iff.2 hget, rfl⟩⟩⟩
    | inline hwidget hquery hcompiles =>
      obtain ⟨query, hread⟩ := hcompiles s!"{dashboard}-inline-query-{position + 1}"
      exact ⟨_, ofConfig_eq_ok_iff.2 ⟨layout, hlayout, .inr ⟨_, query, hquery, hwidget, hread,
        rfl⟩⟩⟩

/-! ## Placements that are refused -/

/-- A field of the place is missing exactly if the check for it finds that. -/
theorem required_eq_error_iff (field : Field) :
    required dashboard field.name (field.number? declared) = .error e ↔
      Finds dashboard position declared tables (.required field) e := by
  constructor
  · intro h
    cases hnumber : field.number? declared with
    | some number =>
      rw [hnumber] at h
      cases h
    | none =>
      rw [hnumber] at h
      cases h
      exact .required hnumber
  · intro h
    cases h with
    | required hnumber =>
      rw [hnumber]
      rfl

/-- The fields of the place are checked in order. -/
theorem performs_layoutOf :
    Performs (Finds dashboard position declared tables) (Field.all.map .required)
      (layoutOf dashboard declared) :=
  .step (fun _ => required_eq_error_iff .row) fun _ _ =>
    .step (fun _ => required_eq_error_iff .column) fun _ _ =>
      .step (fun _ => required_eq_error_iff .width) fun _ _ =>
        .step (fun _ => required_eq_error_iff .height) fun _ _ => .ok _

/-- A reference leads to no query exactly if the check of the target finds that. -/
theorem ofReference_eq_error_iff {reference : Config.QueryReference}
    (hquery : declared.query = some reference) (hwidget : declared.widget = none) :
    Query.ofReference reference s!"{dashboard}-inline-query-{position + 1}" tables.queries
      tables.components (.unknownPlacedQuery · dashboard) = .error e ↔
      Finds dashboard position declared tables .target e := by
  cases reference with
  | named name =>
    rw [Query.ofReference]
    constructor
    · intro h
      split at h
      · cases h
      · next hget =>
        cases h
        exact .named hquery hget
    · intro h
      cases h with
      | widget hname _ => cases hwidget.symm.trans hname
      | named hname hget =>
        cases hquery.symm.trans hname
        rw [hget]
      | inline hinline _ => cases hquery.symm.trans hinline
  | inline query =>
    refine ⟨.inline hquery, fun h => ?_⟩
    cases h with
    | widget hname _ => cases hwidget.symm.trans hname
    | named hname _ => cases hquery.symm.trans hname
    | inline hinline herror =>
      cases hquery.symm.trans hinline
      exact herror

/-- Nothing to show is given exactly if the check for it finds that. -/
theorem finds_given_iff :
    Finds dashboard position declared tables .given e ↔
      (declared.query = none ∧ declared.widget = none) ∧
        e = .widget (.placementField "query" dashboard) := by
  constructor
  · intro h
    cases h with
    | given hquery hwidget => exact ⟨⟨hquery, hwidget⟩, rfl⟩
  · rintro ⟨⟨hquery, hwidget⟩, rfl⟩
    exact .given hquery hwidget

/-- Two things to show are given exactly if the check against that finds it. -/
theorem finds_single_iff :
    Finds dashboard position declared tables .single e ↔
      (declared.query ≠ none ∧ declared.widget ≠ none) ∧
        e = .widget (.queryAndWidget dashboard) := by
  constructor
  · intro h
    cases h with
    | single hquery hwidget => exact ⟨by simp [hquery, hwidget], rfl⟩
  · rintro ⟨⟨hquery, hwidget⟩, rfl⟩
    obtain ⟨reference, hquery⟩ := Option.ne_none_iff_exists'.1 hquery
    obtain ⟨name, hwidget⟩ := Option.ne_none_iff_exists'.1 hwidget
    exact .single hquery hwidget

/-- The reusable widget that a placement names is not there exactly if the check of the target finds
that. -/
theorem finds_target_iff {name : String} (hquery : declared.query = none)
    (hwidget : declared.widget = some name) :
    Finds dashboard position declared tables .target e ↔
      tables.widgets.get? name = none ∧ e = .widget (.unknownWidget name dashboard) := by
  constructor
  · intro h
    cases h with
    | widget hname hget =>
      cases hwidget.symm.trans hname
      exact ⟨hget, rfl⟩
    | named hname _ => cases hquery.symm.trans hname
    | inline hinline _ => cases hquery.symm.trans hinline
  · rintro ⟨hget, rfl⟩
    exact .widget hwidget hget

/-- The reusable widget that a placement names is looked up as the check of the target does. -/
theorem performs_lookup {name : String} {layout : Layout} (hquery : declared.query = none)
    (hwidget : declared.widget = some name) :
    Performs (Finds dashboard position declared tables) [.target]
      (match tables.widgets.get? name with
        | some definition => return definition.place layout
        | none => throw (.widget (.unknownWidget name dashboard))) := by
  cases hget : tables.widgets.get? name with
  | none => exact .error fun fault => by simp [finds_target_iff hquery hwidget, hget]
  | some definition =>
    exact .pass (fun fault => by simp [finds_target_iff hquery hwidget, hget]) (.ok _)

/-- A placement is checked in order. -/
theorem performs_ofConfig :
    Performs (Finds dashboard position declared tables) Check.all
      (ofConfig dashboard position declared tables) := by
  rw [ofConfig]
  cases hquery : declared.query with
  | none =>
    cases hwidget : declared.widget with
    | none => exact .error fun fault => by simp [finds_given_iff, hquery, hwidget]
    | some name =>
      refine .pass (fun fault => by simp [finds_given_iff, hwidget]) <|
        .pass (fun fault => by simp [finds_single_iff, hquery]) <|
        .bind performs_layoutOf fun layout _ => performs_lookup hquery hwidget
  | some reference =>
    refine .pass (fun fault => by simp [finds_given_iff, hquery]) ?_
    cases hwidget : declared.widget with
    | some name => exact .error fun fault => by simp [finds_single_iff, hquery, hwidget]
    | none =>
      refine .pass (fun fault => by simp [finds_single_iff, hwidget]) <|
        .bind performs_layoutOf fun layout _ => ?_
      exact .step (fun fault => ofReference_eq_error_iff hquery hwidget) fun query _ => .ok _

/-- Placements at their positions are sound exactly if the placements are. -/
theorem forall_mem_zipIdx_sound_iff (position : Nat) {placements : List Config.Placement} :
    (∀ placed ∈ placements.zipIdx position, placed.1.Sound tables) ↔
      ∀ placement ∈ placements, placement.Sound tables := by
  conv_rhs => rw [← List.zipIdx_map_fst position placements, List.forall_mem_map]

/-- The message of what a check finds says it. -/
theorem Finds.says {check : Check} (h : Finds dashboard position declared tables check e) :
    Says dashboard position declared tables check e.message := by
  cases h with
  | given _ _ => exact .given
  | single _ _ => exact .single
  | required _ => exact .required
  | widget hwidget _ => exact .widget hwidget
  | named hquery _ => exact .named hquery
  | inline hquery herror =>
    obtain ⟨check, hcheck, hfound⟩ := ((Query.performs_ofConfig e).1 herror).exists_finds
    exact .inline hquery hcheck hfound.says

/-- Placements are read exactly if all of them are sound. -/
theorem exists_placeAll_iff {placements : List Config.Placement} :
    (∃ widgets, placeAll dashboard tables position placements = .ok widgets) ↔
      ∀ placement ∈ placements, placement.Sound tables := by
  rw [placeAll_eq_mapM, ← forall_mem_zipIdx_sound_iff position]
  constructor
  · rintro ⟨widgets, h⟩ placed hplaced
    obtain ⟨widget, -, hwidget⟩ := forall₂_exists_of_mem_left (mapM_eq_ok_iff.1 h) hplaced
    exact exists_ofConfig_iff.1 ⟨widget, hwidget⟩
  · intro hsound
    exact mapM_ok_of_forall fun placed hplaced => exists_ofConfig_iff.2 (hsound placed hplaced)

/-- Placements cannot be read exactly if one of them is the first that is not sound. -/
theorem placeAll_eq_error_iff {placements : List Config.Placement} :
    placeAll dashboard tables position placements = .error e ↔
      ∃ before placement after, placements = before ++ placement :: after ∧
        (∀ other ∈ before, other.Sound tables) ∧
        ofConfig dashboard (position + before.length) placement tables = .error e := by
  rw [placeAll_eq_mapM, mapM_eq_error_iff]
  simp only [exists_ofConfig_iff]
  constructor
  · rintro ⟨zipped, placed, others, hzip, hbefore, herror⟩
    obtain ⟨before, rest, rfl, rfl, hrest⟩ := List.zipIdx_eq_append_iff.1 hzip
    obtain ⟨placement, after, rfl, rfl, -⟩ := List.zipIdx_eq_cons_iff.1 hrest.symm
    exact ⟨before, placement, after, rfl, (forall_mem_zipIdx_sound_iff _).1 hbefore, herror⟩
  · rintro ⟨before, placement, after, rfl, hbefore, herror⟩
    refine ⟨before.zipIdx position, (placement, position + before.length),
      after.zipIdx (position + before.length + 1), ?_, (forall_mem_zipIdx_sound_iff _).2 hbefore,
      herror⟩
    rw [List.zipIdx_append, List.zipIdx_cons]

end Widget

/-! ## Dashboards -/

namespace Dashboard

variable {name : String} {declared : Config.Dashboard} {tables : Placeable} {e : Error}

/-- A dashboard is not read exactly if it is refused. -/
theorem ofConfig_eq_error_iff :
    ofConfig name declared tables = .error e ↔ Refused name declared tables e := by
  rw [ofConfig]
  cases htitle : declared.title with
  | none =>
    constructor
    · rintro ⟨⟩
      exact .title htitle
    · intro h
      cases h with
      | title _ => rfl
      | placement hgiven _ _ _ => exact absurd htitle hgiven
  | some title =>
    dsimp only
    rw [bind_pure_eq_map, map_eq_error_iff, Widget.placeAll_eq_error_iff]
    simp only [Nat.zero_add, Widget.performs_ofConfig _]
    constructor
    · rintro ⟨before, placement, after, hwidgets, hbefore, hfound⟩
      exact .placement (by simp [htitle]) hwidgets hbefore hfound
    · intro h
      cases h with
      | title hnone => cases htitle.symm.trans hnone
      | placement _ hwidgets hbefore hfound => exact ⟨_, _, _, hwidgets, hbefore, hfound⟩

/-- A dashboard is read exactly if it is sound. -/
theorem exists_ofConfig_iff :
    (∃ dashboard, ofConfig name declared tables = .ok dashboard) ↔ declared.Sound tables := by
  constructor
  · rintro ⟨dashboard, h⟩
    obtain ⟨title, widgets, htitle, hwidgets, -⟩ := ofConfig_eq_ok_iff.1 h
    exact ⟨by simp [htitle], Widget.exists_placeAll_iff.1 ⟨widgets, hwidgets⟩⟩
  · rintro ⟨htitle, hplacements⟩
    obtain ⟨title, htitle⟩ := Option.ne_none_iff_exists'.1 htitle
    obtain ⟨widgets, hwidgets⟩ := Widget.exists_placeAll_iff.2 hplacements
    exact ⟨_, ofConfig_eq_ok_iff.2 ⟨title, widgets, htitle, hwidgets, rfl⟩⟩

/-- What compiling dashboards gives: a table if all of them are sound, or else what is wrong with
the first one that is not. The message of what is wrong says it. -/
theorem compile_outcome (configs : Table Config.Dashboard) (tables : Placeable) :
    ((∃ dashboards, (compile configs tables).result = .ok dashboards) ↔
      ∀ entry ∈ configs.entries, entry.2.Sound tables) ∧
    (∀ e, (compile configs tables).result = .error e ↔
      ∃ before name declared after, configs.entries = before ++ (name, declared) :: after ∧
        (∀ entry ∈ before, entry.2.Sound tables) ∧ Refused name declared tables e) ∧
    (∀ name, (Error.dashboard (.titleMissing name)).message =
      "invalid dashboard configuration: " ++ ("field title is required for dashboard " ++ name)) ∧
    ∀ name position placement check e, Widget.Finds name position placement tables check e →
      Widget.Says name position placement tables check e.message := by
  refine ⟨?_, fun e => ?_, fun name => rfl, fun _ _ _ _ _ hfinds => hfinds.says⟩
  · rw [Table.exists_ok_of_section_iff (compile_entries configs tables)]
    exact forall₂_congr fun entry _ => exists_ofConfig_iff
  · rw [Table.section_eq_error_iff (compile_entries configs tables)]
    simp only [FirstFails, exists_ofConfig_iff, ofConfig_eq_error_iff]
    constructor
    · rintro ⟨name, before, declared, after, hfails⟩
      exact ⟨before, name, declared, after, hfails⟩
    · rintro ⟨before, name, declared, after, hfails⟩
      exact ⟨name, before, declared, after, hfails⟩

/-- A query in place is called by its position among the placements of its dashboard. -/
example (tables : Placeable) :
    (ofConfig "shop"
      { title := some "Shop",
        widgets := [
          { query := some (.inline
              { title := some "One", nrql := some "SELECT 1", visualization := some "list" }),
            row := some 1, column := some 1, width := some 4, height := some 3 },
          { query := some (.inline { nrql := some "SELECT 2" }),
            row := some 1, column := some 5, width := some 4, height := some 3 }] }
      tables).map (fun _ => ()) =
      .error (.query (.fieldMissing "title" "shop-inline-query-2")) :=
  rfl

end Dashboard

end Dashboards
