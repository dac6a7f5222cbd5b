import Dashboards.Proofs.Document.Dashboards
import Dashboards.Proofs.Extension

/-!
# Configurations that grow

Records that are there stay what they are when more of them come in: a reference that leads to a
query still does in an extended table, and so reusable widgets, placements and dashboards that are
read are read to the same (`WidgetDefinition.ofConfig_mono`, `Widget.ofConfig_mono`,
`Dashboard.ofConfig_mono`). A placement at the end of a dashboard adds its widget to the end
(`Dashboard.ofConfig_append`).
-/

namespace Dashboards

variable {components : Components}

/-! ## Queries and reusable widgets -/

section
variable {queries queries' : QueryTable}

/-- A reference that leads to a query does so if there are more queries. -/
theorem Query.ofReference_mono (hqueries : queries.Extends queries')
    {reference : Config.QueryReference} {placeName : String} {unknown : String → WidgetFault}
    {query : Query} (h : ofReference reference placeName queries components unknown = .ok query) :
    ofReference reference placeName queries' components unknown = .ok query := by
  cases reference with
  | inline config => exact h
  | named name =>
    rw [ofReference_named_eq_ok_iff] at h ⊢
    exact hqueries name query h

/-- A reusable widget that is read is so if there are more queries. -/
theorem WidgetDefinition.ofConfig_mono (hqueries : queries.Extends queries') {name : String}
    {config : Config.Widget} {definition : WidgetDefinition}
    (h : ofConfig name config queries components = .ok definition) :
    ofConfig name config queries' components = .ok definition := by
  obtain ⟨reference, query, hreference, hquery, hresult⟩ := ofConfig_eq_ok_iff.1 h
  exact ofConfig_eq_ok_iff.2
    ⟨reference, query, hreference, Query.ofReference_mono hqueries hquery, hresult⟩

end

/-! ## Placements and dashboards -/

/-- Tables that have all that placements may refer to in others, and the same components. -/
structure Placeable.Extends (tables tables' : Placeable) : Prop where
  components : tables'.components = tables.components
  queries : tables.queries.Extends tables'.queries
  widgets : tables.widgets.Extends tables'.widgets

section
variable {tables tables' : Placeable} {dashboard : String}

namespace Widget

variable {position : Nat}

/-- A placement that is read is so if there is more to place. -/
theorem ofConfig_mono (h : tables.Extends tables') {config : Config.Placement} {widget : Widget}
    (hread : ofConfig dashboard position config tables = .ok widget) :
    ofConfig dashboard position config tables' = .ok widget := by
  obtain ⟨layout, hlayout, ⟨name, definition, hquery, hwidget, hget, hresult⟩ |
    ⟨reference, query, hquery, hwidget, hreference, hresult⟩⟩ := ofConfig_eq_ok_iff.1 hread
  · have hget' := h.widgets name definition hget
    exact ofConfig_eq_ok_iff.2
      ⟨layout, hlayout, .inl ⟨name, definition, hquery, hwidget, hget', hresult⟩⟩
  · refine ofConfig_eq_ok_iff.2
      ⟨layout, hlayout, .inr ⟨reference, query, hquery, hwidget, ?_, hresult⟩⟩
    rw [h.components]
    exact Query.ofReference_mono h.queries hreference

/-- Placements that are read are so if there is more to place. -/
theorem placeAll_mono (h : tables.Extends tables') {configs : List Config.Placement}
    {widgets : List Widget} (hread : placeAll dashboard tables position configs = .ok widgets) :
    placeAll dashboard tables' position configs = .ok widgets := by
  rw [placeAll_eq_ok_iff] at hread ⊢
  exact hread.imp fun _ _ hwidget => ofConfig_mono h hwidget

/-- A placement behind others that are read is read at its own position. -/
theorem placeAll_append {configs : List Config.Placement} {widgets : List Widget}
    (hread : placeAll dashboard tables position configs = .ok widgets) (config : Config.Placement) :
    placeAll dashboard tables position (configs ++ [config]) =
      (ofConfig dashboard (position + configs.length) config tables).map
        fun widget => widgets ++ [widget] := by
  induction configs generalizing position widgets with
  | nil =>
    cases hread
    rw [List.nil_append, placeAll, List.length_nil, Nat.add_zero]
    cases ofConfig dashboard position config tables <;> rfl
  | cons first rest ih =>
    obtain ⟨widget, hfirst, hread⟩ := bind_eq_ok_iff.1 hread
    obtain ⟨others, hrest, hresult⟩ := bind_eq_ok_iff.1 hread
    cases hresult
    rw [List.cons_append, placeAll, hfirst, ih hrest, List.length_cons,
      Nat.add_right_comm, Nat.add_assoc]
    cases ofConfig dashboard (position + (rest.length + 1)) config tables <;> rfl

end Widget

/-- A declared dashboard with a placement behind its others. -/
def Config.Dashboard.append (config : Config.Dashboard) (placement : Config.Placement) :
    Config.Dashboard :=
  { config with widgets := config.widgets ++ [placement] }

/-- A dashboard with a widget behind its others. -/
def Dashboard.append (dashboard : Dashboard) (widget : Widget) : Dashboard :=
  { dashboard with widgets := dashboard.widgets ++ [widget] }

namespace Dashboard

/-- A dashboard that is read is so if there is more to place. -/
theorem ofConfig_mono (h : tables.Extends tables') {config : Config.Dashboard} {board : Dashboard}
    (hread : ofConfig dashboard config tables = .ok board) :
    ofConfig dashboard config tables' = .ok board := by
  obtain ⟨title, widgets, htitle, hwidgets, hresult⟩ := ofConfig_eq_ok_iff.1 hread
  exact ofConfig_eq_ok_iff.2
    ⟨title, widgets, htitle, Widget.placeAll_mono h hwidgets, hresult⟩

/-- A placement behind those of a dashboard that is read adds its widget to the dashboard. -/
theorem ofConfig_append {config : Config.Dashboard} {board : Dashboard}
    (hread : ofConfig dashboard config tables = .ok board) (placement : Config.Placement) :
    ofConfig dashboard (config.append placement) tables =
      (Widget.ofConfig dashboard config.widgets.length placement tables).map board.append := by
  obtain ⟨title, widgets, htitle, hwidgets, rfl⟩ := ofConfig_eq_ok_iff.1 hread
  have happend := Widget.placeAll_append hwidgets placement
  rw [Nat.zero_add] at happend
  simp only [ofConfig, Config.Dashboard.append, htitle, happend]
  cases Widget.ofConfig dashboard config.widgets.length placement tables <;> rfl

end Dashboard

end

end Dashboards
