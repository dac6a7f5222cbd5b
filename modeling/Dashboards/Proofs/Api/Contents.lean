import Dashboards.Proofs.Api.Store
import Dashboards.Proofs.Sequence

/-!
# What payloads carry

A payload carries everything of a dashboard but its name: the title, the widgets in order and the
account of the widgets are read back from the JSON value (`Dashboard.Contents.ofPayload?_payload`).
So two payloads are equal exactly if the dashboards have the same title and the same widgets, which
are those of one account unless there are none (`Dashboard.payload_carries_contents`).
-/

namespace Dashboards

/-! ## Values of fields -/

namespace Json

/-- The text that a value is. -/
def string? : Json → Option String
  | string text => some text
  | _ => none

/-- The text that a value is, or the null. -/
def optionalString? : Json → Option (Option String)
  | null => some none
  | string text => some (some text)
  | _ => none

/-- The natural number that a value is. -/
def nat? : Json → Option Nat
  | int (.ofNat n) => some n
  | _ => none

/-- The elements of the array that a value is. -/
def items? : Json → Option (List Json)
  | array items => some items
  | _ => none

/-- The value to which one field after the other leads. -/
def at? (json : Json) (path : List String) : Option Json :=
  path.foldlM (fun value name => value.field? name) json

@[simp]
theorem nat?_nat (n : Nat) : (nat n).nat? = some n := rfl

/-- A text is kept apart from null, also if it is empty. -/
@[simp]
theorem optionalString?_optionalString (text : Option String) :
    (optionalString text).optionalString? = some text := by
  cases text <;> rfl

end Json

/-! ## Widgets -/

/-- The place and the size that an object gives. -/
def Layout.ofPayload? (json : Json) : Option Layout := do
  let row ← (← json.field? "row").nat?
  let column ← (← json.field? "column").nat?
  let width ← (← json.field? "width").nat?
  let height ← (← json.field? "height").nat?
  return { row, column, width, height }

/-- A place and a size are read back. -/
theorem Layout.ofPayload?_payload (layout : Layout) : ofPayload? layout.payload = some layout := by
  simp [ofPayload?, payload, Json.field?, List.lookup_cons]

/-- The widget that an object gives. -/
def Widget.ofPayload? (json : Json) : Option Widget := do
  let title ← (← json.at? ["presentation", "title"]).string?
  let notes ← (← json.at? ["presentation", "notes"]).optionalString?
  let data ← (← json.field? "data").items?
  let query ← (← (← data.head?).field? "nrql").string?
  let visualization ← Visualization.ofText? (← (← json.field? "visualization").string?)
  let layout ← Layout.ofPayload? (← json.field? "layout")
  return { title, query, visualization, layout, notes }

/-- A widget is read back, whatever its account. -/
theorem Widget.ofPayload?_payload (account : Nat) (widget : Widget) :
    ofPayload? (widget.payload account) = some widget := by
  simp [ofPayload?, payload, Json.at?, Json.field?, Json.string?, Json.items?, List.lookup_cons,
    Layout.ofPayload?_payload, Visualization.ofText?_name]

/-- The account that a widget gives. -/
def Widget.payloadAccount? (json : Json) : Option Nat := do
  (← json.field? "account_id").nat?

/-- The account of a widget is read back. -/
theorem Widget.payloadAccount?_payload (account : Nat) (widget : Widget) :
    payloadAccount? (widget.payload account) = some account := by
  simp [payloadAccount?, payload, Json.field?]

/-! ## Dashboards -/

namespace Dashboard

/-- What a payload carries of a dashboard of an account. -/
structure Contents where
  title : String
  widgets : List Widget
  /-- The account of the widgets, if there are any. -/
  account : Option Nat
deriving DecidableEq

/-- What the interface is told of a dashboard of an account. -/
def contents (account : Nat) (dashboard : Dashboard) : Contents where
  title := dashboard.title
  widgets := dashboard.widgets
  account := dashboard.widgets.head?.map fun _ => account

/-- The contents of a payload. -/
def Contents.ofPayload? (json : Json) : Option Contents := do
  let title ← json.dashboardTitle?
  let items ← (← json.at? ["dashboard", "widgets"]).items?
  let widgets ← items.mapM Widget.ofPayload?
  let accounts ← items.mapM Widget.payloadAccount?
  return { title, widgets, account := accounts.head? }

variable {account other : Nat} {dashboard second : Dashboard}

/-- The widgets of a payload are in order. -/
theorem items?_widgets_payload (account : Nat) (dashboard : Dashboard) :
    ((dashboard.payload account).at? ["dashboard", "widgets"]).bind Json.items? =
      some (dashboard.widgets.map (Widget.payload account)) := by
  simp [payload, Json.at?, Json.field?, Json.items?, List.lookup_cons]

/-- The contents of a dashboard are read back from its payload. -/
theorem Contents.ofPayload?_payload (account : Nat) (dashboard : Dashboard) :
    ofPayload? (dashboard.payload account) = some (dashboard.contents account) := by
  have hwidgets : (dashboard.widgets.map (Widget.payload account)).mapM Widget.ofPayload? =
      some dashboard.widgets := by
    rw [mapM_eq_some_iff, List.forall₂_map_left_iff, List.forall₂_same]
    exact fun widget _ => Widget.ofPayload?_payload account widget
  have haccounts :
      (dashboard.widgets.map (Widget.payload account)).mapM Widget.payloadAccount? =
        some (dashboard.widgets.map fun _ => account) := by
    rw [mapM_eq_some_iff, List.forall₂_map_left_iff, List.forall₂_map_right_iff, List.forall₂_same]
    exact fun widget _ => Widget.payloadAccount?_payload account widget
  rw [ofPayload?, dashboardTitle?_payload]
  simp only [Option.bind_eq_bind, Option.bind_some]
  rw [← Option.bind_assoc, items?_widgets_payload]
  simp only [Option.bind_some, hwidgets, haccounts, Option.pure_def, contents, List.head?_map]

/-- Dashboards have the same contents exactly if their titles and their widgets are the same, and
their accounts unless there are no widgets. -/
theorem contents_eq_iff :
    dashboard.contents account = second.contents other ↔
      dashboard.title = second.title ∧ dashboard.widgets = second.widgets ∧
        (dashboard.widgets ≠ [] → account = other) := by
  rw [contents, contents, Contents.mk.injEq]
  refine and_congr_right fun _ => and_congr_right fun hwidgets => ?_
  rw [← hwidgets]
  cases dashboard.widgets <;> simp

/-- The payload of a dashboard of an account is made from its contents. -/
theorem payload_eq_of_contents_eq (h : dashboard.contents account = second.contents other) :
    dashboard.payload account = second.payload other := by
  obtain ⟨htitle, hwidgets, haccount⟩ := contents_eq_iff.1 h
  have hpayloads : dashboard.widgets.map (Widget.payload account) =
      dashboard.widgets.map (Widget.payload other) :=
    List.map_congr_left fun widget hwidget => by rw [haccount (List.ne_nil_of_mem hwidget)]
  rw [payload, payload, hpayloads, htitle, hwidgets]

/-- A payload carries the title, the widgets in order and the account of the widgets, and nothing
else: its contents are read back, and payloads are equal exactly if these are. -/
theorem payload_carries_contents :
    (∀ account dashboard, Contents.ofPayload? (payload account dashboard) =
      some ⟨dashboard.title, dashboard.widgets,
        if dashboard.widgets = [] then none else some account⟩) ∧
    ∀ account other dashboard second,
      payload account dashboard = payload other second ↔
        dashboard.title = second.title ∧ dashboard.widgets = second.widgets ∧
          (dashboard.widgets ≠ [] → account = other) := by
  refine ⟨fun account dashboard => ?_, fun account other dashboard second => ?_⟩
  · rw [Contents.ofPayload?_payload, contents]
    cases dashboard.widgets <;> simp
  · rw [← contents_eq_iff]
    refine ⟨fun h => ?_, payload_eq_of_contents_eq⟩
    have hread := Contents.ofPayload?_payload account dashboard
    rw [h, Contents.ofPayload?_payload] at hread
    exact (Option.some.inj hread).symm

end Dashboard

end Dashboards
