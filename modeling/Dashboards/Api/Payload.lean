import Dashboards.Dashboard.Basic
import Dashboards.Json.Basic

/-!
# Payloads

The interface takes a dashboard as a JSON object. It carries everything of the dashboard but its
name, and the account with every widget; what a document cannot say is the same for all dashboards.
The fields of each object are in alphabetical order.
-/

namespace Dashboards

/-- The place and the size of a widget, as the interface takes them. -/
def Layout.payload (layout : Layout) : Json :=
  .object [("column", .nat layout.column), ("height", .nat layout.height),
    ("row", .nat layout.row), ("width", .nat layout.width)]

/-- A widget of an account, as the interface takes it. -/
def Widget.payload (account : Nat) (widget : Widget) : Json :=
  .object [("account_id", .nat account),
    ("data", .array [.object [("nrql", .string widget.query)]]),
    ("layout", widget.layout.payload),
    ("presentation",
      .object [("notes", .optionalString widget.notes), ("title", .string widget.title)]),
    ("visualization", .string widget.visualization.jsonName)]

/-- A dashboard of an account, as the interface takes it. -/
def Dashboard.payload (account : Nat) (dashboard : Dashboard) : Json :=
  .object [("dashboard", .object [
    ("editable", .string "editable_by_all"),
    ("filter", .object []),
    ("icon", .string "usd"),
    ("metadata", .object [("version", .nat 1)]),
    ("title", .string dashboard.title),
    ("visibility", .string "all"),
    ("widgets", .array (dashboard.widgets.map (Widget.payload account)))])]

end Dashboards
