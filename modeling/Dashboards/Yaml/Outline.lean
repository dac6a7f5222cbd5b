import Dashboards.Text.Quoted
import Dashboards.Yaml.Value

/-!
# Outlines

An outline shows a raw value by its structure, on one line: a scalar with the name of its kind, and
a collection with its elements behind each other. Messages fall back on the outline of a value that
has no written form.
-/

namespace Dashboards.Yaml.Value

/-- Outlines behind each other, with commas between them. -/
def outlineRow (parts : List String) : String :=
  ", ".intercalate parts

mutual

/-- The outline of a value. -/
def outline : Value → String
  | null => "Null"
  | bool value => "Bool(" ++ (if value then "true" else "false") ++ ")"
  | int value => "Number(" ++ intText value ++ ")"
  | float value => "Number(" ++ NumberLayout.document.render value ++ ")"
  | text value => "String(" ++ Text.quote value ++ ")"
  | sequence items => "Sequence [" ++ outlineRow (outlineItems items) ++ "]"
  | mapping entries => "Mapping \x7b" ++ outlineRow (outlineEntries entries) ++ "\x7d"
  | tagged tag value =>
    "TaggedValue \x7b tag: " ++ tagText tag ++ ", value: " ++ outline value ++ " \x7d"

/-- The outlines of the elements of a sequence. -/
def outlineItems : List Value → List String
  | [] => []
  | item :: rest => outline item :: outlineItems rest

/-- The outlines of the entries of a mapping. A key that is a boolean, a number or a text goes
without the name of its kind. -/
def outlineEntries : List (Value × Value) → List String
  | [] => []
  | (key, value) :: rest =>
    let name := match key with
      | bool value => if value then "true" else "false"
      | int value => intText value
      | float value => NumberLayout.document.render value
      | text value => Text.quote value
      | key => outline key
    (name ++ ": " ++ outline value) :: outlineEntries rest

end

end Dashboards.Yaml.Value
