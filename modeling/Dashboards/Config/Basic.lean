import Dashboards.Table
import Dashboards.Yaml.Value

/-!
# Configurations

What a document declares, before any of it is given a meaning: six sections, each a table of
entries by name. All fields of an entry may be absent; the stage that needs a field says so and
names the entry. Output selections and the operands of filters are kept as raw values, since their
shape decides what they mean.
-/

namespace Dashboards.Config

/-- A filter: a base filter has an event and perhaps an expression, an extending filter a list of
operands. -/
structure Filter where
  event : Option String := none
  nrql : Option String := none
  and : Option (List Yaml.Value) := none
  or : Option (List Yaml.Value) := none
deriving Inhabited

/-- Whether a filter has operands. -/
def Filter.isExtending (config : Filter) : Bool :=
  config.and.isSome || config.or.isSome

/-- A display. -/
structure Display where
  nrql : Option String := none
  visualization : Option String := none
deriving DecidableEq, Inhabited

/-- A query, inline or put together from named components. -/
structure Query where
  title : Option String := none
  notes : Option String := none
  nrql : Option String := none
  visualization : Option String := none
  event : Option String := none
  filter : Option String := none
  output : Option String := none
  display : Option String := none
deriving DecidableEq, Inhabited

/-- A query by name or in place. -/
inductive QueryReference where
  | named (name : String)
  | inline (query : Query)
deriving DecidableEq, Inhabited

/-- A reusable widget. -/
structure Widget where
  query : Option QueryReference := none
  title : Option String := none
  notes : Option String := none
deriving DecidableEq, Inhabited

/-- A widget on a dashboard, by its query or by the name of a reusable widget. -/
structure Placement where
  query : Option QueryReference := none
  widget : Option String := none
  row : Option Nat := none
  column : Option Nat := none
  width : Option Nat := none
  height : Option Nat := none
deriving DecidableEq, Inhabited

/-- A dashboard. -/
structure Dashboard where
  title : Option String := none
  widgets : List Placement := []
deriving DecidableEq, Inhabited

end Config

/-- A whole configuration. -/
structure Config where
  filters : Table Config.Filter := Table.empty
  outputs : Table Yaml.Value := Table.empty
  displays : Table Config.Display := Table.empty
  queries : Table Config.Query := Table.empty
  widgets : Table Config.Widget := Table.empty
  dashboards : Table Config.Dashboard := Table.empty
deriving Inhabited

end Dashboards
