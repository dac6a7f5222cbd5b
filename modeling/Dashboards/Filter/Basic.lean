import Dashboards.Table
import Dashboards.Text.Blank

/-!
# Filters

A filter selects rows of one type of events. Its expression is trimmed and not blank; a filter
without one selects all rows.
-/

namespace Dashboards

/-- A selection of rows of a type of events. -/
structure Filter where
  name : String
  event : String
  /-- The expression that a row has to satisfy; every row does if there is none. -/
  nrql : Option String
deriving DecidableEq, Inhabited

namespace Filter

/-- A filter with an expression as it is written. A blank expression is none. -/
def make (name event : String) (nrql : Option String) : Filter :=
  ⟨name, event, nrql.bind Text.nonBlank?⟩

/-- Whether a filter selects every row. -/
def matchesAll (filter : Filter) : Bool :=
  filter.nrql.isNone

/-- How the operands of an extending filter are joined. -/
inductive Operator where
  | and | or
deriving DecidableEq, Inhabited

/-- The word between two operands. -/
def Operator.keyword : Operator → String
  | and => "AND"
  | or => "OR"

/-- Both operators. -/
def Operator.all : List Operator := [.and, .or]

end Filter

/-- Filters by name. -/
abbrev FilterTable := Table Filter

end Dashboards
