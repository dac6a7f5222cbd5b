import Dashboards.Config.Basic
import Dashboards.Error
import Dashboards.Filter.Basic
import Dashboards.Traced

/-!
# Resolving filters

A base filter is concrete as it is declared. An extending filter joins filters it refers to and
expressions of its own by `AND` or `OR`. Extending filters are resolved in passes: each pass
resolves, against the table before it, those whose references are all in the table, so chains of
extensions nest and do not depend on the order of declaration. A pass that resolves nothing ends the
work: what is left refers to something missing or goes round in a circle.
-/

namespace Dashboards

/-- A filter that waits for the filters it refers to. -/
structure ExtendingFilter where
  name : String
  operator : Filter.Operator
  /-- The filters it refers to, in order. -/
  references : List String
  /-- Its own expressions, in order. -/
  inline : List String
deriving DecidableEq, Inhabited

namespace ExtendingFilter

/-- Whether all filters it refers to are in the table. -/
def isReady (filter : ExtendingFilter) (resolved : FilterTable) : Bool :=
  filter.references.all resolved.contains

/-- An expression as one unit of a larger one. -/
def unit (nrql : String) : String :=
  "(" ++ nrql ++ ")"

/-- The filters that are referred to, or the first name that the table does not have. -/
def targets (filter : ExtendingFilter) (resolved : FilterTable) : Except Error (List Filter) :=
  filter.references.mapM fun name =>
    match resolved.get? name with
    | some target => .ok target
    | none => .error (.extendingFilter (.unresolvedReference filter.name name))

/-- The units that are joined: those of the references that restrict anything, and then the
filter's own. -/
def terms (filter : ExtendingFilter) (targets : List Filter) : List String :=
  targets.filterMap (fun target => target.nrql.map unit) ++ filter.inline.map unit

/-- The concrete filter. Its event is the event of the first filter it refers to. -/
def resolve (filter : ExtendingFilter) (resolved : FilterTable) : Except Error Filter := do
  let targets ← filter.targets resolved
  match targets with
  | [] => throw (.extendingFilter (.extendsNothing filter.name))
  | first :: _ =>
    let terms := filter.terms targets
    let nrql :=
      if terms.isEmpty then none
      else some ((" " ++ filter.operator.keyword ++ " ").intercalate terms)
    return Filter.make filter.name first.event nrql

end ExtendingFilter

namespace Filter

/-- Reads a base filter. It needs an event that is not blank. -/
def ofBase (name : String) (config : Config.Filter) : Except Error Filter :=
  match config.event.bind Text.nonBlank? with
  | some event => .ok (make name event config.nrql)
  | none => .error (.filter (.eventMissing name))

/-- An operand of an extending filter. -/
inductive Operand where
  | reference (name : String)
  | inline (nrql : String)
deriving DecidableEq

/-- The operand that a raw value is: a text that is not blank, or a mapping of one key, `filter` or
`condition`, to a name. -/
def Operand.ofValue? : Yaml.Value → Option Operand
  | .text text => (Text.nonBlank? text).map .inline
  | .mapping [(key, value)] =>
    match key.untagged.text?, value.untagged.text? with
    | some word, some name =>
      if word = "filter" ∨ word = "condition" then some (.reference name) else none
    | _, _ => none
  | _ => none

/-- The operator of a filter with its operands. Exactly one operator is given. -/
def operator? (config : Config.Filter) : Option (Operator × List Yaml.Value) :=
  match config.and, config.or with
  | some operands, none => some (.and, operands)
  | none, some operands => some (.or, operands)
  | _, _ => none

/-- The operands of a filter. -/
def readOperands (name : String) (values : List Yaml.Value) : Except Error (List Operand) :=
  values.mapM fun value =>
    match Operand.ofValue? value with
    | some operand => .ok operand
    | none => .error (.extendingFilter (.operand name value))

/-- The names among operands. -/
def Operand.references (operands : List Operand) : List String :=
  operands.filterMap fun
    | reference name => some name
    | inline _ => none

/-- The expressions among operands. -/
def Operand.inlines (operands : List Operand) : List String :=
  operands.filterMap fun
    | reference _ => none
    | inline nrql => some nrql

/-- Reads an extending filter. It has operands of one kind, among them a reference, and neither an
event nor an expression. -/
def ofExtending (name : String) (config : Config.Filter) : Except Error ExtendingFilter := do
  if config.event.isSome || config.nrql.isSome then
    throw (.extendingFilter (.definesFields name))
  match operator? config with
  | none => throw (.extendingFilter (.notOneOperator name))
  | some (operator, values) =>
    let operands ← readOperands name values
    let references := Operand.references operands
    if references.isEmpty then throw (.extendingFilter (.extendsNothing name))
    return { name, operator, references, inline := Operand.inlines operands }

/-- What is known of the filters before any is resolved: the base filters and those that wait. -/
structure Declared where
  base : FilterTable := Table.empty
  pending : List ExtendingFilter := []

/-- Reads the declarations in order. -/
def readDeclared : List (String × Config.Filter) → Declared → Except Error Declared
  | [], declared => .ok declared
  | (name, config) :: rest, declared => do
    if config.isExtending then
      let filter ← ofExtending name config
      readDeclared rest { declared with pending := declared.pending ++ [filter] }
    else
      let filter ← ofBase name config
      readDeclared rest { declared with base := declared.base.insert name filter }

/-- The table with some more filters. -/
def addAll (resolved : FilterTable) (filters : List Filter) : FilterTable :=
  filters.foldl (fun table filter => table.insert filter.name filter) resolved

/-- Resolves the filters that wait, in passes counted from `pass`. Each pass that resolves any
leaves fewer, so as many passes as filters suffice. -/
def resolvePasses : (fuel pass : Nat) → FilterTable → List ExtendingFilter →
    Traced Error FilterTable
  | _, _, resolved, [] => return resolved
  | 0, _, _, pending =>
    Traced.lift (.error (.extendingFilter (.unresolvable (pending.map (·.name)))))
  | fuel + 1, pass, resolved, pending => do
    let (ready, blocked) := pending.partition (·.isReady resolved)
    if ready.isEmpty then
      Traced.lift (.error (.extendingFilter (.unresolvable (blocked.map (·.name)))))
    else
      let batch ← Traced.lift (ready.mapM (·.resolve resolved))
      Traced.debug s!"Resolved {batch.length} extending filters in pass {pass}"
      resolvePasses fuel (pass + 1) (addAll resolved batch) blocked

/-- Resolves the filters that wait against a table. -/
def resolveAll (resolved : FilterTable) (pending : List ExtendingFilter) :
    Traced Error FilterTable :=
  resolvePasses pending.length 1 resolved pending

/-- The filters that a section declares. -/
def compile (configs : Table Config.Filter) : Traced Error FilterTable := do
  let declared ← Traced.lift (readDeclared configs.entries {})
  Traced.debug <|
    s!"Parsed {declared.base.size} base filters and {declared.pending.length} extending filters"
  resolveAll declared.base declared.pending

end Filter

end Dashboards
