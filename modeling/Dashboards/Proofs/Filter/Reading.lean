import Dashboards.Filter.Resolve
import Dashboards.Proofs.Sequence
import Dashboards.Proofs.Text

/-!
# What filters mean

The meaning of a filter is a formula over fragments of text (`Formula`), which has a text, each
operand between parentheses. `Declarations.reading?` follows the references of a declaration down to
base filters: a base filter reads as its own fragment, an extending filter as the formulas of the
filters it refers to, in order, and then its own fragments, joined by its operator. A filter without
a formula selects every row. References that go round in a circle have no reading: `reading?` is the
least function that satisfies its equation.
-/

namespace Dashboards

/-- A condition on rows: a fragment of text, or conditions joined by an operator. -/
inductive Formula where
  | fragment (nrql : String)
  | joined (operator : Filter.Operator) (operands : List Formula)

namespace Formula

mutual

/-- The text of a formula. The operands of an operator stand between parentheses. -/
def text : Formula → String
  | fragment nrql => nrql
  | joined operator operands => (" " ++ operator.keyword ++ " ").intercalate (texts operands)

/-- The texts of formulas, each between parentheses. -/
def texts : List Formula → List String
  | [] => []
  | operand :: rest => ("(" ++ operand.text ++ ")") :: texts rest

end

/-- `texts` in the natural form. -/
theorem texts_eq_map (operands : List Formula) :
    texts operands = operands.map fun operand => "(" ++ operand.text ++ ")" := by
  induction operands with
  | nil => rfl
  | cons operand rest ih => rw [texts, ih, List.map_cons]

/-- The formula that joins conditions, if there is any. -/
def join? (operator : Filter.Operator) (operands : List Formula) : Option Formula :=
  if operands.isEmpty then none else some (joined operator operands)

end Formula

/-- What a filter means: the type of its events, and the formula that a row has to satisfy; every
row does if there is none. -/
structure Reading where
  event : String
  formula : Option Formula

/-- The filter that a reading is, under a name. -/
def Reading.filter (reading : Reading) (name : String) : Filter :=
  ⟨name, reading.event, reading.formula.map Formula.text⟩

namespace Filter

/-- The operator of an extending filter with its operands, if all of them are operands. -/
def operands? (config : Config.Filter) : Option (Operator × List Operand) := do
  let (operator, values) ← operator? config
  return (operator, ← values.mapM Operand.ofValue?)

/-- What a base filter means: its trimmed event, and its trimmed fragment unless it is absent or
blank. -/
def baseReading? (config : Config.Filter) : Option Reading := do
  return ⟨← Text.trimmed? config.event, (Text.trimmed? config.nrql).map Formula.fragment⟩

/-- What an extending filter means, given what the filters mean that it refers to. -/
def joinedReading? (operator : Operator) (targets : List Reading) (inlines : List String) :
    Option Reading := do
  let first ← targets.head?
  return ⟨first.event,
    Formula.join? operator (targets.filterMap Reading.formula ++ inlines.map Formula.fragment)⟩

/-- The declaration of each name that is declared. -/
abbrev Declarations := String → Option Config.Filter

/-- What the filter of a name means among declarations. -/
def Declarations.reading? (declared : Declarations) (name : String) : Option Reading := do
  let config ← declared name
  if config.isExtending then
    let (operator, operands) ← operands? config
    let targets ← (Operand.references operands).mapM fun target => declared |>.reading? target
    joinedReading? operator targets (Operand.inlines operands)
  else
    baseReading? config
partial_fixpoint

variable {declared : Declarations} {name : String} {config : Config.Filter}

/-- A name that is not declared has no reading. -/
theorem reading?_eq_none (h : declared name = none) : declared.reading? name = none := by
  rw [Declarations.reading?, h]
  rfl

/-- A base filter reads as its own declaration. -/
theorem reading?_base (h : declared name = some config) (hbase : config.isExtending = false) :
    declared.reading? name = baseReading? config := by
  rw [Declarations.reading?, h]
  simp [hbase]

/-- An extending filter has a reading exactly if all its references have one, and it is then their
join with the fragments of the filter. -/
theorem reading?_extending_iff {operator : Operator} {operands : List Operand}
    {reading : Reading} (h : declared name = some config) (hext : config.isExtending = true)
    (hoperands : operands? config = some (operator, operands)) :
    declared.reading? name = some reading ↔
      ∃ targets, List.Forall₂ (fun target reading => declared.reading? target = some reading)
        (Operand.references operands) targets ∧
        joinedReading? operator targets (Operand.inlines operands) = some reading := by
  rw [Declarations.reading?, h]
  simp only [Option.bind_eq_bind, Option.bind_some, hext, if_true, hoperands]
  simp only [Option.bind_eq_some_iff, mapM_eq_some_iff]

/-- A filter that joins others has the event of the first, and joins their formulas and its own
fragments. -/
theorem joinedReading?_eq_some_iff {operator : Operator} {targets : List Reading}
    {inlines : List String} {reading : Reading} :
    joinedReading? operator targets inlines = some reading ↔
      ∃ first, targets.head? = some first ∧ reading = ⟨first.event,
        Formula.join? operator
          (targets.filterMap Reading.formula ++ inlines.map Formula.fragment)⟩ := by
  simp only [joinedReading?, Option.bind_eq_bind, Option.bind_eq_some_iff, Option.pure_def,
    Option.some.injEq, @eq_comm _ _ reading]

end Filter

end Dashboards
