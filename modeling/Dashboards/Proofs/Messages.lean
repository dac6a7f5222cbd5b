import Dashboards.Proofs.Filter.Malformed

/-!
# Names in messages

The errors of a compilation are about entries of the configuration (`Error.subjects`), and their
messages have the names of these entries in them, as they are written
(`Error.occurs_of_mem_subjects`). An error about a visualization that is not known is about no
entry: it has nothing but the text that was given.
-/

namespace Dashboards

/-! ## Texts in texts -/

namespace Text

/-- A text is somewhere in another. -/
def Occurs (part text : String) : Prop :=
  part.toList <:+: text.toList

instance (part text : String) : Decidable (Occurs part text) :=
  inferInstanceAs (Decidable (part.toList <:+: text.toList))

namespace Occurs

variable {part text first second : String}

theorem refl (text : String) : Occurs text text :=
  List.infix_refl _

theorem trans (h : Occurs part first) (h' : Occurs first second) : Occurs part second :=
  List.IsInfix.trans h h'

theorem append_left (h : Occurs part first) : Occurs part (first ++ second) :=
  h.trans ⟨[], second.toList, by simp⟩

theorem append_right (h : Occurs part second) : Occurs part (first ++ second) :=
  h.trans ⟨first.toList, [], by simp⟩

/-- A text is at the end of one that ends with it. -/
theorem last (first text : String) : Occurs text (first ++ text) :=
  (refl text).append_right

/-- A text of a list is in the text that joins the list. -/
theorem intercalate {parts : List String} (separator : String) (h : part ∈ parts) :
    Occurs part (separator.intercalate parts) := by
  induction parts with
  | nil => cases h
  | cons head rest ih =>
    cases rest with
    | nil =>
      rw [List.mem_singleton.1 h, String.intercalate_singleton]
      exact refl head
    | cons next rest =>
      rw [String.intercalate_cons_cons]
      rcases List.mem_cons.1 h with rfl | h
      · exact ((refl part).append_left).append_left
      · exact (ih h).append_right

end Occurs

end Text

/-! ## What errors are about -/

/-- The output selection that a fault is about. -/
def OutputFault.output : OutputFault → String
  | emptyList output | shape output _ | componentShape output _ | keyMissing output
  | body _ output _ | fieldMissing _ _ output | matchesAll _ output => output

/-- The query that a fault is about. -/
def QueryFault.query : QueryFault → String
  | fieldMissing _ query | notInline _ query | eventOrFilterMissing query
  | visualizationNotInline query | unknownComponent _ _ query | eventConflict _ query _ _ => query

/-- The reusable widget or the dashboard that a fault is about. -/
def WidgetFault.holder : WidgetFault → String
  | queryMissing widget | unknownQuery _ widget => widget
  | placementField _ dashboard | queryAndWidget dashboard | unknownWidget _ dashboard
  | unknownPlacedQuery _ dashboard => dashboard

/-- The names of the entries that an error of a compilation is about. -/
def Error.subjects : Error → List String
  | .filter (.eventMissing name) => [name]
  | .extendingFilter fault => fault.filters
  | .output fault => [fault.output]
  | .query fault => [fault.query]
  | .widget fault => [fault.holder]
  | .dashboard (.titleMissing name) => [name]
  | .visualization (.missing name) => [name]
  | _ => []

open Text

/-- The filters that a fault is about occur in its words. -/
theorem ExtendingFault.occurs_filters {fault : ExtendingFault} {name : String}
    (h : name ∈ fault.filters) : Occurs name fault.text := by
  cases fault with
  | unresolvable filters => exact (Occurs.intercalate ", " h).append_right
  | definesFields | notOneOperator | extendsNothing =>
    rw [List.mem_singleton.1 h]
    exact (Occurs.last _ _).append_left
  | operand | unresolvedReference =>
    rw [List.mem_singleton.1 h]
    exact (Occurs.last _ _).append_left.append_left

/-- The output selection that a fault is about occurs in its words. -/
theorem OutputFault.occurs_output (fault : OutputFault) : Occurs fault.output fault.text := by
  cases fault with
  | fieldMissing => exact Occurs.last _ _
  | matchesAll => exact (Occurs.last _ _).append_right
  | emptyList | keyMissing => exact (Occurs.last _ _).append_left
  | shape | componentShape | body => exact (Occurs.last _ _).append_left.append_left

/-- The query that a fault is about occurs in its words. -/
theorem QueryFault.occurs_query (fault : QueryFault) : Occurs fault.query fault.text := by
  cases fault with
  | eventConflict => exact (Occurs.last _ _).append_left.append_left.append_left.append_left
  | _ => exact Occurs.last _ _

/-- The widget or the dashboard that a fault is about occurs in its words. -/
theorem WidgetFault.occurs_holder (fault : WidgetFault) : Occurs fault.holder fault.text := by
  cases fault with
  | queryAndWidget => exact (Occurs.last _ _).append_left
  | _ => exact Occurs.last _ _

/-- An error that is about filters is about no other entries. -/
theorem Error.subjects_eq_filters {e : Error} (h : e.filters ≠ []) : e.subjects = e.filters := by
  cases e with
  | filter fault =>
    obtain ⟨filter⟩ := fault
    rfl
  | extendingFilter fault => rfl
  | _ => exact absurd rfl h

/-- The names of the entries that an error is about occur in its message. -/
theorem Error.occurs_of_mem_subjects {e : Error} {name : String} (h : name ∈ e.subjects) :
    Occurs name e.message := by
  cases e with
  | filter fault =>
    obtain ⟨filter⟩ := fault
    rw [List.mem_singleton.1 h]
    exact (Occurs.last _ _).append_right
  | extendingFilter fault => exact (ExtendingFault.occurs_filters h).append_right
  | output fault =>
    rw [List.mem_singleton.1 h]
    exact fault.occurs_output.append_right
  | query fault =>
    rw [List.mem_singleton.1 h]
    exact fault.occurs_query.append_right
  | widget fault =>
    rw [List.mem_singleton.1 h]
    exact fault.occurs_holder.append_right
  | dashboard fault =>
    obtain ⟨dashboard⟩ := fault
    rw [List.mem_singleton.1 h]
    exact (Occurs.last _ _).append_right
  | visualization fault =>
    cases fault with
    | missing display =>
      rw [List.mem_singleton.1 h]
      exact (Occurs.last _ _).append_right
    | unknown text => cases h
  | _ => cases h

end Dashboards
