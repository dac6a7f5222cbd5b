import Dashboards.Output.Component
import Dashboards.Proofs.Sequence

/-!
# How the bodies of structured components are written

The body of a structured component is a mapping whose keys are `function`, `condition` and `label`,
each at most once, and whose values are texts or null, or it is null (`Body.Written`). Tags are
passed over, except on a null in a field. Reading takes the entries one after the other and keeps a
list of the fields that it has seen; it gives a body exactly if the body is written so
(`Body.ofValue_eq_ok_iff`).
-/

namespace Dashboards.OutputSelection.Body

/-- The text in a field of a body. -/
def get (body : Body) : Field → Option String
  | .function => body.function
  | .condition => body.condition
  | .label => body.label

/-- A value holds a text, or none if it is null. -/
inductive Holds : Yaml.Value → Option String → Prop
  | absent : Holds .null none
  | text {value : Yaml.Value} {text : String} : value.untagged = .text text →
      Holds value (some text)

/-- An entry of a body declares a field and what is in it. -/
inductive Declares : Yaml.Value × Yaml.Value → Field × Option String → Prop
  | function {key value : Yaml.Value} {text : Option String} :
      key.untagged = .text "function" → Holds value text → Declares (key, value) (.function, text)
  | condition {key value : Yaml.Value} {text : Option String} :
      key.untagged = .text "condition" → Holds value text → Declares (key, value) (.condition, text)
  | label {key value : Yaml.Value} {text : Option String} :
      key.untagged = .text "label" → Holds value text → Declares (key, value) (.label, text)

/-- What a value means as the body of a structured component. -/
inductive Written : Yaml.Value → Body → Prop
  | null {value : Yaml.Value} : value.untagged = .null → Written value {}
  | mapping {value : Yaml.Value} {entries : List (Yaml.Value × Yaml.Value)}
      {fields : List (Field × Option String)} {body : Body} :
      value.untagged = .mapping entries → List.Forall₂ Declares entries fields →
      (fields.map Prod.fst).Nodup →
      (∀ field, body.get field = (fields.lookup field).getD none) → Written value body

/-! ## Fields of bodies -/

/-- A body without fields has no texts. -/
@[simp]
theorem get_empty (field : Field) : get {} field = none := by
  cases field <;> rfl

/-- A text that is put into a field is in this field, and the others keep theirs. -/
theorem get_put (body : Body) (text : Option String) (field other : Field) :
    (body.put text field).get other = if other = field then text else body.get other := by
  cases field <;> cases other <;> rfl

/-- Bodies are the same if they have the same texts in their fields. -/
theorem eq_of_get {body body' : Body} (h : ∀ field, body.get field = body'.get field) :
    body = body' := by
  cases body
  cases body'
  rw [mk.injEq]
  exact ⟨h .function, h .condition, h .label⟩

/-! ## Reading bodies -/

/-- An entry declares a field exactly if its key is the name of the field. -/
theorem declares_iff {key value : Yaml.Value} {field : Field} {text : Option String} :
    Declares (key, value) (field, text) ↔
      key.untagged = .text field.name ∧ Holds value text := by
  constructor
  · rintro (⟨hkey, hvalue⟩ | ⟨hkey, hvalue⟩ | ⟨hkey, hvalue⟩) <;> exact ⟨hkey, hvalue⟩
  · rintro ⟨hkey, hvalue⟩
    cases field with
    | function => exact .function hkey hvalue
    | condition => exact .condition hkey hvalue
    | label => exact .label hkey hvalue

/-- A key means a field exactly if it is its name. -/
theorem Field.ofKey_eq_ok_iff {key : Yaml.Value} {field : Field} :
    ofKey key = .ok field ↔ key.untagged = .text field.name := by
  rw [ofKey]
  constructor
  · intro h
    split at h
    · next name hname =>
      split at h
      · next hfound =>
        cases h
        have hfield : field.name = name := by simpa using List.find?_some hfound
        rw [hname, hfield]
      · cases h
    · cases h
  · intro h
    rw [h]
    cases field <;> rfl

/-- A value is read as a text exactly if it holds it. -/
theorem text?_eq_ok_iff {value : Yaml.Value} {text : Option String} :
    text? value = .ok text ↔ Holds value text := by
  constructor
  · intro h
    rw [text?.eq_def] at h
    split at h
    · cases h
      exact .absent
    · split at h
      · next found hfound =>
        cases h
        exact .text hfound
      · cases h
  · intro h
    cases h with
    | absent => rfl
    | text hfound =>
      rw [text?]
      · rw [hfound]
      · rintro rfl
        cases hfound

/-- A field that is declared in front of others is put into a body before they are. -/
theorem getD_lookup_cons {fields : List (Field × Option String)} {field : Field}
    (h : field ∉ fields.map Prod.fst) (body : Body) (text : Option String) (other : Field) :
    (((field, text) :: fields).lookup other).getD (body.get other) =
      (fields.lookup other).getD ((body.put text field).get other) := by
  rw [List.lookup_cons, get_put]
  by_cases hother : other = field
  · subst hother
    have hnone : fields.lookup other = none := List.lookup_eq_none_iff.2 fun entry hentry => by
      simpa using fun heq => h (List.mem_map.2 ⟨entry, hentry, heq.symm⟩)
    simp [hnone]
  · have hne : (other == field) = false := by simpa using hother
    rw [hne, if_neg hother]

/-- Entries are read on top of a body exactly if they declare fields that are new and distinct. -/
theorem ofEntries_eq_ok_iff {entries : List (Yaml.Value × Yaml.Value)} {seen : List Field}
    {body result : Body} :
    ofEntries entries seen body = .ok result ↔
      ∃ fields, List.Forall₂ Declares entries fields ∧ (fields.map Prod.fst).Nodup ∧
        (∀ field ∈ seen, field ∉ fields.map Prod.fst) ∧
        ∀ field, result.get field = (fields.lookup field).getD (body.get field) := by
  induction entries generalizing seen body with
  | nil =>
    rw [ofEntries, Except.ok.injEq]
    constructor
    · rintro rfl
      exact ⟨[], .nil, List.nodup_nil, by simp, fun field => rfl⟩
    · rintro ⟨_, ⟨⟩, -, -, hget⟩
      exact eq_of_get fun field => (hget field).symm
  | cons entry rest ih =>
    obtain ⟨key, value⟩ := entry
    simp only [ofEntries, bind_eq_ok_iff, ite_throw_eq_ok_iff, Field.ofKey_eq_ok_iff,
      text?_eq_ok_iff, ih]
    constructor
    · rintro ⟨field, hkey, hseen, text, hvalue, fields, hrest, hnodup, hfresh, hget⟩
      have hnew : field ∉ fields.map Prod.fst := hfresh field (List.mem_cons_self ..)
      refine ⟨(field, text) :: fields, .cons (declares_iff.2 ⟨hkey, hvalue⟩) hrest,
        List.nodup_cons.2 ⟨hnew, hnodup⟩, ?_, ?_⟩
      · intro other hother
        rw [List.map_cons, List.mem_cons, not_or]
        refine ⟨?_, hfresh other (List.mem_cons_of_mem _ hother)⟩
        rintro rfl
        simp [hother] at hseen
      · intro other
        rw [getD_lookup_cons hnew, hget]
    · rintro ⟨_, _ | ⟨hdeclares, hrest⟩, hnodup, hfresh, hget⟩
      rename_i field fields
      obtain ⟨field, text⟩ := field
      obtain ⟨hkey, hvalue⟩ := declares_iff.1 hdeclares
      rw [List.map_cons, List.nodup_cons] at hnodup
      refine ⟨field, hkey, ?_, text, hvalue, fields, hrest, hnodup.2, ?_, ?_⟩
      · rw [← Bool.not_eq_true, List.contains_iff_mem]
        exact fun hseen => hfresh field hseen (List.mem_cons_self ..)
      · rw [List.forall_mem_cons]
        exact ⟨hnodup.1, fun other hother hmem => hfresh other hother (List.mem_cons_of_mem _ hmem)⟩
      · intro other
        rw [hget, getD_lookup_cons hnodup.1]

/-- A body is read exactly as it is written. -/
theorem ofValue_eq_ok_iff {value : Yaml.Value} {body : Body} :
    ofValue value = .ok body ↔ Written value body := by
  rw [ofValue]
  constructor
  · intro h
    split at h
    · next entries hvalue =>
      obtain ⟨fields, hfields, hnodup, -, hget⟩ := ofEntries_eq_ok_iff.1 h
      exact .mapping hvalue hfields hnodup (by simpa using hget)
    · next hvalue =>
      cases h
      exact .null hvalue
    · cases h
  · intro h
    cases h with
    | null hvalue => rw [hvalue]
    | mapping hvalue hfields hnodup hget =>
      rw [hvalue]
      exact ofEntries_eq_ok_iff.2 ⟨_, hfields, hnodup, by simp, by simpa using hget⟩

end Dashboards.OutputSelection.Body
