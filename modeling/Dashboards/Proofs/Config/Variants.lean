import Dashboards.Proofs.Config.InPlace
import Dashboards.Proofs.Yaml.Variants

/-!
# Variants of configurations

A configuration can be written in several ways: some of its fields have two names, and a field that
is absent may as well be there with a null. The shape of a document says which keys mean which
fields (`Config.shape`). All variants of a document that declares a configuration declare the same
one (`ofDocument_variant`): a record that is read at once skips the nulls (`Filter.separate` and so
on), and a query in place, which is buffered before it is a query, puts them into fields that are
absent (`Query.ofEntries?_of_spelled`).

In a query in place an integer is the position of a field. A field whose position is a key is there,
though no key is spelled like it, and may not be added (`taken_position_is_refused`).
-/

namespace Dashboards.Config

open Yaml

/-! ## Shapes -/

/-- The shape of a filter. -/
def Filter.shape : Shape :=
  .record (Shape.ofFields Filter.fields fun _ => .value)

/-- The shape of a display. -/
def Display.shape : Shape :=
  .record (Shape.ofFields Display.fields fun _ => .value)

/-- The shape of a query. -/
def Query.shape : Shape :=
  .record (Shape.ofFields Query.fields fun _ => .value)

/-- The shape of a reference to a query, which may be a query that is buffered. -/
def QueryReference.shape : Shape :=
  .buffered (Shape.ofFields Query.fields fun _ => .value)

/-- The shape of the values of a record with a reference to a query. -/
def shapeBesidesQuery (name : String) : Shape :=
  if name = "query" then QueryReference.shape else .value

/-- The shape of a widget. -/
def Widget.shape : Shape :=
  .record (Shape.ofFields Widget.fields shapeBesidesQuery)

/-- The shape of a placement. -/
def Placement.shape : Shape :=
  .record (Shape.ofFields Placement.fields shapeBesidesQuery)

/-- The shape of a dashboard. -/
def Dashboard.shape : Shape :=
  .record (Shape.ofFields Dashboard.fields fun name =>
    if name = "widgets" then .items Placement.shape else .value)

/-- The shape of a section. -/
def sectionShape (name : String) : Shape :=
  if name = "filters" then .table Filter.shape
  else if name = "displays" then .table Display.shape
  else if name = "queries" then .table Query.shape
  else if name = "widgets" then .table Widget.shape
  else if name = "dashboards" then .table Dashboard.shape
  else .table .value

/-- The shape of a configuration. -/
def shape : Shape :=
  .record (Shape.ofFields fields sectionShape)

/-! ## Fields -/

open RecordField (invariant_plain skips_plain_iff independent_plain)

/-- A text that may be absent is read from variants alike. -/
theorem invariant_text {shape : Shape} : (Decoder.optional Decoder.text).Invariant shape :=
  (Decoder.invariant_ownText _).optional

/-- The operands of a filter are read from variants alike. -/
theorem invariant_operands :
    (Decoder.optional (Decoder.sequence (rawValue .document))).Invariant .value :=
  Decoder.Invariant.optional (Decoder.Invariant.sequence (invariant_rawValue .document))

theorem Filter.separate : RecordField.Separate Filter.fields (fun _ => .value) {} where
  invariant := by
    simp only [Filter.fields, List.forall_mem_cons]
    exact ⟨fun _ => invariant_plain invariant_text, fun _ => invariant_plain invariant_text,
      fun _ => invariant_plain invariant_operands, fun _ => invariant_plain invariant_operands,
      nofun⟩
  skips := by
    simp only [Filter.fields, List.forall_mem_cons]
    exact ⟨skips_plain_iff.2 rfl, skips_plain_iff.2 rfl, skips_plain_iff.2 rfl,
      skips_plain_iff.2 rfl, nofun⟩
  independent := by
    simp only [Filter.fields, List.pairwise_cons, List.forall_mem_cons]
    refine ⟨⟨?_, ?_, ?_, nofun⟩, ⟨?_, ?_, nofun⟩, ⟨?_, nofun⟩, nofun, .nil⟩
    all_goals exact independent_plain (by decide) fun _ _ _ => rfl

theorem Display.separate : RecordField.Separate Display.fields (fun _ => .value) {} where
  invariant := by
    simp only [Display.fields, List.forall_mem_cons]
    exact ⟨fun _ => invariant_plain invariant_text, fun _ => invariant_plain invariant_text, nofun⟩
  skips := by
    simp only [Display.fields, List.forall_mem_cons]
    exact ⟨skips_plain_iff.2 rfl, skips_plain_iff.2 rfl, nofun⟩
  independent := by
    simp only [Display.fields, List.pairwise_cons, List.forall_mem_cons]
    exact ⟨⟨independent_plain (by decide) fun _ _ _ => rfl, nofun⟩, nofun, .nil⟩

/-- Two fields of a query have different names, and it does not matter which one is put first. -/
def Query.TextField.Independent (field other : Query.TextField) : Prop :=
  field.name ≠ other.name ∧ ∀ query text text',
    field.put (other.put query text') text = other.put (field.put query text) text'

instance : Std.Symm Query.TextField.Independent where
  symm _ _ h := ⟨h.1.symm, fun query text text' => (h.2 query text' text).symm⟩

theorem Query.textFields_independent :
    Query.textFields.Pairwise Query.TextField.Independent := by
  simp [Query.textFields, Query.TextField.Independent]

/-- A query without texts has none in any field. -/
theorem Query.put_none : ∀ field ∈ Query.textFields, field.put {} none = {} := by
  simp [Query.textFields]

theorem Query.separate : RecordField.Separate Query.fields (fun _ => .value) {} where
  invariant := by
    simp only [Query.fields, List.forall_mem_map]
    exact fun _ _ _ => invariant_plain invariant_text
  skips := by
    simp only [Query.fields, List.forall_mem_map]
    exact fun field hfield => skips_plain_iff.2 (Query.put_none field hfield)
  independent := by
    rw [Query.fields, List.pairwise_map]
    exact Query.textFields_independent.imp fun h => independent_plain h.1 h.2

/-! ## Buffered queries -/

namespace Query

/-- The field of a query in a shape. -/
def TextField.shape (field : TextField) : ShapeField Shape :=
  ⟨field.name, field.spellings, .value⟩

/-- Fields of a query with one name are one. -/
theorem eq_of_name_eq {field other : TextField} (hfield : field ∈ textFields)
    (hother : other ∈ textFields) (hname : field.name = other.name) : field = other := by
  by_contra hne
  exact (textFields_independent.forall hfield hother hne).1 hname

/-- What a key means is a field of a query. -/
theorem mem_of_fieldOf? {key : Value} {field : TextField} (h : fieldOf? key = some field) :
    field ∈ textFields := by
  unfold fieldOf? at h
  split at h
  · exact List.mem_of_find?_eq_some h
  · exact List.mem_of_getElem? h
  · cases h

/-- The fields in the shape of a reference are those of a query. -/
theorem fields_shape : Shape.ofFields Query.fields (fun _ => .value) =
    textFields.map TextField.shape := by
  rw [Shape.ofFields, Query.fields, List.map_map]
  rfl

/-- A scalar that is not a text has no spelling of a field. -/
theorem find?_eq_none {style : ScalarStyle} {text : String}
    (h : ∀ spelling, (if style = .plain then Scalar.ofPlain text else .text text) ≠
      .text spelling) :
    (textFields.find? fun field => field.spellings.contains text) = none := by
  rw [List.find?_eq_none]
  intro field hfield hcontains
  have htext := ofPlain_spelling field hfield text (by simpa using hcontains)
  refine h text ?_
  rw [htext, ite_self]

/-- The field that a key means by its type: the one with a text as spelling, or the one at a
position. -/
def scalarField? : Scalar → Option TextField
  | .text spelling => fieldOf? (.text spelling)
  | .int n => fieldOf? (.int n)
  | _ => none

/-- In the shape of a reference a key means a field by its type. -/
theorem field?_scalar (mark : Mark) (anchor : Option Nat) (tag : Option Tag)
    (style : ScalarStyle) (text : String) :
    QueryReference.shape.field? (.scalar mark anchor tag style text) =
      (scalarField? (if style = .plain then Scalar.ofPlain text else .text text)).map
        TextField.shape := by
  have hfind : (QueryReference.shape.fields.find? fun field => field.spellings.contains text) =
      (textFields.find? fun field => field.spellings.contains text).map TextField.shape := by
    change (Shape.ofFields Query.fields fun _ => .value).find? _ = _
    rw [fields_shape, List.find?_map]
    rfl
  rw [Shape.field?.eq_def]
  dsimp only
  cases hscalar : (if style = .plain then Scalar.ofPlain text else .text text) with
  | text spelling =>
    have hspelling : spelling = text := by
      split at hscalar
      · exact eq_of_ofPlain_eq_text hscalar
      · exact (Scalar.text.inj hscalar).symm
    subst hspelling
    exact hfind
  | int n =>
    cases n with
    | ofNat position =>
      change (Shape.ofFields Query.fields fun _ => .value)[position]? =
        (textFields[position]?).map TextField.shape
      rw [fields_shape, List.getElem?_map]
    | negSucc n =>
      refine hfind.trans ?_
      rw [find?_eq_none (by rw [hscalar]; exact nofun)]
      rfl
  | null | bool | minusZero | float | wideInt =>
    refine hfind.trans ?_
    rw [find?_eq_none (by rw [hscalar]; exact nofun)]
    rfl

/-- The raw value of a key means the field that the key means by its type. -/
theorem fieldOf?_of_rawScalar {scalar : Scalar} {around : Surroundings} {followed followed' : Nat}
    {key : Value} (h : rawScalar .buffer scalar around followed = .ok (key, followed')) :
    fieldOf? key = scalarField? scalar := by
  cases scalar with
  | wideInt => cases h
  | null | bool | int | minusZero | float | text =>
    cases h
    rfl

/-- A key that is buffered means the field that its raw value means, and so does the key at another
place. -/
theorem field?_of_rawValue {key key' : Node} (hvariant : Variant .value key key') {depth : Nat}
    {path : Path} {around : Surroundings} {followed followed' : Nat} {raw : Value}
    (h : rawValue .buffer depth path key around followed = .ok (raw, followed')) :
    QueryReference.shape.field? key = (fieldOf? raw).map TextField.shape ∧
      QueryReference.shape.field? key' = (fieldOf? raw).map TextField.shape := by
  cases hvariant with
  | scalar =>
    rw [rawValue_untagged, Reading.placed_eq_ok_iff] at h
    rw [field?_scalar, field?_scalar, fieldOf?_of_rawScalar h]
    exact ⟨rfl, rfl⟩
  | sequence | mapping =>
    cases depth with
    | zero =>
      rw [rawValue.eq_def] at h
      cases h
    | succ depth =>
      simp only [rawValue_sequence, rawValue_mapping, Reading.placed_eq_ok_iff] at h
      obtain ⟨values, middle, -, h⟩ := Reading.bind_eq_ok_iff.1 h
      cases h
      exact ⟨rfl, rfl⟩

/-- A key that means a field has a raw value that means it, wherever the key is. -/
theorem exists_rawValue_of_field? {mark : Mark} {style : ScalarStyle} {text : String}
    {field : ShapeField Shape}
    (h : QueryReference.shape.field? (.scalar mark none none style text) = some field) :
    ∃ raw, (fieldOf? raw).map TextField.shape = some field ∧
      ∀ depth path around counted,
        rawValue .buffer depth path (.scalar mark none none style text) around counted =
          .ok (raw, counted) := by
  rw [field?_scalar] at h
  simp only [rawValue_untagged, Reading.placed_eq_ok_iff]
  generalize (if style = .plain then Scalar.ofPlain text else .text text) = scalar at h ⊢
  cases scalar with
  | text spelling => exact ⟨.text spelling, h, fun _ _ _ _ => rfl⟩
  | int n => exact ⟨.int n, h, fun _ _ _ _ => rfl⟩
  | null | bool | minusZero | float | wideInt => cases h

/-- Buffered pairs, and others whose keys mean the same fields, some perhaps added with null. -/
inductive Spelled : List (Value × Value) → List (Value × Value) → Prop
  | nil : Spelled [] []
  | same {key key' value : Value} {rest rest' : List (Value × Value)} :
    fieldOf? key' = fieldOf? key →
    Spelled rest rest' →
    Spelled ((key, value) :: rest) ((key', value) :: rest')
  | added {key : Value} {field : TextField} {rest rest' : List (Value × Value)} :
    fieldOf? key = some field →
    Spelled rest rest' →
    Spelled rest ((key, .null) :: rest')

/-- The names of the fields that buffered keys mean. -/
def bufferedNames (entries : List (Value × Value)) : List String :=
  entries.filterMap fun entry => (fieldOf? entry.1).map TextField.name

/-- Buffered pairs make a query if each key means a field that is not there before, and each value
is a text that may be absent. -/
theorem ofEntries?_cons_eq_some_iff {key value : Value} {rest : List (Value × Value)}
    {seen : List String} {query result : Query} :
    ofEntries? ((key, value) :: rest) seen query = some result ↔
      ∃ field text, fieldOf? key = some field ∧ field.name ∉ seen ∧
        optionalText? value = some text ∧
        ofEntries? rest (field.name :: seen) (field.put query text) = some result := by
  have hguard : ∀ name, (guard ((!seen.contains name) = true) : Option Unit) = some () ↔
      name ∉ seen := by
    intro name
    change (if (!seen.contains name) = true then some () else none) = some () ↔ _
    by_cases hseen : name ∈ seen <;> simp [hseen]
  change ((fieldOf? key).bind fun field =>
    (guard ((!seen.contains field.name) = true) : Option Unit).bind fun _ =>
      (optionalText? value).bind fun text =>
        ofEntries? rest (field.name :: seen) (field.put query text)) = some result ↔ _
  constructor
  · intro h
    obtain ⟨field, hfield, h⟩ := Option.bind_eq_some_iff.1 h
    obtain ⟨_, hnew, h⟩ := Option.bind_eq_some_iff.1 h
    obtain ⟨text, htext, hrest⟩ := Option.bind_eq_some_iff.1 h
    exact ⟨field, text, hfield, (hguard _).1 hnew, htext, hrest⟩
  · rintro ⟨field, text, hfield, hnew, htext, hrest⟩
    refine Option.bind_eq_some_iff.2 ⟨field, hfield, ?_⟩
    refine Option.bind_eq_some_iff.2 ⟨(), (hguard _).2 hnew, ?_⟩
    exact Option.bind_eq_some_iff.2 ⟨text, htext, hrest⟩

/-- The name of the field that the first key means is the first name. -/
theorem bufferedNames_cons {key value : Value} {field : TextField} (h : fieldOf? key = some field)
    (rest : List (Value × Value)) :
    bufferedNames ((key, value) :: rest) = field.name :: bufferedNames rest := by
  rw [bufferedNames, List.filterMap_cons, h]
  rfl

/-- Putting a text into a field leaves the others absent that are. -/
theorem absent_put {seen : List String} {query : Query}
    (habsent : ∀ field ∈ textFields, field.name ∉ seen → field.put query none = query)
    {field : TextField} (hfield : field ∈ textFields) (text : Option String) :
    ∀ other ∈ textFields, other.name ∉ field.name :: seen →
      other.put (field.put query text) none = field.put query text := by
  intro other hother hname
  rw [List.mem_cons, not_or] at hname
  have hne : other ≠ field := fun heq => hname.1 (congrArg TextField.name heq)
  rw [(textFields_independent.forall hother hfield hne).2, habsent other hother hname.2]

/-- Buffered pairs that make a query have each field once at most, and none that is there before. -/
theorem fresh_of_ofEntries? {entries : List (Value × Value)} {seen : List String}
    {query result : Query} (h : ofEntries? entries seen query = some result) :
    Fresh (bufferedNames entries) seen := by
  induction entries generalizing seen query with
  | nil => exact ⟨.nil, nofun⟩
  | cons entry rest ih =>
    obtain ⟨field, text, hfield, hnew, -, hrest⟩ := ofEntries?_cons_eq_some_iff.1 h
    rw [bufferedNames_cons hfield]
    exact fresh_cons_iff.2 ⟨hnew, ih hrest⟩

/-- Buffered pairs make the query that those make whose spelling they are. -/
theorem ofEntries?_of_spelled {entries entries' : List (Value × Value)}
    (h : Spelled entries entries') {seen seen' : List String}
    (hfresh : Fresh (bufferedNames entries') seen') {query result : Query}
    (habsent : ∀ field ∈ textFields, field.name ∉ seen' → field.put query none = query)
    (hread : ofEntries? entries seen query = some result) :
    ofEntries? entries' seen' query = some result := by
  induction h generalizing seen seen' query with
  | nil => exact hread
  | @same key key' value rest rest' hkey hrest ih =>
    obtain ⟨field, text, hfield, -, htext, hread⟩ := ofEntries?_cons_eq_some_iff.1 hread
    rw [hfield] at hkey
    rw [bufferedNames_cons hkey, fresh_cons_iff] at hfresh
    exact ofEntries?_cons_eq_some_iff.2 ⟨field, text, hkey, hfresh.1, htext,
      ih hfresh.2 (absent_put habsent (mem_of_fieldOf? hkey) text) hread⟩
  | @added key field rest rest' hkey hrest ih =>
    rw [bufferedNames_cons hkey, fresh_cons_iff] at hfresh
    have hfield := mem_of_fieldOf? hkey
    have hquery := habsent field hfield hfresh.1
    rw [← hquery] at hread
    exact ofEntries?_cons_eq_some_iff.2 ⟨field, none, hkey, hfresh.1, rfl,
      ih hfresh.2 (absent_put habsent hfield none) hread⟩

/-- The fields of a buffered query have values without fields. -/
theorem shape_of_field? {key : Node} {field : ShapeField Shape}
    (h : QueryReference.shape.field? key = some field) : field.shape = .value := by
  cases key with
  | scalar =>
    rw [field?_scalar, Option.map_eq_some_iff] at h
    obtain ⟨_, -, rfl⟩ := h
    rfl
  | sequence | mapping | reference | lost => cases h

/-- Under each key of a buffered query there are data without fields. -/
theorem under_shape (key : Node) : QueryReference.shape.under key = .value := by
  change ((QueryReference.shape.field? key).map ShapeField.shape).getD .value = .value
  cases hfield : QueryReference.shape.field? key with
  | none => rfl
  | some field => exact shape_of_field? hfield

/-- Keys that mean the same field in the shape mean the same field of a query. -/
theorem fieldOf?_eq_of_shape {key key' : Value} {field : ShapeField Shape}
    (h : (fieldOf? key).map TextField.shape = some field)
    (h' : (fieldOf? key').map TextField.shape = some field) : fieldOf? key' = fieldOf? key := by
  rw [Option.map_eq_some_iff] at h h'
  obtain ⟨found, hfound, rfl⟩ := h
  obtain ⟨other, hother, hsame⟩ := h'
  rw [hfound, hother, eq_of_name_eq (mem_of_fieldOf? hother) (mem_of_fieldOf? hfound)
    (congrArg ShapeField.name hsame)]

/-- The pairs of a query are buffered as raw values whose keys mean the same fields, wherever the
pairs are. -/
structure BuffersAs (depth : Nat) (entries : List (Node × Node)) (values : List (Value × Value)) :
    Prop where
  names : bufferedNames values = QueryReference.shape.names entries
  reads : ∀ path around counted reversed,
    rawEntries .buffer (rawValue .buffer depth) path entries reversed around counted =
      .ok (reversed.reverse ++ values, counted)

/-- The first keys mean the same field, and so the names are the same if the others are. -/
theorem bufferedNames_cons_eq {key value : Node} {k v : Value} {rest : List (Node × Node)}
    {values : List (Value × Value)}
    (hfield : QueryReference.shape.field? key = (fieldOf? k).map TextField.shape)
    (hrest : bufferedNames values = QueryReference.shape.names rest) :
    bufferedNames ((k, v) :: values) = QueryReference.shape.names ((key, value) :: rest) := by
  rw [bufferedNames, Shape.names] at hrest ⊢
  rw [List.filterMap_cons, List.filterMap_cons, hrest, hfield, Option.map_map]
  rfl

theorem BuffersAs.nil {depth : Nat} : BuffersAs depth [] [] where
  names := rfl
  reads _ _ _ reversed := by
    rw [List.append_nil]
    rfl

/-- A pair is buffered in front of others. -/
theorem BuffersAs.cons {depth : Nat} {key value : Node} {k v : Value} {rest : List (Node × Node)}
    {values : List (Value × Value)} (hlost : key ≠ .lost)
    (hkey : ∀ path around counted,
      rawValue .buffer depth path key around counted = .ok (k, counted))
    (hvalue : ∀ path around counted,
      rawValue .buffer depth path value around counted = .ok (v, counted))
    (hfield : QueryReference.shape.field? key = (fieldOf? k).map TextField.shape)
    (hrest : BuffersAs depth rest values) :
    BuffersAs depth ((key, value) :: rest) ((k, v) :: values) where
  names := bufferedNames_cons_eq hfield hrest.names
  reads path around counted reversed := by
    rw [rawEntries_buffer_cons hlost, Reading.bind_of_ok (hkey ..),
      Reading.bind_of_ok (hvalue ..), hrest.reads, List.reverse_cons, List.append_assoc]
    rfl

/-- Pairs of a query are buffered like those of which they are a variant, but for their spelling. -/
theorem exists_spelled_of_rawEntries {entries entries' : List (Node × Node)}
    (hvariant : VariantEntries QueryReference.shape entries entries') {depth : Nat} {path : Path}
    {around : Surroundings} {followed followed' : Nat} {reversed all : List (Value × Value)}
    (h : rawEntries .buffer (rawValue .buffer depth) path entries reversed around followed =
      .ok (all, followed')) :
    ∃ values values', all = reversed.reverse ++ values ∧
      bufferedNames values = QueryReference.shape.names entries ∧ Spelled values values' ∧
      BuffersAs depth entries' values' := by
  induction entries' generalizing entries reversed followed with
  | nil =>
    cases hvariant
    cases h
    exact ⟨[], [], (List.append_nil _).symm, rfl, .nil, .nil⟩
  | cons entry' rest' ih =>
    cases hvariant with
    | kept hkey hvalue hrest =>
      rw [under_shape] at hvalue
      rw [rawEntries_buffer_cons hkey.ne_lost.1] at h
      obtain ⟨k, middle, hk, h⟩ := Reading.bind_eq_ok_iff.1 h
      obtain ⟨v, middle', hv, h⟩ := Reading.bind_eq_ok_iff.1 h
      obtain ⟨values, values', rfl, hnames, hspelled, hbuffers⟩ := ih hrest h
      obtain ⟨hfield, hfield'⟩ := field?_of_rawValue hkey hk
      exact ⟨(k, v) :: values, (k, v) :: values', by simp, bufferedNames_cons_eq hfield hnames,
        .same rfl hspelled, hbuffers.cons hkey.ne_lost.2
          (invariant_rawValue _ _ _ hkey _ _ _ _ _ _ hk)
          (invariant_rawValue _ _ _ hvalue _ _ _ _ _ _ hv) hfield'⟩
    | @respelled _ mark _ style _ text _ _ _ _ _ _ hold hnew hvalue hrest =>
      have hlost : Node.scalar mark none none style text ≠ .lost := nofun
      rw [shape_of_field? hold] at hvalue
      rw [rawEntries_buffer_cons hlost] at h
      obtain ⟨k, middle, hk, h⟩ := Reading.bind_eq_ok_iff.1 h
      obtain ⟨v, middle', hv, h⟩ := Reading.bind_eq_ok_iff.1 h
      obtain ⟨values, values', rfl, hnames, hspelled, hbuffers⟩ := ih hrest h
      obtain ⟨k', hk', hread⟩ := exists_rawValue_of_field? hnew
      have hsame : Variant .value (.scalar mark none none style text)
          (.scalar mark none none style text) := .scalar
      have hfield := (field?_of_rawValue hsame hk).1
      exact ⟨(k, v) :: values, (k', v) :: values', by simp, bufferedNames_cons_eq hfield hnames,
        .same (fieldOf?_eq_of_shape (hfield.symm.trans hold) hk') hspelled,
        hbuffers.cons nofun (hread depth) (invariant_rawValue _ _ _ hvalue _ _ _ _ _ _ hv)
          (hnew.trans hk'.symm)⟩
    | added hnew hnull hrest =>
      obtain ⟨values, values', rfl, hnames, hspelled, hbuffers⟩ := ih hrest h
      obtain ⟨k', hk', hread⟩ := exists_rawValue_of_field? hnew
      obtain ⟨field, hfield, -⟩ := Option.map_eq_some_iff.1 hk'
      refine ⟨values, (k', .null) :: values', rfl, hnames, .added hfield hspelled,
        hbuffers.cons nofun (hread depth) (fun path around counted => ?_) (hnew.trans hk'.symm)⟩
      rw [rawValue_untagged, if_pos rfl, ofPlain_eq_null_iff.2 hnull]
      rfl

end Query

/-- What a reference to a query is read as is what its raw value is. -/
theorem QueryReference.decode_eq_ok_iff {depth : Nat} {path : Path} {node : Node}
    {around : Surroundings} {followed followed' : Nat} {reference : QueryReference} :
    QueryReference.decode depth path node around followed = .ok (reference, followed') ↔
      ∃ value, rawValue .buffer depth path node around followed = .ok (value, followed') ∧
        QueryReference.ofValue? value = some reference := by
  rw [QueryReference.decode, Reading.bind_eq_ok_iff]
  constructor
  · rintro ⟨value, middle, hvalue, h⟩
    refine ⟨value, ?_⟩
    cases hfound : QueryReference.ofValue? value with
    | none =>
      rw [hfound] at h
      cases h
    | some found =>
      rw [hfound] at h
      cases h
      exact ⟨hvalue, rfl⟩
  · rintro ⟨value, hvalue, hreference⟩
    refine ⟨value, followed', hvalue, ?_⟩
    rw [hreference]
    rfl

/-- A reference to a query is read from variants alike. -/
theorem QueryReference.invariant : QueryReference.decode.Invariant QueryReference.shape := by
  intro node node' hvariant depth path around followed reference followed' h path' around' counted
  rw [QueryReference.decode_eq_ok_iff] at h ⊢
  obtain ⟨value, hvalue, hreference⟩ := h
  cases hvariant with
  | scalar =>
    exact ⟨value, invariant_rawValue _ _ _ .scalar _ _ _ _ _ _ hvalue .., hreference⟩
  | sequence hitems =>
    exact ⟨value, invariant_rawValue _ _ _ (.sequence hitems) _ _ _ _ _ _ hvalue .., hreference⟩
  | mapping hentries hnodup =>
    cases depth with
    | zero =>
      rw [rawValue.eq_def] at hvalue
      cases hvalue
    | succ depth =>
      rw [rawValue_mapping, Reading.placed_eq_ok_iff] at hvalue
      obtain ⟨all, middle, hall, h⟩ := Reading.bind_eq_ok_iff.1 hvalue
      cases h
      obtain ⟨values, values', rfl, hnames, hspelled, hbuffers⟩ :=
        Query.exists_spelled_of_rawEntries hentries hall
      rw [QueryReference.ofValue?_mapping, Option.map_eq_some_iff] at hreference
      obtain ⟨query, hquery, rfl⟩ := hreference
      refine ⟨.mapping values', ?_, ?_⟩
      · rw [rawValue_mapping, Reading.placed_eq_ok_iff, Reading.bind_of_ok (hbuffers.reads ..)]
        rfl
      · have hold := (Query.fresh_of_ofEntries? hquery).nodup
        rw [hnames] at hold
        have hfresh : Fresh (Query.bufferedNames values') [] := by
          refine ⟨?_, fun _ _ => List.not_mem_nil⟩
          rw [hbuffers.names]
          exact hnodup hold
        rw [QueryReference.ofValue?_mapping, Query.ofEntries?_of_spelled hspelled hfresh ?_ hquery]
        · rfl
        · exact fun field hfield _ => Query.put_none field hfield

/-! ## Widgets, dashboards and documents -/

/-- A reference to a query that may be absent is read from variants alike. -/
theorem invariant_query : (Decoder.optional QueryReference.decode).Invariant
    (shapeBesidesQuery "query") :=
  QueryReference.invariant.optional

theorem Widget.separate : RecordField.Separate Widget.fields shapeBesidesQuery {} where
  invariant := by
    simp only [Widget.fields, List.forall_mem_cons]
    exact ⟨fun _ => invariant_plain invariant_query, fun _ => invariant_plain invariant_text,
      fun _ => invariant_plain invariant_text, nofun⟩
  skips := by
    simp only [Widget.fields, List.forall_mem_cons]
    exact ⟨skips_plain_iff.2 rfl, skips_plain_iff.2 rfl, skips_plain_iff.2 rfl, nofun⟩
  independent := by
    simp only [Widget.fields, List.pairwise_cons, List.forall_mem_cons]
    refine ⟨⟨?_, ?_, nofun⟩, ⟨?_, nofun⟩, nofun, .nil⟩
    all_goals exact independent_plain (by decide) fun _ _ _ => rfl

/-- A number that may be absent is read from variants alike. -/
theorem invariant_number {shape : Shape} :
    (Decoder.optional Decoder.unsigned32).Invariant shape :=
  Decoder.invariant_unsigned32.optional

theorem Placement.separate : RecordField.Separate Placement.fields shapeBesidesQuery {} where
  invariant := by
    simp only [Placement.fields, List.forall_mem_cons]
    exact ⟨fun _ => invariant_plain invariant_query, fun _ => invariant_plain invariant_text,
      fun _ => invariant_plain invariant_number, fun _ => invariant_plain invariant_number,
      fun _ => invariant_plain invariant_number, fun _ => invariant_plain invariant_number, nofun⟩
  skips := by
    simp only [Placement.fields, List.forall_mem_cons]
    refine ⟨?_, ?_, ?_, ?_, ?_, ?_, nofun⟩
    all_goals exact skips_plain_iff.2 rfl
  independent := by
    simp only [Placement.fields, List.pairwise_cons, List.forall_mem_cons]
    refine ⟨⟨?_, ?_, ?_, ?_, ?_, nofun⟩, ⟨?_, ?_, ?_, ?_, nofun⟩, ⟨?_, ?_, ?_, nofun⟩,
      ⟨?_, ?_, nofun⟩, ⟨?_, nofun⟩, nofun, .nil⟩
    all_goals exact independent_plain (by decide) fun _ _ _ => rfl

/-- The widgets of a dashboard are read from variants alike. -/
theorem invariant_placements : (Decoder.orDefault (Decoder.sequence Placement.decode)).Invariant
    (.items Placement.shape) :=
  Decoder.Invariant.orDefault (Decoder.Invariant.sequence
    (Decoder.invariant_record Placement.separate _))

theorem Dashboard.separate : RecordField.Separate Dashboard.fields (fun name =>
    if name = "widgets" then .items Placement.shape else .value) {} where
  invariant := by
    simp only [Dashboard.fields, List.forall_mem_cons]
    exact ⟨fun _ => invariant_plain invariant_text, fun _ => invariant_plain invariant_placements,
      nofun⟩
  skips := by
    simp only [Dashboard.fields, List.forall_mem_cons]
    exact ⟨skips_plain_iff.2 rfl, skips_plain_iff.2 rfl, nofun⟩
  independent := by
    simp only [Dashboard.fields, List.pairwise_cons, List.forall_mem_cons]
    exact ⟨⟨independent_plain (by decide) fun _ _ _ => rfl, nofun⟩, nofun, .nil⟩

/-- A section is read from variants alike if its records are. -/
theorem invariant_section {α : Type} {shape : Shape} {decode : Decoder α}
    (h : decode.Invariant shape) :
    (Decoder.orDefault (Decoder.table decode)).Invariant (.table shape) :=
  h.table.orDefault

theorem separate : RecordField.Separate fields sectionShape {} where
  invariant := by
    simp only [fields, List.forall_mem_cons]
    exact ⟨fun _ => invariant_plain
        (invariant_section (Decoder.invariant_record Filter.separate _)),
      fun _ => invariant_plain (invariant_section (invariant_rawValue _)),
      fun _ => invariant_plain (invariant_section (Decoder.invariant_record Display.separate _)),
      fun _ => invariant_plain (invariant_section (Decoder.invariant_record Query.separate _)),
      fun _ => invariant_plain (invariant_section (Decoder.invariant_record Widget.separate _)),
      fun _ => invariant_plain (invariant_section (Decoder.invariant_record Dashboard.separate _)),
      nofun⟩
  skips := by
    simp only [fields, List.forall_mem_cons]
    refine ⟨?_, ?_, ?_, ?_, ?_, ?_, nofun⟩
    all_goals exact skips_plain_iff.2 rfl
  independent := by
    simp only [fields, List.pairwise_cons, List.forall_mem_cons]
    refine ⟨⟨?_, ?_, ?_, ?_, ?_, nofun⟩, ⟨?_, ?_, ?_, ?_, nofun⟩, ⟨?_, ?_, ?_, nofun⟩,
      ⟨?_, ?_, nofun⟩, ⟨?_, nofun⟩, nofun, .nil⟩
    all_goals exact independent_plain (by decide) fun _ _ _ => rfl

/-- A document declares the same configuration if keys of its records are written another way that
means the same field, and if fields that a record does not have are added with a null. -/
theorem ofDocument_variant {document : Document} {root root' : Node} {config : Config}
    (hroot : document.root = some root) (hvariant : Variant shape root root')
    (h : ofDocument document = .ok config) :
    ofDocument { document with root := some root' } = .ok config := by
  have hdecode : (Decoder.orDefault decode).Invariant shape :=
    (Decoder.invariant_record separate _).orDefault
  rw [ofDocument, Document.read, hroot] at h
  obtain ⟨⟨result, counted⟩, hresult, hrest⟩ := bind_eq_ok_iff.1 h
  refine bind_eq_ok_iff.2 ⟨(result, 0), hdecode _ _ hvariant _ _ _ _ _ _ hresult .., ?_⟩
  exact hrest

/-- A query in a widget definition, with a filter under its other name. -/
def plainTree : Node :=
  .mapping default none none [(.scalar default none none .plain "widgets",
    .mapping default none none [(.scalar default none none .plain "count",
      .mapping default none none [(.scalar default none none .plain "query",
        .mapping default none none
          [(.scalar default none none .plain "condition",
            .scalar default none none .plain "shop")])])])]

/-- The same query, its filter under its own name and quoted, with a title that is null, in a tree
that has filters, which are null. -/
def variantTree : Node :=
  .mapping default none none
    [(.scalar default none none .plain "conditions", .scalar default none none .plain "~"),
      (.scalar default none none .plain "widgets",
        .mapping default none none [(.scalar default none none .plain "count",
          .mapping default none none [(.scalar default none none .plain "query",
            .mapping default none none
              [(.scalar default none none .doubleQuoted "filter",
                .scalar default none none .plain "shop"),
              (.scalar default none none .plain "title",
                .scalar default none none .plain "")])])])]

theorem variant_variantTree : Variant shape plainTree variantTree := by
  refine .mapping (.added rfl rfl (.kept .scalar ?_ .nil)) fun _ => by decide +kernel
  refine .mapping (.kept .scalar ?_ .nil) fun _ => by decide +kernel
  refine .mapping (.kept .scalar ?_ .nil) fun _ => by decide +kernel
  exact .mapping (.respelled rfl rfl .scalar (.added rfl rfl .nil)) fun _ => by decide +kernel

/-- The variant of a tree declares what the tree declares. -/
theorem ofDocument_variant_tree : ∃ config,
    ofDocument ⟨some plainTree, none, false⟩ = .ok config ∧
      config.widgets.entries = [("count", { query := some (.inline { filter := some "shop" }) })] ∧
      Variant shape plainTree variantTree ∧
      ofDocument ⟨some variantTree, none, false⟩ = .ok config := by
  have hplain : (ofDocument ⟨some plainTree, none, false⟩).toOption.map (·.widgets.entries) =
      some [("count", { query := some (.inline { filter := some "shop" }) })] := by
    decide +kernel
  obtain ⟨config, hconfig, hwidgets⟩ := exists_ok_of_toOption_map hplain
  have hvariant := ofDocument_variant rfl variant_variantTree hconfig
  exact ⟨config, hconfig, hwidgets, variant_variantTree, hvariant⟩

/-- Not every null may be added: in a query in place the position of a field may be taken. The title
is refused here although no key is spelled like it. -/
theorem taken_position_is_refused :
    (∃ config, ofText "widgets:\n  w:\n    query:\n      0: T\n" = .ok config ∧
      config.widgets.entries = [("w", { query := some (.inline { title := some "T" }) })]) ∧
    ∃ place, ofText "widgets:\n  w:\n    query:\n      0: T\n      title: ~\n" =
      .error (.mismatch .noReference place) := by
  have hread : (ofText "widgets:\n  w:\n    query:\n      0: T\n").toOption.map
      (·.widgets.entries) =
        some [("w", { query := some (.inline { title := some "T" }) })] := by
    decide +kernel
  have hrefused : QueryReference.refusal?
      (ofText "widgets:\n  w:\n    query:\n      0: T\n      title: ~\n") =
        some .noReference := by
    decide +kernel
  exact ⟨exists_ok_of_toOption_map hread, QueryReference.exists_place_of_refusal? hrefused⟩

end Dashboards.Config
