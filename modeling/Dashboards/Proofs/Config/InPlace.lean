import Dashboards.Config.Read
import Dashboards.Proofs.Sequence
import Dashboards.Proofs.Yaml.Reading

/-!
# Queries in place

A query is read from the `queries` section by the texts that its scalars show, and in place from a
buffered value, whose scalars have types. The two agree on a mapping whose values are null or texts
by their types, and on no other one (`QueryReference.decode_inPlace`): a title that looks like a
number is read in the section and refused in place (`year_refused_inPlace`).
-/

namespace Dashboards

open Yaml (Node Mark Path Value Scalar ScalarStyle Decoder Reading Surroundings Partial RecordField
  RawMode)

/-- A node has neither an anchor nor a tag, and is no alias. -/
def Yaml.Node.IsBare : Node → Prop
  | .scalar _ anchor tag _ _ => anchor = none ∧ tag = none
  | .sequence _ anchor tag _ => anchor = none ∧ tag = none
  | .mapping _ anchor tag _ => anchor = none ∧ tag = none
  | .reference .. | .lost => False

theorem Yaml.Node.IsBare.ne_lost {node : Node} (h : node.IsBare) : node ≠ .lost := by
  rintro rfl
  exact h

mutual

/-- A node without the places where it and what is in it are written. -/
def Yaml.Node.unplaced : Node → Node
  | .scalar _ anchor tag style text => .scalar default anchor tag style text
  | .sequence _ anchor tag items => .sequence default anchor tag (unplacedItems items)
  | .mapping _ anchor tag entries => .mapping default anchor tag (unplacedEntries entries)
  | .reference _ number => .reference default number
  | .lost => .lost

/-- The elements of a sequence without their places. -/
def Yaml.Node.unplacedItems : List Node → List Node
  | [] => []
  | item :: rest => item.unplaced :: unplacedItems rest

/-- The entries of a mapping without their places. -/
def Yaml.Node.unplacedEntries : List (Node × Node) → List (Node × Node)
  | [] => []
  | (key, value) :: rest => (key.unplaced, value.unplaced) :: unplacedEntries rest

end

/-- A node is a scalar whose type is null or a text. -/
def Yaml.Node.IsTextual : Node → Prop
  | .scalar _ _ tag style text =>
    Scalar.resolve tag false style text = .ok .null ∨
      Scalar.resolve tag false style text = .ok (.text text)
  | _ => False

namespace Config

variable {around : Surroundings} {followed : Nat} {depth : Nat} {path : Path} {mark : Mark}
  {style : ScalarStyle}

/-! ## Scalars -/

/-- The text that a scalar without a tag shows, if it is not null. -/
def shownText? (style : ScalarStyle) (text : String) : Option String :=
  if style = .plain ∧ (text.isEmpty || Scalar.isNullWord text.toList) = true then none
  else some text

/-- A scalar without a tag is read as the text that it shows. -/
theorem optional_text_scalar (text : String) :
    Decoder.optional Decoder.text depth path (.scalar mark none none style text) around followed =
      .ok (shownText? style text, followed) := by
  have hnull : Scalar.isNull style text = true ↔
      style = .plain ∧ (text.isEmpty || Scalar.isNullWord text.toList) = true := by
    simp [Scalar.isNull]
  rw [Yaml.optional_untagged]
  by_cases h : Scalar.isNull style text = true
  · rw [if_pos h, shownText?, if_pos (hnull.1 h)]
    rfl
  · rw [if_neg h, shownText?, if_neg (mt hnull.2 h)]
    rfl

/-- A scalar without a tag has the type that its text suggests, if it is plain. -/
theorem resolve_untagged (style : ScalarStyle) (text : String) :
    Scalar.resolve none false style text =
      .ok (if style = .plain then Scalar.ofPlain text else .text text) :=
  rfl

/-- An integer is neither null nor a text. -/
theorem sizedInt?_eq_some {cs : List Char} {scalar : Scalar}
    (h : Scalar.sizedInt? cs = some scalar) : scalar ≠ .null ∧ ∀ text, scalar ≠ .text text := by
  obtain ⟨n, -, hn⟩ := Option.bind_eq_some_iff.1 h
  repeat' split at hn
  all_goals cases hn
  all_goals exact ⟨nofun, nofun⟩

/-- A plain scalar is null exactly if nothing or a word for null is written. -/
theorem ofPlain_eq_null_iff {text : String} :
    Scalar.ofPlain text = .null ↔ (text.isEmpty || Scalar.isNullWord text.toList) = true := by
  have hempty : text.toList.isEmpty = text.isEmpty := by
    rw [Bool.eq_iff_iff, List.isEmpty_iff, String.isEmpty_iff, String.toList_eq_nil_iff]
  rw [← hempty]
  constructor
  · intro h
    rw [Scalar.ofPlain] at h
    split at h
    · assumption
    · split at h
      · cases h
      · exact absurd h (sizedInt?_eq_some ‹_›).1
      · split at h <;> cases h
  · intro h
    rw [Scalar.ofPlain, if_pos h]

/-- A plain scalar that is a text is its own. -/
theorem eq_of_ofPlain_eq_text {text found : String} (h : Scalar.ofPlain text = .text found) :
    found = text := by
  rw [Scalar.ofPlain] at h
  split at h
  · cases h
  · split at h
    · cases h
    · exact absurd h ((sizedInt?_eq_some ‹_›).2 found)
    · split at h <;> cases h
      rfl

/-- A scalar whose type is null or a text is buffered as the text that it shows. -/
theorem optionalText?_of_isTextual {text : String}
    (h : (Node.scalar mark none none style text).IsTextual) :
    ∃ value, optionalText? value = some (shownText? style text) ∧
      ∀ around followed depth path,
        Yaml.rawValue .buffer depth path (.scalar mark none none style text) around followed =
          .ok (value, followed) := by
  simp only [Node.IsTextual, resolve_untagged, Except.ok.injEq] at h
  rcases h with hnull | htext
  · refine ⟨.null, ?_, fun around followed depth path => by rw [Yaml.rawValue_untagged, hnull]; rfl⟩
    by_cases hstyle : style = .plain
    · rw [if_pos hstyle, ofPlain_eq_null_iff] at hnull
      rw [shownText?, if_pos ⟨hstyle, hnull⟩]
      rfl
    · rw [if_neg hstyle] at hnull
      cases hnull
  · refine ⟨.text text, ?_, fun around followed depth path => by
      rw [Yaml.rawValue_untagged, htext]; rfl⟩
    rw [shownText?, if_neg]
    · rfl
    · rintro ⟨hstyle, hempty⟩
      rw [if_pos hstyle, ofPlain_eq_null_iff.2 hempty] at htext
      cases htext

/-- A scalar of another type is not buffered as a text. -/
theorem optionalText?_of_not_isTextual {text : String} {value : Value} {followed' : Nat}
    (h : ¬ (Node.scalar mark none none style text).IsTextual)
    (hread : Yaml.rawValue .buffer depth path (.scalar mark none none style text) around followed =
      .ok (value, followed')) :
    optionalText? value = none := by
  simp only [Node.IsTextual, resolve_untagged, Except.ok.injEq, not_or] at h
  rw [Yaml.rawValue_untagged, Reading.placed_eq_ok_iff] at hread
  cases hscalar : (if style = .plain then Scalar.ofPlain text else Scalar.text text) with
  | null => exact absurd hscalar h.1
  | text found =>
    have hfound : found = text := by
      split at hscalar
      · exact eq_of_ofPlain_eq_text hscalar
      · exact (Scalar.text.inj hscalar).symm
    exact absurd (hfound ▸ hscalar) h.2
  | wideInt n =>
    rw [hscalar] at hread
    cases hread
  | bool | int | minusZero | float =>
    rw [hscalar] at hread
    cases hread
    rfl

/-! ## Entries -/

/-- The fields of a query. -/
def Query.fields : List (RecordField Query) :=
  Query.textFields.map fun field => (textField field.name field.put).spelled field.spellings

/-- A bare node that is read by its own text is a scalar. -/
theorem ownText_of_isBare {node : Node} (hbare : node.IsBare) {expected text : String}
    {followed' : Nat}
    (h : Decoder.ownText expected depth path node around followed = .ok (text, followed')) :
    (∃ mark style, node = .scalar mark none none style text) ∧ followed' = followed := by
  cases node with
  | scalar mark anchor tag style shown =>
    obtain ⟨rfl, rfl⟩ := hbare
    cases h
    exact ⟨⟨mark, style, rfl⟩, rfl⟩
  | sequence | mapping =>
    simp only [Yaml.ownText_sequence, Yaml.ownText_mapping] at h
    exact absurd h Yaml.refuse_ne_ok
  | reference | lost => exact absurd hbare id

/-- A bare key of a record is a scalar with a spelling of a field that is not read yet. -/
theorem fieldKey_of_isBare {ρ : Type} {fields : List (RecordField ρ)} {part : Partial ρ}
    {node : Node} (hbare : node.IsBare) {field : RecordField ρ} {followed' : Nat}
    (h : Decoder.fieldKey fields part depth path node around followed = .ok (field, followed')) :
    ∃ mark style spelling, node = .scalar mark none none style spelling ∧
      RecordField.find? fields spelling = some field ∧ part.seen.contains field.name = false ∧
      followed' = followed := by
  cases node with
  | scalar mark anchor tag style spelling =>
    obtain ⟨rfl, rfl⟩ := hbare
    obtain ⟨_, hfound, hseen, hresult⟩ := Decoder.fieldKey_scalar_eq_ok_iff.1 h
    cases hresult
    exact ⟨mark, style, spelling, rfl, hfound, by simpa using hseen, rfl⟩
  | sequence | mapping =>
    obtain ⟨_, _, hfollow, hread⟩ := Reading.bind_eq_ok_iff.1 h
    cases hfollow
    obtain ⟨_, _, hspelling, -⟩ := Reading.bind_eq_ok_iff.1 hread
    simp only [Yaml.ownText_sequence, Yaml.ownText_mapping] at hspelling
    exact absurd hspelling Yaml.refuse_ne_ok
  | reference | lost => exact absurd hbare id

/-- The field of a spelling is the text field of the spelling. -/
theorem find?_fields (spelling : String) :
    RecordField.find? Query.fields spelling =
      (Query.textFields.find? fun field => field.spellings.contains spelling).map fun field =>
        (textField field.name field.put).spelled field.spellings := by
  rw [RecordField.find?, Query.fields, List.find?_map]
  rfl

/-- A bare value that is read as an optional text is a scalar. -/
theorem optional_text_of_isBare {node : Node} (hbare : node.IsBare) {shown : Option String}
    {followed' : Nat}
    (h : Decoder.optional Decoder.text depth path node around followed = .ok (shown, followed')) :
    (∃ mark style text, node = .scalar mark none none style text ∧
      shown = shownText? style text) ∧ followed' = followed := by
  cases node with
  | scalar mark anchor tag style text =>
    obtain ⟨rfl, rfl⟩ := hbare
    rw [optional_text_scalar] at h
    cases h
    exact ⟨⟨mark, style, text, rfl, rfl⟩, rfl⟩
  | sequence | mapping =>
    simp only [Yaml.optional_sequence, Yaml.optional_mapping] at h
    obtain ⟨text, middle, htext, -⟩ := Reading.bind_eq_ok_iff.1 h
    obtain ⟨⟨_, _, hnode⟩, -⟩ := ownText_of_isBare hbare htext
    cases hnode
  | reference | lost => exact absurd hbare id

/-- A query is read from bare entries by the texts that they show, behind fields that are read. -/
inductive Query.Read : List (Node × Node) → List String → Query → Query → Prop
  | nil {seen : List String} {query : Query} : Read [] seen query query
  | cons {keyMark mark : Mark} {keyStyle style : ScalarStyle} {spelling text : String}
      {rest : List (Node × Node)} {seen : List String} {query result : Query}
      {field : Query.TextField} :
      (Query.textFields.find? fun field => field.spellings.contains spelling) = some field →
      seen.contains field.name = false →
      Read rest (field.name :: seen) (field.put query (shownText? style text)) result →
      Read ((.scalar keyMark none none keyStyle spelling, .scalar mark none none style text) ::
        rest) seen query result

/-- Bare entries from which a query is read show it. -/
theorem Query.read_of_foldEntries {entries : List (Node × Node)}
    (hbare : ∀ entry ∈ entries, entry.1.IsBare ∧ entry.2.IsBare) {part result : Partial Query}
    {followed' : Nat}
    (h : Decoder.foldEntries (Decoder.fieldKey Query.fields) Decoder.fieldValue depth path entries
      part around followed = .ok (result, followed')) :
    Query.Read entries part.seen part.record result.record := by
  induction entries generalizing part followed with
  | nil =>
    cases h
    exact .nil
  | cons entry rest ih =>
    obtain ⟨key, value⟩ := entry
    obtain ⟨hbareKey, hbareValue⟩ := hbare _ (List.mem_cons_self ..)
    rw [Decoder.foldEntries_cons hbareKey.ne_lost] at h
    obtain ⟨found, middle, hfound, hvalue⟩ := Reading.bind_eq_ok_iff.1 h
    obtain ⟨keyMark, keyStyle, spelling, rfl, hspelling, hseen, rfl⟩ :=
      fieldKey_of_isBare hbareKey hfound
    rw [find?_fields, Option.map_eq_some_iff] at hspelling
    obtain ⟨field, hfield, rfl⟩ := hspelling
    obtain ⟨next, middle', hnext, hrest⟩ := Reading.bind_eq_ok_iff.1 hvalue
    obtain ⟨record, middle₁, hrecord, hpart⟩ := Reading.bind_eq_ok_iff.1 hnext
    obtain ⟨shown, middle₂, hshown, hput⟩ := Reading.bind_eq_ok_iff.1 hrecord
    obtain ⟨⟨mark, style, text, rfl, rfl⟩, rfl⟩ := optional_text_of_isBare hbareValue hshown
    cases hput
    cases hpart
    exact .cons hfield hseen (ih (fun entry hentry => hbare entry (List.mem_cons_of_mem _ hentry))
      hrest)

/-! ## Buffered entries -/

/-- A spelling of a field is a text, also if it is plain. -/
theorem ofPlain_spelling :
    ∀ field ∈ Query.textFields, ∀ spelling ∈ field.spellings,
      Scalar.ofPlain spelling = .text spelling := by
  decide +kernel

/-- A key of a query is buffered as its spelling. -/
theorem rawValue_spelling {spelling : String} {field : Query.TextField}
    (hfield : (Query.textFields.find? fun field => field.spellings.contains spelling) =
      some field) :
    Yaml.rawValue .buffer depth path (.scalar mark none none style spelling) around followed =
      .ok (.text spelling, followed) := by
  have hspelling : Scalar.ofPlain spelling = .text spelling :=
    ofPlain_spelling field (List.mem_of_find?_eq_some hfield) spelling
      (by simpa using List.find?_some hfield)
  rw [Yaml.rawValue_untagged, hspelling, ite_self]
  rfl

/-- A buffered entry puts its text into its field. -/
theorem ofEntries?_cons {spelling : String} {field : Query.TextField} {seen : List String}
    (hfield : (Query.textFields.find? fun field => field.spellings.contains spelling) = some field)
    (hseen : seen.contains field.name = false) (value : Value) (rest : List (Value × Value))
    (query : Query) :
    Query.ofEntries? ((.text spelling, value) :: rest) seen query =
      (optionalText? value).bind fun text =>
        Query.ofEntries? rest (field.name :: seen) (field.put query text) := by
  have hguard : (guard ((!seen.contains field.name) = true) : Option Unit) = some () :=
    if_pos (by rw [hseen]; rfl)
  change ((Query.textFields.find? fun field => field.spellings.contains spelling).bind
    fun field => (guard ((!seen.contains field.name) = true) : Option Unit).bind fun _ =>
      (optionalText? value).bind fun text =>
        Query.ofEntries? rest (field.name :: seen) (field.put query text)) = _
  rw [hfield]
  exact congrArg (fun passed : Option Unit => passed.bind fun _ => (optionalText? value).bind
    fun text => Query.ofEntries? rest (field.name :: seen) (field.put query text)) hguard

variable {entries : List (Node × Node)} {seen : List String} {query result : Query}

/-- Entries that show a query are buffered as entries that make it, if their values are null or
texts. -/
theorem Query.ofEntries?_of_isTextual (h : Query.Read entries seen query result)
    (htextual : ∀ entry ∈ entries, entry.2.IsTextual) :
    ∃ values, Query.ofEntries? values seen query = some result ∧
      ∀ around followed depth path reversed,
        Yaml.rawEntries .buffer (Yaml.rawValue .buffer depth) path entries reversed around
          followed = .ok (reversed.reverse ++ values, followed) := by
  induction h with
  | nil => exact ⟨[], rfl, fun _ _ _ _ reversed => by rw [List.append_nil]; rfl⟩
  | @cons keyMark mark keyStyle style spelling text rest seen query result field hfield hseen
      hrest ih =>
    obtain ⟨values, hvalues, hread⟩ := ih fun entry hentry =>
      htextual entry (List.mem_cons_of_mem _ hentry)
    obtain ⟨value, hvalue, hraw⟩ :=
      optionalText?_of_isTextual (htextual _ (List.mem_cons_self ..))
    refine ⟨(.text spelling, value) :: values, ?_, fun around followed depth path reversed => ?_⟩
    · rw [ofEntries?_cons hfield hseen, hvalue]
      exact hvalues
    · have hkey : Node.scalar keyMark none none keyStyle spelling ≠ .lost := nofun
      rw [Yaml.rawEntries_buffer_cons hkey, Reading.bind_eq_ok_iff]
      refine ⟨_, _, rawValue_spelling hfield, Reading.bind_eq_ok_iff.2 ⟨_, _, hraw .., ?_⟩⟩
      rw [hread, List.reverse_cons, List.append_assoc]
      rfl

/-- Entries that show a query and are buffered make no query, unless all their values are null or
texts. -/
theorem Query.isTextual_of_ofEntries? (h : Query.Read entries seen query result)
    {reversed all : List (Value × Value)} {followed' : Nat}
    (hread : Yaml.rawEntries .buffer (Yaml.rawValue .buffer depth) path entries reversed around
      followed = .ok (all, followed')) :
    ∃ values, all = reversed.reverse ++ values ∧
      (Query.ofEntries? values seen query = none ∨ ∀ entry ∈ entries, entry.2.IsTextual) := by
  induction h generalizing followed reversed with
  | nil =>
    cases hread
    exact ⟨[], (List.append_nil _).symm, .inr nofun⟩
  | @cons keyMark mark keyStyle style spelling text rest seen query result field hfield hseen
      hrest ih =>
    have hkey : Node.scalar keyMark none none keyStyle spelling ≠ .lost := nofun
    rw [Yaml.rawEntries_buffer_cons hkey] at hread
    obtain ⟨key, middle, hspelling, hread⟩ := Reading.bind_eq_ok_iff.1 hread
    rw [rawValue_spelling hfield] at hspelling
    cases hspelling
    obtain ⟨value, middle', hvalue, hread⟩ := Reading.bind_eq_ok_iff.1 hread
    obtain ⟨values, rfl, hvalues⟩ := ih hread
    refine ⟨(.text spelling, value) :: values, by simp, ?_⟩
    rw [ofEntries?_cons hfield hseen]
    by_cases htextual : (Node.scalar mark none none style text).IsTextual
    · obtain ⟨value', hvalue', hraw⟩ := optionalText?_of_isTextual htextual
      rw [hraw] at hvalue
      cases hvalue
      rw [hvalue']
      exact hvalues.imp id fun hall => List.forall_mem_cons.2 ⟨htextual, hall⟩
    · rw [optionalText?_of_not_isTextual htextual hvalue]
      exact .inl rfl

/-! ## References -/

/-- A node that is a scalar but for its place is a scalar. -/
theorem eq_scalar_of_unplaced {node : Node} {text : String}
    (h : node.unplaced = (Node.scalar mark none none style text).unplaced) :
    ∃ mark', node = .scalar mark' none none style text := by
  cases node with
  | scalar mark' anchor tag style' text' =>
    simp only [Node.unplaced, Node.scalar.injEq, true_and] at h
    obtain ⟨rfl, rfl, rfl, rfl⟩ := h
    exact ⟨mark', rfl⟩
  | sequence | mapping | reference | lost => simp [Node.unplaced] at h

/-- Entries show the same wherever they are written. -/
theorem Query.Read.of_unplaced (h : Query.Read entries seen query result)
    {entries' : List (Node × Node)}
    (hsame : Node.unplacedEntries entries' = Node.unplacedEntries entries) :
    Query.Read entries' seen query result := by
  induction h generalizing entries' with
  | nil =>
    cases entries' with
    | nil => exact .nil
    | cons => simp [Node.unplacedEntries] at hsame
  | cons hfield hseen hrest ih =>
    cases entries' with
    | nil => simp [Node.unplacedEntries] at hsame
    | cons entry rest' =>
      obtain ⟨key, value⟩ := entry
      simp only [Node.unplacedEntries, List.cons.injEq, Prod.mk.injEq] at hsame
      obtain ⟨⟨hkey, hvalue⟩, hrest'⟩ := hsame
      obtain ⟨keyMark', rfl⟩ := eq_scalar_of_unplaced hkey
      obtain ⟨mark', rfl⟩ := eq_scalar_of_unplaced hvalue
      exact .cons hfield hseen (ih hrest')

/-- The types of values are the same wherever they are written. -/
theorem isTextual_unplacedEntries {entries : List (Node × Node)} :
    (∀ entry ∈ Node.unplacedEntries entries, entry.2.IsTextual) ↔
      ∀ entry ∈ entries, entry.2.IsTextual := by
  induction entries with
  | nil => exact ⟨fun _ => nofun, fun _ => nofun⟩
  | cons entry rest ih =>
    obtain ⟨key, value⟩ := entry
    have hvalue : value.unplaced.IsTextual ↔ value.IsTextual := by
      cases value <;> exact Iff.rfl
    rw [Node.unplacedEntries, List.forall_mem_cons, List.forall_mem_cons, ih, hvalue]

/-- What is read as a query from bare entries shows it. -/
theorem Query.read_of_decode (hbare : ∀ entry ∈ entries, entry.1.IsBare ∧ entry.2.IsBare)
    {followed' : Nat}
    (h : Query.decode depth path (.mapping mark none none entries) around followed =
      .ok (query, followed')) :
    Query.Read entries [] {} query := by
  obtain ⟨part, middle, hmapping, hquery⟩ := Reading.bind_eq_ok_iff.1 h
  cases hquery
  cases depth with
  | zero => cases hmapping
  | succ depth =>
    change Reading.placed mark path (Decoder.foldEntries (Decoder.fieldKey Query.fields)
      Decoder.fieldValue depth path entries ⟨{}, []⟩) around followed = _ at hmapping
    exact Query.read_of_foldEntries hbare (Reading.placed_eq_ok_iff.1 hmapping)

namespace QueryReference

/-- A buffered mapping is a query in place or nothing. -/
theorem ofValue?_mapping (values : List (Value × Value)) :
    ofValue? (.mapping values) = (Query.ofEntries? values [] {}).map .inline :=
  rfl

/-- Entries that show a query are read as the query in place if their values are null or texts. -/
theorem decode_of_isTextual (h : Query.Read entries [] {} query)
    (htextual : ∀ entry ∈ entries, entry.2.IsTextual) :
    decode (depth + 1) path (.mapping mark none none entries) around followed =
      .ok (.inline query, followed) := by
  obtain ⟨values, hvalues, hraw⟩ := Query.ofEntries?_of_isTextual h htextual
  refine Reading.bind_eq_ok_iff.2 ⟨.mapping values, followed, ?_, ?_⟩
  · rw [Yaml.rawValue_mapping, Reading.placed_eq_ok_iff]
    exact Reading.bind_eq_ok_iff.2 ⟨values, followed, hraw .., rfl⟩
  · rw [ofValue?_mapping, hvalues]
    rfl

/-- Entries that show a query are read in place only if their values are null or texts. -/
theorem isTextual_of_decode (h : Query.Read entries [] {} query)
    {result : QueryReference × Nat}
    (hdecode : decode (depth + 1) path (.mapping mark none none entries) around followed =
      .ok result) :
    ∀ entry ∈ entries, entry.2.IsTextual := by
  obtain ⟨value, middle, hvalue, hreference⟩ := Reading.bind_eq_ok_iff.1 hdecode
  rw [Yaml.rawValue_mapping, Reading.placed_eq_ok_iff] at hvalue
  obtain ⟨all, middle', hraw, hall⟩ := Reading.bind_eq_ok_iff.1 hvalue
  cases hall
  obtain ⟨values, rfl, hnone | htextual⟩ := Query.isTextual_of_ofEntries? h hraw
  · rw [ofValue?_mapping, hnone] at hreference
    cases hreference
  · exact htextual

/-- A bare mapping that is read as a query is read as the same query in place, wherever that is, if
all its values are null or texts by their types. Else it is refused in place. -/
theorem decode_inPlace (hbare : ∀ entry ∈ entries, entry.1.IsBare ∧ entry.2.IsBare)
    {followed' : Nat}
    (hread : Query.decode depth path (.mapping mark none none entries) around followed =
      .ok (query, followed'))
    {node : Node} (hsame : node.unplaced = (Node.mapping mark none none entries).unplaced)
    (depth' : Nat) (path' : Path) (around' : Surroundings) (counted : Nat) :
    ((∀ entry ∈ entries, entry.2.IsTextual) →
      Decoder.optional decode (depth' + 1) path' node around' counted =
        .ok (some (.inline query), counted)) ∧
    ((∃ entry ∈ entries, ¬ entry.2.IsTextual) →
      ∃ e, Decoder.optional decode (depth' + 1) path' node around' counted = .error e) := by
  obtain ⟨mark', entries', rfl, hentries⟩ : ∃ mark' entries',
      node = .mapping mark' none none entries' ∧
        Node.unplacedEntries entries' = Node.unplacedEntries entries := by
    cases node with
    | mapping mark' anchor tag entries' =>
      simp only [Node.unplaced, Node.mapping.injEq, true_and] at hsame
      obtain ⟨rfl, rfl, hentries⟩ := hsame
      exact ⟨mark', entries', rfl, hentries⟩
    | scalar | sequence | reference | lost => simp [Node.unplaced] at hsame
  have hshown := (Query.read_of_decode hbare hread).of_unplaced hentries
  have htypes : (∀ entry ∈ entries', entry.2.IsTextual) ↔ ∀ entry ∈ entries, entry.2.IsTextual := by
    rw [← isTextual_unplacedEntries, hentries, isTextual_unplacedEntries]
  rw [Yaml.optional_mapping]
  constructor
  · intro htextual
    exact Reading.bind_eq_ok_iff.2
      ⟨.inline query, counted, decode_of_isTextual hshown (htypes.2 htextual), rfl⟩
  · rintro ⟨entry, hentry, hother⟩
    cases hresult : (do
      return some (← decode (depth' + 1) path' (.mapping mark' none none entries')) :
        Reading (Option QueryReference)) around' counted with
    | error e => exact ⟨e, rfl⟩
    | ok result =>
      obtain ⟨reference, middle, hdecode, -⟩ := Reading.bind_eq_ok_iff.1 hresult
      exact absurd (htypes.1 (isTextual_of_decode hshown hdecode) entry hentry) hother

/-- A query whose title is quoted and whose notes are null. -/
def totalEntries : List (Node × Node) :=
  [(.scalar {} none none .plain "title", .scalar {} none none .doubleQuoted "2024"),
    (.scalar {} none none .plain "notes", .scalar {} none none .plain "~"),
    (.scalar {} none none .plain "condition", .scalar {} none none .plain "paid")]

/-- It is the same query in the section and in place. -/
theorem decode_inPlace_total :
    Query.decode 1 [] (.mapping {} none none totalEntries) ⟨[], 0, .nothing⟩ 0 =
        .ok ({ title := some "2024", filter := some "paid" }, 0) ∧
      Decoder.optional decode 1 [] (.mapping {} none none totalEntries) ⟨[], 0, .nothing⟩ 0 =
        .ok (some (.inline { title := some "2024", filter := some "paid" }), 0) := by
  have hbare : ∀ entry ∈ totalEntries, entry.1.IsBare ∧ entry.2.IsBare := by
    simp [totalEntries, Node.IsBare]
  have htextual : ∀ entry ∈ totalEntries, entry.2.IsTextual := by
    have hnull : Scalar.ofPlain "~" = .null := by decide +kernel
    have hpaid : Scalar.ofPlain "paid" = .text "paid" := by decide +kernel
    simp [totalEntries, Node.IsTextual, resolve_untagged, hnull, hpaid]
  have hread : Query.decode 1 [] (.mapping {} none none totalEntries) ⟨[], 0, .nothing⟩ 0 =
      .ok ({ title := some "2024", filter := some "paid" }, 0) := by rfl
  exact ⟨hread, (decode_inPlace hbare hread rfl 0 [] ⟨[], 0, .nothing⟩ 0).1 htextual⟩

/-- What does not match in a document, if it is refused for that. -/
def refusal? : Except Yaml.Error Config → Option Yaml.Mismatch
  | .error (.mismatch reason _) => some reason
  | _ => none

/-- A document is refused at some place. -/
theorem exists_place_of_refusal? {result : Except Yaml.Error Config} {reason : Yaml.Mismatch}
    (h : refusal? result = some reason) : ∃ place, result = .error (.mismatch reason place) := by
  rw [refusal?.eq_def] at h
  split at h
  · cases h
    exact ⟨_, rfl⟩
  · cases h

/-- A query whose title looks like a number, as it is written. -/
def yearMapping : String :=
  "\x7btitle: 2024, nrql: SELECT 1, visualization: billboard\x7d\n"

/-- A query whose title looks like a number is read in the section, with the title as it is written,
and is refused as the query of a reusable widget. -/
theorem year_refused_inPlace :
    (∃ config, Config.ofText ("queries:\n  year: " ++ yearMapping) = .ok config ∧
      config.queries.get? "year" = some
        ⟨some "2024", none, some "SELECT 1", some "billboard", none, none, none, none⟩) ∧
      ∃ place, Config.ofText ("widgets:\n  year:\n    query: " ++ yearMapping) =
        .error (.mismatch .noReference place) := by
  have hsection : (Config.ofText ("queries:\n  year: " ++ yearMapping)).toOption.map
      (·.queries.get? "year") = some (some
        ⟨some "2024", none, some "SELECT 1", some "billboard", none, none, none, none⟩) := by
    decide +kernel
  have hinPlace : refusal? (Config.ofText ("widgets:\n  year:\n    query: " ++ yearMapping)) =
      some .noReference := by
    decide +kernel
  exact ⟨exists_ok_of_toOption_map hsection, exists_place_of_refusal? hinPlace⟩

end QueryReference

end Config

end Dashboards
