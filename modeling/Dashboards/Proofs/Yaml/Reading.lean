import Dashboards.Yaml.Reading

/-!
# What decoders read

An action that reads a node succeeds step by step: the lemmas say of each way to put actions
together when the whole gives a result, and with how many aliases followed.
-/

namespace Dashboards.Yaml

variable {α β ρ : Type} {around : Surroundings} {followed : Nat}

/-! ## Actions -/

namespace Reading

/-- Two actions succeed when the first does and the second succeeds on its result. -/
theorem bind_eq_ok_iff {x : Reading α} {f : α → Reading β} {result : β × Nat} :
    (x >>= f) around followed = .ok result ↔
      ∃ a middle, x around followed = .ok (a, middle) ∧ f a around middle = .ok result := by
  change Reading.bind x f around followed = .ok result ↔ _
  rw [Reading.bind]
  cases x around followed with
  | error e => simp
  | ok r =>
    constructor
    · exact fun h => ⟨r.1, r.2, rfl, h⟩
    · rintro ⟨a, middle, hr, hresult⟩
      cases hr
      exact hresult

/-- After an action that succeeds comes the next one. -/
theorem bind_of_ok {x : Reading α} {f : α → Reading β} {a : α} {middle : Nat}
    (h : x around followed = .ok (a, middle)) :
    (x >>= f) around followed = f a around middle := by
  change Reading.bind x f around followed = _
  rw [Reading.bind, h]

/-- An action that only gives a result succeeds with it. -/
theorem pure_eq_ok_iff {a : α} {result : α × Nat} :
    (Pure.pure a : Reading α) around followed = .ok result ↔ (a, followed) = result := by
  change Except.ok (a, followed) = .ok result ↔ _
  simp

/-- A place for its mismatches does not change what an action gives. -/
theorem placed_eq_ok_iff {mark : Mark} {path : Path} {x : Reading α} {result : α × Nat} :
    placed mark path x around followed = .ok result ↔ x around followed = .ok result := by
  rw [placed]
  cases x around followed <;> simp

end Reading

/-- What is not expected is not read. -/
theorem refuse_ne_ok {expected : String} {path : Path} {node : Node} {result : α × Nat} :
    refuse expected path node around followed ≠ .ok result := by
  cases node with
  | reference | lost => exact nofun
  | scalar | sequence | mapping =>
    rw [refuse, ne_eq, Reading.placed_eq_ok_iff]
    exact nofun

/-- A sequence has no text of its own. -/
theorem ownText_sequence {expected : String} {depth : Nat} {path : Path} {mark : Mark}
    {anchor : Option Nat} {tag : Option Tag} {items : List Node} :
    Decoder.ownText expected depth path (.sequence mark anchor tag items) =
      refuse expected path (.sequence mark anchor tag items) :=
  rfl

/-- A mapping has no text of its own. -/
theorem ownText_mapping {expected : String} {depth : Nat} {path : Path} {mark : Mark}
    {anchor : Option Nat} {tag : Option Tag} {entries : List (Node × Node)} :
    Decoder.ownText expected depth path (.mapping mark anchor tag entries) =
      refuse expected path (.mapping mark anchor tag entries) :=
  rfl

/-- A sequence is no absent value. -/
theorem optional_sequence {decode : Decoder α} {depth : Nat} {path : Path} {mark : Mark}
    {anchor : Option Nat} {tag : Option Tag} {items : List Node} :
    Decoder.optional decode depth path (.sequence mark anchor tag items) =
      return some (← decode depth path (.sequence mark anchor tag items)) :=
  rfl

/-- A mapping is no absent value. -/
theorem optional_mapping {decode : Decoder α} {depth : Nat} {path : Path} {mark : Mark}
    {anchor : Option Nat} {tag : Option Tag} {entries : List (Node × Node)} :
    Decoder.optional decode depth path (.mapping mark anchor tag entries) =
      return some (← decode depth path (.mapping mark anchor tag entries)) :=
  rfl

/-! ## Scalars without a tag -/

/-- Whether a scalar is a plain null. -/
def Scalar.isNull (style : ScalarStyle) (text : String) : Bool :=
  style = .plain && (text.isEmpty || isNullWord text.toList)

/-- A scalar without a tag is absent if it is a plain null. -/
theorem isAbsent_untagged (style : ScalarStyle) (text : String) :
    Decoder.isAbsent none style text = return Scalar.isNull style text := by
  rw [Decoder.isAbsent, Scalar.isNull]
  by_cases hstyle : style = .plain <;> simp [hstyle]

/-- A scalar without a tag is read as an optional value by its decoder unless it is a plain null. -/
theorem optional_untagged (decode : Decoder α) (depth : Nat) (path : Path) (mark : Mark)
    (anchor : Option Nat) (style : ScalarStyle) (text : String) :
    Decoder.optional decode depth path (.scalar mark anchor none style text) =
      if Scalar.isNull style text then return none
      else do return some (← decode depth path (.scalar mark anchor none style text)) := by
  change (Decoder.isAbsent none style text >>= fun absent =>
    if absent then return none
    else do return some (← decode depth path (.scalar mark anchor none style text))) = _
  rw [isAbsent_untagged]
  rfl

/-- A scalar without a tag is a number if it is plain and its text means one. -/
theorem unsigned64_untagged (expected : String) (depth : Nat) (path : Path) (mark : Mark)
    (anchor : Option Nat) (style : ScalarStyle) (text : String) :
    Decoder.unsigned64 expected depth path (.scalar mark anchor none style text) =
      match if style = .plain then Scalar.natural? (Scalar.unsigned text.toList) else none with
      | some n => if n < UInt64.size then return n
        else refuse expected path (.scalar mark anchor none style text)
      | none => refuse expected path (.scalar mark anchor none style text) := by
  cases style <;> rfl

/-! ## Keys -/

/-- The key of a record means a field that is not read yet. -/
theorem Decoder.fieldKey_scalar_eq_ok_iff {fields : List (RecordField ρ)} {part : Partial ρ}
    {depth : Nat} {path : Path} {mark : Mark} {anchor : Option Nat} {tag : Option Tag}
    {style : ScalarStyle} {text : String} {result : RecordField ρ × Nat} :
    Decoder.fieldKey fields part depth path (.scalar mark anchor tag style text) around followed =
        .ok result ↔
      ∃ field, RecordField.find? fields text = some field ∧ field.name ∉ part.seen ∧
        (field, followed) = result := by
  have hfollow : follow path (.scalar mark anchor tag style text) around followed =
      .ok ((path, .scalar mark anchor tag style text), followed) := rfl
  have htext : Decoder.ownText "field identifier" depth path
      (.scalar mark anchor tag style text) around followed = .ok (text, followed) := rfl
  rw [Decoder.fieldKey, Reading.bind_of_ok hfollow]
  dsimp only
  rw [Reading.bind_of_ok htext]
  cases RecordField.find? fields text with
  | none =>
    dsimp only
    rw [Reading.placed_eq_ok_iff]
    exact ⟨nofun, nofun⟩
  | some field =>
    simp only [Option.some.injEq, exists_eq_left']
    by_cases hseen : field.name ∈ part.seen
    · rw [if_pos (List.contains_iff_mem.2 hseen)]
      exact ⟨nofun, fun h => absurd hseen h.1⟩
    · rw [if_neg (mt List.contains_iff_mem.1 hseen), Reading.pure_eq_ok_iff]
      exact ⟨fun h => ⟨hseen, h⟩, fun h => h.2⟩

/-! ## Elements and pairs -/

/-- Elements are read one after the other, unless the tree is cut off there. -/
theorem Decoder.items_cons {decode : Decoder α} {depth : Nat} {path : Path} {position : Nat}
    {node : Node} (hnode : node ≠ .lost) (rest : List Node) :
    Decoder.items decode depth path position (node :: rest) = (do
      let first ← decode depth (.index position :: path) node
      let others ← Decoder.items decode depth path (position + 1) rest
      return first :: others) := by
  cases node with
  | lost => exact absurd rfl hnode
  | scalar | sequence | mapping | reference => rfl

/-- Pairs are read one after the other, unless the tree is cut off there. -/
theorem Decoder.foldEntries_cons {readKey : ρ → Decoder α} {readValue : ρ → α → Decoder ρ}
    {depth : Nat} {path : Path} {key : Node} (hkey : key ≠ .lost) (value : Node)
    (rest : List (Node × Node)) (record : ρ) :
    Decoder.foldEntries readKey readValue depth path ((key, value) :: rest) record = (do
      let name ← readKey record depth path key
      let record ← readValue record name depth (Decoder.stepTo key :: path) value
      Decoder.foldEntries readKey readValue depth path rest record) := by
  cases key with
  | lost => exact absurd rfl hkey
  | scalar | sequence | mapping | reference => rfl

/-- Raw pairs are read one after the other, unless the tree is cut off there or a key is repeated
that must not be. -/
theorem rawEntries_cons {mode : RawMode} {read : Path → Node → Reading Value} {path : Path}
    {key : Node} (hkey : key ≠ .lost) (value : Node) (rest : List (Node × Node))
    (reversed : List (Value × Value)) :
    rawEntries mode read path ((key, value) :: rest) reversed = (do
      let k ← read path key
      match if mode.repeats then none else reversed.find? fun entry => k.same entry.1 with
      | some entry => Reading.mismatch (.duplicateEntry entry.1.repeatedKey)
      | none => do
        let v ← read (Decoder.stepTo key :: path) value
        rawEntries mode read path rest ((k, v) :: reversed)) := by
  cases key with
  | lost => exact absurd rfl hkey
  | scalar | sequence | mapping | reference => rfl

/-- Buffered pairs are read one after the other, whether a key is repeated or not. -/
theorem rawEntries_buffer_cons {read : Path → Node → Reading Value} {path : Path} {key : Node}
    (hkey : key ≠ .lost) (value : Node) (rest : List (Node × Node))
    (reversed : List (Value × Value)) :
    rawEntries .buffer read path ((key, value) :: rest) reversed = (do
      let k ← read path key
      let v ← read (Decoder.stepTo key :: path) value
      rawEntries .buffer read path rest ((k, v) :: reversed)) :=
  rawEntries_cons hkey value rest reversed

/-! ## Raw values -/

/-- A scalar without a tag is its raw value by its type. -/
theorem rawValue_untagged (mode : RawMode) (depth : Nat) (path : Path) (mark : Mark)
    (anchor : Option Nat) (style : ScalarStyle) (text : String) :
    rawValue mode depth path (.scalar mark anchor none style text) =
      Reading.placed mark path
        (rawScalar mode (if style = .plain then Scalar.ofPlain text else .text text)) := by
  rw [rawValue.eq_def]
  rfl

/-- A sequence without a tag is its raw elements. -/
theorem rawValue_sequence (mode : RawMode) (depth : Nat) (path : Path) (mark : Mark)
    (anchor : Option Nat) (items : List Node) :
    rawValue mode (depth + 1) path (.sequence mark anchor none items) =
      Reading.placed mark path (do
        return .sequence (← rawItems (rawValue mode depth) path 0 items)) := by
  rw [rawValue.eq_def]
  rfl

/-- A mapping without a tag is its raw pairs. -/
theorem rawValue_mapping (mode : RawMode) (depth : Nat) (path : Path) (mark : Mark)
    (anchor : Option Nat) (entries : List (Node × Node)) :
    rawValue mode (depth + 1) path (.mapping mark anchor none entries) =
      Reading.placed mark path (do
        return .mapping (← rawEntries mode (rawValue mode depth) path entries [])) := by
  rw [rawValue.eq_def]
  rfl

end Dashboards.Yaml
