import Dashboards.Proofs.Yaml.Records
import Mathlib.Data.List.Pairwise

/-!
# Variants of a tree

A tree says the same after a key is written another way that means the same field, and after a field
that a mapping does not have is added with nothing but a null (`Variant`). The shape of the tree
(`Shape`) tells which keys mean fields, and where there are data in which none does.

A decoder is `Invariant` if it reads the variants of a node as it reads the node. Each way to put
decoders together keeps that. Of a record (`invariant_record`) it takes that its fields read null as
absent and that none writes what another reads: a field that is added and null leaves the record as
it is, wherever it is added.
-/

namespace Dashboards.Yaml

variable {α ρ : Type}

/-! ## Shapes -/

/-- A field of a record: the name that tells it from others, the spellings, and the shape of the
value. -/
structure ShapeField (σ : Type) where
  name : String
  spellings : List String
  shape : σ

/-- What a node is read as. -/
inductive Shape where
  /-- Data without fields. -/
  | value
  /-- A sequence of nodes of a shape. -/
  | items (shape : Shape)
  /-- A mapping from names to nodes of a shape. -/
  | table (shape : Shape)
  /-- A record. -/
  | record (fields : List (ShapeField Shape))
  /-- A record that is buffered before it is read: an integer is the position of a field. -/
  | buffered (fields : List (ShapeField Shape))

namespace Shape

/-- The fields of a shape. -/
def fields : Shape → List (ShapeField Shape)
  | record fields | buffered fields => fields
  | _ => []

/-- The field that a key means. -/
def field? (shape : Shape) : Node → Option (ShapeField Shape)
  | .scalar _ _ _ style text =>
    match shape, if style = .plain then Scalar.ofPlain text else .text text with
    | .buffered fields, .int (.ofNat position) => fields[position]?
    | _, _ => shape.fields.find? fun field => field.spellings.contains text
  | _ => none

/-- The shape of the elements. -/
def item : Shape → Shape
  | items shape => shape
  | _ => value

/-- The shape of the value of a key. -/
def under (shape : Shape) (key : Node) : Shape :=
  match shape with
  | table shape => shape
  | shape => ((shape.field? key).map ShapeField.shape).getD value

/-- The names of the fields that the keys of some pairs mean. -/
def names (shape : Shape) (entries : List (Node × Node)) : List String :=
  entries.filterMap fun entry => (shape.field? entry.1).map ShapeField.name

@[simp]
theorem field?_value (key : Node) : value.field? key = none := by
  cases key <;> rfl

@[simp]
theorem field?_table (shape : Shape) (key : Node) : (table shape).field? key = none := by
  cases key <;> rfl

@[simp]
theorem under_value (key : Node) : value.under key = value := by
  change ((value.field? key).map ShapeField.shape).getD value = value
  rw [field?_value]
  rfl

theorem under_of_field? {shape : Shape} {key : Node} {field : ShapeField Shape}
    (h : shape.field? key = some field) : shape.under key = field.shape := by
  cases shape with
  | value | table => simp at h
  | items | record | buffered =>
    change (Option.map ShapeField.shape (field? _ key)).getD value = field.shape
    rw [h]
    rfl

end Shape

mutual

/-- A node without anchors, aliases and tags, and one that says the same: keys may be written
another way that means the same field, and fields may be added with null values as long as no field
is there twice. Places do not count. -/
inductive Variant : Shape → Node → Node → Prop
  | scalar {shape : Shape} {mark mark' : Mark} {style : ScalarStyle} {text : String} :
    Variant shape (.scalar mark none none style text) (.scalar mark' none none style text)
  | sequence {shape : Shape} {mark mark' : Mark} {items items' : List Node} :
    VariantItems shape.item items items' →
    Variant shape (.sequence mark none none items) (.sequence mark' none none items')
  | mapping {shape : Shape} {mark mark' : Mark} {entries entries' : List (Node × Node)} :
    VariantEntries shape entries entries' →
    ((shape.names entries).Nodup → (shape.names entries').Nodup) →
    Variant shape (.mapping mark none none entries) (.mapping mark' none none entries')

/-- Elements of a shape that say the same one by one. -/
inductive VariantItems : Shape → List Node → List Node → Prop
  | nil {shape : Shape} : VariantItems shape [] []
  | cons {shape : Shape} {node node' : Node} {rest rest' : List Node} :
    Variant shape node node' →
    VariantItems shape rest rest' →
    VariantItems shape (node :: rest) (node' :: rest')

/-- Pairs of a mapping of a shape that say the same, some perhaps added. -/
inductive VariantEntries : Shape → List (Node × Node) → List (Node × Node) → Prop
  | nil {shape : Shape} : VariantEntries shape [] []
  | kept {shape : Shape} {key key' value value' : Node} {rest rest' : List (Node × Node)} :
    Variant .value key key' →
    Variant (shape.under key) value value' →
    VariantEntries shape rest rest' →
    VariantEntries shape ((key, value) :: rest) ((key', value') :: rest')
  | respelled {shape : Shape} {mark mark' : Mark} {style style' : ScalarStyle}
    {text text' : String} {field : ShapeField Shape} {value value' : Node}
    {rest rest' : List (Node × Node)} :
    shape.field? (.scalar mark none none style text) = some field →
    shape.field? (.scalar mark' none none style' text') = some field →
    Variant field.shape value value' →
    VariantEntries shape rest rest' →
    VariantEntries shape ((.scalar mark none none style text, value) :: rest)
      ((.scalar mark' none none style' text', value') :: rest')
  | added {shape : Shape} {mark mark' : Mark} {style : ScalarStyle} {text null : String}
    {field : ShapeField Shape} {rest rest' : List (Node × Node)} :
    shape.field? (.scalar mark none none style text) = some field →
    Scalar.isNull .plain null = true →
    VariantEntries shape rest rest' →
    VariantEntries shape rest
      ((.scalar mark none none style text, .scalar mark' none none .plain null) :: rest')

end

namespace Variant

variable {shape : Shape} {node node' : Node}

/-- Trees with variants are not cut off at the root. -/
theorem ne_lost (h : Variant shape node node') : node ≠ .lost ∧ node' ≠ .lost := by
  cases h <;> exact ⟨nofun, nofun⟩

/-- A node with variants stands for itself, as they do. -/
theorem follow_eq (h : Variant shape node node') (path : Path) :
    follow path node = pure (path, node) ∧ follow path node' = pure (path, node') := by
  cases h <;> exact ⟨rfl, rfl⟩

end Variant

/-! ## Decoders -/

/-- A decoder reads the variants of a node of a shape as it reads the node, wherever they are, and
follows no alias. -/
def Decoder.Invariant (shape : Shape) (decode : Decoder α) : Prop :=
  ∀ node node', Variant shape node node' →
    ∀ depth path around followed a followed',
      decode depth path node around followed = .ok (a, followed') →
      ∀ path' around' counted, decode depth path' node' around' counted = .ok (a, counted)

namespace Decoder

variable {shape : Shape} {decode : Decoder α}

/-- A text is written the same in variants. -/
theorem invariant_ownText (expected : String) : Invariant shape (ownText expected) := by
  intro node node' hvariant depth path around followed text followed' h path' around' counted
  cases hvariant with
  | scalar =>
    cases h
    rfl
  | sequence | mapping =>
    simp only [ownText_sequence, ownText_mapping] at h
    exact absurd h refuse_ne_ok

/-- A value that may be absent is read from variants alike. -/
theorem Invariant.optional (hdecode : Invariant shape decode) :
    Invariant shape (Decoder.optional decode) := by
  intro node node' hvariant depth path around followed result followed' h path' around' counted
  have hsome : ∀ {node node' : Node}, Variant shape node node' →
      (do return some (← decode depth path node) : Reading (Option α)) around followed =
        .ok (result, followed') →
      (do return some (← decode depth path' node') : Reading (Option α)) around' counted =
        .ok (result, counted) := by
    intro node node' hvariant h
    obtain ⟨a, middle, ha, hresult⟩ := Reading.bind_eq_ok_iff.1 h
    cases hresult
    exact Reading.bind_eq_ok_iff.2 ⟨a, counted, hdecode _ _ hvariant _ _ _ _ _ _ ha .., rfl⟩
  cases hvariant with
  | @scalar _ mark mark' style text =>
    rw [optional_untagged] at h ⊢
    cases hnull : Scalar.isNull style text with
    | true =>
      rw [hnull] at h
      cases h
      rfl
    | false =>
      rw [hnull] at h
      exact hsome .scalar h
  | sequence hitems => exact hsome (.sequence hitems) h
  | mapping hentries hnodup => exact hsome (.mapping hentries hnodup) h

/-- A value with a default is read from variants alike. -/
theorem Invariant.orDefault [Inhabited α] (hdecode : Invariant shape decode) :
    Invariant shape (Decoder.orDefault decode) := by
  intro node node' hvariant depth path around followed a followed' h path' around' counted
  obtain ⟨value, middle, hvalue, ha⟩ := Reading.bind_eq_ok_iff.1 h
  cases ha
  exact Reading.bind_eq_ok_iff.2
    ⟨value, counted, hdecode.optional _ _ hvariant _ _ _ _ _ _ hvalue .., rfl⟩

/-- A number of 64 bits is read from variants alike. -/
theorem invariant_unsigned64 (expected : String) : Invariant shape (unsigned64 expected) := by
  intro node node' hvariant depth path around followed n followed' h path' around' counted
  cases hvariant with
  | scalar =>
    rw [unsigned64_untagged] at h ⊢
    split at h
    · split at h
      · next hfits =>
        cases h
        rw [if_pos hfits]
        rfl
      · exact absurd h refuse_ne_ok
    · exact absurd h refuse_ne_ok
  | @sequence _ mark _ items =>
    change refuse expected path (.sequence mark none none items) around followed = _ at h
    exact absurd h refuse_ne_ok
  | @mapping _ mark _ entries =>
    change refuse expected path (.mapping mark none none entries) around followed = _ at h
    exact absurd h refuse_ne_ok

/-- A number of 32 bits is read from variants alike. -/
theorem invariant_unsigned32 : Invariant shape unsigned32 := by
  intro node node' hvariant depth path around followed n followed' h path' around' counted
  rw [unsigned32, (hvariant.follow_eq path).1] at h
  rw [unsigned32, (hvariant.follow_eq path').2]
  obtain ⟨_, _, hpair, h⟩ := Reading.bind_eq_ok_iff.1 h
  cases hpair
  obtain ⟨m, middle, hm, h⟩ := Reading.bind_eq_ok_iff.1 h
  have hm' := invariant_unsigned64 "u32" _ _ hvariant _ _ _ _ _ _ hm path' around' counted
  refine Reading.bind_eq_ok_iff.2 ⟨(path', node'), counted, rfl, ?_⟩
  refine Reading.bind_eq_ok_iff.2 ⟨m, counted, hm', ?_⟩
  split at h
  · next hfits =>
    cases h
    rw [if_pos hfits]
    rfl
  · cases hvariant <;> cases h

/-- Elements are read from variants alike. -/
theorem Invariant.items (hdecode : Invariant shape decode) {nodes nodes' : List Node}
    (hvariant : VariantItems shape nodes nodes') {depth : Nat} {path : Path} {position : Nat}
    {around : Surroundings} {followed followed' : Nat} {results : List α}
    (h : Decoder.items decode depth path position nodes around followed =
      .ok (results, followed')) (path' : Path) (around' : Surroundings) (counted : Nat) :
    Decoder.items decode depth path' position nodes' around' counted = .ok (results, counted) := by
  induction nodes' generalizing nodes position followed results with
  | nil =>
    cases hvariant
    cases h
    rfl
  | cons node' rest' ih =>
    cases hvariant with
    | cons hnode hrest =>
      rw [items_cons hnode.ne_lost.1] at h
      rw [items_cons hnode.ne_lost.2]
      obtain ⟨first, middle, hfirst, h⟩ := Reading.bind_eq_ok_iff.1 h
      obtain ⟨others, middle', hothers, h⟩ := Reading.bind_eq_ok_iff.1 h
      cases h
      refine Reading.bind_eq_ok_iff.2 ⟨first, counted, hdecode _ _ hnode _ _ _ _ _ _ hfirst .., ?_⟩
      exact Reading.bind_eq_ok_iff.2 ⟨others, counted, ih hrest hothers, rfl⟩

/-- A sequence is read from variants alike. -/
theorem Invariant.sequence (hdecode : Invariant shape.item decode) :
    Invariant shape (Decoder.sequence decode) := by
  intro node node' hvariant depth path around followed results followed' h path' around' counted
  cases hvariant with
  | @scalar _ mark mark' style text =>
    change (if isOmitted (.scalar mark none none style text) then return []
      else refuse "a sequence" path (.scalar mark none none style text) : Reading (List α))
        around followed = _ at h
    change (if isOmitted (.scalar mark none none style text) then return []
      else refuse "a sequence" path' (.scalar mark' none none style text) : Reading (List α))
        around' counted = _
    split at h
    · next homitted =>
      cases h
      rw [if_pos homitted]
      rfl
    · exact absurd h refuse_ne_ok
  | @sequence _ mark mark' items items' hitems =>
    cases depth with
    | zero => cases h
    | succ depth =>
      change Reading.placed mark path (Decoder.items decode depth path 0 items) around followed = _
        at h
      change Reading.placed mark' path' (Decoder.items decode depth path' 0 items') around'
        counted = _
      rw [Reading.placed_eq_ok_iff] at h ⊢
      exact hdecode.items hitems h path' around' counted
  | @mapping _ mark _ entries =>
    change refuse "a sequence" path (.mapping mark none none entries) around followed = _ at h
    exact absurd h refuse_ne_ok

/-! ## Mappings and records -/

/-- A mapping is read from variants alike if the pairs are, up to what is not asked for. -/
theorem mapping_of_variant {readKey : ρ → Decoder α} {readValue : ρ → α → Decoder ρ}
    {expected : String} {start : ρ} (Same : ρ → ρ → Prop) (hstart : Same start start)
    (hfold : ∀ entries entries', VariantEntries shape entries entries' →
      ((shape.names entries).Nodup → (shape.names entries').Nodup) →
      ∀ depth path around followed result followed',
        foldEntries readKey readValue depth path entries start around followed =
          .ok (result, followed') →
        ∀ path' around' counted, ∃ result',
          foldEntries readKey readValue depth path' entries' start around' counted =
            .ok (result', counted) ∧ Same result result')
    {node node' : Node} (hvariant : Variant shape node node') {depth : Nat} {path : Path}
    {around : Surroundings} {followed followed' : Nat} {result : ρ}
    (h : mapping expected start readKey readValue depth path node around followed =
      .ok (result, followed')) (path' : Path) (around' : Surroundings) (counted : Nat) :
    ∃ result', mapping expected start readKey readValue depth path' node' around' counted =
      .ok (result', counted) ∧ Same result result' := by
  cases hvariant with
  | @scalar _ mark mark' style text =>
    change (if isOmitted (.scalar mark none none style text) then return start
      else refuse expected path (.scalar mark none none style text) : Reading ρ)
        around followed = _ at h
    change ∃ result', (if isOmitted (.scalar mark none none style text) then return start
      else refuse expected path' (.scalar mark' none none style text) : Reading ρ)
        around' counted = _ ∧ _
    split at h
    · next homitted =>
      cases h
      rw [if_pos homitted]
      exact ⟨start, rfl, hstart⟩
    · exact absurd h refuse_ne_ok
  | @sequence _ mark _ items =>
    change refuse expected path (.sequence mark none none items) around followed = _ at h
    exact absurd h refuse_ne_ok
  | @mapping _ mark mark' entries entries' hentries hnodup =>
    cases depth with
    | zero => cases h
    | succ depth =>
      change Reading.placed mark path (foldEntries readKey readValue depth path entries start)
        around followed = _ at h
      change ∃ result', Reading.placed mark' path'
        (foldEntries readKey readValue depth path' entries' start) around' counted = _ ∧ _
      simp only [Reading.placed_eq_ok_iff] at h ⊢
      exact hfold _ _ hentries hnodup _ _ _ _ _ _ h path' around' counted

/-- A table is read from variants alike. -/
theorem Invariant.table (hdecode : Invariant shape decode) :
    Invariant (.table shape) (Decoder.table decode) := by
  have hfold : ∀ entries entries', VariantEntries (.table shape) entries entries' →
      ∀ depth path around followed (start table : Table α) followed',
        foldEntries (fun _ => text) (fun table name depth path node => do
          return table.insert name (← decode depth path node)) depth path entries start around
            followed = .ok (table, followed') →
        ∀ path' around' counted,
          foldEntries (fun _ => text) (fun table name depth path node => do
            return table.insert name (← decode depth path node)) depth path' entries' start around'
              counted = .ok (table, counted) := by
    intro entries entries' hentries depth path around followed start table followed' h path' around'
      counted
    induction entries' generalizing entries start followed with
    | nil =>
      cases hentries
      cases h
      rfl
    | cons entry' rest' ih =>
      cases hentries with
      | kept hkey hvalue hrest =>
        obtain ⟨name, middle, next, middle', hname, hnext, h⟩ := foldEntries_cons_eq_ok h
        obtain ⟨record, middle₁, hrecord, hinsert⟩ := Reading.bind_eq_ok_iff.1 hnext
        cases hinsert
        rw [foldEntries_cons hkey.ne_lost.2]
        refine Reading.bind_eq_ok_iff.2
          ⟨name, counted, invariant_ownText _ _ _ hkey _ _ _ _ _ _ hname .., ?_⟩
        refine Reading.bind_eq_ok_iff.2 ⟨_, counted, Reading.bind_eq_ok_iff.2
          ⟨record, counted, hdecode _ _ hvalue _ _ _ _ _ _ hrecord .., rfl⟩, ?_⟩
        exact ih _ hrest _ _ h
      | respelled hfield => simp at hfield
      | added hfield => simp at hfield
  intro node node' hvariant depth path around followed table followed' h path' around' counted
  obtain ⟨table', htable, rfl⟩ := mapping_of_variant Eq rfl
    (fun _ _ hentries _ _ _ _ _ _ _ h _ _ _ => ⟨_, hfold _ _ hentries _ _ _ _ _ _ _ h .., rfl⟩)
    hvariant h path' around' counted
  exact htable

end Decoder

/-! ## Records -/

/-- Names that are still to come: none is there twice or seen before. -/
structure Fresh (names seen : List String) : Prop where
  nodup : names.Nodup
  unseen : ∀ name ∈ names, name ∉ seen

/-- The first name is not seen yet, and once it is, the others are still to come. -/
theorem fresh_cons_iff {name : String} {names seen : List String} :
    Fresh (name :: names) seen ↔ name ∉ seen ∧ Fresh names (name :: seen) := by
  constructor
  · intro h
    obtain ⟨hname, hnodup⟩ := List.nodup_cons.1 h.nodup
    refine ⟨h.unseen name (List.mem_cons_self ..), hnodup, fun other hother hseen => ?_⟩
    rcases List.mem_cons.1 hseen with rfl | hseen
    · exact hname hother
    · exact h.unseen other (List.mem_cons_of_mem _ hother) hseen
  · rintro ⟨hname, h⟩
    refine ⟨List.nodup_cons.2 ⟨fun hmem => ?_, h.nodup⟩, fun other hother => ?_⟩
    · exact h.unseen name hmem (List.mem_cons_self ..)
    · rcases List.mem_cons.1 hother with rfl | hother
      · exact hname
      · exact fun hseen => h.unseen other hother (List.mem_cons_of_mem _ hseen)

/-- Names that are still to come behind another one are also to come. -/
theorem Fresh.of_cons_seen {name : String} {names seen : List String}
    (h : Fresh names (name :: seen)) : Fresh names seen :=
  ⟨h.nodup, fun other hother hseen => h.unseen other hother (List.mem_cons_of_mem _ hseen)⟩

/-- A record is left as it is when null is read into a field. -/
def RecordField.Skips (field : RecordField ρ) (record : ρ) : Prop :=
  ∀ depth path mark null around followed, Scalar.isNull .plain null = true →
    field.read record depth path (.scalar mark none none .plain null) around followed =
      .ok (record, followed)

/-- Two fields have different names, and null may be skipped in each after the other is read. -/
def RecordField.Independent (field other : RecordField ρ) : Prop :=
  field.name ≠ other.name ∧
    ∀ around record value next,
      ((other.read record).Reads around value next → field.Skips record → field.Skips next) ∧
      ((field.read record).Reads around value next → other.Skips record → other.Skips next)

instance : Std.Symm (@RecordField.Independent ρ) where
  symm _ _ h := ⟨h.1.symm, fun around record value next => (h.2 around record value next).symm⟩

/-- A decoder reads null as an absent value. -/
class Nullable (decode : Decoder α) (absent : outParam α) : Prop where
  null : ∀ depth path mark null around followed, Scalar.isNull .plain null = true →
    decode depth path (.scalar mark none none .plain null) around followed = .ok (absent, followed)

instance nullable_optional {decode : Decoder α} : Nullable (Decoder.optional decode) none where
  null _ _ _ _ _ _ hnull := by
    rw [optional_untagged, hnull]
    rfl

instance nullable_orDefault [Inhabited α] {decode : Decoder α} :
    Nullable (Decoder.orDefault decode) default where
  null _ _ _ _ _ followed hnull :=
    Reading.bind_eq_ok_iff.2 ⟨none, followed, Nullable.null _ _ _ _ _ _ hnull, rfl⟩

namespace RecordField

variable {β : Type} {name other : String} {spellings others : List String} {decode : Decoder α}
  {decode' : Decoder β} {absent : α} {absent' : β} {put : ρ → α → ρ} {put' : ρ → β → ρ}
  {record : ρ}

/-- A record skips a field exactly if the absent value is there. -/
theorem skips_plain_iff [Nullable decode absent] :
    ((plain name decode put).spelled spellings).Skips record ↔ put record absent = record := by
  have hread : ∀ depth path mark null around followed, Scalar.isNull .plain null = true →
      ((plain name decode put).spelled spellings).read record depth path
        (.scalar mark none none .plain null) around followed =
          .ok (put record absent, followed) :=
    fun _ _ _ _ _ followed hnull =>
      Reading.bind_eq_ok_iff.2 ⟨absent, followed, Nullable.null _ _ _ _ _ _ hnull, rfl⟩
  constructor
  · intro h
    have hempty := h 0 [] default "" ⟨[], 0, .nothing⟩ 0 rfl
    rw [hread _ _ _ _ _ _ rfl] at hempty
    exact (Prod.mk.inj (Except.ok.inj hempty)).1
  · intro h depth path mark null around followed hnull
    rw [hread _ _ _ _ _ _ hnull, h]

/-- Fields are independent if it does not matter which one is put first. -/
theorem independent_plain [Nullable decode absent] [Nullable decode' absent']
    (hname : name ≠ other)
    (hput : ∀ record a b, put (put' record b) a = put' (put record a) b) :
    ((plain name decode put).spelled spellings).Independent
      ((plain other decode' put').spelled others) := by
  refine ⟨hname, fun around record value next => ⟨fun hread hskips => ?_, fun hread hskips => ?_⟩⟩
  · obtain ⟨b, -, rfl⟩ := reads_plain other hread
    rw [skips_plain_iff] at hskips ⊢
    rw [hput, hskips]
  · obtain ⟨a, -, rfl⟩ := reads_plain name hread
    rw [skips_plain_iff] at hskips ⊢
    rw [← hput, hskips]

/-- A field reads variants alike if its decoder does. -/
theorem invariant_plain {shape : Shape} (hdecode : decode.Invariant shape) :
    (((plain name decode put).spelled spellings).read record).Invariant shape := by
  intro node node' hvariant depth path around followed next followed' h path' around' counted
  obtain ⟨a, middle, ha, hnext⟩ := Reading.bind_eq_ok_iff.1 h
  cases hnext
  exact Reading.bind_eq_ok_iff.2
    ⟨a, counted, hdecode _ _ hvariant _ _ _ _ _ _ ha .., rfl⟩

end RecordField

/-- The shape of a record with fields, given the shapes of their values by name. -/
def Shape.ofFields (fields : List (RecordField ρ)) (shapeOf : String → Shape) :
    List (ShapeField Shape) :=
  fields.map fun field => ⟨field.name, field.spellings, shapeOf field.name⟩

/-- The fields of a record read the variants of their values alike, skip null at the start, and do
not depend on each other. -/
structure RecordField.Separate (fields : List (RecordField ρ)) (shapeOf : String → Shape)
    (start : ρ) : Prop where
  invariant : ∀ field ∈ fields, ∀ record, (field.read record).Invariant (shapeOf field.name)
  skips : ∀ field ∈ fields, field.Skips start
  independent : fields.Pairwise Independent

namespace Decoder

variable {fields : List (RecordField ρ)} {shapeOf : String → Shape} {start : ρ}

/-- The key of a record is a scalar. -/
theorem exists_scalar_of_fieldKey {shape : Shape} {part : Partial ρ} {depth : Nat} {path : Path}
    {key key' : Node} (hvariant : Variant shape key key') {around : Surroundings}
    {followed : Nat} {result : RecordField ρ × Nat}
    (h : fieldKey fields part depth path key around followed = .ok result) :
    ∃ mark mark' style text, key = .scalar mark none none style text ∧
      key' = .scalar mark' none none style text := by
  obtain ⟨⟨_, _⟩, _, hfollow, h⟩ := Reading.bind_eq_ok_iff.1 h
  obtain ⟨_, _, htext, -⟩ := Reading.bind_eq_ok_iff.1 h
  cases hvariant with
  | scalar => exact ⟨_, _, _, _, rfl, rfl⟩
  | sequence | mapping =>
    cases hfollow
    simp only [ownText_sequence, ownText_mapping] at htext
    exact absurd htext refuse_ne_ok

end Decoder

namespace Shape

variable {fields : List (RecordField ρ)} {shapeOf : String → Shape} {start : ρ}

/-- A key of a record means the field with its spelling. -/
theorem field?_record (mark : Mark) (anchor : Option Nat) (tag : Option Tag) (style : ScalarStyle)
    (text : String) :
    (record (ofFields fields shapeOf)).field? (.scalar mark anchor tag style text) =
      (RecordField.find? fields text).map fun field =>
        ⟨field.name, field.spellings, shapeOf field.name⟩ := by
  change (ofFields fields shapeOf).find? _ = _
  rw [ofFields, List.find?_map]
  rfl

/-- A spelling that finds a field means it. -/
theorem field?_of_find? {text : String} {field : RecordField ρ}
    (h : RecordField.find? fields text = some field) (shapeOf : String → Shape) (mark : Mark)
    (anchor : Option Nat) (tag : Option Tag) (style : ScalarStyle) :
    (record (ofFields fields shapeOf)).field? (.scalar mark anchor tag style text) =
      some ⟨field.name, field.spellings, shapeOf field.name⟩ := by
  rw [field?_record, h]
  rfl

/-- The name of the field that the first key means is the first name. -/
theorem names_cons {shape : Shape} {key value : Node} {rest : List (Node × Node)}
    {field : ShapeField Shape} (h : shape.field? key = some field) :
    shape.names ((key, value) :: rest) = field.name :: shape.names rest := by
  rw [names, List.filterMap_cons, h]
  rfl

end Shape

namespace RecordField.Separate

variable {fields : List (RecordField ρ)} {shapeOf : String → Shape} {start : ρ}

/-- A field that is read leaves null to be skipped in the others. -/
theorem skips_of_reads (h : Separate fields shapeOf start) {field : RecordField ρ}
    (hfield : field ∈ fields) {around : Surroundings} {record next : ρ} {value : Node}
    (hread : (field.read record).Reads around value next) {other : RecordField ρ}
    (hother : other ∈ fields) (hname : other.name ≠ field.name) (hskips : other.Skips record) :
    other.Skips next := by
  have hne : other ≠ field := fun heq => hname (congrArg RecordField.name heq)
  have hindependent := h.independent.forall hother hfield hne
  exact (hindependent.2 around record value next).1 hread hskips

/-- Fields with one name are one. -/
theorem eq_of_name_eq (h : Separate fields shapeOf start) {field other : RecordField ρ}
    (hfield : field ∈ fields) (hother : other ∈ fields) (hname : field.name = other.name) :
    field = other := by
  by_contra hne
  exact (h.independent.forall hfield hother hne).1 hname

/-- A pair whose key means a field that is not read yet is read into that field. -/
theorem foldEntries_scalar {part : Partial ρ} {mark : Mark} {style : ScalarStyle} {text : String}
    {value : Node} {field : RecordField ρ} {next : ρ} {depth : Nat} {path : Path}
    {around : Surroundings} {followed counted : Nat}
    (hfound : find? fields text = some field) (hnew : field.name ∉ part.seen)
    (hread : field.read part.record depth (.key text :: path) value around followed =
      .ok (next, counted)) (rest : List (Node × Node)) :
    Decoder.foldEntries (Decoder.fieldKey fields) Decoder.fieldValue depth path
        ((.scalar mark none none style text, value) :: rest) part around followed =
      Decoder.foldEntries (Decoder.fieldKey fields) Decoder.fieldValue depth path rest
        ⟨next, field.name :: part.seen⟩ around counted := by
  have hkey : Decoder.fieldKey fields part depth path (.scalar mark none none style text) around
      followed = .ok (field, followed) :=
    Decoder.fieldKey_scalar_eq_ok_iff.2 ⟨field, hfound, hnew, rfl⟩
  have hvalue : Decoder.fieldValue part field depth (.key text :: path) value around followed =
      .ok (⟨next, field.name :: part.seen⟩, counted) :=
    Reading.bind_eq_ok_iff.2 ⟨next, counted, hread, rfl⟩
  have hlost : Node.scalar mark none none style text ≠ .lost := nofun
  rw [Decoder.foldEntries_cons hlost, Reading.bind_of_ok hkey]
  exact Reading.bind_of_ok hvalue

/-- Pairs of a record are still to be read: no field is there twice or read before, and the record
skips null in the fields that are not read. -/
structure Unread (fields : List (RecordField ρ)) (shape : Shape) (entries : List (Node × Node))
    (part : Partial ρ) : Prop where
  fresh : Fresh (shape.names entries) part.seen
  skips : ∀ field ∈ fields, field.name ∉ part.seen → field.Skips part.record

/-- Behind a pair that is read into its field, the others are still to be read. -/
theorem Unread.tail (hseparate : Separate fields shapeOf start) {key value : Node}
    {rest : List (Node × Node)} {part : Partial ρ} {field : RecordField ρ} {shape : Shape}
    {shapeField : ShapeField Shape}
    (h : Unread fields shape ((key, value) :: rest) part)
    (hmeans : shape.field? key = some shapeField) (hname : shapeField.name = field.name)
    (hfield : field ∈ fields) {around : Surroundings} {next : ρ} {read : Node}
    (hread : (field.read part.record).Reads around read next) :
    Unread fields shape rest ⟨next, field.name :: part.seen⟩ where
  fresh := by
    have hfresh := h.fresh
    rw [Shape.names_cons hmeans, hname, fresh_cons_iff] at hfresh
    exact hfresh.2
  skips := by
    intro other hother hnew
    rw [List.mem_cons, not_or] at hnew
    exact hseparate.skips_of_reads hfield hread hother hnew.1 (h.skips other hother hnew.2)

/-- The pairs of a record that are read have each field once at most, and none that is read
before. -/
theorem fresh_of_foldEntries {entries : List (Node × Node)} {part result : Partial ρ}
    {depth : Nat} {path : Path} {around : Surroundings} {followed followed' : Nat}
    (h : Decoder.foldEntries (Decoder.fieldKey fields) Decoder.fieldValue depth path entries part
      around followed = .ok (result, followed')) :
    Fresh (Shape.names (.record (Shape.ofFields fields shapeOf)) entries) part.seen := by
  induction entries generalizing part followed with
  | nil => exact ⟨.nil, nofun⟩
  | cons entry rest ih =>
    obtain ⟨key, value⟩ := entry
    obtain ⟨field, middle, next, middle', hkey, hnext, hrest⟩ := Decoder.foldEntries_cons_eq_ok h
    obtain ⟨record, middle₁, -, hpart⟩ := Reading.bind_eq_ok_iff.1 hnext
    cases hpart
    have hfresh := ih hrest
    cases key with
    | scalar mark anchor tag style text =>
      obtain ⟨_, hfound, hnew, hresult⟩ := Decoder.fieldKey_scalar_eq_ok_iff.1 hkey
      cases hresult
      rw [Shape.names_cons (Shape.field?_of_find? hfound ..)]
      exact fresh_cons_iff.2 ⟨hnew, hfresh⟩
    | sequence | mapping | reference | lost => exact hfresh.of_cons_seen

/-- A pair is read like one whose key means the same field, and behind it the others are still to be
read. -/
theorem pair_of_variant (hseparate : Separate fields shapeOf start) {mark mark' : Mark}
    {style style' : ScalarStyle} {text text' : String} {shapeField : ShapeField Shape}
    {value value' : Node} {rest rest' : List (Node × Node)}
    (hold : (Shape.record (Shape.ofFields fields shapeOf)).field?
      (.scalar mark none none style text) = some shapeField)
    (hnew : (Shape.record (Shape.ofFields fields shapeOf)).field?
      (.scalar mark' none none style' text') = some shapeField)
    (hvalue : Variant shapeField.shape value value') {part part' : Partial ρ}
    (hrecord : part'.record = part.record)
    (hunread : Unread fields (.record (Shape.ofFields fields shapeOf))
      ((.scalar mark' none none style' text', value') :: rest') part')
    {depth : Nat} {path : Path} {around : Surroundings} {followed followed' : Nat}
    {result : Partial ρ}
    (h : Decoder.foldEntries (Decoder.fieldKey fields) Decoder.fieldValue depth path
      ((.scalar mark none none style text, value) :: rest) part around followed =
        .ok (result, followed'))
    (path' : Path) (around' : Surroundings) (counted : Nat) :
    ∃ next name middle,
      Decoder.foldEntries (Decoder.fieldKey fields) Decoder.fieldValue depth path rest
        ⟨next, name :: part.seen⟩ around middle = .ok (result, followed') ∧
      Decoder.foldEntries (Decoder.fieldKey fields) Decoder.fieldValue depth path'
          ((.scalar mark' none none style' text', value') :: rest') part' around' counted =
        Decoder.foldEntries (Decoder.fieldKey fields) Decoder.fieldValue depth path' rest'
          ⟨next, name :: part'.seen⟩ around' counted ∧
      Unread fields (.record (Shape.ofFields fields shapeOf)) rest'
        ⟨next, name :: part'.seen⟩ := by
  have hfresh := hunread.fresh
  rw [Shape.names_cons hnew, fresh_cons_iff] at hfresh
  have hnew' := hnew
  rw [Shape.field?_record, Option.map_eq_some_iff] at hold hnew'
  obtain ⟨field, hfound, rfl⟩ := hold
  obtain ⟨other, hother, hsame⟩ := hnew'
  have hfield := List.mem_of_find?_eq_some hfound
  cases hseparate.eq_of_name_eq (List.mem_of_find?_eq_some hother) hfield
    (congrArg ShapeField.name hsame)
  obtain ⟨_, middle, next, middle', hkey, hnext, hrest⟩ := Decoder.foldEntries_cons_eq_ok h
  obtain ⟨_, hfound', -, hresult⟩ := Decoder.fieldKey_scalar_eq_ok_iff.1 hkey
  cases hresult
  cases hfound.symm.trans hfound'
  obtain ⟨record, middle₁, hread, hnext⟩ := Reading.bind_eq_ok_iff.1 hnext
  cases hnext
  rw [← hrecord] at hread
  have hread' := hseparate.invariant field hfield part'.record _ _ hvalue _ _ _ _ _ _ hread
    (.key text' :: path') around' counted
  exact ⟨record, field.name, _, hrest, foldEntries_scalar hother hfresh.1 hread' rest',
    hunread.tail hseparate hnew rfl hfield ⟨_, _, _, _, hread⟩⟩

/-- A pair that is added with null is skipped, and behind it the others are still to be read. -/
theorem pair_of_added (hseparate : Separate fields shapeOf start) {mark mark' : Mark}
    {style : ScalarStyle} {text null : String} {shapeField : ShapeField Shape}
    {rest : List (Node × Node)}
    (hnew : (Shape.record (Shape.ofFields fields shapeOf)).field?
      (.scalar mark none none style text) = some shapeField)
    (hnull : Scalar.isNull .plain null = true) {part : Partial ρ}
    (hunread : Unread fields (.record (Shape.ofFields fields shapeOf))
      ((.scalar mark none none style text, .scalar mark' none none .plain null) :: rest) part)
    (depth : Nat) (path : Path) (around : Surroundings) (followed : Nat) :
    ∃ name,
      Decoder.foldEntries (Decoder.fieldKey fields) Decoder.fieldValue depth path
          ((.scalar mark none none style text, .scalar mark' none none .plain null) :: rest) part
          around followed =
        Decoder.foldEntries (Decoder.fieldKey fields) Decoder.fieldValue depth path rest
          ⟨part.record, name :: part.seen⟩ around followed ∧
      Unread fields (.record (Shape.ofFields fields shapeOf)) rest
        ⟨part.record, name :: part.seen⟩ := by
  have hfresh := hunread.fresh
  rw [Shape.names_cons hnew, fresh_cons_iff] at hfresh
  have hnew' := hnew
  rw [Shape.field?_record, Option.map_eq_some_iff] at hnew'
  obtain ⟨field, hfound, rfl⟩ := hnew'
  have hfield := List.mem_of_find?_eq_some hfound
  have hread := hunread.skips field hfield hfresh.1 depth (.key text :: path) mark' null around
    followed hnull
  exact ⟨field.name, foldEntries_scalar hfound hfresh.1 hread rest,
    hunread.tail hseparate hnew rfl hfield ⟨_, _, _, _, hread⟩⟩

/-- Pairs of a record are read as those are read of which they are a variant. -/
theorem foldEntries_of_variant (hseparate : Separate fields shapeOf start)
    {entries entries' : List (Node × Node)}
    (hvariant : VariantEntries (.record (Shape.ofFields fields shapeOf)) entries entries')
    {part part' : Partial ρ} (hrecord : part'.record = part.record)
    (hunread : Unread fields (.record (Shape.ofFields fields shapeOf)) entries' part')
    {depth : Nat} {path : Path} {around : Surroundings} {followed followed' : Nat}
    {result : Partial ρ}
    (h : Decoder.foldEntries (Decoder.fieldKey fields) Decoder.fieldValue depth path entries part
      around followed = .ok (result, followed'))
    (path' : Path) (around' : Surroundings) (counted : Nat) :
    ∃ result', Decoder.foldEntries (Decoder.fieldKey fields) Decoder.fieldValue depth path'
      entries' part' around' counted = .ok (result', counted) ∧ result.record = result'.record := by
  induction entries' generalizing entries part part' followed with
  | nil =>
    cases hvariant
    cases h
    exact ⟨part', rfl, hrecord.symm⟩
  | cons entry' rest' ih =>
    cases hvariant with
    | kept hkey hvalue hrest =>
      obtain ⟨_, _, _, _, hfield, -, -⟩ := Decoder.foldEntries_cons_eq_ok h
      obtain ⟨mark, mark', style, text, rfl, rfl⟩ := Decoder.exists_scalar_of_fieldKey hkey hfield
      obtain ⟨_, hfound, -, hresult⟩ := Decoder.fieldKey_scalar_eq_ok_iff.1 hfield
      have hmeans := fun mark => Shape.field?_of_find? hfound shapeOf mark none none style
      rw [Shape.under_of_field? (hmeans mark)] at hvalue
      obtain ⟨next, name, middle, hold, hnew, hunread⟩ := hseparate.pair_of_variant (hmeans mark)
        (hmeans mark') hvalue hrecord hunread h path' around' counted
      rw [hnew]
      exact ih hrest (by rfl) hunread hold
    | respelled holdField hnewField hvalue hrest =>
      obtain ⟨next, name, middle, hold, hnew, hunread⟩ := hseparate.pair_of_variant holdField
        hnewField hvalue hrecord hunread h path' around' counted
      rw [hnew]
      exact ih hrest (by rfl) hunread hold
    | added hnewField hnull hrest =>
      obtain ⟨name, hnew, hunread⟩ := hseparate.pair_of_added hnewField hnull hunread depth path'
        around' counted
      rw [hnew]
      exact ih hrest hrecord hunread h

end RecordField.Separate

/-- A record whose fields do not depend on each other is read from variants alike. -/
theorem Decoder.invariant_record {fields : List (RecordField ρ)} {shapeOf : String → Shape}
    {start : ρ} (hseparate : RecordField.Separate fields shapeOf start) (expected : String) :
    Invariant (.record (Shape.ofFields fields shapeOf)) (record expected fields start) := by
  intro node node' hvariant depth path around followed result followed' h path' around' counted
  obtain ⟨part, middle, hpart, hresult⟩ := Reading.bind_eq_ok_iff.1 h
  cases hresult
  obtain ⟨part', hpart', hsame⟩ := mapping_of_variant
    (fun part part' : Partial ρ => part.record = part'.record) rfl
    (fun entries entries' hentries hnodup _ _ _ _ _ _ h _ _ _ =>
      hseparate.foldEntries_of_variant hentries rfl
        ⟨⟨hnodup (RecordField.Separate.fresh_of_foldEntries h).nodup, fun _ _ => List.not_mem_nil⟩,
          fun field hfield _ => hseparate.skips field hfield⟩ h ..)
    hvariant hpart path' around' counted
  exact Reading.bind_eq_ok_iff.2 ⟨part', counted, hpart', by rw [hsame]; rfl⟩

/-! ## Raw values -/

/-- The raw value of a scalar does not depend on where it is. -/
theorem rawScalar_eq_ok {mode : RawMode} {scalar : Scalar} {around : Surroundings}
    {followed followed' : Nat} {value : Value}
    (h : rawScalar mode scalar around followed = .ok (value, followed')) (around' : Surroundings)
    (counted : Nat) : rawScalar mode scalar around' counted = .ok (value, counted) := by
  cases scalar with
  | wideInt => cases h
  | null | bool | int | minusZero | float | text =>
    cases h
    rfl

/-- Raw elements are read as elements are. -/
theorem rawItems_eq_items (read : Path → Node → Reading Value) (path : Path) (position : Nat)
    (nodes : List Node) :
    rawItems read path position nodes = Decoder.items (fun _ => read) 0 path position nodes := by
  induction nodes generalizing position with
  | nil => rfl
  | cons node rest ih => cases node <;> simp only [rawItems, Decoder.items, ih]

/-- Raw pairs are read from variants without fields alike if the keys and values are. -/
theorem rawEntries_of_variant {mode : RawMode} {depth : Nat}
    (hread : ∀ node node', Variant .value node node' →
      ∀ path around followed value followed',
        rawValue mode depth path node around followed = .ok (value, followed') →
        ∀ path' around' counted,
          rawValue mode depth path' node' around' counted = .ok (value, counted))
    {entries entries' : List (Node × Node)} (hvariant : VariantEntries .value entries entries')
    {path : Path} {around : Surroundings} {followed followed' : Nat}
    {reversed values : List (Value × Value)}
    (h : rawEntries mode (rawValue mode depth) path entries reversed around followed =
      .ok (values, followed')) (path' : Path) (around' : Surroundings) (counted : Nat) :
    rawEntries mode (rawValue mode depth) path' entries' reversed around' counted =
      .ok (values, counted) := by
  induction entries' generalizing entries reversed followed with
  | nil =>
    cases hvariant
    cases h
    rfl
  | cons entry' rest' ih =>
    cases hvariant with
    | kept hkey hvalue hrest =>
      rw [Shape.under_value] at hvalue
      rw [rawEntries_cons hkey.ne_lost.1] at h
      rw [rawEntries_cons hkey.ne_lost.2]
      obtain ⟨k, middle, hk, h⟩ := Reading.bind_eq_ok_iff.1 h
      rw [Reading.bind_of_ok (hread _ _ hkey _ _ _ _ _ hk ..)]
      generalize (if mode.repeats = true then none else
        reversed.find? fun entry => k.same entry.1) = repeated at h ⊢
      cases repeated with
      | some entry => cases h
      | none =>
        obtain ⟨v, middle', hv, h⟩ := Reading.bind_eq_ok_iff.1 h
        exact (Reading.bind_of_ok (hread _ _ hvalue _ _ _ _ _ hv ..)).trans (ih hrest h)
    | respelled hfield => simp at hfield
    | added hfield => simp at hfield

/-- A raw value is read from variants without fields alike. -/
theorem invariant_rawValue (mode : RawMode) : (rawValue mode).Invariant .value := by
  intro node node' hvariant depth
  induction depth generalizing node node' with
  | zero =>
    intro path around followed value followed' h path' around' counted
    cases hvariant with
    | scalar =>
      rw [rawValue_untagged, Reading.placed_eq_ok_iff] at h ⊢
      exact rawScalar_eq_ok h around' counted
    | sequence | mapping =>
      rw [rawValue.eq_def] at h
      cases h
  | succ depth ih =>
    intro path around followed value followed' h path' around' counted
    cases hvariant with
    | scalar =>
      rw [rawValue_untagged, Reading.placed_eq_ok_iff] at h ⊢
      exact rawScalar_eq_ok h around' counted
    | sequence hitems =>
      rw [rawValue_sequence, Reading.placed_eq_ok_iff] at h ⊢
      obtain ⟨values, middle, hvalues, h⟩ := Reading.bind_eq_ok_iff.1 h
      cases h
      have hread : Decoder.Invariant .value fun _ => rawValue mode depth :=
        fun node node' hvariant _ => ih node node' hvariant
      rw [rawItems_eq_items] at hvalues ⊢
      exact Reading.bind_of_ok (hread.items hitems hvalues ..)
    | mapping hentries =>
      rw [rawValue_mapping, Reading.placed_eq_ok_iff] at h ⊢
      obtain ⟨values, middle, hvalues, h⟩ := Reading.bind_eq_ok_iff.1 h
      cases h
      exact Reading.bind_of_ok (rawEntries_of_variant ih hentries hvalues ..)

end Dashboards.Yaml
