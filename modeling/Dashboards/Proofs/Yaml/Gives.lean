import Dashboards.Proofs.Yaml.Records

/-!
# What decoders give

A decoder `Gives` data with a property if no node, at whatever depth and path and in whatever
document, makes it give other data. The property goes along with each way to put decoders together:
a record has it if it has it at the start and every field preserves it (`Decoder.gives_record`).
-/

namespace Dashboards.Yaml

variable {α β ρ : Type}

/-! ## Actions -/

/-- What an action gives, if it does not fail, has a property. -/
def Reading.Gives (P : α → Prop) (x : Reading α) : Prop :=
  ∀ around followed a counted, x around followed = .ok (a, counted) → P a

namespace Reading

variable {P : α → Prop} {Q : β → Prop} {x : Reading α}

/-- A result with the property is given. -/
theorem gives_pure {a : α} (h : P a) : Gives P (Pure.pure a) := by
  intro around followed b counted hresult
  cases pure_eq_ok_iff.1 hresult
  exact h

/-- The second of two actions gives what it does on what the first gives. -/
theorem Gives.bind {f : α → Reading β} (h : Gives P x) (hnext : ∀ a, P a → Gives Q (f a)) :
    Gives Q (x >>= f) := by
  intro around followed b counted hresult
  obtain ⟨a, middle, hx, hf⟩ := bind_eq_ok_iff.1 hresult
  exact hnext a (h around followed a middle hx) around middle b counted hf

/-- The second of two actions gives something, whatever the first gives. -/
theorem gives_bind {f : α → Reading β} (h : ∀ a, Gives Q (f a)) : Gives Q (x >>= f) :=
  Gives.bind (P := fun _ => True) (fun _ _ _ _ _ => trivial) fun a _ => h a

/-- A place for its mismatches does not change what an action gives. -/
theorem Gives.placed {mark : Mark} {path : Path} (h : Gives P x) :
    Gives P (Reading.placed mark path x) :=
  fun around followed a counted hresult =>
    h around followed a counted (placed_eq_ok_iff.1 hresult)

/-- An action that fails gives nothing else. -/
theorem gives_fail {error : Error} : Gives P (fail error) :=
  fun _ _ _ _ hresult => nomatch hresult

/-- An action that is cut off gives nothing else. -/
theorem gives_cutOff : Gives P cutOff :=
  fun _ _ _ _ hresult => nomatch hresult

end Reading

/-- A node that is not expected gives nothing. -/
theorem gives_refuse {P : α → Prop} {expected : String} {path : Path} {node : Node} :
    Reading.Gives P (refuse expected path node) :=
  fun _ _ _ _ hresult => absurd hresult refuse_ne_ok

/-! ## Decoders -/

namespace Decoder

open Reading (gives_pure gives_bind gives_fail gives_cutOff)

/-- What a decoder gives has a property. -/
def Gives (P : α → Prop) (decode : Decoder α) : Prop :=
  ∀ depth path node, (decode depth path node).Gives P

variable {P : α → Prop} {decode : Decoder α}

/-- Anything is something. -/
theorem gives_true : Gives (fun _ => True) decode :=
  fun _ _ _ _ _ _ _ _ => trivial

/-- A value that may be absent is what its decoder gives. -/
theorem Gives.optional (h : Gives P decode) : Gives (∀ a ∈ ·, P a) (Decoder.optional decode) := by
  intro depth path node
  have hsome : ∀ path node, Reading.Gives (∀ a ∈ ·, P a) (do
      return some (← decode depth path node)) := fun path node =>
    (h depth path node).bind fun a ha => gives_pure fun b hb => Option.some.inj hb ▸ ha
  refine gives_bind fun (path, node) => ?_
  cases node with
  | scalar =>
    refine gives_bind fun absent => ?_
    split
    · exact gives_pure nofun
    · exact hsome _ _
  | sequence => exact hsome _ _
  | mapping => exact hsome _ _
  | reference => exact hsome _ _
  | lost => exact gives_cutOff

/-- A value with a default is what its decoder gives, or the default. -/
theorem Gives.orDefault [Inhabited α] (h : Gives P decode) (hdefault : P default) :
    Gives P (Decoder.orDefault decode) := by
  intro depth path node
  refine (h.optional depth path node).bind fun value hvalue => gives_pure ?_
  cases value with
  | none => exact hdefault
  | some a => exact hvalue a rfl

/-- A number that is read fits into 32 bits. -/
theorem gives_unsigned32 : Gives (· < UInt32.size) unsigned32 := by
  intro depth path node
  refine gives_bind fun (path, node) => gives_bind fun n => ?_
  split
  · exact gives_pure ‹_›
  · split
    · exact gives_fail.placed
    · exact gives_fail

/-- Elements are what their decoder gives. -/
theorem Gives.items (h : Gives P decode) (depth : Nat) (path : Path) (position : Nat)
    (nodes : List Node) :
    Reading.Gives (∀ a ∈ ·, P a) (Decoder.items decode depth path position nodes) := by
  induction nodes generalizing position with
  | nil => exact gives_pure nofun
  | cons node rest ih =>
    by_cases hlost : node = .lost
    · subst hlost
      exact gives_cutOff
    · rw [items_cons hlost]
      exact (h _ _ _).bind fun first hfirst => (ih (position + 1)).bind fun others hothers =>
        gives_pure (List.forall_mem_cons.2 ⟨hfirst, hothers⟩)

/-- A sequence is a list of what the decoder of its elements gives. -/
theorem Gives.sequence (h : Gives P decode) : Gives (∀ a ∈ ·, P a) (Decoder.sequence decode) := by
  intro depth path node
  refine gives_bind fun (path, node) => ?_
  dsimp only
  split
  · split
    · exact gives_fail
    · exact (h.items _ _ _ _).placed
  · split
    · exact gives_pure nofun
    · exact gives_refuse

/-! ## Mappings and records -/

section
variable {P : ρ → Prop} {Q : α → Prop} {start : ρ} {readKey : ρ → Decoder α}
  {readValue : ρ → α → Decoder ρ}

/-- What every entry preserves holds behind all of them. -/
theorem gives_foldEntries (hkey : ∀ record, Gives Q (readKey record))
    (hvalue : ∀ record name, P record → Q name → Gives P (readValue record name))
    (depth : Nat) (path : Path) (entries : List (Node × Node)) (hstart : P start) :
    Reading.Gives P (foldEntries readKey readValue depth path entries start) := by
  induction entries generalizing start with
  | nil => exact gives_pure hstart
  | cons entry rest ih =>
    obtain ⟨key, value⟩ := entry
    by_cases hlost : key = .lost
    · subst hlost
      exact gives_cutOff
    · rw [foldEntries_cons hlost]
      exact (hkey _ _ _ _).bind fun name hname =>
        (hvalue start name hstart hname _ _ _).bind fun record hrecord => ih hrecord

/-- What holds at the start and every entry preserves holds of what a mapping is read as. -/
theorem gives_mapping {expected : String} (hkey : ∀ record, Gives Q (readKey record))
    (hvalue : ∀ record name, P record → Q name → Gives P (readValue record name))
    (hstart : P start) : Gives P (mapping expected start readKey readValue) := by
  intro depth path node
  refine gives_bind fun (path, node) => ?_
  dsimp only
  split
  · split
    · exact gives_fail
    · exact (gives_foldEntries hkey hvalue _ _ _ hstart).placed
  · split
    · exact gives_pure hstart
    · exact gives_refuse

end

/-- The records of a table are what their decoder gives. -/
theorem Gives.table (h : Gives P decode) :
    Gives (fun table => ∀ name record, table.get? name = some record → P record)
      (Decoder.table decode) := by
  refine gives_mapping (fun _ => gives_true) ?_ nofun
  intro table name htable _ depth path node
  refine (h depth path node).bind fun record hrecord => gives_pure fun other found hfound => ?_
  rw [Table.get?_insert] at hfound
  split at hfound
  · cases hfound
    exact hrecord
  · exact htable other found hfound

variable {R : ρ → Prop} {fields : List (RecordField ρ)}

/-- A key of a record is one of its fields. -/
theorem gives_fieldKey (fields : List (RecordField ρ)) (part : Partial ρ) :
    Gives (· ∈ fields) (fieldKey fields part) := by
  intro depth path node
  refine gives_bind fun (path, node) => gives_bind fun spelling => ?_
  split
  · split
    · exact gives_fail.placed
    · exact gives_fail
  · next field hfield =>
    split
    · exact gives_fail
    · exact gives_pure (List.mem_of_find?_eq_some hfield)

/-- What holds at the start and every field preserves holds of a record that is read. -/
theorem gives_record {expected : String} {start : ρ}
    (hfields : ∀ field ∈ fields, ∀ record, R record → Gives R (field.read record))
    (hstart : R start) : Gives R (record expected fields start) := by
  have hparts : Gives (fun part => R part.record)
      (mapping expected ⟨start, []⟩ (fieldKey fields) fieldValue) := by
    refine gives_mapping (gives_fieldKey fields) ?_ hstart
    intro part field hpart hfield depth path node
    exact (hfields field hfield part.record hpart depth path node).bind fun _ hrecord =>
      gives_pure hrecord
  exact fun depth path node => (hparts depth path node).bind fun _ hpart => gives_pure hpart

/-- A field whose value is put into the record preserves what the putting does. -/
theorem gives_plain {name : String} {put : ρ → α → ρ} (h : Gives P decode)
    (hput : ∀ record a, R record → P a → R (put record a)) (record : ρ) (hrecord : R record) :
    Gives R ((RecordField.plain name decode put).read record) :=
  fun depth path node => (h depth path node).bind fun a ha => gives_pure (hput record a hrecord ha)

/-! ## Documents -/

/-- What a document is read as is what its decoder gives, or what an empty text stands for. -/
theorem Gives.read {document : Document} {empty : Except Error α} {a : α} (h : Gives P decode)
    (hempty : ∀ a, empty = .ok a → P a) (hread : document.read decode empty = .ok a) : P a := by
  rcases Document.reads_of_read hread with ⟨-, hnone⟩ | ⟨root, -, _, _, _, _, hroot⟩
  · exact hempty a hnone
  · exact h _ _ _ _ _ _ _ hroot

end Decoder

end Dashboards.Yaml
