import Dashboards.Proofs.Sequence
import Dashboards.Proofs.Yaml.Reading

/-!
# What mappings and records are read from

A decoder goes through the pairs of the mapping that a node stands for (`Surroundings.pairs`), one
after the other: a table gets a record for each pair, read from the pair itself
(`Decoder.records_of_table`), and a record gets each of its fields from the pair whose key has a
spelling of it, or not at all (`Decoder.field_of_record`).
-/

namespace Dashboards.Yaml

variable {α β ρ : Type} {around : Surroundings} {followed : Nat}

/-! ## Aliases -/

namespace Surroundings

/-- The node that a node stands for: itself unless it is an alias. -/
def origin (around : Surroundings) : Node → Node
  | .reference _ number => (around.anchored.lookup number).getD .lost
  | node => node

/-- The pairs of the mapping that a node stands for. Other nodes have none. -/
def pairs (around : Surroundings) (node : Node) : List (Node × Node) :=
  match around.origin node with
  | .mapping _ _ _ entries => entries
  | _ => []

/-- The text of the scalar that a node stands for. -/
def shown? (around : Surroundings) (node : Node) : Option String :=
  match around.origin node with
  | .scalar _ _ _ _ text => some text
  | _ => none

/-- The value of the first pair whose key has one of some spellings. -/
def valueOf? (around : Surroundings) (spellings : List String) (pairs : List (Node × Node)) :
    Option Node :=
  (pairs.find? fun pair => (around.shown? pair.1).any spellings.contains).map Prod.snd

/-- No alias stands for another alias. -/
def Direct (around : Surroundings) : Prop :=
  ∀ node, around.origin (around.origin node) = around.origin node

end Surroundings

/-- A node that is followed is the one that it stands for. -/
theorem follow_eq_ok {path path' : Path} {node node' : Node} {followed' : Nat}
    (h : follow path node around followed = .ok ((path', node'), followed')) :
    node' = around.origin node := by
  cases node with
  | reference mark number =>
    obtain ⟨target, middle, htarget, hresult⟩ := Reading.bind_eq_ok_iff.1 h
    cases hresult
    rw [Reading.target] at htarget
    split at htarget <;> cases htarget
    rfl
  | scalar | sequence | mapping | lost =>
    cases h
    rfl

mutual

/-- What is anchored is no alias. -/
theorem Node.anchored_ne_reference : ∀ (node : Node) (entry : Nat × Node), entry ∈ node.anchored →
    ∀ mark number, entry.2 ≠ .reference mark number
  | .scalar _ anchor .., entry, h => by
    cases anchor <;> simp [anchored] at h
    simp [h]
  | .sequence _ anchor _ items, entry, h => by
    cases anchor with
    | none => exact anchoredItems_ne_reference items entry (by simpa [anchored] using h)
    | some number =>
      rcases List.mem_cons.1 (by simpa [anchored] using h) with rfl | h
      · exact nofun
      · exact anchoredItems_ne_reference items entry h
  | .mapping _ anchor _ entries, entry, h => by
    cases anchor with
    | none => exact anchoredEntries_ne_reference entries entry (by simpa [anchored] using h)
    | some number =>
      rcases List.mem_cons.1 (by simpa [anchored] using h) with rfl | h
      · exact nofun
      · exact anchoredEntries_ne_reference entries entry h
  | .reference .., _, h | .lost, _, h => by simp [anchored] at h

/-- What is anchored among elements is no alias. -/
theorem Node.anchoredItems_ne_reference : ∀ (items : List Node) (entry : Nat × Node),
    entry ∈ anchoredItems items → ∀ mark number, entry.2 ≠ .reference mark number
  | [], _, h => by simp [anchoredItems] at h
  | item :: rest, entry, h => by
    rcases List.mem_append.1 (by simpa [anchoredItems] using h) with h | h
    · exact Node.anchored_ne_reference item entry h
    · exact anchoredItems_ne_reference rest entry h

/-- What is anchored among pairs is no alias. -/
theorem Node.anchoredEntries_ne_reference : ∀ (entries : List (Node × Node)) (entry : Nat × Node),
    entry ∈ anchoredEntries entries → ∀ mark number, entry.2 ≠ .reference mark number
  | [], _, h => by simp [anchoredEntries] at h
  | (key, value) :: rest, entry, h => by
    simp only [anchoredEntries, List.mem_append] at h
    rcases h with h | h | h
    · exact Node.anchored_ne_reference key entry h
    · exact Node.anchored_ne_reference value entry h
    · exact anchoredEntries_ne_reference rest entry h

end

/-- In a document no alias stands for another alias. -/
theorem Document.direct_surroundings (document : Document) : document.surroundings.Direct := by
  intro node
  cases node with
  | reference mark number =>
    rw [Surroundings.origin]
    cases hfound : document.surroundings.anchored.lookup number with
    | none => rfl
    | some target =>
      obtain ⟨before, after, hentries, -⟩ := List.lookup_eq_some_iff.1 hfound
      have hmem : (number, target) ∈ (document.root.getD .lost).anchored := by
        rw [← List.mem_reverse]
        change (number, target) ∈ document.surroundings.anchored
        rw [hentries]
        exact List.mem_append_right before (List.mem_cons_self ..)
      have hdirect := Node.anchored_ne_reference _ _ hmem
      cases target with
      | reference mark' number' => exact absurd rfl (hdirect mark' number')
      | scalar | sequence | mapping | lost => rfl
  | scalar | sequence | mapping | lost => rfl

/-! ## Mappings -/

namespace Decoder

/-- A node is read as some data, at some depth and path and after some aliases. -/
def Reads (decode : Decoder α) (around : Surroundings) (node : Node) (a : α) : Prop :=
  ∃ depth path followed followed', decode depth path node around followed = .ok (a, followed')

section
variable {start result : ρ} {readKey : ρ → Decoder α} {readValue : ρ → α → Decoder ρ}
  {depth : Nat} {path : Path} {followed' : Nat}

/-- Pairs are read one after the other: the key, the value, and then the others. -/
theorem foldEntries_cons_eq_ok {key value : Node} {rest : List (Node × Node)}
    (h : foldEntries readKey readValue depth path ((key, value) :: rest) start around followed =
      .ok (result, followed')) :
    ∃ name middle record middle',
      readKey start depth path key around followed = .ok (name, middle) ∧
      readValue start name depth (stepTo key :: path) value around middle = .ok (record, middle') ∧
      foldEntries readKey readValue depth path rest record around middle' =
        .ok (result, followed') := by
  have hstep : key ≠ .lost := by
    rintro rfl
    cases h
  rw [foldEntries_cons hstep] at h
  obtain ⟨name, middle, hname, h⟩ := Reading.bind_eq_ok_iff.1 h
  obtain ⟨record, middle', hrecord, h⟩ := Reading.bind_eq_ok_iff.1 h
  exact ⟨name, middle, record, middle', hname, hrecord, h⟩

/-- What a mapping is read as comes from the pairs of the node, also if there are none because it is
omitted. -/
theorem exists_foldEntries_of_mapping {expected : String} {node : Node}
    (h : mapping expected start readKey readValue depth path node around followed =
      .ok (result, followed')) :
    ∃ depth path followed, foldEntries readKey readValue depth path (around.pairs node) start around
      followed = .ok (result, followed') := by
  obtain ⟨⟨path', node'⟩, middle, hfollow, h⟩ := Reading.bind_eq_ok_iff.1 h
  cases follow_eq_ok hfollow
  have hother : ∀ other : Node,
      (if isOmitted other then pure start else refuse expected path' other : Reading ρ) around
        middle = .ok (result, followed') →
      ∃ depth path followed, foldEntries readKey readValue depth path [] start around followed =
        .ok (result, followed') := by
    intro other hother
    split at hother
    · exact ⟨0, [], middle, hother⟩
    · exact absurd hother refuse_ne_ok
  rw [Surroundings.pairs]
  cases horigin : around.origin node with
  | mapping mark anchor tag entries =>
    rw [horigin] at h
    cases depth with
    | zero => cases h
    | succ depth => exact ⟨_, _, _, Reading.placed_eq_ok_iff.1 h⟩
  | scalar mark anchor tag style text =>
    exact hother (.scalar mark anchor tag style text) (by rwa [horigin] at h)
  | sequence mark anchor tag items =>
    exact hother (.sequence mark anchor tag items) (by rwa [horigin] at h)
  | reference mark number => exact hother (.reference mark number) (by rwa [horigin] at h)
  | lost => exact hother .lost (by rwa [horigin] at h)

end

/-- A table has a record for each pair of the node, its name read from the key and the record from
the value, inserted in order. -/
theorem records_of_table {decode : Decoder α} {node : Node} {table : Table α}
    (h : (Decoder.table decode).Reads around node table) :
    ∃ records : List (String × α),
      List.Forall₂ (fun pair record => Decoder.text.Reads around pair.1 record.1 ∧
        decode.Reads around pair.2 record.2) (around.pairs node) records ∧
      table = Table.ofList records := by
  obtain ⟨depth, path, followed, followed', h⟩ := h
  obtain ⟨depth, path, followed, h⟩ := exists_foldEntries_of_mapping h
  simp only [Table.ofList]
  generalize around.pairs node = pairs at h ⊢
  generalize (Table.empty : Table α) = start at h ⊢
  induction pairs generalizing followed start with
  | nil =>
    cases h
    exact ⟨[], .nil, rfl⟩
  | cons pair rest ih =>
    obtain ⟨name, middle, next, middle', hname, hnext, hrest⟩ := foldEntries_cons_eq_ok h
    obtain ⟨record, middle₁, hrecord, hinsert⟩ := Reading.bind_eq_ok_iff.1 hnext
    cases hinsert
    obtain ⟨records, hrecords, rfl⟩ := ih _ _ hrest
    exact ⟨(name, record) :: records,
      .cons ⟨⟨_, _, _, _, hname⟩, _, _, _, _, hrecord⟩ hrecords, rfl⟩

/-! ## Values that may be absent -/

/-- A text is what a scalar shows. -/
theorem shown_of_ownText {expected : String} {node : Node} {text : String}
    (h : (ownText expected).Reads around node text) : around.shown? node = some text := by
  obtain ⟨depth, path, followed, followed', h⟩ := h
  obtain ⟨⟨path', node'⟩, middle, hfollow, h⟩ := Reading.bind_eq_ok_iff.1 h
  cases follow_eq_ok hfollow
  rw [Surroundings.shown?]
  cases horigin : around.origin node with
  | scalar =>
    rw [horigin] at h
    cases h
    rfl
  | sequence | mapping | reference | lost =>
    rw [horigin] at h
    exact absurd h refuse_ne_ok

/-- A value that may be absent is absent from a node without pairs, or it is read from the node that
the node stands for. -/
theorem reads_optional {decode : Decoder α} {node : Node} {result : Option α}
    (h : (optional decode).Reads around node result) :
    result = none ∧ around.pairs node = [] ∨
      ∃ a, result = some a ∧ decode.Reads around (around.origin node) a := by
  obtain ⟨depth, path, followed, followed', h⟩ := h
  obtain ⟨⟨path', node'⟩, middle, hfollow, h⟩ := Reading.bind_eq_ok_iff.1 h
  cases follow_eq_ok hfollow
  have hsome : ∀ {middle}, (do return some (← decode depth path' (around.origin node)) :
      Reading (Option α)) around middle = .ok (result, followed') →
      ∃ a, result = some a ∧ decode.Reads around (around.origin node) a := by
    intro middle h
    obtain ⟨a, middle', ha, hresult⟩ := Reading.bind_eq_ok_iff.1 h
    cases hresult
    exact ⟨a, rfl, _, _, _, _, ha⟩
  rw [Surroundings.pairs]
  cases horigin : around.origin node with
  | scalar =>
    rw [horigin] at h hsome
    obtain ⟨absent, middle', -, h⟩ := Reading.bind_eq_ok_iff.1 h
    split at h
    · cases h
      exact .inl ⟨rfl, rfl⟩
    · exact .inr (hsome h)
  | sequence | mapping | reference =>
    rw [horigin] at h hsome
    exact .inr (hsome h)
  | lost =>
    rw [horigin] at h
    cases h

/-- A value with a default is the default for a node without pairs, or it is read from the node that
the node stands for. -/
theorem reads_orDefault [Inhabited α] {decode : Decoder α} {node : Node} {a : α}
    (h : (orDefault decode).Reads around node a) :
    a = default ∧ around.pairs node = [] ∨ decode.Reads around (around.origin node) a := by
  obtain ⟨depth, path, followed, followed', h⟩ := h
  obtain ⟨value, middle, hvalue, ha⟩ := Reading.bind_eq_ok_iff.1 h
  cases ha
  rcases reads_optional ⟨_, _, _, _, hvalue⟩ with ⟨rfl, hpairs⟩ | ⟨a, rfl, ha⟩
  · exact .inl ⟨rfl, hpairs⟩
  · exact .inr ha

end Decoder

namespace Surroundings.Direct

variable {node : Node}

/-- A node has the pairs of the node that it stands for. -/
theorem pairs_origin (hdirect : around.Direct) : around.pairs (around.origin node) =
    around.pairs node := by
  rw [pairs, hdirect, ← pairs]

/-- A node shows what the node shows that it stands for. -/
theorem shown?_origin (hdirect : around.Direct) : around.shown? (around.origin node) =
    around.shown? node := by
  rw [shown?, hdirect, ← shown?]

end Surroundings.Direct

/-! ## Records -/

/-- Pairs are read into a record one after the other: the key of each is a spelling of a field whose
name is not seen before, and the field reads the value. -/
inductive Fills (fields : List (RecordField ρ)) (around : Surroundings) :
    List (Node × Node) → List String → ρ → ρ → Prop
  | nil {seen : List String} {record : ρ} : Fills fields around [] seen record record
  | cons {key value : Node} {rest : List (Node × Node)} {seen : List String}
      {record next result : ρ} {spelling : String} {field : RecordField ρ} :
      around.shown? key = some spelling →
      RecordField.find? fields spelling = some field →
      field.name ∉ seen →
      (field.read record).Reads around value next →
      Fills fields around rest (field.name :: seen) next result →
      Fills fields around ((key, value) :: rest) seen record result

namespace Decoder

variable {fields : List (RecordField ρ)}

/-- The key of a record is a spelling of a field that is not read yet. -/
theorem fieldKey_eq_ok (hdirect : around.Direct) {part : Partial ρ} {depth : Nat} {path : Path}
    {node : Node} {field : RecordField ρ} {followed' : Nat}
    (h : fieldKey fields part depth path node around followed = .ok (field, followed')) :
    ∃ spelling, around.shown? node = some spelling ∧
      RecordField.find? fields spelling = some field ∧ field.name ∉ part.seen := by
  obtain ⟨⟨path', node'⟩, middle, hfollow, h⟩ := Reading.bind_eq_ok_iff.1 h
  cases follow_eq_ok hfollow
  obtain ⟨spelling, middle', hspelling, h⟩ := Reading.bind_eq_ok_iff.1 h
  have hshown := shown_of_ownText ⟨_, _, _, _, hspelling⟩
  rw [hdirect.shown?_origin] at hshown
  refine ⟨spelling, hshown, ?_⟩
  cases hfound : RecordField.find? fields spelling with
  | none =>
    rw [hfound] at h
    cases horigin : around.origin node <;> simp only [horigin] at h <;> cases h
  | some found =>
    rw [hfound] at h
    cases hseen : part.seen.contains found.name with
    | true =>
      simp only [hseen, if_true] at h
      cases h
    | false =>
      simp only [hseen, Bool.false_eq_true, if_false] at h
      cases h
      exact ⟨rfl, by simpa using hseen⟩

/-- A record is filled from the pairs of the node. -/
theorem fills_of_record (hdirect : around.Direct) {expected : String} {start result : ρ}
    {node : Node} (h : (record expected fields start).Reads around node result) :
    Fills fields around (around.pairs node) [] start result := by
  obtain ⟨depth, path, followed, followed', h⟩ := h
  obtain ⟨part, middle, hpart, hresult⟩ := Reading.bind_eq_ok_iff.1 h
  cases hresult
  obtain ⟨depth, path, followed, hfold⟩ := exists_foldEntries_of_mapping hpart
  change Fills fields around _ (⟨start, []⟩ : Partial ρ).seen (⟨start, []⟩ : Partial ρ).record _
  generalize (⟨start, []⟩ : Partial ρ) = begun at hfold
  generalize around.pairs node = pairs at hfold
  induction pairs generalizing followed begun with
  | nil =>
    cases hfold
    exact .nil
  | cons pair rest ih =>
    obtain ⟨field, middle, next, middle', hkey, hvalue, hrest⟩ := foldEntries_cons_eq_ok hfold
    obtain ⟨spelling, hspelling, hfound, hseen⟩ := fieldKey_eq_ok hdirect hkey
    obtain ⟨record, middle₁, hrecord, hnext⟩ := Reading.bind_eq_ok_iff.1 hvalue
    cases hnext
    exact .cons hspelling hfound hseen ⟨_, _, _, _, hrecord⟩ (ih _ _ hrest)

end Decoder

/-- A part of a record stays what it is when a field is read. -/
def RecordField.Keeps (get : ρ → β) (around : Surroundings) (field : RecordField ρ) : Prop :=
  ∀ record value next, (field.read record).Reads around value next → get next = get record

/-- A field whose value is put into the record reads it from the value. -/
theorem RecordField.reads_plain (name : String) {decode : Decoder α} {put : ρ → α → ρ}
    {record next : ρ} {value : Node}
    (h : ((RecordField.plain name decode put).read record).Reads around value next) :
    ∃ a, decode.Reads around value a ∧ next = put record a := by
  obtain ⟨depth, path, followed, followed', h⟩ := h
  obtain ⟨a, middle, ha, hnext⟩ := Reading.bind_eq_ok_iff.1 h
  cases hnext
  exact ⟨a, ⟨_, _, _, _, ha⟩, rfl⟩

namespace Fills

variable {fields : List (RecordField ρ)} {pairs : List (Node × Node)} {seen : List String}
  {record result : ρ} {field : RecordField ρ} {get : ρ → β}

/-- A part of a record that only one field writes stays what it is once the field is read. -/
theorem get_eq_of_seen (h : Fills fields around pairs seen record result)
    (hothers : ∀ other ∈ fields, other = field ∨ other.Keeps get around)
    (hseen : field.name ∈ seen) : get result = get record := by
  induction h with
  | nil => rfl
  | cons _ hfound hnew hread _ ih =>
    rw [ih (List.mem_cons_of_mem _ hseen)]
    rcases hothers _ (List.mem_of_find?_eq_some hfound) with rfl | hkeeps
    · exact absurd hseen hnew
    · exact hkeeps _ _ _ hread

/-- A part of a record that only one field writes is read from the first value whose key is a
spelling of the field, and stays what it is if there is none. -/
theorem get_of_valueOf? (h : Fills fields around pairs seen record result)
    (hothers : ∀ other ∈ fields, other = field ∨ other.Keeps get around)
    (hspell : ∀ spelling ∈ field.spellings, RecordField.find? fields spelling = some field) :
    match around.valueOf? field.spellings pairs with
    | none => get result = get record
    | some value => ∃ before next, (field.read before).Reads around value next ∧
        get result = get next := by
  induction h with
  | nil => rfl
  | @cons key value rest seen record next result spelling found hshown hfound hnew hread hrest ih =>
    rw [Surroundings.valueOf?, List.find?_cons, hshown]
    cases hhas : (some spelling).any field.spellings.contains with
    | true =>
      have hfield : found = field := by
        have hmem : spelling ∈ field.spellings := by simpa using hhas
        exact Option.some.inj (hfound.symm.trans (hspell spelling hmem))
      subst hfield
      exact ⟨record, next, hread, hrest.get_eq_of_seen hothers (List.mem_cons_self ..)⟩
    | false =>
      have hother : found ≠ field := by
        rintro rfl
        have hcontains := List.find?_some hfound
        simp only [Option.any_some] at hhas
        rw [hhas] at hcontains
        cases hcontains
      have hkeeps := (hothers found (List.mem_of_find?_eq_some hfound)).resolve_left hother
      simpa only [Surroundings.valueOf?, hkeeps _ _ _ hread] using ih

end Fills

/-! ## Documents -/

/-- What a document is read as is what an empty text stands for, or it is read from the root. -/
theorem Document.reads_of_read {document : Document} {decode : Decoder α}
    {empty : Except Error α} {a : α} (h : document.read decode empty = .ok a) :
    document.root = none ∧ empty = .ok a ∨
      ∃ root, document.root = some root ∧ decode.Reads document.surroundings root a := by
  rw [Document.read] at h
  cases hroot : document.root with
  | none =>
    rw [hroot] at h
    exact .inl ⟨rfl, h⟩
  | some root =>
    rw [hroot] at h
    obtain ⟨⟨result, counted⟩, hresult, hrest⟩ := bind_eq_ok_iff.1 h
    have ha : result = a := by
      dsimp only at hrest
      split at hrest
      · cases hrest
      · split at hrest <;> cases hrest
        rfl
    exact .inr ⟨root, rfl, _, _, _, _, ha ▸ hresult⟩

end Dashboards.Yaml
