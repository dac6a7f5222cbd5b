import Dashboards.Proofs.Sequence
import Dashboards.Table
import Mathlib.Data.List.Induction
import Mathlib.Data.List.Perm.Subperm

/-!
# Names of tables, and tables that are read entry by entry

A name is in a table when a lookup finds it (`Table.mem_names_iff`), and a record under a new name
goes to the end (`Table.entries_insert_of_not_mem`). A table that is made of a list of records has
all of them exactly if no name is repeated (`Table.entries_ofList_iff`); else a name keeps its first
place (`Table.names_ofList`) and its last record (`Table.get?_ofList`).

A section of a configuration is read entry by entry into a table. `readEntries` is that reading
without a table: what an entry gives depends on its own name and declaration. Inserting the records
one after the other gives just these entries, in the order of the section (`entries_of_section`),
so the table holds under each name what its declaration reads as (`Table.get?_of_readEntries`).
-/

namespace Dashboards

variable {ε α β : Type}

namespace Table

/-- A name is in a table exactly if a lookup finds a record. -/
theorem mem_names_iff {table : Table α} {name : String} :
    name ∈ table.names ↔ ∃ record, table.get? name = some record := by
  simp only [names, List.mem_map, table.get?_eq_some_iff]
  constructor
  · rintro ⟨entry, hentry, rfl⟩
    exact ⟨entry.2, hentry⟩
  · rintro ⟨record, hrecord⟩
    exact ⟨(name, record), hrecord, rfl⟩

/-- A lookup finds nothing exactly under the names that are not in the table. -/
theorem get?_eq_none_iff {table : Table α} {name : String} :
    table.get? name = none ↔ name ∉ table.names := by
  rw [mem_names_iff, Option.eq_none_iff_forall_ne_some]
  exact ⟨fun h ⟨record, hr⟩ => h record hr, fun h record hr => h ⟨record, hr⟩⟩

/-- A table contains exactly its names. -/
theorem contains_iff {table : Table α} {name : String} :
    table.contains name = true ↔ name ∈ table.names := by
  rw [contains, Option.isSome_iff_exists, mem_names_iff]

/-- Tables that may be missing are the same if their entries are. -/
theorem eq_of_map_entries {x y : Except ε (Table α)} (h : x.map entries = y.map entries) :
    x = y := by
  cases x with
  | error e =>
    cases y with
    | error e' => cases h; rfl
    | ok t => cases h
  | ok s =>
    cases y with
    | error e => cases h
    | ok t => exact congrArg Except.ok (ext (Except.ok.inj h))

/-- The names of a table after a record comes in under a new name. -/
theorem names_insert_of_not_mem {table : Table α} {name : String} (record : α)
    (h : name ∉ table.names) : (table.insert name record).names = table.names ++ [name] := by
  simp only [names, entries_insert, insertEntry_names]
  exact if_neg h

/-- A record under a new name goes to the end. -/
theorem entries_insert_of_not_mem {table : Table α} {name : String} (record : α)
    (h : name ∉ table.names) :
    (table.insert name record).entries = table.entries ++ [(name, record)] := by
  have append : ∀ entries : List (String × α), name ∉ entries.map Prod.fst →
      insertEntry name record entries = entries ++ [(name, record)] := by
    intro entries hn
    induction entries with
    | nil => rfl
    | cons entry rest ih =>
      simp only [List.map_cons, List.mem_cons, not_or] at hn
      rw [insertEntry, if_neg fun e => hn.1 e.symm, ih hn.2, List.cons_append]
  exact append table.entries h

/-- Records under distinct new names go to the end of a table, in order. -/
theorem entries_foldl_insert {table : Table α} {records : List (String × α)}
    (h : (table.names ++ records.map Prod.fst).Nodup) :
    (records.foldl (fun table entry => table.insert entry.1 entry.2) table).entries =
      table.entries ++ records := by
  induction records generalizing table with
  | nil => simp
  | cons entry rest ih =>
    have hnew : entry.1 ∉ table.names := by
      intro hmem
      exact (List.nodup_append.1 h).2.2 _ hmem entry.1 (by simp) rfl
    have hrest : ((table.insert entry.1 entry.2).names ++ rest.map Prod.fst).Nodup := by
      rw [names_insert_of_not_mem entry.2 hnew]
      simpa using h
    rw [List.foldl_cons, ih hrest, entries_insert_of_not_mem entry.2 hnew, List.append_assoc,
      List.singleton_append]

/-! ## Tables of lists -/

/-- The last record of a list is inserted last. -/
theorem ofList_concat (records : List (String × α)) (entry : String × α) :
    ofList (records ++ [entry]) = (ofList records).insert entry.1 entry.2 := by
  rw [ofList, List.foldl_concat]
  rfl

/-- Names that are inserted have the places where they first came in. -/
theorem names_ofList (records : List (String × α)) :
    (ofList records).names = (records.map Prod.fst).eraseDups := by
  induction records using List.reverseRecOn with
  | nil => rfl
  | append_singleton records entry ih =>
    rw [ofList_concat, List.map_append, List.eraseDups_append, ← ih]
    have hmem : entry.1 ∈ (ofList records).names ↔ entry.1 ∈ records.map Prod.fst := by
      rw [ih, List.mem_eraseDups]
    by_cases hnew : entry.1 ∈ (ofList records).names
    · have hremoved : (List.map Prod.fst [entry]).removeAll (records.map Prod.fst) = [] := by
        simpa [List.removeAll] using hmem.1 hnew
      rw [hremoved, List.eraseDups_nil, List.append_nil]
      simp only [names, entries_insert, insertEntry_names]
      exact if_pos hnew
    · have hkept : (List.map Prod.fst [entry]).removeAll (records.map Prod.fst) = [entry.1] := by
        have hout := fun h => hnew (hmem.2 h)
        simpa [List.removeAll] using hout
      rw [hkept, names_insert_of_not_mem _ hnew]
      rfl

/-- Of the records under a name, the last one counts. -/
theorem get?_ofList (records : List (String × α)) (name : String) :
    (ofList records).get? name = records.reverse.lookup name := by
  induction records using List.reverseRecOn with
  | nil => rfl
  | append_singleton records entry ih =>
    rw [ofList_concat, get?_insert, ih, List.reverse_append, List.reverse_singleton,
      List.singleton_append, List.lookup_cons]
    by_cases h : name = entry.1
    · simp [h]
    · rw [if_neg h, beq_false_of_ne h]

/-- Records are the entries of their table exactly if no name is repeated. -/
theorem entries_ofList_iff {records : List (String × α)} :
    (ofList records).entries = records ↔ (records.map Prod.fst).Nodup := by
  constructor
  · intro h
    rw [← h]
    exact (ofList records).names_nodup
  · intro h
    have hfold : (ofList records).entries = (empty : Table α).entries ++ records :=
      entries_foldl_insert (by simpa [names] using h)
    rw [hfold, entries_empty, List.nil_append]

/-- A table has as many entries as there are records exactly if no name is repeated. -/
theorem size_ofList_iff {records : List (String × α)} :
    (ofList records).size = records.length ↔ (records.map Prod.fst).Nodup := by
  constructor
  · intro h
    have hsubset : (ofList records).names ⊆ records.map Prod.fst := by
      intro name hname
      rwa [names_ofList, List.mem_eraseDups] at hname
    have hlength : (records.map Prod.fst).length ≤ (ofList records).names.length := by
      rw [List.length_map, ← h, names, List.length_map]
      exact Nat.le_refl _
    exact ((List.subperm_of_subset (ofList records).names_nodup hsubset).perm_of_length_le
      hlength).nodup_iff.1 (ofList records).names_nodup
  · intro h
    rw [size, entries_ofList_iff.2 h]

end Table

/-! ## Reading entry by entry -/

/-- The entries with what their declarations read as, or the first error. -/
def readEntries (read : String → α → Except ε β) (entries : List (String × α)) :
    Except ε (List (String × β)) :=
  entries.mapM fun entry => do return (entry.1, ← read entry.1 entry.2)

variable {read : String → α → Except ε β}

/-- Entries are read exactly if each is, and each keeps its name. -/
theorem readEntries_eq_ok_iff {entries : List (String × α)} {results : List (String × β)} :
    readEntries read entries = .ok results ↔
      List.Forall₂ (fun entry result => result.1 = entry.1 ∧ read entry.1 entry.2 = .ok result.2)
        entries results := by
  rw [readEntries, mapM_eq_ok_iff]
  have step : ∀ (entry : String × α) (result : String × β),
      (do return (entry.1, ← read entry.1 entry.2) : Except ε (String × β)) = .ok result ↔
        result.1 = entry.1 ∧ read entry.1 entry.2 = .ok result.2 := by
    intro entry result
    rw [bind_eq_ok_iff]
    constructor
    · rintro ⟨record, hread, h⟩
      cases h
      exact ⟨rfl, hread⟩
    · rintro ⟨hname, hread⟩
      exact ⟨result.2, hread, by rw [← hname]; rfl⟩
  simp only [step]

/-- The first entry of a section that cannot be read, with the error of its reading. -/
def FirstFails (read : String → α → Except ε β) (configs : Table α) (name : String) (e : ε) :
    Prop :=
  ∃ before config after, configs.entries = before ++ (name, config) :: after ∧
    (∀ entry ∈ before, ∃ record, read entry.1 entry.2 = .ok record) ∧ read name config = .error e

/-- An entry that cannot be read is declared. -/
theorem FirstFails.exists_config {configs : Table α} {name : String} {e : ε}
    (h : FirstFails read configs name e) :
    ∃ config, configs.get? name = some config ∧ read name config = .error e := by
  obtain ⟨before, config, after, hentries, -, hread⟩ := h
  refine ⟨config, configs.get?_eq_some_iff.2 ?_, hread⟩
  rw [hentries]
  exact List.mem_append_right before (List.mem_cons_self ..)

/-- The name of an entry that cannot be read is declared. -/
theorem FirstFails.mem_names {configs : Table α} {name : String} {e : ε}
    (h : FirstFails read configs name e) : name ∈ configs.names := by
  obtain ⟨config, hget, -⟩ := h.exists_config
  exact Table.mem_names_iff.2 ⟨config, hget⟩

/-- A section cannot be read exactly if an entry is the first that cannot be read. -/
theorem readEntries_eq_error_iff {configs : Table α} {e : ε} :
    readEntries read configs.entries = .error e ↔ ∃ name, FirstFails read configs name e := by
  have hentry : ∀ entry : String × α,
      (do return (entry.1, ← read entry.1 entry.2) : Except ε (String × β)) =
        (read entry.1 entry.2).map fun record => (entry.1, record) := by
    intro entry
    exact bind_pure_eq_map _ _
  have hok : ∀ entry : String × α,
      (∃ result, (read entry.1 entry.2).map (fun record => (entry.1, record)) = .ok result) ↔
        ∃ record, read entry.1 entry.2 = .ok record := by
    intro entry
    cases read entry.1 entry.2 <;> simp [Except.map]
  simp only [readEntries, mapM_eq_error_iff, hentry, hok, map_eq_error_iff, FirstFails, Prod.exists]
  constructor
  · rintro ⟨before, name, config, after, hfails⟩
    exact ⟨name, before, config, after, hfails⟩
  · rintro ⟨name, before, config, after, hfails⟩
    exact ⟨before, name, config, after, hfails⟩

/-- A function that reads a list of entries and inserts the records one after the other inserts
exactly the entries that are read, and fails as the reading does. -/
theorem insertions_eq_readEntries {addAll : List (String × α) → Table β → Except ε (Table β)}
    (hnil : ∀ table, addAll [] table = .ok table)
    (hcons : ∀ name config rest table, addAll ((name, config) :: rest) table =
      (read name config).bind fun record => addAll rest (table.insert name record))
    (entries : List (String × α)) (table : Table β) :
    addAll entries table = (readEntries read entries).map
      (List.foldl (fun table entry => table.insert entry.1 entry.2) table) := by
  induction entries generalizing table with
  | nil => exact hnil table
  | cons entry rest ih =>
    obtain ⟨name, config⟩ := entry
    rw [hcons, readEntries, List.mapM_cons, ← readEntries]
    cases read name config with
    | error e => rfl
    | ok record =>
      change addAll rest (table.insert name record) = _
      rw [ih]
      cases readEntries read rest <;> rfl

/-- A table that is filled from nothing holds the entries of a section as they are read. -/
theorem entries_of_section (addAll : List (String × α) → Table β → Except ε (Table β))
    (hnil : ∀ table, addAll [] table = .ok table)
    (hcons : ∀ name config rest table, addAll ((name, config) :: rest) table =
      (read name config).bind fun record => addAll rest (table.insert name record))
    (configs : Table α) :
    (addAll configs.entries Table.empty).map Table.entries = readEntries read configs.entries := by
  rw [insertions_eq_readEntries hnil hcons]
  cases hread : readEntries read configs.entries with
  | error e => rfl
  | ok results =>
    have hnames : results.map Prod.fst = configs.entries.map Prod.fst :=
      map_eq_map_of_forall₂ (readEntries_eq_ok_iff.1 hread) fun _ _ hentry => hentry.1
    have hnodup : ((Table.empty : Table β).names ++ results.map Prod.fst).Nodup := by
      rw [hnames]
      exact configs.names_nodup
    exact congrArg Except.ok (Table.entries_foldl_insert hnodup)

/-- A lookup among records that are read one by one finds what the declaration reads as that a
lookup among the declarations finds. -/
theorem lookup_of_forall₂_read {entries : List (String × α)} {results : List (String × β)}
    (h : List.Forall₂
      (fun entry result => result.1 = entry.1 ∧ read entry.1 entry.2 = .ok result.2)
      entries results)
    {name : String} {record : β} :
    results.lookup name = some record ↔
      ∃ config, entries.lookup name = some config ∧ read name config = .ok record := by
  induction h with
  | nil => simp
  | @cons entry result _ _ hentry _ ih =>
    obtain ⟨key, config⟩ := entry
    obtain ⟨key', record'⟩ := result
    obtain ⟨rfl, hread⟩ := hentry
    rw [List.lookup_cons, List.lookup_cons]
    by_cases hk : name = key'
    · subst hk
      simp [hread]
    · have hb : (name == key') = false := by simpa using hk
      simp only [hb, ih]

namespace Table

variable {configs : Table α} {table : Table β}

/-- A table has the names of the section that is read into it. -/
theorem names_of_section {outcome : Except ε (Table β)}
    (hentries : outcome.map entries = readEntries read configs.entries) (h : outcome = .ok table) :
    table.names = configs.names := by
  rw [h] at hentries
  exact map_eq_map_of_forall₂ (readEntries_eq_ok_iff.1 hentries.symm) fun _ _ hentry => hentry.1

/-- What is read under a name is what the declaration of that name reads as. -/
theorem get?_of_mem_readEntries {results : List (String × β)}
    (h : readEntries read configs.entries = .ok results) {name : String} {record : β}
    (hmem : (name, record) ∈ results) :
    ∃ config, configs.get? name = some config ∧ read name config = .ok record := by
  obtain ⟨entry, hentry, hname, hread⟩ :=
    forall₂_exists_of_mem_right (readEntries_eq_ok_iff.1 h) hmem
  obtain ⟨name', config⟩ := entry
  cases hname
  exact ⟨config, configs.get?_eq_some_iff.2 hentry, hread⟩

/-- A declaration of a section that is read can be read. -/
theorem exists_read_of_get? {results : List (String × β)}
    (h : readEntries read configs.entries = .ok results) {name : String} {config : α}
    (hget : configs.get? name = some config) : ∃ record, read name config = .ok record := by
  rw [get?_eq_some_iff] at hget
  obtain ⟨result, -, -, hread⟩ := forall₂_exists_of_mem_left (readEntries_eq_ok_iff.1 h) hget
  exact ⟨result.2, hread⟩

/-- A table of read entries holds under a name what the declaration of that name reads as. -/
theorem get?_of_readEntries (h : readEntries read configs.entries = .ok table.entries)
    {name : String} {record : β} :
    table.get? name = some record ↔
      ∃ config, configs.get? name = some config ∧ read name config = .ok record :=
  lookup_of_forall₂_read (readEntries_eq_ok_iff.1 h)

/-- A table is filled exactly with the entries of the section as they are read. -/
theorem section_eq_ok_iff {outcome : Except ε (Table β)}
    (hentries : outcome.map entries = readEntries read configs.entries) :
    outcome = .ok table ↔ readEntries read configs.entries = .ok table.entries := by
  rw [← hentries]
  refine ⟨fun h => by rw [h]; rfl, fun h => eq_of_map_entries ?_⟩
  rw [h]
  rfl

/-- A table is not filled exactly if an entry of the section is the first that cannot be read. -/
theorem section_eq_error_iff {outcome : Except ε (Table β)} {e : ε}
    (hentries : outcome.map entries = readEntries read configs.entries) :
    outcome = .error e ↔ ∃ name, FirstFails read configs name e := by
  rw [← readEntries_eq_error_iff, ← hentries, map_eq_error_iff]

/-- A table is filled exactly if every entry of the section can be read. -/
theorem exists_ok_of_section_iff {outcome : Except ε (Table β)}
    (hentries : outcome.map entries = readEntries read configs.entries) :
    (∃ table, outcome = .ok table) ↔
      ∀ entry ∈ configs.entries, ∃ record, read entry.1 entry.2 = .ok record := by
  constructor
  · rintro ⟨table, rfl⟩ ⟨name, config⟩ hentry
    exact exists_read_of_get? hentries.symm (configs.get?_eq_some_iff.2 hentry)
  · intro hread
    cases outcome with
    | ok table => exact ⟨table, rfl⟩
    | error e =>
      obtain ⟨name, hfails⟩ := (section_eq_error_iff hentries).1 rfl
      obtain ⟨config, hget, herror⟩ := hfails.exists_config
      obtain ⟨record, hrecord⟩ := hread (name, config) (configs.get?_eq_some_iff.1 hget)
      cases hrecord.symm.trans herror

/-- What a table holds that a section is read into is what the declaration of its name reads as. -/
theorem exists_declared_of_get? {outcome : Except ε (Table β)}
    (hentries : outcome.map entries = readEntries read configs.entries) (h : outcome = .ok table)
    {name : String} {record : β} (hget : table.get? name = some record) :
    ∃ config, configs.get? name = some config ∧ read name config = .ok record := by
  rw [h] at hentries
  exact (get?_of_readEntries hentries.symm).1 hget

/-- What a section declares is in the table that it is read into, as it reads. -/
theorem exists_record_of_get? {outcome : Except ε (Table β)}
    (hentries : outcome.map entries = readEntries read configs.entries) (h : outcome = .ok table)
    {name : String} {config : α} (hget : configs.get? name = some config) :
    ∃ record, table.get? name = some record ∧ read name config = .ok record := by
  rw [h] at hentries
  obtain ⟨record, hread⟩ := exists_read_of_get? hentries.symm hget
  exact ⟨record, (get?_of_readEntries hentries.symm).2 ⟨config, hget, hread⟩, hread⟩

end Table

end Dashboards
