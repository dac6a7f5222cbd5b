/-!
# Tables

A table maps names to records and remembers the order in which the names first came in. Inserting
under a name that is already there replaces the record and leaves the name in its place, so the
names of a table are always distinct (`Table.names_nodup`), a lookup sees exactly the entries
(`Table.get?_eq_some_iff`), and an insertion changes one name only (`Table.get?_insert`).
-/

namespace Dashboards

variable {α β : Type}

/-- Puts a record under a name: in the name's place if it has one, else at the end. -/
def insertEntry (name : String) (record : α) : List (String × α) → List (String × α)
  | [] => [(name, record)]
  | entry :: rest =>
    if entry.1 = name then (name, record) :: rest else entry :: insertEntry name record rest

/-- An insertion adds its name at the end, unless the name is there. -/
theorem insertEntry_names (name : String) (record : α) (entries : List (String × α)) :
    (insertEntry name record entries).map Prod.fst =
      if name ∈ entries.map Prod.fst then entries.map Prod.fst
      else entries.map Prod.fst ++ [name] := by
  induction entries with
  | nil => simp [insertEntry]
  | cons entry rest ih =>
    by_cases h : entry.1 = name
    · simp [insertEntry, h]
    · have h' : ¬ name = entry.1 := fun e => h e.symm
      simp only [insertEntry, h, ↓reduceIte, List.map_cons, List.mem_cons, h', false_or, ih]
      split <;> simp

/-- An insertion into entries with distinct names leaves them distinct. -/
theorem insertEntry_nodup (name : String) (record : α) {entries : List (String × α)}
    (h : (entries.map Prod.fst).Nodup) :
    ((insertEntry name record entries).map Prod.fst).Nodup := by
  rw [insertEntry_names]
  split
  · exact h
  · rename_i hn
    rw [List.nodup_append]
    refine ⟨h, by simp, fun a ha b hb hab => ?_⟩
    rw [List.mem_singleton] at hb
    exact hn (hb ▸ hab ▸ ha)

/-- Named records in the order in which their names came in, no name twice. -/
structure Table (α : Type) where
  /-- The names with their records, in order. -/
  entries : List (String × α)
  /-- No name occurs twice. -/
  names_nodup : (entries.map Prod.fst).Nodup

namespace Table

/-- The table without entries. -/
def empty : Table α := ⟨[], by simp⟩

instance : Inhabited (Table α) := ⟨empty⟩

/-- Puts a record under a name; a name that is there keeps its place. -/
def insert (table : Table α) (name : String) (record : α) : Table α :=
  ⟨insertEntry name record table.entries, insertEntry_nodup name record table.names_nodup⟩

/-- The table that results from inserting the pairs one after the other. -/
def ofList (entries : List (String × α)) : Table α :=
  entries.foldl (fun table entry => table.insert entry.1 entry.2) empty

/-- The record under a name. -/
def get? (table : Table α) (name : String) : Option α :=
  table.entries.lookup name

/-- Whether a name has a record. -/
def contains (table : Table α) (name : String) : Bool :=
  (table.get? name).isSome

/-- The names, in order. -/
def names (table : Table α) : List String :=
  table.entries.map Prod.fst

/-- The records, in order. -/
def records (table : Table α) : List α :=
  table.entries.map Prod.snd

/-- The number of entries. -/
def size (table : Table α) : Nat :=
  table.entries.length

@[simp]
theorem entries_empty : (empty : Table α).entries = [] := rfl

/-- Two tables with the same entries are equal. -/
@[ext]
theorem ext {s t : Table α} (h : s.entries = t.entries) : s = t := by
  cases s; cases t; cases h; rfl

@[simp]
theorem entries_insert (table : Table α) (name : String) (record : α) :
    (table.insert name record).entries = insertEntry name record table.entries := rfl

end Table

/-- A lookup after an insertion finds the new record under its name and else what was there. -/
theorem lookup_insertEntry (name other : String) (record : α) (entries : List (String × α)) :
    (insertEntry name record entries).lookup other =
      if other = name then some record else entries.lookup other := by
  induction entries with
  | nil =>
    by_cases h : other = name
    · simp [insertEntry, h]
    · have hb : (other == name) = false := by simpa using h
      simp [insertEntry, List.lookup_cons, h, hb]
  | cons entry rest ih =>
    obtain ⟨key, old⟩ := entry
    rw [insertEntry]
    by_cases he : key = name
    · subst he
      rw [if_pos rfl, List.lookup_cons, List.lookup_cons]
      by_cases h : other = key
      · simp [h]
      · have hb : (other == key) = false := by simpa using h
        simp [h, hb]
    · rw [if_neg he, List.lookup_cons, List.lookup_cons]
      by_cases h : other = key
      · have hn : ¬ other = name := fun e => he (h ▸ e)
        have hb : (other == key) = true := by simpa using h
        simp [hb, hn]
      · have hb : (other == key) = false := by simpa using h
        simp only [hb, ih]

/-- A lookup in a table after an insertion. -/
@[simp]
theorem Table.get?_insert (table : Table α) (name other : String) (record : α) :
    (table.insert name record).get? other =
      if other = name then some record else table.get? other :=
  lookup_insertEntry name other record table.entries

/-- Among distinct names, a lookup finds exactly what is listed. -/
theorem lookup_eq_some_iff_mem {entries : List (String × α)} (h : (entries.map Prod.fst).Nodup)
    {name : String} {record : α} :
    entries.lookup name = some record ↔ (name, record) ∈ entries := by
  induction entries with
  | nil => simp
  | cons entry rest ih =>
    obtain ⟨key, old⟩ := entry
    rw [List.map_cons, List.nodup_cons] at h
    rw [List.lookup_cons]
    by_cases he : name = key
    · have hb : (name == key) = true := by simpa using he
      simp only [hb, Option.some.injEq, List.mem_cons]
      constructor
      · rintro rfl; exact .inl (by rw [he])
      · rintro (hm | hm)
        · exact (Prod.mk.inj hm).2.symm
        · exact absurd (List.mem_map_of_mem hm) (he ▸ h.1)
    · have hb : (name == key) = false := by simpa using he
      have hne : (name, record) ≠ (key, old) := fun e => he (Prod.mk.inj e).1
      simp only [hb, ih h.2, List.mem_cons, hne, false_or]

/-- A lookup in a table finds exactly its entries. -/
theorem Table.get?_eq_some_iff (table : Table α) {name : String} {record : α} :
    table.get? name = some record ↔ (name, record) ∈ table.entries :=
  lookup_eq_some_iff_mem table.names_nodup

end Dashboards
