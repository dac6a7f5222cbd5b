import Dashboards.Proofs.Table

/-!
# Tables with more in them

A table extends another one if it has all that the other one has (`Table.Extends`), as it does after
an insertion under a new name. If a section is read into a table and one of its entries is added or
replaced, all that is new in the table is what this entry reads as (`Table.insert_of_section`),
provided that the others read as before.
-/

namespace Dashboards

variable {ε α β : Type}

namespace Table

variable {table table' : Table α}

/-- A table has all that another one has. -/
def Extends (table table' : Table α) : Prop :=
  ∀ name record, table.get? name = some record → table'.get? name = some record

theorem Extends.refl (table : Table α) : table.Extends table :=
  fun _ _ h => h

/-- A record under a new name takes the place of no other one. -/
theorem extends_insert {name : String} (h : name ∉ table.names) (record : α) :
    table.Extends (table.insert name record) := by
  intro other found hfound
  have hne : other ≠ name := by
    rintro rfl
    exact h (mem_names_iff.2 ⟨found, hfound⟩)
  rw [get?_insert, if_neg hne, hfound]

/-- The table with the record under a name changed, if there is one. -/
def modify (table : Table α) (name : String) (f : α → α) : Table α :=
  match table.get? name with
  | some record => table.insert name (f record)
  | none => table

/-- A record that is changed is put in its own place. -/
theorem modify_of_get? {name : String} {record : α} (h : table.get? name = some record)
    (f : α → α) : table.modify name f = table.insert name (f record) := by
  rw [modify, h]

end Table

/-! ## Reading more entries -/

variable {read read' : String → α → Except ε β}

section
variable {entries : List (String × α)} {results : List (String × β)}

/-- Entries that are read give the same if each of them reads as before. -/
theorem readEntries_mono (h : readEntries read entries = .ok results)
    (hread : ∀ entry ∈ entries, ∀ record, read entry.1 entry.2 = .ok record →
      read' entry.1 entry.2 = .ok record) :
    readEntries read' entries = .ok results := by
  rw [readEntries_eq_ok_iff] at h ⊢
  refine ((List.forall₂_and_left _ _).2 ⟨fun _ => id, h⟩).imp ?_
  rintro entry result ⟨hentry, hname, hok⟩
  exact ⟨hname, hread entry hentry _ hok⟩

/-- An entry that is added, or put in the place of that of its name, changes what is read in its
place only. -/
theorem readEntries_insertEntry {name : String} (config : α)
    (hnodup : (entries.map Prod.fst).Nodup) (h : readEntries read entries = .ok results)
    (hread : ∀ entry ∈ entries, entry.1 ≠ name → ∀ record, read entry.1 entry.2 = .ok record →
      read' entry.1 entry.2 = .ok record) :
    readEntries read' (insertEntry name config entries) =
      (read' name config).map fun record => insertEntry name record results := by
  have members := readEntries_eq_ok_iff.1 h
  clear h
  induction members with
  | nil =>
    rw [insertEntry, readEntries, List.mapM_cons, List.mapM_nil]
    cases read' name config <;> rfl
  | @cons entry result rest others hentry hothers ih =>
    obtain ⟨key, declared⟩ := entry
    obtain ⟨key', record⟩ := result
    obtain ⟨rfl, hok⟩ := hentry
    rw [List.map_cons, List.nodup_cons] at hnodup
    by_cases hkey : key' = name
    · subst hkey
      have hrest : readEntries read' rest = .ok others := by
        refine readEntries_mono (readEntries_eq_ok_iff.2 hothers) fun entry hentry => ?_
        refine hread entry (List.mem_cons_of_mem _ hentry) fun hname => hnodup.1 ?_
        exact List.mem_map.2 ⟨entry, hentry, hname⟩
      rw [insertEntry, if_pos rfl, readEntries, List.mapM_cons, ← readEntries, hrest]
      cases read' key' config <;> simp [insertEntry, bind, Except.bind, Except.map, pure,
        Except.pure]
    · have hok' : read' key' declared = .ok record := hread _ (List.mem_cons_self ..) hkey _ hok
      rw [insertEntry, if_neg hkey, readEntries, List.mapM_cons, ← readEntries, hok',
        ih hnodup.2 fun entry hentry => hread entry (List.mem_cons_of_mem _ hentry)]
      cases read' name config <;> simp [insertEntry, hkey, bind, Except.bind, Except.map, pure,
        Except.pure]

end

namespace Table

variable {configs : Table α} {table : Table β} {outcome outcome' : Except ε (Table β)}

/-- A section whose entries read as before is read into the same table. -/
theorem eq_of_section (hentries : outcome.map entries = readEntries read configs.entries)
    (hentries' : outcome'.map entries = readEntries read' configs.entries)
    (h : outcome = .ok table)
    (hread : ∀ name config record, read name config = .ok record →
      read' name config = .ok record) :
    outcome' = .ok table := by
  rw [h] at hentries
  exact eq_of_map_entries <| hentries'.trans <|
    readEntries_mono hentries.symm fun entry _ => hread entry.1 entry.2

/-- A section with an entry that is added or put in the place of that of its name is read into the
table with the record of this entry. -/
theorem insert_of_section {name : String} {config : α}
    (hentries : outcome.map entries = readEntries read configs.entries)
    (hentries' : outcome'.map entries = readEntries read' (configs.insert name config).entries)
    (h : outcome = .ok table)
    (hread : ∀ name config record, read name config = .ok record →
      read' name config = .ok record) :
    outcome' = (read' name config).map (table.insert name) := by
  rw [h] at hentries
  rw [entries_insert, readEntries_insertEntry config configs.names_nodup hentries.symm
    fun entry _ _ => hread entry.1 entry.2] at hentries'
  refine eq_of_map_entries (hentries'.trans ?_)
  cases read' name config <;> rfl

end Table

end Dashboards
