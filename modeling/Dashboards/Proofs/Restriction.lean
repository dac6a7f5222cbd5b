import Dashboards.Proofs.Table
import Mathlib.Data.List.Forall2

/-!
# Parts of tables

A table may be restricted to some of its names, whose records stay in their order
(`Table.restrict`). If a section is read into a table, the entries that are kept of it are read into
the part of the table under their names, provided that each reads as it did before
(`Table.restrict_of_section`).
-/

namespace Dashboards

variable {ε α β : Type}

namespace Table

/-- The part of a table under some names. -/
def restrict (table : Table α) (p : String → Prop) [DecidablePred p] : Table α :=
  ⟨table.entries.filter fun entry => p entry.1,
    table.names_nodup.sublist (List.filter_sublist.map Prod.fst)⟩

/-- Tables that have the same under some names. -/
def AgreeOn (p : String → Prop) (table table' : Table α) : Prop :=
  ∀ name, p name → table'.get? name = table.get? name

variable {p : String → Prop} [DecidablePred p]

/-- A lookup in a part of a table finds what the table has under the names that are kept. -/
theorem get?_restrict (table : Table α) (name : String) :
    (table.restrict p).get? name = if p name then table.get? name else none := by
  ext record
  rw [get?_eq_some_iff, restrict, List.mem_filter, ← get?_eq_some_iff]
  by_cases h : p name <;> simp [h]

/-- A part of a table has the same as the table under the names that are kept. -/
theorem agreeOn_restrict (table : Table α) : table.AgreeOn p (table.restrict p) := by
  intro name hname
  rw [get?_restrict, if_pos hname]

/-- The names of a part of a table. -/
theorem mem_names_restrict {table : Table α} {name : String} :
    name ∈ (table.restrict p).names ↔ p name ∧ name ∈ table.names := by
  rw [mem_names_iff, mem_names_iff, get?_restrict]
  by_cases h : p name <;> simp [h]

/-- The part of a table under one of its names is one entry. -/
theorem entries_restrict_eq {table : Table α} {name : String} {record : α}
    (hget : table.get? name = some record) :
    (table.restrict (· = name)).entries = [(name, record)] := by
  have hmem : (name, record) ∈ (table.restrict (· = name)).entries := by
    rw [← get?_eq_some_iff, get?_restrict, if_pos rfl, hget]
  have hname : ∀ entry ∈ (table.restrict (· = name)).entries, entry.1 = name := by
    intro entry hentry
    simpa using (List.mem_filter.1 hentry).2
  have hnodup := (table.restrict (· = name)).names_nodup
  match (table.restrict (· = name)).entries, hmem, hname, hnodup with
  | [entry], hmem, _, _ => rw [List.mem_singleton.1 hmem]
  | entry :: other :: _, _, hname, hnodup =>
    have hsame : entry.1 = other.1 := by rw [hname entry (by simp), hname other (by simp)]
    simp [hsame] at hnodup

variable {read read' : String → α → Except ε β} {configs : Table α} {table : Table β}

/-- The entries that are kept of a section are read if each reads as before, and give what they gave
in the whole section. -/
theorem readEntries_restrict {results : List (String × β)}
    (h : readEntries read configs.entries = .ok results)
    (hagree : ∀ name config, p name → configs.get? name = some config →
      read' name config = read name config) :
    readEntries read' (configs.restrict p).entries =
      .ok (results.filter fun result => p result.1) := by
  rw [readEntries_eq_ok_iff] at h ⊢
  have hdeclared : ∀ entry ∈ (configs.restrict p).entries,
      p entry.1 ∧ configs.get? entry.1 = some entry.2 := by
    intro entry hentry
    obtain ⟨hmem, hp⟩ := List.mem_filter.1 hentry
    exact ⟨of_decide_eq_true hp, configs.get?_eq_some_iff.2 hmem⟩
  have hkept := List.rel_filter (p := fun entry : String × α => decide (p entry.1))
    (q := fun result : String × β => decide (p result.1))
    (fun _ _ hentry => by simp only [hentry.1]) h
  refine ((List.forall₂_and_left _ _).2 ⟨hdeclared, hkept⟩).imp ?_
  rintro entry result ⟨⟨hp, hconfig⟩, hname, hread⟩
  exact ⟨hname, (hagree _ _ hp hconfig).trans hread⟩

/-- A part of a section, each of whose entries reads as before, gives the part of the table under
the same names. -/
theorem restrict_of_section {outcome outcome' : Except ε (Table β)}
    (hentries : outcome.map entries = readEntries read configs.entries)
    (hentries' : outcome'.map entries = readEntries read' (configs.restrict p).entries)
    (h : outcome = .ok table)
    (hagree : ∀ name config, p name → configs.get? name = some config →
      read' name config = read name config) :
    outcome' = .ok (table.restrict p) := by
  rw [h] at hentries
  exact eq_of_map_entries (hentries'.trans (readEntries_restrict hentries.symm hagree))

end Table

end Dashboards
