import Dashboards.Proofs.Table
import Mathlib.Data.List.Nodup
import Mathlib.Data.List.Perm.Basic

/-!
# Tables in another order

Tables with the same entries in another order have the same record under every name, and are the
only ones that do (`Table.perm_iff`). A section in another order is read into such a table, or
neither is read (`Table.bothOrNeither_of_section`).
-/

namespace Dashboards

variable {ε α β : Type}

/-- Results that are both there and related, or both missing, for whatever reasons. -/
abbrev BothOrNeither (R : α → β → Prop) : Except ε α → Except ε β → Prop :=
  Alike (fun _ _ => True) R

/-- Results are both there or both missing if each is there when the other is. -/
theorem BothOrNeither.of_ok {R : α → β → Prop} {x : Except ε α} {y : Except ε β}
    (h : ∀ a, x = .ok a → ∃ b, y = .ok b ∧ R a b) (h' : ∀ b, y = .ok b → ∃ a, x = .ok a) :
    BothOrNeither R x y := by
  cases x with
  | ok a =>
    obtain ⟨b, rfl, hab⟩ := h a rfl
    exact .ok hab
  | error e =>
    cases y with
    | error e' => exact .error trivial
    | ok b =>
      obtain ⟨a, ha⟩ := h' b rfl
      cases ha

namespace Table

variable {table table' : Table α}

/-- Tables with the same entries, perhaps in another order. -/
def Perm (table table' : Table α) : Prop :=
  table.entries.Perm table'.entries

theorem Perm.refl (table : Table α) : table.Perm table :=
  List.Perm.refl _

theorem Perm.symm (h : table.Perm table') : table'.Perm table :=
  List.Perm.symm h

/-- The table with its entries in reverse order. -/
def reverse (table : Table α) : Table α where
  entries := table.entries.reverse
  names_nodup := by
    rw [List.map_reverse, List.nodup_reverse]
    exact table.names_nodup

theorem perm_reverse (table : Table α) : table.Perm table.reverse :=
  table.entries.reverse_perm.symm

/-- The entries of a table are distinct. -/
theorem entries_nodup (table : Table α) : table.entries.Nodup :=
  .of_map Prod.fst table.names_nodup

/-- Tables have the same entries exactly if they have the same under every name. -/
theorem perm_iff : table.Perm table' ↔ ∀ name, table'.get? name = table.get? name := by
  rw [Perm, List.perm_ext_iff_of_nodup table.entries_nodup table'.entries_nodup]
  constructor
  · intro h name
    ext record
    rw [get?_eq_some_iff, get?_eq_some_iff]
    exact (h (name, record)).symm
  · rintro h ⟨name, record⟩
    rw [← get?_eq_some_iff, ← get?_eq_some_iff, h]

/-- Tables in another order have the same records under the names. -/
theorem Perm.get?_eq (h : table.Perm table') : table'.get? = table.get? :=
  funext (perm_iff.1 h)

/-- Tables in another order have the same names. -/
theorem Perm.mem_names (h : table.Perm table') {name : String} :
    name ∈ table'.names ↔ name ∈ table.names :=
  (List.Perm.map Prod.fst h).symm.mem_iff

end Table

/-! ## Reading in another order -/

variable {read read' : String → α → Except ε β}

/-- Entries in another order are read to the same records in another order. -/
theorem readEntries_perm {entries entries' : List (String × α)} {results : List (String × β)}
    (hperm : entries.Perm entries') (h : readEntries read entries = .ok results) :
    ∃ results', readEntries read entries' = .ok results' ∧ results.Perm results' := by
  obtain ⟨results', hread, hresults⟩ :=
    List.perm_comp_forall₂ hperm.symm (readEntries_eq_ok_iff.1 h)
  exact ⟨results', readEntries_eq_ok_iff.2 hread, hresults.symm⟩

namespace Table

variable {configs configs' : Table α} {outcome outcome' : Except ε (Table β)}

/-- What a section is read into is there if a section in another order is read, and is the same in
another order. -/
theorem exists_of_section {table : Table β}
    (hentries : outcome.map entries = readEntries read configs.entries)
    (hentries' : outcome'.map entries = readEntries read configs'.entries)
    (hperm : configs.Perm configs') (h : outcome = .ok table) :
    ∃ table', outcome' = .ok table' ∧ table.Perm table' := by
  rw [h] at hentries
  obtain ⟨results, hread, hresults⟩ := readEntries_perm hperm hentries.symm
  rw [hread] at hentries'
  cases outcome' with
  | error e => cases hentries'
  | ok table' =>
    cases hentries'
    exact ⟨table', rfl, hresults⟩

/-- A section in another order, whose entries read the same, is read into the same table in another
order, or neither is read. -/
theorem bothOrNeither_of_section (hentries : outcome.map entries = readEntries read configs.entries)
    (hentries' : outcome'.map entries = readEntries read' configs'.entries)
    (hperm : configs.Perm configs') (hread : ∀ name config, read' name config = read name config) :
    BothOrNeither Perm outcome outcome' := by
  cases (funext fun name => funext (hread name) : read' = read)
  refine BothOrNeither.of_ok (fun table h => exists_of_section hentries hentries' hperm h)
    fun table' h => ?_
  obtain ⟨table, htable, -⟩ := exists_of_section hentries' hentries hperm.symm h
  exact ⟨table, htable⟩

end Table

end Dashboards
