import Mathlib.Data.Fintype.EquivFin
import Mathlib.Data.List.Nodup

namespace Relational

open List

/-!
# Tables with a primary key

A finite table maps each primary key to at most one row.  The operations are
the statements a relational store offers: lookup by key, insertion that
ignores a conflict, and updates, deletions and counts of the rows a condition
selects.  Every table carries the proof that its keys are distinct.
-/

/-- A finite table whose rows have distinct primary keys. -/
structure Table (Key Row : Type) where
  rows : List (Key × Row)
  keysNodup : (rows.map Prod.fst).Nodup

namespace Table

variable {Key Row : Type} [DecidableEq Key]

def empty : Table Key Row where
  rows := []
  keysNodup := nodup_nil

variable (table : Table Key Row) (selected : Key → Row → Bool) (change : Row → Row) (key : Key)

def lookup : Option Row :=
  (table.rows.find? fun entry => entry.1 = key).map Prod.snd

def contains : Bool :=
  (table.lookup key).isSome

/-- The number of rows a condition selects. -/
def countWhere : Nat :=
  table.rows.countP fun entry => selected entry.1 entry.2

theorem notMem_keys_of_lookup_eq_none {table : Table Key Row} {key : Key}
    (absent : table.lookup key = none) : key ∉ table.rows.map Prod.fst := by
  intro mem
  obtain ⟨entry, found, rfl⟩ := mem_map.mp mem
  simp only [lookup, Option.map_eq_none_iff, find?_eq_none, decide_eq_true_eq] at absent
  exact absent entry found rfl

/-- Insert a row under a key, or change nothing when the key has one. -/
def insertOrIgnore (row : Row) : Table Key Row :=
  if absent : table.lookup key = none then
    { rows := (key, row) :: table.rows
      keysNodup := nodup_cons.mpr ⟨notMem_keys_of_lookup_eq_none absent, table.keysNodup⟩ }
  else table

/-- Apply a change to every row a condition selects. -/
def updateWhere : Table Key Row where
  rows := table.rows.map fun entry =>
    (entry.1, if selected entry.1 entry.2 then change entry.2 else entry.2)
  keysNodup := by
    rw [map_map]
    exact table.keysNodup

/-- Remove every row a condition selects. -/
def deleteWhere : Table Key Row where
  rows := table.rows.filter fun entry => !selected entry.1 entry.2
  keysNodup := table.keysNodup.sublist (filter_sublist.map Prod.fst)

theorem lookup_eq_some_iff {table : Table Key Row} {key : Key} {row : Row} :
    table.lookup key = some row ↔ (key, row) ∈ table.rows := by
  obtain ⟨rows, keysNodup⟩ := table
  simp only [lookup]
  induction rows with
  | nil => simp
  | cons head rest ih =>
    simp only [map_cons, nodup_cons] at keysNodup
    obtain ⟨fresh, restNodup⟩ := keysNodup
    by_cases here : head.1 = key
    · have notLater : (key, row) ∉ rest := fun mem =>
      fresh (here ▸ mem_map.mpr ⟨_, mem, rfl⟩)
      rw [find?_cons_of_pos (by simpa using here)]
      simp only [Option.map_some, Option.some.injEq, mem_cons,
        notLater, or_false, Prod.ext_iff, here, true_and]
      exact eq_comm
    have notHere : (key, row) ≠ head := fun same => here (same ▸ rfl)
    rw [find?_cons_of_neg (by simpa using here)]
    simpa [notHere] using ih restNodup

theorem lookup_insertOrIgnore_self (row) :
    (table.insertOrIgnore key row).lookup key = some ((table.lookup key).getD row) := by
  unfold insertOrIgnore
  split
  · next absent =>
    rw [absent]
    simp [lookup]
  next present =>
  obtain ⟨_, hasRow⟩ := Option.ne_none_iff_exists'.mp present
  simp [hasRow]

theorem lookup_insertOrIgnore_of_ne {table : Table Key Row} {key other : Key} {row : Row}
    (ne : other ≠ key) : (table.insertOrIgnore key row).lookup other = table.lookup other := by
  unfold insertOrIgnore
  split
  · simp [lookup, ne.symm]
  · rfl

@[simp] theorem lookup_updateWhere :
    (table.updateWhere selected change).lookup key = (table.lookup key).map fun row =>
      if selected key row then change row else row := by
  ext row
  rw [lookup_eq_some_iff, Option.map_eq_some_iff]
  simp only [updateWhere, mem_map, lookup_eq_some_iff, Prod.ext_iff]
  constructor
  · rintro ⟨⟨_, old⟩, mem, rfl, changed⟩
    exact ⟨old, mem, changed⟩
  · rintro ⟨old, mem, changed⟩
    exact ⟨(key, old), mem, rfl, changed⟩

@[simp] theorem lookup_deleteWhere : (table.deleteWhere selected).lookup key =
      (table.lookup key).filter fun row => !selected key row := by
  ext row
  rw [lookup_eq_some_iff, Option.filter_eq_some_iff, lookup_eq_some_iff]
  simp [deleteWhere]

variable {table selected key} in
theorem lookup_of_deleteWhere (found : (table.deleteWhere selected).lookup key = some row) :
    table.lookup key = some row := by
  rw [lookup_deleteWhere, Option.filter_eq_some_iff] at found
  exact found.1

theorem exists_lookup_eq_none [Infinite Key] (table : Table Key Row) :
    ∃ key, table.lookup key = none := by
  obtain ⟨key, fresh⟩ := Infinite.exists_notMem_finset (table.rows.map Prod.fst).toFinset
  refine ⟨key, Option.eq_none_iff_forall_ne_some.mpr fun row found => fresh ?_⟩
  exact mem_toFinset.mpr (mem_map_of_mem (lookup_eq_some_iff.mp found))

end Table

end Relational
