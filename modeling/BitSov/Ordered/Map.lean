import Mathlib.Data.List.Nodup
import Mathlib.Data.List.Pairwise
import Mathlib.Order.Lattice
import Mathlib.Algebra.BigOperators.Group.List.Basic
import Mathlib.Algebra.GroupWithZero.Nat

namespace Ordered

open List Option

/-!
# Ordered maps

Finite maps whose entries are kept in the order of their keys, as a B-tree map
iterates over them.  Every change of one key is an `alter`, which applies a
function to the optional value of the key; insertion, removal and
modification are instances.  `total` adds up a weight over the entries, and
one equation says how an `alter` changes it.
-/

/-- A finite map with entries in strictly increasing order of keys. -/
structure OrderedMap (Key Value : Type) [LinearOrder Key] where
  entries : List (Key × Value)
  sorted : entries.Pairwise fun first second => first.1 < second.1
  deriving Repr, DecidableEq

namespace OrderedMap

section

variable {Key Value : Type} [LinearOrder Key]
  {entries : List (Key × Value)} {change : Option Value → Option Value}
  {map : OrderedMap Key Value} {key : Key}

def lookupEntries (key : Key) : List (Key × Value) → Option Value
  | [] => none
  | entry :: rest => if key = entry.1 then some entry.2 else lookupEntries key rest

def alterEntries (key : Key) (change : Option Value → Option Value) :
    List (Key × Value) → List (Key × Value)
  | [] => ((change none).map fun value => (key, value)).toList
  | entry :: rest =>
    if key < entry.1 then ((change none).map fun value => (key, value)).toList ++ entry :: rest
    else if key = entry.1 then
      ((change (some entry.2)).map fun value => (key, value)).toList ++ rest
    else entry :: alterEntries key change rest

/-- The optional entry of a key. -/
def entryOf (key : Key) (value : Option Value) : List (Key × Value) :=
  (value.map fun value => (key, value)).toList

/-- Entries in order are those of lesser keys, that of the key and those of greater keys. -/
theorem exists_around (sorted : entries.Pairwise fun first second => first.1 < second.1) (key) :
    ∃ before after, (∀ entry ∈ before, entry.1 < key) ∧ (∀ entry ∈ after, key < entry.1) ∧
      ∃ value, entries = before ++ entryOf key value ++ after ∧ ∀ change,
        alterEntries key change entries = before ++ entryOf key (change value) ++ after := by
  induction entries with
  | nil => exact ⟨[], [], nofun, nofun, none, rfl, fun _ => (append_nil _).symm⟩
  | cons head rest ih =>
    obtain ⟨headBelow, restSorted⟩ := pairwise_cons.mp sorted
    rcases lt_trichotomy key head.1 with below | rfl | above
    · refine ⟨[], head :: rest, nofun, forall_mem_cons.mpr ⟨below, ?_⟩, none, rfl, ?_⟩
      · exact fun entry later => below.trans (headBelow entry later)
      · exact fun _ => if_pos below
    · refine ⟨[], rest, nofun, headBelow, some head.2, rfl, fun _ => ?_⟩
      rw [alterEntries, if_neg (lt_irrefl _), if_pos rfl]
      rfl
    · obtain ⟨before, after, lesser, greater, value, rfl, altered⟩ := ih restSorted
      refine ⟨head :: before, after, forall_mem_cons.mpr ⟨above, lesser⟩, greater, value, rfl, ?_⟩
      intro change
      rw [alterEntries, if_neg above.not_gt, if_neg above.ne', altered]
      rfl

theorem pairwise_alterEntries (sorted : entries.Pairwise fun first second => first.1 < second.1) :
    (alterEntries key change entries).Pairwise fun first second => first.1 < second.1 := by
  obtain ⟨before, after, lesser, greater, value, rfl, altered⟩ := exists_around sorted key
  have outer : (before ++ after).Pairwise fun first second => first.1 < second.1 :=
    sorted.sublist ((sublist_append_left _ _).append (Sublist.refl _))
  rw [altered]
  cases change value with
  | none => simpa [entryOf] using outer
  | some =>
    obtain ⟨beforeSorted, afterSorted, across⟩ := pairwise_append.mp outer
    rw [append_assoc]
    refine pairwise_append.mpr ⟨beforeSorted, pairwise_cons.mpr ⟨greater, afterSorted⟩, ?_⟩
    intro entry mem
    exact forall_mem_cons.mpr ⟨lesser entry mem, across entry mem⟩

theorem lookupEntries_eq_none_of_below (below : ∀ entry ∈ entries, key < entry.1) :
    lookupEntries key entries = none := by
  induction entries with
  | nil => rfl
  | cons head _ ih =>
    have ne := (below head mem_cons_self).ne
    rw [lookupEntries, if_neg ne]
    exact ih fun entry mem => below entry (mem_cons_of_mem _ mem)

theorem lookupEntries_around {before after : List (Key × Value)}
    (lesser : ∀ entry ∈ before, entry.1 < key) (greater : ∀ entry ∈ after, key < entry.1)
    (other value) : lookupEntries other (before ++ entryOf key value ++ after) =
      if other = key then value else lookupEntries other (before ++ after) := by
  induction before with
  | nil =>
    by_cases same : other = key
    · cases value with
      | none => simp [entryOf, same, lookupEntries_eq_none_of_below greater]
      | some => simp [entryOf, same, lookupEntries]
    · cases value with
      | none | some => simp [entryOf, same, lookupEntries]
  | cons head before ih =>
    obtain ⟨headBelow, lesser⟩ := forall_mem_cons.mp lesser
    simp only [cons_append, lookupEntries, ih lesser]
    split
    · next same => rw [if_neg (same ▸ headBelow.ne)]
    · rfl

/-- Reading an altered list of entries. -/
theorem lookupEntries_alterEntries
    (sorted : entries.Pairwise fun first second => first.1 < second.1) :
    lookupEntries other (alterEntries key change entries) = if other = key then
      change (lookupEntries key entries) else lookupEntries other entries := by
  obtain ⟨before, after, lesser, greater, value, rfl, altered⟩ := exists_around sorted key
  rw [altered]
  simp only [lookupEntries_around lesser greater, if_true]
  split <;> rfl

def weightOf (weight : Key → Value → Nat) (key : Key) (value : Option Value) : Nat :=
  value.elim 0 (weight key)

def totalEntries (weight : Key → Value → Nat) (entries : List (Key × Value)) : Nat :=
  (entries.map fun entry => weight entry.1 entry.2).sum

/-- Altering a key exchanges its weight in the total. -/
theorem totalEntries_alterEntries
    (sorted : entries.Pairwise fun first second => first.1 < second.1) :
    totalEntries weight (alterEntries key change entries) +
      weightOf weight key (lookupEntries key entries) =
      totalEntries weight entries + weightOf weight key (change (lookupEntries key entries)) := by
  obtain ⟨before, after, lesser, greater, value, rfl, altered⟩ := exists_around sorted key
  have own (value : Option Value) :
      totalEntries weight (entryOf key value) = weightOf weight key value := by
    cases value with
    | none => rfl
    | some => exact Nat.add_zero _
  have total_append (left right : List (Key × Value)) :
      totalEntries weight (left ++ right) =
        totalEntries weight left + totalEntries weight right := by
    simp [totalEntries]
  rw [altered, lookupEntries_around lesser greater, if_pos rfl]
  simp only [total_append, own]
  omega

def empty : OrderedMap Key Value where
  entries := []
  sorted := List.Pairwise.nil

def get? (map : OrderedMap Key Value) (key : Key) : Option Value :=
  lookupEntries key map.entries

def contains (map : OrderedMap Key Value) (key : Key) : Bool :=
  (map.get? key).isSome

def alter (map : OrderedMap Key Value) (key : Key) (change : Option Value → Option Value) :
    OrderedMap Key Value where
  entries := alterEntries key change map.entries
  sorted := pairwise_alterEntries map.sorted

def insert (map : OrderedMap Key Value) (key : Key) (value : Value) : OrderedMap Key Value :=
  map.alter key fun _ => some value

def erase (map : OrderedMap Key Value) (key : Key) : OrderedMap Key Value :=
  map.alter key fun _ => none

def modify (map : OrderedMap Key Value) (key : Key) (change : Value → Value) :
    OrderedMap Key Value :=
  map.alter key (Option.map change)

def filter (map : OrderedMap Key Value) (selected : Key → Value → Bool) : OrderedMap Key Value where
  entries := map.entries.filter fun entry => selected entry.1 entry.2
  sorted := map.sorted.filter _

def mapValues (map : OrderedMap Key Value) (change : Value → Value) : OrderedMap Key Value where
  entries := map.entries.map fun entry => (entry.1, change entry.2)
  sorted := pairwise_map.mpr map.sorted

def find? (map : OrderedMap Key Value) (selected : Key → Value → Bool) : Option (Key × Value) :=
  map.entries.find? fun entry => selected entry.1 entry.2

def total (map : OrderedMap Key Value) (weight : Key → Value → Nat) : Nat :=
  totalEntries weight map.entries

@[simp] theorem get?_empty (key) : (empty : OrderedMap Key Value).get? key = none := rfl

theorem get?_alter (map : OrderedMap Key Value) (key other)
    (change) : (map.alter key change).get? other =
      if other = key then change (map.get? key) else map.get? other :=
  lookupEntries_alterEntries map.sorted

theorem get?_insert (map : OrderedMap Key Value) (key other value) :
    (map.insert key value).get? other = if other = key then some value else map.get? other :=
  map.get?_alter key other _

theorem get?_erase (map : OrderedMap Key Value) (key other) :
    (map.erase key).get? other = if other = key then none else map.get? other :=
  map.get?_alter key other _

theorem get?_modify (map : OrderedMap Key Value) (key other change) :
    (map.modify key change).get? other =
      if other = key then (map.get? key).map change else map.get? other :=
  map.get?_alter key other _

theorem total_alter (map : OrderedMap Key Value) (key change)
    (weight) : (map.alter key change).total weight + weightOf weight key (map.get? key) =
      map.total weight + weightOf weight key (change (map.get? key)) :=
  totalEntries_alterEntries map.sorted

theorem weightOf_le_total (map : OrderedMap Key Value) (key weight) :
    weightOf weight key (map.get? key) ≤ map.total weight := by
  have exchanged := map.total_alter key (fun _ => none) weight
  simp only [weightOf, Option.elim] at exchanged ⊢
  omega

@[simp] theorem get?_mapValues (map : OrderedMap Key Value) (change key) :
    (map.mapValues change).get? key = (map.get? key).map change := by
  obtain ⟨entries, sorted⟩ := map
  simp only [get?, mapValues]
  induction entries with
  | nil => rfl
  | cons _ _ ih =>
    simp only [map_cons, lookupEntries]
    split
    · rfl
    · exact ih (pairwise_cons.mp sorted).2

variable {value : Value} {entry : Key × Value}

theorem get?_eq_some_of_mem (mem : (key, value) ∈ map.entries) : map.get? key = some value := by
  obtain ⟨entries, sorted⟩ := map
  simp only [get?] at mem ⊢
  induction entries with
  | nil => cases mem
  | cons head _ ih =>
    obtain ⟨headBelow, restSorted⟩ := pairwise_cons.mp sorted
    rcases mem_cons.mp mem with rfl | later
    · simp [lookupEntries]
    have ne := (headBelow _ later).ne'
    rw [lookupEntries, if_neg ne]
    exact ih restSorted later

theorem get?_of_find?_eq_some (found : map.find? selected = some entry) :
    map.get? entry.1 = some entry.2 ∧ selected entry.1 entry.2 := by
  refine ⟨get?_eq_some_of_mem (mem_of_find?_eq_some found), ?_⟩
  have meets := find?_some found
  exact meets

theorem get?_eq_some_iff : map.get? key = some value ↔ (key, value) ∈ map.entries := by
  refine ⟨?_, get?_eq_some_of_mem⟩
  obtain ⟨entries, sorted⟩ := map
  simp only [get?]
  induction entries with
  | nil => simp [lookupEntries]
  | cons _ _ ih =>
    intro found
    unfold lookupEntries at found
    split at found
    · next same =>
      rw [Option.some.injEq] at found
      rw [same, ← found]
      exact mem_cons_self
    · exact mem_cons_of_mem _ (ih (pairwise_cons.mp sorted).2 found)

theorem ext_get? {first second : OrderedMap Key Value}
    (alike : ∀ key, first.get? key = second.get? key) : first = second := by
  have nodup (map : OrderedMap Key Value) : map.entries.Nodup :=
    map.sorted.imp fun below same => below.ne (congrArg Prod.fst same)
  have permuted : first.entries.Perm second.entries := by
    rw [perm_ext_iff_of_nodup (nodup first) (nodup second)]
    intro _
    rw [← get?_eq_some_iff, alike, get?_eq_some_iff]
  have same := permuted.eq_of_pairwise
    (fun _ _ _ _ below above => (below.asymm above).elim)
    first.sorted second.sorted
  cases first
  cases second
  cases same
  rfl

def singleton (key : Key) (value : Value) : OrderedMap Key Value :=
  empty.insert key value

@[simp] theorem get?_singleton (key other : Key) (value : Value) :
    (singleton key value).get? other = if other = key then some value else none := by
  simp [singleton, get?_insert]

theorem modify_singleton (key : Key) (value : Value) (change : Value → Value) :
    (singleton key value).modify key change = singleton key (change value) := by
  refine ext_get? fun _ => ?_
  rw [get?_modify]
  split
  · next same => simp [same]
  · next ne => simp [ne]

end

end OrderedMap

end Ordered
