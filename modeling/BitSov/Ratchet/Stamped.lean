import Mathlib.Data.List.AList
import Mathlib.Data.List.MinMax

namespace Ratchet

open List

/-!
# Stores that forget the oldest

Entries are stamped with the number of their insertion.  A store that has
grown too large loses the entries that were inserted first.
-/

/-- Values by id, each with the stamp of its insertion. -/
abbrev Stamped (Id Value : Type) := AList fun _ : Id => Value × Nat

namespace Stamped

variable {Id Value : Type}

def stamps (store : Stamped Id Value) : List Nat :=
  store.entries.map fun entry => entry.2.2

/-- The stamps are distinct and below the next one. -/
structure Sound (store : Stamped Id Value) (next : Nat) : Prop where
  distinct : store.stamps.Nodup
  below : ∀ stamp ∈ store.stamps, stamp < next

theorem sound_empty : Sound (∅ : Stamped Id Value) 0 where
  distinct := nodup_nil
  below := by simp [stamps]

variable {store smaller : Stamped Id Value}

theorem Sound.of_sublist {next : Nat} (sound : store.Sound next)
    (sublist : List.Sublist smaller.entries store.entries) : smaller.Sound next where
  distinct := sound.distinct.sublist (sublist.map _)
  below stamp member := sound.below stamp ((sublist.map _).subset member)

/-- What one store has lost to another is older than all that is left. -/
structure Forgets (store smaller : Stamped Id Value) : Prop where
  sublist : List.Sublist smaller.entries store.entries
  older : ∀ lost ∈ store.entries,
    lost ∉ smaller.entries → ∀ kept ∈ smaller.entries, lost.2.2 < kept.2.2

theorem Forgets.refl (store : Stamped Id Value) : Forgets store store where
  sublist := List.Sublist.refl _
  older _ member absent := absurd member absent

theorem Forgets.trans {first second third : Stamped Id Value} (forgets : Forgets first second)
    (forgetsMore : Forgets second third) : Forgets first third where
  sublist := forgetsMore.sublist.trans forgets.sublist
  older lost member absent kept keptMember := by
    by_cases between : lost ∈ second.entries
    · exact forgetsMore.older lost between absent kept keptMember
    · exact forgets.older lost member between kept (forgetsMore.sublist.subset keptMember)

theorem mem_of_sublist {id : Id} (sublist : List.Sublist smaller.entries store.entries)
    (mem : id ∈ smaller) : id ∈ store :=
  AList.mem_keys.mpr ((sublist.map Sigma.fst).subset (AList.mem_keys.mp mem))

/-- The entries in the order of their insertion. -/
def inOrder (store : Stamped Id Value) : List (Id × Value) :=
  (store.entries.mergeSort
    fun first second => first.2.2 ≤ second.2.2).map
    fun entry => (entry.1, entry.2.1)

theorem map_fst_inOrder_perm (store : Stamped Id Value) :
    List.Perm (store.inOrder.map Prod.fst) store.keys := by
  unfold inOrder
  rw [map_map]
  exact (mergeSort_perm _ _).map Sigma.fst

theorem length_inOrder (store : Stamped Id Value) :
    store.inOrder.length = store.entries.length := by
  rw [inOrder, length_map, length_mergeSort]

/-- The entries with ascending stamps. -/
def sorted (store : Stamped Id Value) : List (Sigma fun _ : Id => Value × Nat) :=
  store.entries.mergeSort fun first second => first.2.2 ≤ second.2.2

theorem sorted_perm (store : Stamped Id Value) : List.Perm store.sorted store.entries :=
  mergeSort_perm _ _

theorem pairwise_sorted (store : Stamped Id Value) :
    store.sorted.Pairwise fun first second => first.2.2 ≤ second.2.2 := by
  refine (pairwise_mergeSort ?_ ?_ store.entries).imp of_decide_eq_true
  · intro _ _ _ first second
    simp only [decide_eq_true_eq] at first second ⊢
    omega
  · intro _ _
    simp only [Bool.or_eq_true, decide_eq_true_eq]
    omega

/-- Whatever arrangement of the entries has ascending stamps is their order. -/
theorem inOrder_eq_map {ordered : List (Sigma fun _ : Id => Value × Nat)}
    (perm : List.Perm ordered store.entries)
    (ascending : ordered.Pairwise fun first second => first.2.2 < second.2.2) :
    store.inOrder = ordered.map fun entry => (entry.1, entry.2.1) := by
  have distinct : (ordered.map fun entry => entry.2.2).Nodup :=
    pairwise_map.mpr (ascending.imp Nat.ne_of_lt)
  have same : List.Perm store.sorted ordered := store.sorted_perm.trans perm.symm
  have equal : store.sorted = ordered := by
    refine same.eq_of_pairwise ?_ store.pairwise_sorted (ascending.imp Nat.le_of_lt)
    intro first second firstMem secondMem le ge
    exact inj_on_of_nodup_map distinct (same.mem_iff.mp firstMem) secondMem (le_antisymm le ge)
  exact congrArg (List.map _) equal

theorem Sound.ascending {next : Nat} (sound : store.Sound next) :
    store.sorted.Pairwise fun first second => first.2.2 < second.2.2 := by
  have distinct : (store.sorted.map fun entry => entry.2.2).Nodup :=
    (store.sorted_perm.map _).nodup_iff.mpr sound.distinct
  exact (store.pairwise_sorted.and (pairwise_map.mp distinct)).imp fun both =>
    Nat.lt_of_le_of_ne both.1 both.2

variable [DecidableEq Id]
  {store : Stamped Id Value} {values : List (Id × Value)} {next : Nat} {id : Id}

/-- Insert values in order, stamping them one after the other. -/
def insertAll (store : Stamped Id Value) (next : Nat) : List (Id × Value) → Stamped Id Value
  | [] => store
  | (id, value) :: later => insertAll (store.insert id (value, next)) (next + 1) later

/-- Remove the entry that was inserted first. -/
def evictOldest (store : Stamped Id Value) : Stamped Id Value :=
  match store.entries.argmin fun entry => entry.2.2 with
  | some entry => store.erase entry.1
  | none => store

/-- Remove the oldest entries until the store has at most so many. -/
def evictTo (limit : Nat) (store : Stamped Id Value) : Stamped Id Value :=
  evictOldest^[store.entries.length - limit] store

theorem entries_erase_sublist (store : Stamped Id Value) (id) :
    List.Sublist (store.erase id).entries store.entries := kerase_sublist id store.entries

theorem Sound.erase (sound : store.Sound next) (id) :
    Sound (store.erase id) next := sound.of_sublist (entries_erase_sublist store id)

theorem Sound.insert (sound : store.Sound next) (id value) :
    Sound (store.insert id (value, next)) (next + 1) := by
  have kept := sound.erase id
  have entries : stamps (store.insert id (value, next)) = next :: stamps (store.erase id) := by
    unfold stamps
    rw [AList.entries_insert]
    rfl
  constructor
  · rw [entries]
    refine nodup_cons.mpr ⟨?_, kept.distinct⟩
    intro mem
    exact absurd (kept.below next mem) (Nat.lt_irrefl next)
  rw [entries]
  intro stamp mem
  rcases mem_cons.mp mem with rfl | old
  · exact Nat.lt_succ_self stamp
  · exact Nat.lt_succ_of_lt (kept.below stamp old)

theorem Sound.insertAll (sound : store.Sound next) (values) :
    Sound (store.insertAll next values) (next + values.length) := by
  induction values generalizing store next with
  | nil => exact sound
  | cons entry later ih =>
    have inserted := ih (sound.insert entry.1 entry.2)
    rw [length_cons, Nat.add_comm later.length 1, ← Nat.add_assoc]
    exact inserted

theorem length_insertAll_le (store : Stamped Id Value) (next values) :
    (store.insertAll next values).entries.length ≤ store.entries.length + values.length := by
  induction values generalizing store next with
  | nil => exact le_rfl
  | cons entry _ ih =>
    have inserted :
      (store.insert entry.1 (entry.2, next)).entries.length ≤ store.entries.length + 1 := by
      rw [AList.entries_insert, length_cons]
      exact Nat.add_le_add_right (entries_erase_sublist store entry.1).length_le 1
    have rest := ih (store.insert entry.1 (entry.2, next)) (next + 1)
    rw [insertAll, length_cons]
    omega

theorem mem_insertAll_iff :
    id ∈ store.insertAll next values ↔ id ∈ values.map Prod.fst ∨ id ∈ store := by
  induction values generalizing store next with
  | nil => simp [insertAll]
  | cons _ _ ih =>
    rw [insertAll, ih, AList.mem_insert, map_cons, mem_cons]
    constructor
    · rintro (mem | same | old)
      · exact .inl (.inr mem)
      · exact .inl (.inl same)
      · exact .inr old
    rintro ((same | mem) | old)
    · exact .inr (.inl same)
    · exact .inl mem
    · exact .inr (.inr old)

theorem lookup_insertAll_of_notMem (absent : id ∉ values.map Prod.fst) (store : Stamped Id Value)
    (next) : (store.insertAll next values).lookup id = store.lookup id := by
  induction values generalizing store next with
  | nil => rfl
  | cons _ _ ih =>
    rw [map_cons, mem_cons, not_or] at absent
    rw [insertAll, ih absent.2]
    exact AList.lookup_insert_ne absent.1

theorem lookup_insertAll_getElem (distinct : (values.map Prod.fst).Nodup)
    (found : values[index]? = some entry) (store : Stamped Id Value)
    (next) : (store.insertAll next values).lookup entry.1 = some (entry.2, next + index) := by
  induction values generalizing store next index with
  | nil => simp at found
  | cons _ _ ih =>
    obtain ⟨notLater, distinctLater⟩ := nodup_cons.mp distinct
    rw [insertAll]
    cases index with
    | zero =>
      cases Option.some.inj found
      rw [lookup_insertAll_of_notMem notLater]
      exact AList.lookup_insert _
    | succ index => rw [ih distinctLater found, Nat.add_assoc, Nat.add_comm 1 index]

/-- One store numbers the entries of another anew, in the same order. -/
def Renumbers (store renumbered : Stamped Id Value) : Prop :=
  (∀ id, id ∈ renumbered ↔ id ∈ store) ∧
    ∀ first second firstValue secondValue firstStamp secondStamp,
      store.lookup first = some (firstValue, firstStamp) →
        store.lookup second = some (secondValue, secondStamp) →
          firstStamp < secondStamp →
            ∃ firstNew secondNew,
              renumbered.lookup first = some (firstValue, firstNew) ∧
                renumbered.lookup second = some (secondValue, secondNew) ∧ firstNew < secondNew

/-- Where the entries are when they are in order. -/
theorem inOrder_getElem (firstFound : store.lookup first = some (firstValue, firstStamp))
    (secondFound : store.lookup second = some (secondValue, secondStamp))
    (before : firstStamp < secondStamp) :
    ∃ firstIndex secondIndex : Nat, store.inOrder[firstIndex]? = some (first, firstValue) ∧
      store.inOrder[secondIndex]? = some (second, secondValue) ∧ firstIndex < secondIndex := by
  have indexed {id : Id} {value : Value} {stamp : Nat}
    (found : store.lookup id = some (value, stamp)) :
    ∃ index : Nat, store.sorted[index]? = some (Sigma.mk id (value, stamp)) :=
    mem_iff_getElem?.mp (mem_mergeSort.mpr (AList.mem_lookup_iff.mp found))
  obtain ⟨firstIndex, firstAt⟩ := indexed firstFound
  obtain ⟨secondIndex, secondAt⟩ := indexed secondFound
  refine ⟨firstIndex, secondIndex, ?_, ?_, ?_⟩
  · unfold inOrder
    rw [List.getElem?_map]
    exact congrArg _ firstAt
  · unfold inOrder
    rw [List.getElem?_map]
    exact congrArg _ secondAt
  by_contra notBefore
  obtain ⟨firstBound, firstGet⟩ := List.getElem?_eq_some_iff.mp firstAt
  obtain ⟨secondBound, secondGet⟩ := List.getElem?_eq_some_iff.mp secondAt
  rcases Nat.lt_or_ge secondIndex firstIndex with after | _
  · have ordered := pairwise_iff_getElem.mp store.pairwise_sorted secondIndex firstIndex secondBound
      firstBound after
    rw [firstGet, secondGet] at ordered
    dsimp only at ordered
    omega
  have equal : firstIndex = secondIndex := by omega
  subst equal
  have sameStamp : firstStamp = secondStamp :=
    congrArg (fun entry => entry.2.2) (firstGet.symm.trans secondGet)
  omega

theorem renumbers_insertAll_inOrder (store : Stamped Id Value) :
    Renumbers store (insertAll ∅ 0 store.inOrder) := by
  have perm := store.map_fst_inOrder_perm
  have distinct := perm.nodup_iff.mpr store.nodupKeys
  constructor
  · intro _
    rw [mem_insertAll_iff, perm.mem_iff, ← AList.mem_keys]
    simp
  intro _ _ _ _ _ _ firstFound secondFound before
  obtain ⟨firstIndex, secondIndex, firstAt, secondAt, _⟩ :=
    inOrder_getElem firstFound secondFound before
  exact ⟨0 + firstIndex, 0 + secondIndex, lookup_insertAll_getElem distinct firstAt ∅ 0,
    lookup_insertAll_getElem distinct secondAt ∅ 0, by omega⟩

theorem mem_erase_entries_iff :
    entry ∈ (store.erase id).entries ↔ entry ∈ store.entries ∧ entry.1 ≠ id := by
  rw [← AList.mem_lookup_iff, ← AList.mem_lookup_iff]
  by_cases same : entry.1 = id
  · rw [same, AList.lookup_erase]
    simp
  · rw [AList.lookup_erase_ne same]
    simp [same]

theorem Sound.inOrder_erase (sound : store.Sound next) (id : Id) :
    inOrder (store.erase id) = store.inOrder.filter fun entry => entry.1 ≠ id := by
  have keeps : List.Perm (store.sorted.filter fun entry => entry.1 ≠ id)
      (store.erase id).entries := by
    refine (perm_ext_iff_of_nodup ?_ (store.erase id).nodupKeys.nodup).mpr fun entry => ?_
    · exact (store.sorted_perm.nodup_iff.mpr store.nodupKeys.nodup).filter _
    · rw [mem_filter, store.sorted_perm.mem_iff, mem_erase_entries_iff, decide_eq_true_eq]
  rw [inOrder_eq_map keeps (sound.ascending.filter _),
    show store.inOrder = store.sorted.map _ from rfl, filter_map]
  rfl

theorem Sound.inOrder_insert (sound : store.Sound next) (id : Id) (value : Value) :
    inOrder (store.insert id (value, next)) =
      (store.inOrder.filter fun entry => entry.1 ≠ id) ++ [(id, value)] := by
  have kept := sound.erase id
  rw [← sound.inOrder_erase id]
  refine (inOrder_eq_map (?_ : List.Perm (sorted (store.erase id) ++ [⟨id, (value, next)⟩]) _)
    ?_).trans map_append
  · rw [AList.entries_insert]
    exact perm_append_comm.trans ((sorted_perm _).cons _)
  · refine pairwise_append.mpr ⟨kept.ascending, pairwise_singleton _ _, fun old mem _ isNew => ?_⟩
    obtain rfl := mem_singleton.mp isNew
    exact kept.below _ (mem_map_of_mem ((sorted_perm _).mem_iff.mp mem))

theorem Sound.inOrder_evictOldest (sound : store.Sound next) :
    store.evictOldest.inOrder = store.inOrder.tail := by
  have ascending := sound.ascending
  have keys := (store.sorted_perm.map Sigma.fst).nodup_iff.mpr store.nodupKeys
  unfold evictOldest
  cases found : store.entries.argmin fun entry => entry.2.2 with
  | none =>
    rw [argmin_eq_none] at found
    simp [inOrder, found]
  | some oldest =>
    have mem := store.sorted_perm.mem_iff.mpr (argmin_mem found)
    have isFirst (entry) (isEntry : entry ∈ store.sorted) : oldest.2.2 ≤ entry.2.2 := by
      have old := store.sorted_perm.mem_iff.mp isEntry
      have least := le_of_mem_argmin old found
      exact least
    dsimp only
    rw [sound.inOrder_erase, show store.inOrder = store.sorted.map _ from rfl]
    cases isSorted : store.sorted with
    | nil => rfl
    | cons first later =>
      rw [isSorted] at ascending keys mem isFirst
      have same : oldest = first := by
        refine (mem_cons.mp mem).resolve_right fun isLater => ?_
        have before := (pairwise_cons.mp ascending).1 oldest isLater
        exact absurd (isFirst first mem_cons_self) (Nat.not_le.mpr before)
      subst same
      have others := (nodup_cons.mp keys).1
      rw [map_cons, tail_cons, filter_cons_of_neg (by simp), filter_eq_self]
      intro entry isEntry
      obtain ⟨old, isOld, rfl⟩ := mem_map.mp isEntry
      exact decide_eq_true fun sameId => others (sameId ▸ mem_map_of_mem isOld)

theorem mem_inOrder_iff {value : Value} :
    (id, value) ∈ store.inOrder ↔ ∃ stamp, store.lookup id = some (value, stamp) := by
  constructor
  · intro mem
    obtain ⟨⟨_, _, stamp⟩, isEntry, same⟩ := mem_map.mp mem
    cases same
    exact ⟨stamp, AList.mem_lookup_iff.mpr (mem_mergeSort.mp isEntry)⟩
  · rintro ⟨stamp, found⟩
    exact mem_map.mpr ⟨_, mem_mergeSort.mpr (AList.mem_lookup_iff.mp found), rfl⟩

section

variable {other : Stamped Id Value} (same : store.inOrder = other.inOrder)
include same

/-- Stores in the same order have the same values. -/
theorem map_fst_lookup_eq (id : Id) :
    (store.lookup id).map Prod.fst = (other.lookup id).map Prod.fst := by
  ext value
  have either := congrArg (fun list => (id, value) ∈ list) same
  simpa [mem_inOrder_iff] using either

theorem Sound.inOrder_insertAll_congr {otherNext : Nat} (sound : store.Sound next)
    (otherSound : other.Sound otherNext) (values : List (Id × Value)) :
    inOrder (store.insertAll next values) = inOrder (other.insertAll otherNext values) := by
  induction values generalizing store other next otherNext with
  | nil => exact same
  | cons entry later ih =>
    refine ih ?_ (sound.insert entry.1 entry.2) (otherSound.insert entry.1 entry.2)
    rw [sound.inOrder_insert, otherSound.inOrder_insert, same]

omit same in
theorem evictOldest_sublist (store : Stamped Id Value) :
    List.Sublist store.evictOldest.entries store.entries := by
  unfold evictOldest
  split
  · exact entries_erase_sublist _ _
  · exact List.Sublist.refl _

theorem Sound.inOrder_evictTo_congr {otherNext : Nat} (sound : store.Sound next)
    (otherSound : other.Sound otherNext) (limit : Nat) :
    inOrder (store.evictTo limit) = inOrder (other.evictTo limit) := by
  have evicts (count : Nat) {stored : Stamped Id Value} {after : Nat}
      (isSound : stored.Sound after) :
      inOrder (evictOldest^[count] stored) = stored.inOrder.drop count := by
    induction count generalizing stored with
    | zero => rfl
    | succ count ih =>
      have evicted : stored.evictOldest.Sound after :=
        isSound.of_sublist (evictOldest_sublist stored)
      rw [Function.iterate_succ_apply, ih evicted, isSound.inOrder_evictOldest, drop_tail]
  rw [evictTo, evictTo, evicts _ sound, evicts _ otherSound, same, ← length_inOrder,
    ← length_inOrder, same]

end

/-- Values that are inserted under new ids come after those that are there. -/
theorem Sound.inOrder_insertAll (sound : store.Sound next) {values : List (Id × Value)}
    (distinct : (values.map Prod.fst).Nodup)
    (fresh : ∀ entry ∈ store.inOrder, entry.1 ∉ values.map Prod.fst) :
    inOrder (store.insertAll next values) = store.inOrder ++ values := by
  induction values generalizing store next with
  | nil => exact (append_nil _).symm
  | cons entry later ih =>
    obtain ⟨notLater, distinctLater⟩ := nodup_cons.mp distinct
    have unchanged : (store.inOrder.filter fun old => old.1 ≠ entry.1) = store.inOrder := by
      refine filter_eq_self.mpr fun old mem => decide_eq_true fun sameId => fresh old mem ?_
      exact sameId ▸ mem_cons_self
    have inserted := sound.inOrder_insert entry.1 entry.2
    rw [unchanged] at inserted
    rw [Stamped.insertAll, ih (sound.insert entry.1 entry.2) distinctLater, inserted, append_assoc]
    · rfl
    intro old mem
    rw [inserted] at mem
    rcases mem_append.mp mem with isOld | isNew
    · exact fun isLater => fresh old isOld (mem_cons_of_mem _ isLater)
    · obtain rfl := mem_singleton.mp isNew
      exact notLater

theorem inOrder_insertAll_inOrder (store : Stamped Id Value) :
    inOrder (insertAll ∅ 0 store.inOrder) = store.inOrder := by
  have distinct := store.map_fst_inOrder_perm.nodup_iff.mpr store.nodupKeys
  have empty : inOrder (∅ : Stamped Id Value) = [] := by simp [inOrder]
  have inserted := (@sound_empty Id Value).inOrder_insertAll distinct
  rw [empty] at inserted
  exact inserted nofun

theorem map_fst_lookup_insertAll_inOrder (store : Stamped Id Value) (id) :
    ((insertAll ∅ 0 store.inOrder).lookup id).map Prod.fst = (store.lookup id).map Prod.fst :=
  map_fst_lookup_eq store.inOrder_insertAll_inOrder id

theorem evictOldest_spec (sound : store.Sound next) (nonempty : store.entries ≠ []) :
    Forgets store store.evictOldest ∧
      store.evictOldest.entries.length + 1 = store.entries.length := by
  unfold evictOldest
  cases found : store.entries.argmin fun entry => entry.2.2 with
  | none => exact absurd (argmin_eq_none.mp found) nonempty
  | some oldest =>
    have mem := argmin_mem found
    refine ⟨⟨entries_erase_sublist _ _, ?_⟩, ?_⟩
    · intro lost lostMem absent _ keptMem
      obtain ⟨old, ne⟩ := mem_erase_entries_iff.mp keptMem
      -- Only the entry with the least stamp is gone.
      have isOldest : lost = oldest := by
        by_contra other
        refine absent (mem_erase_entries_iff.mpr ⟨lostMem, ?_⟩)
        intro sameId
        exact other (List.NodupKeys.eq_of_fst_eq store.nodupKeys lostMem mem sameId)
      subst isOldest
      have least := le_of_mem_argmin old found
      refine lt_of_le_of_ne least ?_
      intro sameStamp
      refine ne ?_
      exact congrArg Sigma.fst (inj_on_of_nodup_map sound.distinct old lostMem sameStamp.symm)
    · have keysLength := length_erase_add_one (show _ ∈ store.keys from mem_keys_of_mem mem)
      rw [← AList.keys_erase] at keysLength
      simpa [AList.keys, keys] using keysLength

theorem iterate_evictOldest_spec (count) (sound : store.Sound next)
    (enough : count ≤ store.entries.length) :
    Forgets store (evictOldest^[count] store) ∧ (evictOldest^[count] store).entries.length + count =
      store.entries.length := by
  induction count generalizing store with
  | zero => exact ⟨.refl store, rfl⟩
  | succ count ih =>
    have nonempty : store.entries ≠ [] := by
      intro empty
      rw [empty] at enough
      cases enough
    obtain ⟨forgets, _⟩ := evictOldest_spec sound nonempty
    obtain ⟨forgetsMore, _⟩ := ih (sound.of_sublist forgets.sublist) (by omega)
    rw [Function.iterate_succ_apply]
    exact ⟨forgets.trans forgetsMore, by omega⟩

theorem evictTo_spec (sound : store.Sound next) (limit) : Forgets store (store.evictTo limit) ∧
      (store.evictTo limit).entries.length = min limit store.entries.length := by
  obtain ⟨forgets, length⟩ := iterate_evictOldest_spec (store.entries.length - limit) sound
    (Nat.sub_le _ _)
  refine ⟨forgets, ?_⟩
  unfold evictTo
  omega

theorem evictTo_empty (limit) : evictTo limit (∅ : Stamped Id Value) = ∅ := by
  unfold evictTo
  rw [AList.empty_entries, length_nil, Nat.zero_sub]
  rfl

theorem lookup_of_sublist (sublist : List.Sublist smaller.entries store.entries)
    (found : smaller.lookup id = some entry) : store.lookup id = some entry :=
  AList.mem_lookup_iff.mpr (sublist.subset (AList.mem_lookup_iff.mp found))

theorem lookup_insertAll (found : (store.insertAll next values).lookup id = some (value, stamp)) :
    (id, value) ∈ values ∧ next ≤ stamp ∨
      id ∉ values.map Prod.fst ∧ store.lookup id = some (value, stamp) := by
  induction values generalizing store next with
  | nil => exact .inr ⟨not_mem_nil, found⟩
  | cons entry _ ih =>
    rw [map_cons, mem_cons, mem_cons]
    rcases ih found with ⟨mem, _⟩ | ⟨absent, old⟩
    · exact .inl ⟨.inr mem, by omega⟩
    obtain rfl | ne := eq_or_ne id entry.1
    · obtain ⟨rfl, rfl⟩ := Prod.mk.inj
        (Option.some.inj (old.symm.trans (AList.lookup_insert store)))
      exact .inl ⟨.inl rfl, le_rfl⟩
    · refine .inr ⟨not_or.mpr ⟨ne, absent⟩, ?_⟩
      exact (AList.lookup_insert_ne ne).symm.trans old

theorem length_le_of_between {numbers : List Nat} (low high) (distinct : numbers.Nodup)
    (between : ∀ number ∈ numbers, low ≤ number ∧ number < high) : numbers.length ≤ high - low := by
  have within : numbers ⊆ range' low (high - low) := by
    intro number mem
    rw [mem_range'_1]
    have bounds := between number mem
    omega
  have shorter := (subperm_of_subset distinct within).length_le
  rwa [length_range'] at shorter

theorem mem_evictTo_insertAll {limit : Nat} (sound : store.Sound next)
    (room : values.length ≤ limit) (inserted : id ∈ values.map Prod.fst) :
    id ∈ evictTo limit (store.insertAll next values) := by
  have soundAll := sound.insertAll values
  obtain ⟨forgets, length⟩ := evictTo_spec soundAll limit
  obtain ⟨⟨value, stamp⟩, found⟩ := Option.isSome_iff_exists.mp (AList.lookup_isSome.mpr
    (mem_insertAll_iff.mpr (.inl inserted) : id ∈ store.insertAll next values))
  have recent : next ≤ stamp := by
    rcases lookup_insertAll found with ⟨-, after⟩ | ⟨absent, -⟩
    · exact after
    · exact absurd inserted absent
  have entryMem := AList.mem_lookup_iff.mp found
  have below := soundAll.below stamp (mem_map_of_mem entryMem)
  by_contra lost
  have entryLost : (⟨id, (value, stamp)⟩ : Sigma fun _ : Id => Value × Nat) ∉
    (evictTo limit (store.insertAll next values)).entries := by
    intro kept
    exact lost (AList.mem_keys.mpr (mem_keys_of_mem kept))
  -- All that is left is newer, so there is less left than the limit.
  have newer := length_le_of_between (stamp + 1) (next + values.length)
    (soundAll.of_sublist forgets.sublist).distinct
    (by
      intro other mem
      refine ⟨?_, (soundAll.of_sublist forgets.sublist).below other mem⟩
      obtain ⟨kept, keptMem, rfl⟩ := mem_map.mp mem
      exact forgets.older _ entryMem entryLost kept keptMem)
  have shorter : (evictTo limit (store.insertAll next values)).entries.length <
    (store.insertAll next values).entries.length := by
    refine lt_of_le_of_ne forgets.sublist.length_le fun same => entryLost ?_
    rw [forgets.sublist.eq_of_length same]
    exact entryMem
  unfold stamps at newer
  rw [length_map] at newer
  omega

end Stamped

end Ratchet
