import Mathlib.Data.List.AList
import Mathlib.Logic.Function.Iterate

namespace Ratchet

open List AList

/-!
# Symmetric chains and windows on them

A symmetric ratchet derives the key of every message from a chain key that
only moves forward.  A receiver keeps the chain key at its position, together
with the keys of the messages that it has passed over.  `Window` is that
state, `Unread` is the set of messages it can still open, and
`Opens.unread_iff` says that opening a message removes this message from the
set and nothing else.
-/

/-- How a chain key moves on and what key its message gets. -/
structure ChainKdf (Key : Type) where
  (next message : Key → Key)

namespace ChainKdf

variable {Key : Type} (kdf : ChainKdf Key) (seed : Key) (count index : Nat)

/-- The chain key of the numbered message. -/
def chainAt : Key :=
  kdf.next^[index] seed

/-- The key of the numbered message. -/
def keyAt : Key :=
  kdf.message (kdf.chainAt seed index)

theorem chainAt_succ : kdf.chainAt seed (index + 1) = kdf.next (kdf.chainAt seed index) :=
  Function.iterate_succ_apply' kdf.next index seed

/-- Pass over some messages: their keys and the chain key behind them. -/
def skip : Nat → Nat → Key → List (Nat × Key) × Key
  | 0, _, chain => ([], chain)
  | count + 1, index, chain =>
    let later := skip count (index + 1) (kdf.next chain)
    ((index, kdf.message chain) :: later.1, later.2)

theorem skip_chain :
    (kdf.skip count index (kdf.chainAt seed index)).2 = kdf.chainAt seed (index + count) := by
  induction count generalizing index with
  | zero => rfl
  | succ count ih =>
    rw [skip, ← chainAt_succ, ih]
    congr 1
    omega

theorem mem_skip_iff {seed key : Key} {count index position : Nat} :
    (position, key) ∈ (kdf.skip count index (kdf.chainAt seed index)).1 ↔
      index ≤ position ∧ position < index + count ∧ key = kdf.keyAt seed position := by
  induction count generalizing index with
  | zero =>
    simp only [skip, not_mem_nil, false_iff]
    omega
  | succ count ih =>
    rw [skip, ← chainAt_succ, mem_cons, ih, Prod.mk.injEq]
    constructor
    · rintro (⟨rfl, rfl⟩ | ⟨after, _, rfl⟩)
      · exact ⟨le_refl _, by omega, rfl⟩
      · exact ⟨by omega, by omega, rfl⟩
    rintro ⟨after, _, rfl⟩
    rcases Nat.eq_or_lt_of_le after with rfl | later
    · exact .inl ⟨rfl, rfl⟩
    · exact .inr ⟨later, by omega, rfl⟩

@[simp] theorem length_skip (chain) : (kdf.skip count index chain).1.length = count := by
  induction count generalizing index chain with
  | zero => rfl
  | succ count ih => simp [skip, ih]

theorem map_fst_skip (chain) :
    (kdf.skip count index chain).1.map Prod.fst = List.range' index count := by
  induction count generalizing index chain with
  | zero => rfl
  | succ count ih => simp [skip, ih, range'_succ]

end ChainKdf

/-- Keys by number, each number once. -/
abbrev Keys (Key : Type) := AList fun _ : Nat => Key

variable {Key : Type}

/-- Put keys into a store one by one. -/
def storeAll (stored : Keys Key) (keys : List (Nat × Key)) : Keys Key :=
  keys.foldl (fun store entry => store.insert entry.1 entry.2) stored

variable {stored : Keys Key} {keys : List (Nat × Key)} {index : Nat}

theorem lookup_storeAll_of_notMem (absent : index ∉ keys.map Prod.fst) :
    (storeAll stored keys).lookup index = stored.lookup index := by
  induction keys generalizing stored with
  | nil => rfl
  | cons _ keys ih =>
    rw [map_cons, mem_cons, not_or] at absent
    obtain ⟨ne, absentLater⟩ := absent
    rw [storeAll, foldl_cons]
    exact (ih absentLater).trans (lookup_insert_ne ne)

theorem lookup_storeAll_of_mem (once : (keys.map Prod.fst).Nodup)
    (mem : (index, key) ∈ keys) : (storeAll stored keys).lookup index = some key := by
  induction keys generalizing stored with
  | nil => cases mem
  | cons _ keys ih =>
    obtain ⟨absent, onceLater⟩ := nodup_cons.mp once
    rcases mem_cons.mp mem with rfl | later
    · exact (lookup_storeAll_of_notMem absent).trans (lookup_insert stored)
    · exact ih onceLater later

theorem length_storeAll_le (stored : Keys Key) (keys) :
    (storeAll stored keys).keys.length ≤ stored.keys.length + keys.length := by
  induction keys generalizing stored with
  | nil => exact le_refl _
  | cons entry keys ih =>
    calc (storeAll (stored.insert entry.1 entry.2) keys).keys.length
      _ ≤ (stored.insert entry.1 entry.2).keys.length + keys.length := ih _
      _ ≤ stored.keys.length + 1 + keys.length := by
        rw [keys_insert, length_cons]
        exact Nat.add_le_add_right (Nat.add_le_add_right length_erase_le 1) keys.length
      _ = stored.keys.length + (entry :: keys).length := by
        rw [length_cons]
        omega

/-- The receiving end of a chain. -/
structure Window (Key : Type) where
  chain : Key
  position : Nat
  stored : Keys Key

namespace Window

variable {Key : Type} (kdf : ChainKdf Key) (window : Window Key) (index : Nat)

/-- The message can still be opened. -/
def Unread : Prop :=
  window.position ≤ index ∨ index ∈ window.stored

/-- Use up a stored key. -/
def take : Window Key :=
  { window with stored := window.stored.erase index }

/-- Move behind a message, storing the keys of those before it. -/
def advance : Window Key :=
  let skipped := kdf.skip (index - window.position) window.position window.chain
  { chain := kdf.next skipped.2
    position := index + 1
    stored := storeAll window.stored skipped.1 }

/-- The window is on the chain that starts with this key. -/
structure On (seed : Key) (window : Window Key) : Prop where
  chain : window.chain = kdf.chainAt seed window.position
  stored : ∀ index key,
    window.stored.lookup index = some key → index < window.position ∧ key = kdf.keyAt seed index

/-- A window at the start of its chain. -/
def fresh (seed : Key) : Window Key :=
  ⟨seed, 0, ∅⟩

variable {kdf} {window opened : Window Key} {index other : Nat} {seed : Key}

theorem on_fresh (seed) : On kdf seed (fresh seed) where
  chain := rfl
  stored index key found := by
    rw [fresh, lookup_empty] at found
    cases found

section

variable (sound : On kdf seed window)
include sound

theorem On.below (mem : index ∈ window.stored) : index < window.position := by
  obtain ⟨key, found⟩ := Option.isSome_iff_exists.mp (lookup_isSome.mpr mem)
  exact (sound.stored index key found).1

theorem On.take (index) : On kdf seed (window.take index) where
  chain := sound.chain
  stored other key found := by
    rw [Window.take] at found
    obtain rfl | ne := eq_or_ne other index
    · rw [lookup_erase] at found
      cases found
    · rw [lookup_erase_ne ne] at found
      exact sound.stored other key found

theorem lookup_advance (index other) :
    (window.advance kdf index).stored.lookup other = if window.position ≤ other ∧ other < index then
      some (kdf.keyAt seed other) else window.stored.lookup other := by
  unfold advance
  rw [sound.chain]
  split
  · next between =>
    refine lookup_storeAll_of_mem ?_ ?_
    · rw [ChainKdf.map_fst_skip]
      exact nodup_range'
    · exact kdf.mem_skip_iff.mpr ⟨between.1, by omega, rfl⟩
  next _ =>
  refine lookup_storeAll_of_notMem ?_
  rw [ChainKdf.map_fst_skip, mem_range'_1]
  omega

theorem On.advance (ahead : window.position ≤ index) : On kdf seed (window.advance kdf index) where
  chain := by
    unfold Window.advance
    dsimp only
    rw [sound.chain, ChainKdf.skip_chain, ChainKdf.chainAt_succ]
    congr 2
    omega
  stored other key found := by
    rw [lookup_advance sound] at found
    change other < index + 1 ∧ _
    split at found
    · next _ => exact ⟨by omega, (Option.some.inj found).symm⟩
    · obtain ⟨_, same⟩ := sound.stored other key found
      exact ⟨by omega, same⟩

theorem unread_take_iff (mem : index ∈ window.stored) :
    (window.take index).Unread other ↔ window.Unread other ∧ other ≠ index := by
  have below := sound.below mem
  unfold Unread take
  rw [mem_erase]
  dsimp only
  constructor
  · rintro (ahead | ⟨ne, stored⟩)
    · exact ⟨.inl ahead, by omega⟩
    · exact ⟨.inr stored, ne⟩
  rintro ⟨ahead | stored, ne⟩
  · exact .inl ahead
  · exact .inr ⟨ne, stored⟩

theorem unread_advance_iff (ahead : window.position ≤ index) :
    (window.advance kdf index).Unread other ↔ window.Unread other ∧ other ≠ index := by
  have storedIff : other ∈ (window.advance kdf index).stored ↔
    (window.position ≤ other ∧ other < index) ∨ other ∈ window.stored := by
    rw [← lookup_isSome, lookup_advance sound, ← lookup_isSome]
    split
    · next between => simp [between]
    · next outside => simp [outside]
  unfold Unread
  rw [storedIff]
  change index + 1 ≤ other ∨ _ ↔ _
  constructor
  · rintro (after | between | stored)
    · exact ⟨.inl (by omega), by omega⟩
    · exact ⟨.inl between.1, by omega⟩
    · have below := sound.below stored
      exact ⟨.inr stored, by omega⟩
  rintro ⟨after | stored, ne⟩
  · rcases Nat.lt_or_gt_of_ne ne with before | behind
    · exact .inr (.inl ⟨after, before⟩)
    · exact .inl behind
  · exact .inr (.inr stored)

end

/-- A message is opened with its stored key or ahead of the position. -/
inductive Opens (kdf : ChainKdf Key) (window : Window Key) (index : Nat) : Window Key → Prop
  | take (member : index ∈ window.stored) : Opens kdf window index (window.take index)
  | advance (ahead : window.position ≤ index) : Opens kdf window index (window.advance kdf index)

section

variable (opens : Opens kdf window index opened)
include opens

theorem Opens.unread : window.Unread index := by
  cases opens with
  | take mem => exact .inr mem
  | advance ahead => exact .inl ahead

theorem Opens.on (sound : On kdf seed window) : On kdf seed opened := by
  cases opens with
  | take => exact sound.take index
  | advance ahead => exact sound.advance ahead

theorem Opens.unread_iff (sound : On kdf seed window) :
    opened.Unread other ↔ window.Unread other ∧ other ≠ index := by
  cases opens with
  | take mem => exact unread_take_iff sound mem
  | advance ahead => exact unread_advance_iff sound ahead

theorem Opens.position (sound : On kdf seed window) :
    opened.position = max window.position (index + 1) := by
  cases opens with
  | take mem =>
    have below := sound.below mem
    change window.position = _
    omega
  | advance =>
    change index + 1 = _
    omega

end

theorem length_advance_le (kdf) (window : Window Key) (index) :
    (window.advance kdf index).stored.keys.length ≤
      window.stored.keys.length + (index - window.position) := by
  have added := length_storeAll_le window.stored
    (kdf.skip (index - window.position) window.position window.chain).1
  rwa [ChainKdf.length_skip] at added

end Window

end Ratchet
