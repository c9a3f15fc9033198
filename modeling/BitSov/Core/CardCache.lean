import BitSov.Ordered.Map
import Mathlib.Data.List.MinMax
import Mathlib.Data.String.Basic

namespace BitSov.Core

open Ordered OrderedMap List

/-!
# The cards of other nodes

A node keeps the front-door cards of others, one a node, and replaces a card
only by one with a higher sequence number.  When the cache is full, the card
that expires first makes room for the first card of another node.
-/

/-- A card; `Rest` is what its signature covers besides these fields. -/
structure FrontDoorCard (Rest : Type) where
  nodeId : String
  (seq expiresAt : UInt64)
  rest : Rest

def maxCachedCards : Nat := 512

inductive Offer where
  | stored
  | stale (heldSeq : UInt64)
  deriving DecidableEq

structure CardCache (Rest : Type) where
  cards : OrderedMap String (FrontDoorCard Rest) := .empty

namespace CardCache

variable {Rest FrontDoorError : Type}
  (verifySignature : FrontDoorCard Rest → Except FrontDoorError Unit)
  (cache : CardCache Rest) (card : FrontDoorCard Rest) (node : String)

/-- The card that makes room, the first of those that expire first. -/
def first : Option (FrontDoorCard Rest) :=
  (cache.cards.entries.map (·.2)).argmin (·.expiresAt.toNat)

def makeRoom : CardCache Rest :=
  if cache.cards.entries.length ≥ maxCachedCards then
    match cache.first with
    | some first => ⟨cache.cards.erase first.nodeId⟩
    | none => cache
  else cache

def store : CardCache Rest :=
  ⟨cache.cards.insert card.nodeId card⟩

def offer : Except FrontDoorError Offer × CardCache Rest :=
  match verifySignature card with
  | .error error => (.error error, cache)
  | .ok () =>
    match cache.cards.get? card.nodeId with
    | some held =>
      if card.seq ≤ held.seq then (.ok (.stale held.seq), cache)
      else (.ok .stored, cache.store card)
    | none => (.ok .stored, cache.makeRoom.store card)

/-- Offer cards one after the other; the first component has those that were stored. -/
def offerAll :
    CardCache Rest → List (FrontDoorCard Rest) → List (FrontDoorCard Rest) × CardCache Rest
  | cache, [] => ([], cache)
  | cache, card :: rest =>
    let (answer, next) := cache.offer verifySignature card
    let (stored, last) := offerAll next rest
    match answer with
    | .ok .stored => (card :: stored, last)
    | _ => (stored, last)

/--
The card of a node makes room for an offered one: the cache is full and has no
card of the offered node, and of its cards the node's is the first to expire.
-/
structure MakesRoom : Prop where
  signed : verifySignature card = .ok ()
  full : maxCachedCards ≤ cache.cards.entries.length
  absent : cache.cards.get? card.nodeId = none
  first : cache.first.map (·.nodeId) = some node

/-- The card of a node makes room for none of the offered ones. -/
def Keeps : CardCache Rest → List (FrontDoorCard Rest) → Prop
  | _, [] => True
  | cache, card :: rest =>
    ¬ MakesRoom verifySignature cache card node ∧
      Keeps (cache.offer verifySignature card).2 rest

/-- Only the card that expires first leaves a full cache. -/
theorem get?_makeRoom : cache.makeRoom.cards.get? node = cache.cards.get? node ∨
      maxCachedCards ≤ cache.cards.entries.length ∧ cache.first.map (·.nodeId) = some node := by
  unfold makeRoom
  split
  · next full =>
    split
    · next first isFirst =>
      rw [get?_erase]
      split
      · next same => exact .inr ⟨full, by rw [isFirst, same]; rfl⟩
      · exact .inl rfl
    · exact .inl rfl
  · exact .inl rfl

/-- A card is stored over an older one or none, or the cache stays as it is. -/
theorem offer_cases : ((cache.offer verifySignature card).1 ≠ .ok .stored ∧
        (cache.offer verifySignature card).2 = cache) ∨
      ∃ roomy : CardCache Rest, cache.offer verifySignature card = (.ok .stored, roomy.store card) ∧
        (∀ held, cache.cards.get? card.nodeId = some held → held.seq < card.seq) ∧
        ∀ node, roomy.cards.get? node = cache.cards.get? node ∨
          MakesRoom verifySignature cache card node := by
  unfold offer
  split
  · exact .inl ⟨nofun, rfl⟩
  next signed =>
  split
  · next held found =>
    split
    · exact .inl ⟨nofun, rfl⟩
    next newer =>
    refine .inr ⟨cache, rfl, fun _ isHeld => ?_, fun _ => .inl rfl⟩
    cases found.symm.trans isHeld
    exact UInt64.not_le.mp newer
  · next absent =>
    refine .inr ⟨cache.makeRoom, rfl, fun held isHeld => ?_, fun node => ?_⟩
    · exact absurd (absent.symm.trans isHeld) (Option.some_ne_none held).symm
    · exact (cache.get?_makeRoom node).imp_right fun ⟨full, first⟩ => ⟨signed, full, absent, first⟩

variable {verifySignature cache node} {cards : List (FrontDoorCard Rest)}

theorem increasing_from (keeps : Keeps verifySignature node cache cards) :
    (∀ held, cache.cards.get? node = some held → ∀ card ∈ (offerAll verifySignature cache cards).1,
        card.nodeId = node → held.seq < card.seq) ∧
      ((offerAll verifySignature cache cards).1.filter (·.nodeId = node)).Pairwise
        (·.seq < ·.seq) := by
  induction cards generalizing cache with
  | nil => exact ⟨nofun, .nil⟩
  | cons card rest ih =>
    obtain ⟨stays, later⟩ := keeps
    obtain ⟨above, increasing⟩ := ih later
    rcases cache.offer_cases verifySignature card with
      ⟨_, same⟩ | ⟨roomy, stored, newer, room⟩
    · have unchanged : (offerAll verifySignature cache (card :: rest)).1 =
        (offerAll verifySignature cache rest).1 := by
        -- the offer was not answered with `stored`
        simp only [offerAll, same]
      rw [same] at above increasing
      rw [unchanged]
      exact ⟨above, increasing⟩
    · simp only [stored] at above increasing
      simp only [offerAll, stored, store, get?_insert] at above increasing ⊢
      obtain rfl | ne := eq_or_ne card.nodeId node
      · simp only [if_true] at above
        refine ⟨fun held isHeld other mem isOwn => ?_, ?_⟩
        · rcases mem_cons.mp mem with rfl | later
          · exact newer held isHeld
          · exact UInt64.lt_trans (newer held isHeld) (above card rfl other later isOwn)
        rw [filter_cons_of_pos (by simp)]
        refine pairwise_cons.mpr ⟨fun other mem => ?_, increasing⟩
        obtain ⟨later, isOwn⟩ := mem_filter.mp mem
        exact above card rfl other later (of_decide_eq_true isOwn)
      · simp only [if_neg (Ne.symm ne)] at above
        have kept : roomy.cards.get? node = cache.cards.get? node := by
          rcases room node with same | makesRoom
          · exact same
          · exact absurd makesRoom stays
        rw [kept] at above
        rw [filter_cons_of_neg (by simpa using ne)]
        refine ⟨fun held isHeld other mem isOwn => ?_, increasing⟩
        rcases mem_cons.mp mem with rfl | later
        · exact absurd isOwn ne
        · exact above held isHeld other later isOwn

/--
The cards stored for a node have increasing sequence numbers, whatever cards
are offered, as long as no card of another node comes to a full cache in which
the node's card is the first to expire.
-/
theorem stored_seqs_increase (verifySignature : FrontDoorCard Rest → Except FrontDoorError Unit)
    (cards : List (FrontDoorCard Rest)) (node : String)
    (keeps : Keeps verifySignature node {} cards) :
    ((offerAll verifySignature {} cards).1.filter (·.nodeId = node)).Pairwise (·.seq < ·.seq) :=
  (increasing_from keeps).2

/-- Signatures that all verify. -/
def accepts (_ : FrontDoorCard Unit) : Except Unit Unit := .ok ()

/-- Two cards of a node, and a card of another between them. -/
def newerCards : List (FrontDoorCard Unit) :=
  [⟨"a", 1, 10, ()⟩, ⟨"b", 7, 5, ()⟩, ⟨"a", 2, 20, ()⟩]

theorem stored_seqs_increase_newerCards :
    ((offerAll accepts {} newerCards).1.filter (·.nodeId = "a")).Pairwise (·.seq < ·.seq) :=
  have roomy (cache : CardCache Unit) (card : FrontDoorCard Unit)
      (small : cache.cards.entries.length < maxCachedCards) :
      ¬ MakesRoom accepts cache card "a" := fun makesRoom => absurd makesRoom.full small.not_ge
  stored_seqs_increase accepts newerCards "a"
    ⟨roomy _ _ (by decide), roomy _ _ (by decide), roomy _ _ (by decide), trivial⟩

/-- The hexadecimal texts of some node ids. -/
def nodeText (number : Nat) : String :=
  String.ofList ((range 64).map fun digit => if number.testBit digit then '1' else '0')

/-- A card of one of many nodes. -/
def filler (index : Nat) : FrontDoorCard Unit :=
  ⟨nodeText (index + 1), 1, 1, ()⟩

/-- A card of another node, which expires before all others. -/
def shortLived (seq : UInt64) : FrontDoorCard Unit :=
  ⟨nodeText 0, seq, 0, ()⟩

/-- Card 5 of the node, the cards of 512 others, and then its card 4. -/
def rollback : List (FrontDoorCard Unit) :=
  shortLived 5 :: ((range 511).map filler ++ [filler 511, shortLived 4])

theorem nodeText_ne {first second : Nat} (firstFits : first < 2 ^ 64) (secondFits : second < 2 ^ 64)
    (ne : first ≠ second) : nodeText first ≠ nodeText second := by
  intro same
  have sameDigits := map_inj_left.mp (String.ofList_inj.mp same)
  refine ne (Nat.eq_of_testBit_eq fun digit => ?_)
  by_cases inside : digit < 64
  · have sameDigit := sameDigits digit (mem_range.mpr inside)
    revert sameDigit
    cases first.testBit digit <;> cases second.testBit digit <;> decide
  have above : 2 ^ 64 ≤ 2 ^ digit := Nat.pow_le_pow_right (by decide) (by omega)
  rw [Nat.testBit_lt_two_pow (firstFits.trans_le above),
    Nat.testBit_lt_two_pow (secondFits.trans_le above)]

theorem filler_nodeId_ne (fits : index < 512) : nodeText 0 ≠ (filler index).nodeId :=
  nodeText_ne (by decide) (by omega) (by omega)

section

variable {cache : CardCache Unit} {card : FrontDoorCard Unit} {count : Nat}

theorem length_store (absent : cache.cards.get? card.nodeId = none) :
    (cache.store card).cards.entries.length = cache.cards.entries.length + 1 := by
  have counted := cache.cards.total_alter card.nodeId (fun _ => some card) fun _ _ => 1
  simpa [total, totalEntries, weightOf, absent, CardCache.store, OrderedMap.insert] using counted

theorem offerAll_new (absent : cache.cards.get? card.nodeId = none)
    (rest) : offerAll accepts cache (card :: rest) =
      (card :: (offerAll accepts (cache.makeRoom.store card) rest).1,
        (offerAll accepts (cache.makeRoom.store card) rest).2) := by
  simp only [offerAll, offer, accepts, absent]

theorem offerAll_append (first second) :
    offerAll accepts cache (first ++ second) = ((offerAll accepts cache first).1 ++
          (offerAll accepts (offerAll accepts cache first).2 second).1,
        (offerAll accepts (offerAll accepts cache first).2 second).2) := by
  induction first generalizing cache with
  | nil => rfl
  | cons _ _ ih =>
    simp only [cons_append, offerAll, ih]
    split <;> rfl

/-- The cache with the card of the node and of some of the others. -/
structure Filled (count : Nat) (cache : CardCache Unit) : Prop where
  length : cache.cards.entries.length = count + 1
  absent : ∀ index, count ≤ index → index < 512 → cache.cards.get? (filler index).nodeId = none
  held : cache.cards.get? (nodeText 0) = some (shortLived 5)
  others : ∀ key card, cache.cards.get? key = some card → key ≠ nodeText 0 → card.expiresAt = 1

theorem Filled.store (filled : Filled count cache) (fits : count < 512) :
    Filled (count + 1) (cache.store (filler count)) where
  length := by rw [length_store (filled.absent count le_rfl fits), filled.length]
  absent index above indexFits := by
    have ne : (filler index).nodeId ≠ (filler count).nodeId :=
      nodeText_ne (by omega) (by omega) (by omega)
    rw [CardCache.store, get?_insert, if_neg ne]
    exact filled.absent index (by omega) indexFits
  held := by
    rw [CardCache.store, get?_insert, if_neg (filler_nodeId_ne fits)]
    exact filled.held
  others key card found notFirst := by
    rw [CardCache.store, get?_insert] at found
    split at found
    · cases found
      rfl
    · exact filled.others key card found notFirst

theorem filled_offerAll (fits : count < maxCachedCards) : Filled count
    (offerAll accepts (store {} (shortLived 5)) ((range count).map filler)).2 := by
  induction count with
  | zero =>
    refine ⟨rfl, fun _ _ fits => ?_, (get?_insert ..).trans (if_pos rfl), ?_⟩
    · exact (get?_insert ..).trans (if_neg (filler_nodeId_ne fits).symm)
    intro _ card found notFirst
    have isNone := (get?_insert ..).symm.trans found
    exact absurd ((if_neg notFirst).symm.trans isNone) (Option.some_ne_none card).symm
  | succ count ih =>
    have filled := ih (by omega)
    rw [range_succ, map_append, offerAll_append]
    simp only [map_cons, map_nil,
      offerAll_new (filled.absent count le_rfl (Nat.lt_of_succ_lt fits))]
    rw [makeRoom, if_neg (by rw [filled.length]; omega)]
    exact filled.store (Nat.lt_of_succ_lt fits)

/-- In a full cache the card of the node makes room. -/
theorem Filled.makeRoom (filled : Filled 511 cache) :
    cache.makeRoom = ⟨cache.cards.erase (nodeText 0)⟩ := by
  have isFirst : ∃ first, cache.first = some first ∧ first.nodeId = nodeText 0 := by
    have held : shortLived 5 ∈ cache.cards.entries.map (·.2) :=
      mem_map.mpr ⟨_, get?_eq_some_iff.mp filled.held, rfl⟩
    cases found : cache.first with
    | none => exact absurd (argmin_eq_none.mp found) (ne_nil_of_mem held)
    | some first =>
      have least := le_of_mem_argmin held found
      obtain ⟨⟨key, card⟩, mem, rfl⟩ := mem_map.mp (argmin_mem found)
      have isHeld := get?_eq_some_iff.mpr mem
      by_cases isFirst : key = nodeText 0
      · subst isFirst
        rw [Option.some.inj (isHeld.symm.trans filled.held)]
        exact ⟨_, rfl, rfl⟩
      · rw [filled.others key card isHeld isFirst] at least
        exact absurd least (by decide)
  obtain ⟨first, found, isNode⟩ := isFirst
  rw [CardCache.makeRoom, if_pos (by rw [filled.length, maxCachedCards]), found]
  exact congrArg (fun key => (⟨cache.cards.erase key⟩ : CardCache Unit)) isNode

end

/-- The cards of enough other nodes let an older card of a node in again. -/
theorem stored_seqs_roll_back :
    ¬ ((offerAll accepts {} rollback).1.filter (·.nodeId = nodeText 0)).Pairwise
      (·.seq < ·.seq) := by
  have filled := filled_offerAll (show 511 < maxCachedCards from Nat.lt_succ_self 511)
  rw [rollback]
  generalize (range 511).map filler = fillers at filled ⊢
  generalize full : (offerAll accepts (store {} (shortLived 5)) fillers).2 = cache at filled
  have evicted : (CardCache.store ⟨cache.cards.erase (nodeText 0)⟩ (filler 511)).cards.get?
    (shortLived 4).nodeId = none := by
    refine (get?_insert ..).trans ((if_neg (filler_nodeId_ne (Nat.lt_succ_self 511))).trans ?_)
    exact (get?_erase ..).trans (if_pos rfl)
  have roomy : makeRoom {} = ({} : CardCache Unit) := if_neg (Nat.not_succ_le_zero 511)
  rw [offerAll_new (by rfl), offerAll_append, roomy, full,
    offerAll_new (filled.absent 511 le_rfl (Nat.lt_succ_self 511)), filled.makeRoom,
    offerAll_new evicted]
  intro increasing
  rw [filter_cons_of_pos (by simp [shortLived])] at increasing
  have older := (pairwise_cons.mp increasing).1 (shortLived 4)
    (mem_filter.mpr ⟨mem_append_right _ (mem_cons_of_mem _ mem_cons_self), decide_eq_true rfl⟩)
  exact absurd older (by decide)

end CardCache

end BitSov.Core
