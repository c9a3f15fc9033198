import BitSov.Arithmetic.Bounded
import BitSov.Core.Gate
import BitSov.Process.Timed

namespace BitSov.Pricing

open Arithmetic Process Timed

/-!
# The prices peers have announced

A peer sends whole price tables and prices of single kinds.  The cache keeps
one table a peer with one height and one time of receipt, and the lookups that
ask for a fresh price check these.  Beside the cache, `arrivals` notes when
each price itself was received.
-/

structure PeerPriceEntry (Rate : Type) where
  prices : String → Option UInt64
  blockHeight : UInt64
  validBlocks : UInt32
  receivedAtMs : Nat
  trustDiscount : Rate

/-- What is done with trust discounts, whatever they are. -/
structure TrustDiscounts (Rate : Type) where
  none : Rate
  clamp : Rate → Rate
  apply : UInt64 → Rate → UInt64

/-- The key of a category in price tables. -/
def categoryKey (kind : UInt16) : String :=
  if kind ≤ 99 then "communication"
  else if kind ≤ 199 then "structured_data"
  else if kind ≤ 299 then "files_media"
  else if kind ≤ 399 then "collaboration"
  else if kind ≤ 499 then "realtime_signaling"
  else if kind ≤ 599 then "web_content"
  else if kind ≤ 699 then "relay_storage"
  else if kind ≤ 899 then "unknown"
  else if kind ≤ 999 then "control"
  else "app_extension"

def kindKey (kind : UInt16) : String :=
  "kind:" ++ toString kind

/-- The offer and the blocks of a call have prices of their own. -/
def hasOwnPrice (kind : UInt16) : Bool :=
  kind = 400 || kind = 404

def admissionFloorKey : String :=
  "min_admission_cost_msat"

def computeValidBlocks (blockHeight : UInt64) : UInt32 :=
  let position := blockHeight % 2016
  if blockHeight = 0 ∨ position ≤ 100 then 72 else if position ≥ 1916 then 36 else 144

variable {Rate : Type}

namespace PeerPriceEntry

variable (entry : PeerPriceEntry Rate)

/-- The key under which the price of a kind is found. -/
def keyFor (kind : UInt16) : String :=
  if hasOwnPrice kind && (entry.prices (kindKey kind)).isSome then kindKey kind
  else categoryKey kind

def getPriceForKind (kind : UInt16) : Option UInt64 :=
  entry.prices (entry.keyFor kind)

def getDiscountedPriceForKind (discounts : TrustDiscounts Rate) (kind : UInt16) : Option UInt64 :=
  (entry.getPriceForKind kind).map fun base =>
    Core.priceWithFloorMsat (discounts.apply base entry.trustDiscount)
      ((entry.prices admissionFloorKey).getD 0)

def isStale (currentBlockHeight : UInt64) (maxAgeMs nowMs : Nat) : Bool :=
  entry.blockHeight = 0 || nowMs - entry.receivedAtMs > maxAgeMs ||
    (entry.validBlocks > 0 &&
      currentBlockHeight > saturatingAdd entry.blockHeight entry.validBlocks.toUInt64)

end PeerPriceEntry

structure PeerPriceCache (Rate : Type) where
  entries : String → Option (PeerPriceEntry Rate) := fun _ => none
  currentHeight : UInt64 := 0

inductive PriceAct (Rate : Type) where
  | update (peer : String) (prices : String → Option UInt64) (blockHeight : UInt64)
      (validBlocks : UInt32) (trustDiscount : Rate)
  | updateKindPrice (peer : String) (kind : UInt16) (priceMsat blockHeight : UInt64)
  /-- A lookup that asks for a fresh price. -/
  | lookup (currentBlockHeight : UInt64)

namespace PeerPriceCache

variable (cache : PeerPriceCache Rate) (discounts : TrustDiscounts Rate) (nowMs : Nat)

def keepCachedPrice (old : PeerPriceEntry Rate) (height : UInt64) (validBlocks : UInt32) : Bool :=
  let tip := if cache.currentHeight = 0 then old.blockHeight else cache.currentHeight
  validBlocks > 0 && saturatingAdd height validBlocks.toUInt64 < tip &&
    !old.isStale tip (3600 * 1000) nowMs

variable (peer : String)

/-- Whether an announcement at a height is left aside. -/
def refuses (height : UInt64) (validBlocks : UInt32) : Bool :=
  height = 0 ||
    (cache.entries peer).any fun old => cache.keepCachedPrice nowMs old height validBlocks

/-- Whether the price of one kind is left aside. -/
def refusesKind (height : UInt64) : Bool :=
  cache.refuses nowMs peer height (computeValidBlocks height) ||
    saturatingAdd height (computeValidBlocks height).toUInt64 < cache.currentHeight

/-- The key a price of one kind is stored under. -/
def storedKey (kind : UInt16) : String :=
  if hasOwnPrice kind then kindKey kind else categoryKey kind

def put (entry : PeerPriceEntry Rate) : PeerPriceCache Rate :=
  { cache with entries := fun other => if other = peer then some entry else cache.entries other }

def update (prices : String → Option UInt64) (blockHeight : UInt64)
    (validBlocks : UInt32) (trustDiscount : Rate) : PeerPriceCache Rate :=
  if cache.refuses nowMs peer blockHeight validBlocks then cache
  else cache.put peer ⟨prices, blockHeight, validBlocks, nowMs, discounts.clamp trustDiscount⟩

def updateKindPrice (kind : UInt16) (priceMsat blockHeight : UInt64) : PeerPriceCache Rate :=
  if cache.refusesKind nowMs peer blockHeight then cache
  else
    let withPrice (prices : String → Option UInt64) (key : String) : Option UInt64 :=
      if key = storedKey kind then some priceMsat else prices key
    match cache.entries peer with
    | some entry =>
      cache.put peer
        { entry with prices := withPrice entry.prices, blockHeight, receivedAtMs := nowMs }
    | none =>
      cache.put peer ⟨withPrice fun _ => none, blockHeight, computeValidBlocks blockHeight, nowMs,
        discounts.none⟩

/-- The table of a peer, if a lookup at a height finds it fresh. -/
def freshEntry (currentBlockHeight : UInt64) (maxAgeMs : Nat) : Option (PeerPriceEntry Rate) :=
  (cache.entries peer).filter fun entry => !entry.isStale currentBlockHeight maxAgeMs nowMs

variable (kind : UInt16) (currentBlockHeight : UInt64) (maxAgeMs : Nat)

def getFreshPeerPrice : Option UInt64 :=
  (cache.freshEntry nowMs peer currentBlockHeight maxAgeMs).bind (·.getPriceForKind kind)

def getFreshDiscountedPeerPrice : Option UInt64 :=
  (cache.freshEntry nowMs peer currentBlockHeight maxAgeMs).bind
    (·.getDiscountedPriceForKind discounts kind)

def perform : PriceAct Rate → PeerPriceCache Rate
  | .update peer prices blockHeight validBlocks trustDiscount =>
    cache.update discounts nowMs peer prices blockHeight validBlocks trustDiscount
  | .updateKindPrice peer kind priceMsat blockHeight =>
    cache.updateKindPrice discounts nowMs peer kind priceMsat blockHeight
  | .lookup height => if height > 0 then { cache with currentHeight := height } else cache

end PeerPriceCache

/-- When a price was received, and at which height. -/
structure Arrival where
  atMs : Nat
  blockHeight : UInt64
  deriving Repr, DecidableEq

/-- The cache, and for each peer and key the arrival of its price. -/
structure Tracked (Rate : Type) where
  cache : PeerPriceCache Rate := {}
  arrivals : String → String → Option Arrival := fun _ _ => none

namespace Tracked

variable (discounts : TrustDiscounts Rate) (tracked : Tracked Rate) (nowMs : Nat)

/-- The arrivals after an act: what is stored arrives now. -/
def arrive : PriceAct Rate → String → String → Option Arrival
  | .update peer prices height validBlocks _, other, key =>
    if other = peer ∧ tracked.cache.refuses nowMs peer height validBlocks = false then
      (prices key).map fun _ => ⟨nowMs, height⟩
    else tracked.arrivals other key
  | .updateKindPrice peer kind _ height, other, key =>
    if other = peer ∧ key = PeerPriceCache.storedKey kind ∧
      tracked.cache.refusesKind nowMs peer height = false then
      some ⟨nowMs, height⟩
    else tracked.arrivals other key
  | .lookup _, other, key => tracked.arrivals other key

def perform (act : PriceAct Rate) : Tracked Rate where
  cache := tracked.cache.perform discounts nowMs act
  arrivals := tracked.arrive nowMs act

/-- No price of another kind is stored into a table of the peer that has one under the key. -/
def LeavesAlone (peer key : String) : PriceAct Rate → Prop
  | .updateKindPrice other kind _ height => other = peer →
    tracked.cache.refusesKind nowMs peer height = false → key ≠ PeerPriceCache.storedKey kind →
      ∀ entry ∈ tracked.cache.entries peer, entry.prices key = none
  | _ => True

/-- The price under the key arrived when its table says. -/
def Stamped (peer key : String) (nowMs : Nat) (tracked : Tracked Rate) : Prop :=
  ∀ entry, tracked.cache.entries peer = some entry → entry.receivedAtMs ≤ nowMs ∧
    ((entry.prices key).isSome = true →
      tracked.arrivals peer key = some ⟨entry.receivedAtMs, entry.blockHeight⟩)

variable {discounts tracked nowMs} {peer key : String}

theorem entries_put {cache : PeerPriceCache Rate} {entry : PeerPriceEntry Rate} {other : String} :
    (cache.put peer entry).entries other =
      if other = peer then some entry else cache.entries other := rfl

theorem Stamped.update (stamped : Stamped peer key nowMs tracked) :
    Stamped peer key nowMs (tracked.perform discounts nowMs
      (.update other prices blockHeight validBlocks trustDiscount)) := by
  intro entry found
  simp only [perform, arrive, PeerPriceCache.perform, PeerPriceCache.update] at found ⊢
  cases refused : tracked.cache.refuses nowMs other blockHeight validBlocks with
  | true =>
    rw [refused, if_pos rfl] at found
    simpa [refused] using stamped entry found
  | false =>
    rw [refused, if_neg Bool.false_ne_true, entries_put] at found
    by_cases same : peer = other
    · rw [if_pos same] at found
      cases found
      refine ⟨le_rfl, fun present => ?_⟩
      obtain ⟨_, priced⟩ := Option.isSome_iff_exists.mp present
      dsimp only at priced
      rw [if_pos ⟨same, rfl⟩, priced, Option.map_some]
    rw [if_neg same] at found
    rw [if_neg fun both => same both.1]
    exact stamped entry found

theorem Stamped.updateKindPrice
    (alone : tracked.LeavesAlone nowMs peer key (.updateKindPrice other kind priceMsat blockHeight))
    (stamped : Stamped peer key nowMs tracked) :
    Stamped peer key nowMs (tracked.perform discounts nowMs
      (.updateKindPrice other kind priceMsat blockHeight)) := by
  intro entry found
  simp only [perform, arrive, PeerPriceCache.perform, PeerPriceCache.updateKindPrice] at found ⊢
  cases refused : tracked.cache.refusesKind nowMs other blockHeight with
  | true =>
    rw [refused, if_pos rfl] at found
    simpa [refused] using stamped entry found
  | false =>
    rw [refused, if_neg Bool.false_ne_true] at found
    by_cases same : peer = other
    · subst same
      -- The new entry is stamped now; under another key it had no price before.
      have fresh : entry.receivedAtMs = nowMs ∧ entry.blockHeight = blockHeight ∧
        (key ≠ PeerPriceCache.storedKey kind → entry.prices key = none) := by
        cases before : tracked.cache.entries peer with
        | none =>
          rw [before] at found
          rw [entries_put, if_pos rfl, Option.some.injEq] at found
          subst found
          exact ⟨rfl, rfl, fun ne => if_neg ne⟩
        | some old =>
          rw [before] at found
          rw [entries_put, if_pos rfl, Option.some.injEq] at found
          subst found
          exact ⟨rfl, rfl, fun ne => (if_neg ne).trans (alone rfl refused ne old before)⟩
      obtain ⟨receivedNow, atHeight, unpriced⟩ := fresh
      refine ⟨receivedNow.le, fun present => ?_⟩
      have own : key = PeerPriceCache.storedKey kind := by
        by_contra ne
        rw [unpriced ne] at present
        cases present
      rw [if_pos ⟨rfl, own, rfl⟩, receivedNow, atHeight]
    · have kept : tracked.cache.entries peer = some entry := by
        revert found
        cases tracked.cache.entries other <;> simp [entries_put, same]
      rw [if_neg fun both => same both.1]
      exact stamped entry kept

theorem Stamped.perform {act : PriceAct Rate} (alone : tracked.LeavesAlone nowMs peer key act)
    (stamped : Stamped peer key nowMs tracked) :
    Stamped peer key nowMs (tracked.perform discounts nowMs act) := by
  cases act with
  | update => exact stamped.update
  | updateKindPrice => exact stamped.updateKindPrice alone
  | lookup =>
    intro entry found
    refine stamped entry (Eq.trans ?_ found)
    simp only [Tracked.perform, PeerPriceCache.perform]
    split <;> rfl

open Tracked (perform)

/--
In every run in which no price of another kind is stored into a table of the
peer that has a price under a key: whenever a lookup returns a fresh price
found under that key, the price itself was received at most the given age
before, and at a height that is still valid.
-/
theorem fresh_price_received_recently (discounts : TrustDiscounts Rate) (peer key : String)
    (steps : List (Nat × PriceAct Rate)) (since : Nat)
    (admitted : Timed.Admitted (perform discounts)
      (fun tracked nowMs => tracked.LeavesAlone nowMs peer key) since {} steps)
    (kind : UInt16) (height : UInt64) (maxAgeMs now : Nat) (later : lastTime since steps ≤ now)
    (underKey : ∀ entry ∈ (run (perform discounts) {} steps).cache.entries peer,
      entry.keyFor kind = key)
    (returned : let cache := (run (perform discounts) {} steps).cache
      (cache.getFreshPeerPrice now peer kind height maxAgeMs).isSome ∨
        (cache.getFreshDiscountedPeerPrice discounts now peer kind height maxAgeMs).isSome) :
    ∃ entry arrival, (run (perform discounts) {} steps).cache.entries peer = some entry ∧
      (run (perform discounts) {} steps).arrivals peer key = some arrival ∧
      arrival.atMs ≤ now ∧ now ≤ arrival.atMs + maxAgeMs ∧ arrival.blockHeight ≠ 0 ∧
      (entry.validBlocks = 0 ∨
        height ≤ saturatingAdd arrival.blockHeight entry.validBlocks.toUInt64) := by
  have stamped := @Timed.invariant_run _ _ _ _ (Stamped peer key)
    (fun ordered stamped entry found => (stamped entry found).imp_left (Nat.le_trans · ordered))
    Stamped.perform steps since {} admitted nofun
  generalize run (perform discounts) {} steps = last at *
  have found : ∃ entry, last.cache.freshEntry now peer height maxAgeMs = some entry ∧
    (entry.getPriceForKind kind).isSome := by
    simp only [PeerPriceCache.getFreshPeerPrice,
      PeerPriceCache.getFreshDiscountedPeerPrice] at returned
    cases isFresh : last.cache.freshEntry now peer height maxAgeMs with
    | none => simp [isFresh] at returned
    | some entry =>
      refine ⟨entry, rfl, ?_⟩
      simpa [isFresh, PeerPriceEntry.getDiscountedPriceForKind] using returned
  obtain ⟨entry, isFresh, priced⟩ := found
  obtain ⟨present, lives⟩ := Option.filter_eq_some_iff.mp isFresh
  obtain ⟨received, arrived⟩ := stamped entry present
  rw [PeerPriceEntry.getPriceForKind, underKey entry present] at priced
  simp only [PeerPriceEntry.isStale, Bool.not_eq_true', Bool.or_eq_false_iff,
    Bool.and_eq_false_iff, decide_eq_false_iff_not] at lives
  refine ⟨entry, _, present, arrived priced, Nat.le_trans received later, ?_, lives.1.1, ?_⟩
  · dsimp only
    omega
  rcases lives.2 with unbounded | inside
  · exact .inl (UInt32.le_zero_iff.mp (UInt32.not_lt.mp unbounded))
  · exact .inr (UInt64.not_lt.mp inside)

section

/-- A peer that gives no discounts. -/
def undiscounted : TrustDiscounts Unit where
  none := ()
  clamp := id
  apply base _ := base

def announced : Nat × PriceAct Unit :=
  (0, .update "p" (fun key => if key = "communication" then some 5000 else none) 1000 144 ())

/-- The price is announced and then given again; that of another kind comes too late. -/
def answered : List (Nat × PriceAct Unit) :=
  [announced, (20, .updateKindPrice "p" 0 6000 1100), (30, .lookup 1200),
    (40, .updateKindPrice "p" 500 9000 1000)]

end

theorem fresh_price_received_recently_answered :
    let last := run (perform undiscounted) {} answered
    last.cache.getFreshPeerPrice 110 "p" 0 1200 100 = some 6000 ∧
      ∃ entry arrival, last.cache.entries "p" = some entry ∧
        last.arrivals "p" "communication" = some arrival ∧
        arrival.atMs ≤ 110 ∧ 110 ≤ arrival.atMs + 100 ∧ arrival.blockHeight ≠ 0 ∧
        (entry.validBlocks = 0 ∨
          1200 ≤ saturatingAdd arrival.blockHeight entry.validBlocks.toUInt64) :=
  ⟨by decide, fresh_price_received_recently undiscounted "p" "communication" answered 0
    ⟨le_rfl, trivial, by decide, fun _ _ other => absurd rfl other, by decide, trivial, by decide,
      fun _ stored => absurd stored (by decide), trivial⟩ 0 1200 100 110 (by decide)
    (fun entry member => by obtain rfl := Option.some.inj member; decide) (.inl (by decide))⟩

/-- The answer for another kind makes a price that arrived 100 before look 50 old. -/
theorem fresh_price_received_long_ago :
    let last := run (perform undiscounted) {}
      [announced, (50, .updateKindPrice "p" 500 9000 1000)]
    last.cache.getFreshDiscountedPeerPrice undiscounted 100 "p" 0 1000 60 = some 5000 ∧
      last.arrivals "p" "communication" = some ⟨0, 1000⟩ := by
  decide

end Tracked

end BitSov.Pricing
