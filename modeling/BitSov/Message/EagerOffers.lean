import BitSov.Process.Timed
import Mathlib.Data.List.Basic

namespace BitSov.Message

/-!
# Eager prekey offers

Every eager offer passes a limiter: one for a peer within a cooldown, and a
bounded number within a window across all peers.  Evicting remembered peers
spares those that cool down; that they are few follows from the windows.
Times are in nanoseconds.
-/

open Process Timed

def perPeerCooldown : Nat := 10_000_000_000

def globalWindow : Nat := 1_000_000_000

def globalMax : Nat := 16

def maxEntries : Nat := 10_000

structure EagerOfferLimiter (Peer : Type) where
  last : List (Peer × Nat) := []
  windowStart : Option Nat := none
  inWindow : Nat := 0

namespace EagerOfferLimiter

variable {Peer : Type} [DecidableEq Peer] (limiter : EagerOfferLimiter Peer) (now : Nat)

/-- What is remembered once there is room for another peer. -/
def kept : List (Peer × Nat) :=
  if limiter.last.length ≥ maxEntries then
    limiter.last.filter fun entry => now - entry.2 < perPeerCooldown
  else limiter.last

/-- Whether an offer may go out, with the limiter that counts it if so. -/
def allow (peer : Peer) : Bool × EagerOfferLimiter Peer :=
  let running := limiter.windowStart.any fun start => now - start < globalWindow
  if (limiter.last.lookup peer).any fun last => now - last < perPeerCooldown then (false, limiter)
  else if running && limiter.inWindow ≥ globalMax then (false, limiter)
  else
    (true,
      { last := (peer, now) :: (limiter.kept now).filter fun entry => entry.1 ≠ peer
        windowStart := if running then limiter.windowStart else some now
        inWindow := (if running then limiter.inWindow else 0) + 1 })

/-- A call, with the offers that were allowed, the latest first. -/
def offer (state : EagerOfferLimiter Peer × List (Peer × Nat)) (now : Nat) (peer : Peer) :
    EagerOfferLimiter Peer × List (Peer × Nat) :=
  let (allowed, next) := state.1.allow now peer
  (next, if allowed then (peer, now) :: state.2 else state.2)

/-- The offers from a time on and before another. -/
def offered (offers : List (Peer × Nat)) (since before : Nat) : Nat :=
  offers.countP fun offer => since ≤ offer.2 ∧ offer.2 < before

/-- What a limiter remembers of the offers that were allowed. -/
structure Limits (now : Nat) (limiter : EagerOfferLimiter Peer) (offers : List (Peer × Nat)) :
    Prop where
  past : ∀ offer ∈ offers, offer.2 ≤ now
  held : limiter.last.Sublist offers
  cooling : ∀ offer ∈ offers, now < offer.2 + perPeerCooldown →
    ∃ last, offer.2 ≤ last ∧ limiter.last.lookup offer.1 = some last
  apart : offers.Pairwise fun later earlier => later.1 = earlier.1 →
    earlier.2 + perPeerCooldown ≤ later.2
  small : limiter.last.length ≤ maxEntries
  full : limiter.inWindow ≤ globalMax
  fresh : limiter.windowStart = none → offers = []
  windowed : ∀ start ∈ limiter.windowStart, start ≤ now ∧ ∀ since before,
    offered offers since before ≤ limiter.inWindow +
      globalMax * ((start + globalWindow - since) / globalWindow)
  spread : ∀ since windows,
    offered offers since (since + windows * globalWindow) ≤ (windows + 1) * globalMax

variable {limiter now} {offers : List (Peer × Nat)}

theorem allow_refused (refused : (limiter.allow now peer).1 = false) :
    (limiter.allow now peer).2 = limiter := by
  unfold allow at refused ⊢
  grind

theorem lookup_filter {entries : List (Peer × Nat)} {keeps : Peer × Nat → Bool}
    (found : entries.lookup peer = some time) (keep : keeps (peer, time) = true) :
    (entries.filter keeps).lookup peer = some time := by
  induction entries with
  | nil => cases found
  | cons =>
    rw [List.lookup_cons] at found
    rw [List.filter_cons]
    grind

theorem Limits.later (limits : Limits since limiter offers) (after : since ≤ now) :
    Limits now limiter offers :=
  { limits with
    past := fun offer mem => Nat.le_trans (limits.past offer mem) after
    cooling := fun offer mem recent => limits.cooling offer mem (Nat.lt_of_le_of_lt after recent)
    windowed := fun start isStart =>
      ⟨Nat.le_trans (limits.windowed start isStart).1 after, (limits.windowed start isStart).2⟩ }

section

variable (limits : Limits now limiter offers)
include limits

/-- The peers that still cool down are far fewer than may be remembered. -/
theorem Limits.length_kept : (limiter.kept now).length < maxEntries := by
  unfold kept
  split
  · have recent : (limiter.last.filter fun entry => now - entry.2 < perPeerCooldown).length ≤
        offered offers (now + 1 - perPeerCooldown)
          (now + 1 - perPeerCooldown + 10 * globalWindow) := by
      rw [← List.countP_eq_length_filter]
      refine Nat.le_trans limits.held.countP_le (List.countP_mono_left fun offer mem cools => ?_)
      have past := limits.past offer mem
      rw [decide_eq_true_eq] at cools ⊢
      unfold perPeerCooldown globalWindow at *
      omega
    refine Nat.lt_of_le_of_lt (Nat.le_trans recent (limits.spread _ 10)) (by decide)
  · exact Nat.lt_of_not_le ‹_›

theorem Limits.windowed_next (peer) {running : Bool}
    (isRunning : running = limiter.windowStart.any fun start => now - start < globalWindow) :
    ∀ start ∈ (if running then limiter.windowStart else some now), start ≤ now ∧ ∀ since before,
      offered ((peer, now) :: offers) since before ≤ (if running then limiter.inWindow else 0) + 1 +
          globalMax * ((start + globalWindow - since) / globalWindow) := by
  have full := limits.full
  have one (since before : Nat) : offered ((peer, now) :: offers) since before ≤
      if since ≤ now then offered offers since before + 1 else 0 := by
    unfold offered
    split
    · rw [List.countP_cons]
      split <;> omega
    · refine Nat.le_of_eq (List.countP_eq_zero.mpr fun _ _ => ?_)
      have past := limits.past
      grind
  intro start isStart
  cases running with
  | true =>
    obtain ⟨begun, bound⟩ := limits.windowed start isStart
    refine ⟨begun, fun since before => ?_⟩
    have counted := bound since before
    have another := one since before
    rw [if_pos rfl]
    split at another <;> omega
  | false =>
    cases isStart
    refine ⟨Nat.le_refl _, fun since before => ?_⟩
    cases started : limiter.windowStart with
    | none =>
      rw [limits.fresh started]
      exact Nat.le_trans List.countP_le_length (by simp)
    | some current =>
      -- The offers of the window that is over count as one more full window.
      have counted := (limits.windowed current started).2 since before
      have another := one since before
      rw [started, Option.any_some, eq_comm, decide_eq_false_iff_not] at isRunning
      unfold globalMax globalWindow at *
      split at another <;> simp <;> omega

theorem Limits.offer_next (peer) (allowed : (limiter.allow now peer).1 = true) :
    Limits now (limiter.allow now peer).2 ((peer, now) :: offers) := by
  unfold allow at allowed ⊢
  dsimp only at allowed ⊢
  split at allowed
  · cases allowed
  next cooled =>
  split at allowed
  · cases allowed
  next room =>
  rw [if_neg cooled, if_neg room]
  have past : ∀ offer ∈ (peer, now) :: offers, offer.2 ≤ now :=
    List.forall_mem_cons.mpr ⟨Nat.le_refl _, limits.past⟩
  have windowed := limits.windowed_next peer rfl
  generalize isRunning : (limiter.windowStart.any fun start => now - start < globalWindow) = running
    at room windowed
  have full : (if running then limiter.inWindow else 0) + 1 ≤ globalMax := by
    cases running with
    | true =>
      rw [Bool.true_and, decide_eq_true_eq] at room
      exact Nat.lt_of_not_le room
    | false => exact (by decide : 0 + 1 ≤ globalMax)
  have fresh (none_ : (if running then limiter.windowStart else some now) = none) :
      (peer, now) :: offers = [] := by
    cases running <;> simp_all
  refine
    { past
      held := (List.filter_sublist.trans (.trans ?_ limits.held)).cons_cons _
      cooling := fun offer mem recent => ?_
      apart := limits.apart.cons fun earlier mem same => ?_
      small := Nat.lt_of_le_of_lt (List.length_filter_le _ _) limits.length_kept
      full
      fresh
      windowed
      spread := fun since windows => ?_ }
  · unfold kept
    split <;> simp
  · by_cases same : offer.1 = peer
    · exact ⟨now, past offer mem, by rw [same, List.lookup_cons_self]⟩
    have earlier := (List.mem_cons.mp mem).resolve_left fun isNew => same (congrArg Prod.fst isNew)
    obtain ⟨last, after, found⟩ := limits.cooling offer earlier recent
    refine ⟨last, after, ?_⟩
    rw [List.lookup_cons, beq_false_of_ne same]
    refine lookup_filter ?_ (by simpa using same)
    unfold kept
    split
    · refine lookup_filter found (decide_eq_true ?_)
      unfold perPeerCooldown at *
      omega
    · exact found
  · by_contra recent
    obtain ⟨last, after, found⟩ := limits.cooling earlier mem (Nat.lt_of_not_le recent)
    dsimp only at same recent
    rw [same, found, Option.any_some, decide_eq_true_eq] at cooled
    unfold perPeerCooldown at *
    omega
  · by_cases inside : since ≤ now ∧ now < since + windows * globalWindow
    · cases isNext : if running then limiter.windowStart else some now with
      | none => cases fresh isNext
      | some start =>
        obtain ⟨_, bound⟩ := windowed start isNext
        have counted := bound since (since + windows * globalWindow)
        unfold globalMax globalWindow at *
        omega
    · unfold offered
      rw [List.countP_cons_of_neg (by simpa using inside)]
      exact limits.spread since windows

end

/--
In every run, two offers to a peer are a cooldown apart, no more peers are
remembered than may be, a refused call changes nothing, and a number of
windows takes at most the offers of one more.
-/
theorem eager_offers_limited (calls : List (Nat × Peer)) (since : Nat)
    (ordered : Admitted offer (fun _ _ _ => True) since ({}, []) calls) :
    let state := run offer ({}, []) calls
    (state.2.Pairwise fun later earlier => later.1 = earlier.1 →
      earlier.2 + perPeerCooldown ≤ later.2) ∧
    state.1.last.length ≤ maxEntries ∧
    (∀ now peer, (state.1.allow now peer).1 = false → (state.1.allow now peer).2 = state.1) ∧
    ∀ start windows, offered state.2 start (start + windows * globalWindow) ≤
      (windows + 1) * globalMax := by
  have limits := @Timed.invariant_run _ _ _ _
    (fun now (state : EagerOfferLimiter Peer × List (Peer × Nat)) => Limits now state.1 state.2)
    (fun after limits => limits.later after) ?_ calls since ({}, []) ordered ?_
  · exact ⟨limits.apart, limits.small, fun _ _ => allow_refused, limits.spread⟩
  · intro now state peer _ limits
    unfold offer
    dsimp only
    cases allowed : (state.1.allow now peer).1 with
    | true => exact limits.offer_next peer allowed
    | false =>
      rw [allow_refused allowed]
      exact limits
  · constructor <;> simp [offered, maxEntries]

/-- A peer that asks again at once waits for its cooldown, another one does not. -/
theorem eager_offers_limited_cooling :
    let calls := [(0, "p"), (9, "p"), (9, "q"), (perPeerCooldown, "p")]
    let made := (run offer ({}, []) calls).2
    made = [("p", perPeerCooldown), ("q", 9), ("p", 0)] ∧
      (made.Pairwise fun later earlier => later.1 = earlier.1 →
        earlier.2 + perPeerCooldown ≤ later.2) ∧
      offered made 0 (0 + 1 * globalWindow) ≤ 32 := by
  have limited := eager_offers_limited [(0, "p"), (9, "p"), (9, "q"), (perPeerCooldown, "p")] 0
    (by simp [Admitted, perPeerCooldown])
  exact ⟨by decide, limited.1, limited.2.2.2 0 1⟩

end EagerOfferLimiter

end BitSov.Message
