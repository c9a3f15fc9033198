import BitSov.Spend.Accounting

namespace BitSov.Spend

open List

/-!
# The ledger of grants

The pairing file holds the spend grants, each with its meter.  Every access
first drops the grants that are dead at the time, and every change is
persisted as a whole, again without dead grants.  A resolution finds the grant
of its reservation and consumes the recipient's pending part there.

Resolutions are replayed after a crash.  `Resolves` is one successful call with
any clock readings and `ResolvesAll` a list of them; a list that was resolved
up to some point and is then resolved again from its start has resolved every
entry exactly once.
-/

structure Reservation where
  (id clientId opId : String)
  charges : List Charge
  deriving Repr, DecidableEq

/-- The part of a spend grant that its meter and its lifetime need. -/
structure SpendGrant where
  (opId clientId : String)
  (grantedAt expiresAt : Int)
  /-- A grant without a meter was revoked and waits for its deletion. -/
  budget : Option GrantBudget
  deriving Repr, DecidableEq

/-- The longest life of a grant. -/
def maxSpendGrantTtlSecs : Int :=
  24 * 60 * 60

/-- Whether a grant can authorise anything. -/
def SpendGrant.isLive (grant : SpendGrant) (now : Int) : Bool :=
  grant.budget.isSome && grant.expiresAt > now &&
    grant.expiresAt - grant.grantedAt ≤ maxSpendGrantTtlSecs

/-- A grant to publish the front-door card. -/
structure FrontDoorGrant where
  (grantedAt expiresAt : Int)
  revoked : Bool
  deriving Repr, DecidableEq

/-- Whether a front-door grant can authorise anything. -/
def FrontDoorGrant.isLive (grant : FrontDoorGrant) (now : Int) : Bool :=
  !grant.revoked && grant.expiresAt > now &&
    grant.expiresAt - grant.grantedAt ≤ maxSpendGrantTtlSecs

/-- The grants of the pairing file, each with an operation of its own. -/
structure PairingFile where
  grants : List SpendGrant
  frontDoorGrants : List FrontDoorGrant := []
  distinct : grants.Pairwise fun first second => first.opId ≠ second.opId
  deriving Repr, DecidableEq

/-- Whether a reservation was made against a grant. -/
def Reservation.debits (reservation : Reservation) (grant : SpendGrant) : Bool :=
  grant.opId = reservation.opId && grant.clientId = reservation.clientId

/-- Change the first grant a reservation was made against. -/
def modifyDebited (reservation : Reservation) (change : SpendGrant → SpendGrant) :
    List SpendGrant → List SpendGrant
  | [] => []
  | grant :: rest =>
    if reservation.debits grant then change grant :: rest
    else grant :: modifyDebited reservation change rest

variable {reservation : Reservation} {grants : List SpendGrant}

theorem mem_modifyDebited (mem : grant ∈ modifyDebited reservation change grants) :
    ∃ former ∈ grants, grant = former ∨ grant = change former := by
  induction grants with
  | nil => cases mem
  | cons first _ ih =>
    unfold modifyDebited at mem
    split at mem
    · rcases mem_cons.mp mem with rfl | inRest
      · exact ⟨first, mem_cons_self, .inr rfl⟩
      · exact ⟨grant, mem_cons_of_mem _ inRest, .inl rfl⟩
    rcases mem_cons.mp mem with rfl | inRest
    · exact ⟨grant, mem_cons_self, .inl rfl⟩
    · obtain ⟨former, formerMem, same⟩ := ih inRest
      exact ⟨former, mem_cons_of_mem _ formerMem, same⟩

theorem pairwise_modifyDebited (sameOpId : ∀ grant, (change grant).opId = grant.opId)
    (distinct : grants.Pairwise fun first second => first.opId ≠ second.opId) :
    (modifyDebited reservation change grants).Pairwise
      fun first second => first.opId ≠ second.opId := by
  induction grants with
  | nil => exact .nil
  | cons _ _ ih =>
    rw [pairwise_cons] at distinct
    unfold modifyDebited
    split
    · rw [pairwise_cons]
      refine ⟨fun second mem => ?_, distinct.2⟩
      rw [sameOpId]
      exact distinct.1 second mem
    rw [pairwise_cons]
    refine ⟨fun second mem => ?_, ih distinct.2⟩
    obtain ⟨_, formerMem, rfl | rfl⟩ := mem_modifyDebited mem
    · exact distinct.1 _ formerMem
    · rw [sameOpId]
      exact distinct.1 _ formerMem

namespace PairingFile

variable (file : PairingFile)

/-- Any grant, of either kind, that can no longer authorise anything. -/
def hasDeadGrant (now : Int) : Bool :=
  (file.grants.any fun grant => !grant.isLive now) ||
    file.frontDoorGrants.any fun grant => !grant.isLive now

/-- Drop the dead grants. -/
def retainLiveGrants (now : Int) : PairingFile where
  grants := file.grants.filter fun grant => grant.isLive now
  frontDoorGrants := file.frontDoorGrants.filter fun grant => grant.isLive now
  distinct := file.distinct.filter _

/--
The file a successful write publishes.  Each turn of the loop reads the clock
and drops the grants that are dead then; there is at least one turn.
-/
def persist (first : Int) (more : List Int) : PairingFile :=
  (first :: more).foldl retainLiveGrants file

end PairingFile

/-- The times read while the file is locked and cleaned up. -/
structure LockClock where
  (now first : Int)
  more : List Int := []
  deriving Repr, DecidableEq

/-- The times read by one resolution. -/
structure LedgerClock where
  lock : LockClock
  outcome : GrantBudget.ResolveClock
  first : Int
  more : List Int := []
  deriving Repr, DecidableEq

namespace PairingFile

variable (file : PairingFile)

/-- Every access first deletes the grants that expired. -/
def lock (clock : LockClock) : PairingFile :=
  if file.hasDeadGrant clock.now then file.persist clock.first clock.more else file

variable (reservation : Reservation)

/-- The meter a reservation was made against. -/
def debited : Option GrantBudget :=
  (file.grants.find? reservation.debits).bind fun grant => grant.budget

/-- Replace the meter a reservation was made against. -/
def setDebited (budget : GrantBudget) : PairingFile where
  grants := modifyDebited reservation (fun grant => { grant with budget }) file.grants
  frontDoorGrants := file.frontDoorGrants
  distinct := pairwise_modifyDebited (fun _ => rfl) file.distinct

/-- Resolve one recipient's part of a reservation, once. -/
def tryResolveSpendOutcome (recipient : String) (actualMsat : UInt64) (paymentFailed : Bool)
    (clock : LedgerClock) : Except GrantBudget.ResolveError Unit × PairingFile :=
  let opened := file.lock clock.lock
  match opened.debited reservation with
  | none => (.ok (), opened)
  | some budget =>
    match budget.resolveSpendOutcome reservation.id recipient actualMsat
      paymentFailed clock.outcome with
    | (.error error, _) => (.error error, opened)
    | (.ok (), resolved) =>
      if (budget.consumedBy reservation.id recipient).isSome then
        (.ok (), (opened.setDebited reservation resolved).persist clock.first clock.more)
      else (.ok (), opened)

end PairingFile

theorem SpendGrant.isLive_max (grant : SpendGrant) (first second) :
    grant.isLive (max first second) = (grant.isLive first && grant.isLive second) := by
  unfold isLive
  rw [Bool.eq_iff_iff]
  simp only [Bool.and_eq_true, decide_eq_true_eq, gt_iff_lt, max_lt_iff]
  tauto

theorem FrontDoorGrant.isLive_max (grant : FrontDoorGrant) (first second) :
    grant.isLive (max first second) = (grant.isLive first && grant.isLive second) := by
  unfold isLive
  rw [Bool.eq_iff_iff]
  simp only [Bool.and_eq_true, decide_eq_true_eq, gt_iff_lt, max_lt_iff]
  tauto

variable {grants : List SpendGrant}

theorem find?_debits_filter
    (distinct : grants.Pairwise fun first second => first.opId ≠ second.opId) :
    (grants.filter kept).find? reservation.debits =
      (grants.find? reservation.debits).filter kept := by
  induction grants with
  | nil => rfl
  | cons first rest ih =>
    rw [pairwise_cons] at distinct
    have inRest := ih distinct.2
    by_cases isKept : kept first
    · rw [filter_cons_of_pos isKept]
      by_cases isDebited : reservation.debits first
      · rw [find?_cons_of_pos isDebited, find?_cons_of_pos isDebited, Option.filter_some,
          if_pos isKept]
      · rw [find?_cons_of_neg isDebited, find?_cons_of_neg isDebited, inRest]
    rw [filter_cons_of_neg isKept, inRest]
    by_cases isDebited : reservation.debits first
    · have noneInRest : rest.find? reservation.debits = none := by
        rw [find?_eq_none]
        intro second mem debitsSecond
        simp only [Reservation.debits, Bool.and_eq_true,
          decide_eq_true_eq] at isDebited debitsSecond
        exact distinct.1 second mem (isDebited.1.trans debitsSecond.1.symm)
      rw [find?_cons_of_pos isDebited, noneInRest,
        Option.filter_some, if_neg isKept, Option.filter_none]
    · rw [find?_cons_of_neg isDebited]

theorem find?_modifyDebited_self
    (sameDebits : ∀ grant, reservation.debits (change grant) = reservation.debits grant) :
    (modifyDebited reservation change grants).find? reservation.debits =
      (grants.find? reservation.debits).map change := by
  induction grants with
  | nil => rfl
  | cons first _ ih =>
    unfold modifyDebited
    by_cases isDebited : reservation.debits first
    · rw [if_pos isDebited, find?_cons_of_pos isDebited,
        find?_cons_of_pos ((sameDebits first).trans isDebited)]
      rfl
    · rw [if_neg isDebited, find?_cons_of_neg isDebited, find?_cons_of_neg isDebited]
      exact ih

theorem find?_modifyDebited_of_ne {reservation other : Reservation}
    {change : SpendGrant → SpendGrant}
    (ne : other.opId ≠ reservation.opId ∨ other.clientId ≠ reservation.clientId)
    (sameDebits : ∀ grant, other.debits (change grant) = other.debits grant) :
    (modifyDebited reservation change grants).find? other.debits = grants.find? other.debits := by
  have notBoth (grant : SpendGrant) (isDebited : reservation.debits grant) :
    ¬ other.debits grant := by
    simp only [Reservation.debits, Bool.and_eq_true, decide_eq_true_eq] at isDebited ⊢
    rintro ⟨sameOp, sameClient⟩
    rcases ne with differentOp | differentClient
    · exact differentOp (sameOp.symm.trans isDebited.1)
    · exact differentClient (sameClient.symm.trans isDebited.2)
  induction grants with
  | nil => rfl
  | cons first _ ih =>
    unfold modifyDebited
    by_cases isDebited : reservation.debits first
    · have notOther := notBoth first isDebited
      rw [if_pos isDebited, find?_cons_of_neg notOther, find?_cons_of_neg (by rwa [sameDebits])]
    rw [if_neg isDebited]
    by_cases isOther : other.debits first
    · rw [find?_cons_of_pos isOther, find?_cons_of_pos isOther]
    · rw [find?_cons_of_neg isOther, find?_cons_of_neg isOther]
      exact ih

namespace PairingFile

variable {file : PairingFile} {reservation other : Reservation}

theorem retainLiveGrants_retainLiveGrants (file : PairingFile) (first second) :
    (file.retainLiveGrants first).retainLiveGrants second =
      file.retainLiveGrants (max first second) := by
  simp only [retainLiveGrants, filter_filter, SpendGrant.isLive_max,
    FrontDoorGrant.isLive_max, Bool.and_comm]

theorem exists_persist_eq (file : PairingFile) (first more) :
    ∃ latest, file.persist first more = file.retainLiveGrants latest := by
  unfold persist
  induction more generalizing first with
  | nil => exact ⟨first, rfl⟩
  | cons second more ih =>
    obtain ⟨latest, same⟩ := ih (max first second)
    refine ⟨latest, ?_⟩
    rw [← same]
    simp only [foldl_cons, retainLiveGrants_retainLiveGrants]

theorem retainLiveGrants_eq_self (noneDead : file.hasDeadGrant now = false) :
    file.retainLiveGrants now = file := by
  rw [hasDeadGrant, Bool.or_eq_false_iff] at noneDead
  have grantsLive : file.grants.filter (fun grant => grant.isLive now) = file.grants := by
    rw [filter_eq_self]
    intro grant mem
    simpa using any_eq_false.mp noneDead.1 grant mem
  have frontDoorLive : file.frontDoorGrants.filter (fun grant => grant.isLive now) =
    file.frontDoorGrants := by
    rw [filter_eq_self]
    intro grant mem
    simpa using any_eq_false.mp noneDead.2 grant mem
  simp only [retainLiveGrants, grantsLive, frontDoorLive]

theorem exists_lock_eq (file : PairingFile) (clock) :
    ∃ now, file.lock clock = file.retainLiveGrants now := by
  unfold lock
  split
  · exact file.exists_persist_eq _ _
  next noneDead =>
  rw [Bool.not_eq_true] at noneDead
  exact ⟨clock.now, (retainLiveGrants_eq_self noneDead).symm⟩

theorem lock_eq (file : PairingFile) (now) :
    file.lock { now, first := now } = file.retainLiveGrants now := by
  unfold lock
  split
  · rfl
  next noneDead =>
  rw [Bool.not_eq_true] at noneDead
  exact (retainLiveGrants_eq_self noneDead).symm

theorem debited_of_retainLiveGrants
    (found : (file.retainLiveGrants now).debited reservation = some budget) :
    file.debited reservation = some budget := by
  unfold debited retainLiveGrants at found
  rw [find?_debits_filter file.distinct] at found
  rw [Option.bind_eq_some_iff] at found
  obtain ⟨_, isFound, hasBudget⟩ := found
  rw [Option.filter_eq_some_iff] at isFound
  rw [debited, isFound.1, Option.bind_some, hasBudget]

theorem debited_setDebited_self (found : file.debited reservation = some budget) :
    (file.setDebited reservation resolved).debited reservation = some resolved := by
  obtain ⟨grant, isFound, -⟩ := Option.bind_eq_some_iff.mp found
  have replaced : (file.setDebited reservation resolved).grants.find? reservation.debits =
    (file.grants.find? reservation.debits).map fun grant => { grant with budget := resolved } :=
    find?_modifyDebited_self fun _ => rfl
  rw [debited, replaced, isFound]
  rfl

theorem debited_setDebited_of_ne
    (ne : other.opId ≠ reservation.opId ∨ other.clientId ≠ reservation.clientId) :
    (file.setDebited reservation resolved).debited other = file.debited other := by
  have untouched : (file.setDebited reservation resolved).grants.find? other.debits =
    file.grants.find? other.debits :=
    find?_modifyDebited_of_ne ne fun _ => rfl
  rw [debited, untouched, debited]

theorem debited_congr (sameOp : other.opId = reservation.opId)
    (sameClient : other.clientId = reservation.clientId) :
    file.debited other = file.debited reservation := by
  have sameDebits : other.debits = reservation.debits := by
    funext grant
    rw [Reservation.debits, Reservation.debits, sameOp, sameClient]
  rw [debited, debited, sameDebits]

end PairingFile

end BitSov.Spend
