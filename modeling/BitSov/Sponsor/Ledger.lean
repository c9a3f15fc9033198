import BitSov.Outbox.Row

namespace BitSov.Sponsor

open Core Outbox Arithmetic

/-!
# The ledger of sponsor kits

A kit is one offered gift.  It is offered, frozen on one candidate, approved
by the owner and then paid at most once.  The ledger keeps the highest time it
has observed, and its limits are measured in that time: the rolling purse, the
approvals of a day and the number of open kits.
-/

structure SponsorPolicy where
  enabled : Bool
  (giftMsat feeMsat purseMsat : UInt64)
  kitsPerDay : UInt32
  deriving Repr, DecidableEq

/-- The most one gift and its fee may cost, in msat. -/
def maxKitMsat : UInt64 :=
  50000000

/-- The largest rolling purse, in msat. -/
def maxPurseMsat : UInt64 :=
  100000000

/-- The most kits that may be approved in a day. -/
def maxKitsPerDay : UInt32 :=
  2

/-- The largest fee ceiling, in msat. -/
def maxFeeMsat : UInt64 :=
  100000

namespace SponsorPolicy

/-- The policy as configured, refused if it exceeds a ceiling. -/
def new (enabled : Bool) (giftMsat feeMsat purseMsat : UInt64) (kitsPerDay : UInt32) :
    Except String SponsorPolicy :=
  let policy : SponsorPolicy := ⟨enabled, giftMsat, feeMsat, purseMsat, kitsPerDay⟩
  if !enabled then .ok policy
  else if giftMsat = 0 ∨ saturatingAdd giftMsat feeMsat > maxKitMsat then
    .error ("[sponsor] gift + fee must be 1..=" ++ toString (maxKitMsat.toNat / 1000) ++ " sats")
  else if feeMsat > maxFeeMsat then
    .error ("[sponsor] fee ceiling above " ++ toString (maxFeeMsat.toNat / 1000) ++ " sats")
  else if purseMsat > maxPurseMsat ∨ purseMsat < saturatingAdd giftMsat feeMsat then
    .error ("[sponsor] purse must cover one kit and stay ≤ " ++
      toString (maxPurseMsat.toNat / 1000) ++ " sats")
  else if kitsPerDay = 0 ∨ kitsPerDay > maxKitsPerDay then
    .error ("[sponsor] kits_per_day must be 1..=" ++ toString maxKitsPerDay.toNat)
  else .ok policy

/-- What one kit may cost. -/
def kitMsat (policy : SponsorPolicy) : UInt64 :=
  saturatingAdd policy.giftMsat policy.feeMsat

end SponsorPolicy

/-- A policy that the node has accepted at its start. -/
structure Configuration where
  policy : SponsorPolicy
  accepted : SponsorPolicy.new policy.enabled policy.giftMsat policy.feeMsat
    policy.purseMsat policy.kitsPerDay = .ok policy

inductive KitState where
  | offered
  | candidate
  | paying
  | funded
  | failed
  | unknown
  | cancelled
  | expired
  deriving Repr, DecidableEq

/-- The one newcomer a kit is frozen on. -/
structure Candidate where
  (newcomer newcomerLn paymentHash bolt11 code : String)
  expiresAt : UInt64
  deriving Repr, DecidableEq

/-- One offered gift. -/
structure Kit where
  introId : String
  (giftMsat feeMsat createdAt expiresAt : UInt64)
  state : KitState
  candidate : Option Candidate
  (approvedAt settledAt : Option UInt64)
  /-- A lookup proved that the invoice had no prior attempt. -/
  freshPaymentHash : Bool
  /-- Held from the approval until a definitive outcome. -/
  (reservedMsat paidMsat feePaidMsat : UInt64)
  deriving Repr, DecidableEq

inductive SponsorError where
  | badRequest (reason : String)
  | conflict (reason : String)
  | notFound (reason : String)
  | internal (reason : String)
  | notReady
  | notDispatched (reason : String)
  | budgetExceeded (refusal : Spend.BudgetRefusal)
  | lightning (reason : String)
  | paymentUnresolved (reason : String)
  deriving Repr, DecidableEq

def SponsorError.toText : SponsorError → String
  | .badRequest reason => "bad request: " ++ reason
  | .conflict reason => "conflict: " ++ reason
  | .notFound reason => "not found: " ++ reason
  | .internal reason => "internal error: " ++ reason
  | .notReady => "Lightning is offline or synchronizing; retry when money_ready is true"
  | .notDispatched reason => "not dispatched: " ++ reason
  | .budgetExceeded refusal => "budget exceeded: " ++ refusal.toText
  | .lightning reason => "lightning error: " ++ reason
  | .paymentUnresolved reason => "payment outcome unknown: " ++ reason

def daySecs : UInt64 :=
  86400

/-- The most kits that may be open at once. -/
def maxActiveKits : UInt32 :=
  1

/-- The longest life of an offer in seconds. -/
def offerLifetimeSecs : UInt64 :=
  600

namespace Kit

variable (kit : Kit) (details : PaymentDetails) (now : UInt64)

/-- Whether a kit still needs an outcome. -/
def isOpen : Bool :=
  match kit.state with
  | .offered | .candidate => kit.expiresAt > now
  | .paying | .unknown => true
  | .funded => kit.reservedMsat > 0
  | .failed | .cancelled | .expired => false

/-- Whether a time was less than a day ago, or is still to come. -/
def within24h (at_ now : UInt64) : Bool :=
  saturatingAdd at_ daySecs > now

/-- Whether a kit was approved within the last day. -/
def inDay : Bool :=
  kit.approvedAt.any fun at_ => within24h at_ now

/-- What a kit holds against the purse. -/
def charge : UInt64 :=
  match kit.state with
  | .paying | .unknown => kit.reservedMsat
  | .funded =>
    if kit.reservedMsat > 0 then kit.reservedMsat
    else if (kit.settledAt.or kit.approvedAt).any fun at_ => within24h at_ now then
      saturatingAdd kit.paidMsat kit.feePaidMsat
    else 0
  | .offered | .candidate | .failed | .cancelled | .expired => 0

/-- The time after which an undispatched kit is over. -/
def deadline : UInt64 :=
  match kit.candidate with
  | none => kit.expiresAt
  | some candidate => min kit.expiresAt candidate.expiresAt

/-- A kit that is not dispatched expires at its deadline. -/
def observe : Kit :=
  if (kit.state = .offered ∨ kit.state = .candidate) ∧ kit.deadline ≤ now then
    { kit with state := .expired }
  else kit

/--
A kit as it is loaded: without a settlement time, a funded kit holds at least
its approved maximum.
-/
def migrate : Kit :=
  if kit.state = .funded ∧ kit.settledAt = none then
    { kit with
      reservedMsat := max
        (max kit.reservedMsat (saturatingAdd kit.giftMsat kit.feeMsat))
        (saturatingAdd kit.paidMsat kit.feePaidMsat) }
  else kit

/-- An outcome that nothing changes any more. -/
def isFinal : Bool :=
  match kit.state with
  | .failed | .cancelled | .expired => true
  | .funded => kit.reservedMsat = 0
  | .offered | .candidate | .paying | .unknown => false

/-- An outgoing record of the frozen candidate's payment. -/
def isRecordOf : Bool :=
  details.direction = .outgoing &&
    kit.candidate.any fun candidate => candidate.paymentHash = details.paymentHash

/-- A settled gift; a missing or excessive fee frees nothing. -/
def settle : Kit :=
  let funded := { kit with state := .funded, paidMsat := details.amountMsat }
  let unknownFee :=
    { funded with
      reservedMsat := max (saturatingAdd kit.giftMsat kit.feeMsat)
        (saturatingAdd details.amountMsat (details.feeMsat.getD 0)) }
  match details.feeMsat with
  | some fee =>
    if fee ≤ kit.feeMsat then
      { funded with
        feePaidMsat := fee, reservedMsat := 0,
        settledAt := some (max now (kit.approvedAt.getD now)) }
    else unknownFee
  | none => unknownFee

/-- A gift that was definitively not paid. -/
def fail : Kit :=
  { kit with state := .failed, reservedMsat := 0 }

/-- Nothing definitive; a funded kit stays funded. -/
def leaveOpen : Kit :=
  if kit.state = .funded then kit else { kit with state := .unknown }

/-- Record what the backend said about the gift. -/
def recordOutcome (result : Except LightningError PaymentDetails) (now : UInt64)
    (fromDispatch : Bool) : Kit :=
  if kit.isFinal then kit
  else
    match result with
    | .ok details =>
      if kit.isRecordOf details ∧ details.status = .settled ∧
        details.amountMsat = kit.giftMsat then
        kit.settle details now
      else if kit.isRecordOf details ∧
        (details.status = .failed ∨ details.status = .expired) ∧
        kit.state ≠ .funded ∧
        (fromDispatch = true ∨ kit.freshPaymentHash = true) then
        kit.fail
      else kit.leaveOpen
    | .error error =>
      match error with
      | .paymentNotDispatched _ | .notReady => if kit.state = .funded then kit else kit.fail
      | .paymentNotFound _ | .other _ => kit.leaveOpen

end Kit

structure Ledger where
  lastObservedTime : UInt64
  kits : List Kit
  deriving Repr, DecidableEq

namespace Ledger

/-- The ledger of a node that has sponsored nobody. -/
def empty : Ledger where
  lastObservedTime := 0
  kits := []

variable (ledger : Ledger)

def load : Ledger :=
  { ledger with kits := ledger.kits.map Kit.migrate }

/-- The ledger after a look at the clock, which may have gone back. -/
def observe (wallNow : UInt64) : Ledger :=
  let now := max ledger.lastObservedTime wallNow
  { lastObservedTime := now
    kits := ledger.kits.map fun kit => kit.observe now }

variable (policy : SponsorPolicy) (now : UInt64)

/-- What the kits hold against the purse. -/
def purseUsed : UInt64 :=
  let now := max now ledger.lastObservedTime
  ledger.kits.foldl (fun used kit => saturatingAdd used (kit.charge now)) 0

/-- The kits approved within the last day. -/
def kitsToday : UInt32 :=
  let now := max now ledger.lastObservedTime
  (ledger.kits.countP fun kit => kit.inDay now).toUInt32

def active : UInt32 :=
  let now := max now ledger.lastObservedTime
  (ledger.kits.countP fun kit => kit.isOpen now).toUInt32

def kit (introId : String) : Except SponsorError Kit :=
  match ledger.kits.find? fun kit => kit.introId = introId with
  | some kit => .ok kit
  | none => .error (.notFound "sponsor_kit_unknown: no kit for that introduction")

def setKit (introId : String) (kit : Kit) : Ledger :=
  { ledger with
    kits := ledger.kits.replaceF fun former =>
      if former.introId = introId then some kit else none }

/-- Room for one more approved kit. -/
def checkRoom (kitMsat now : UInt64) : Except SponsorError Unit :=
  if ledger.kitsToday now ≥ policy.kitsPerDay then
    .error (.conflict
      ("sponsor_daily_limit: " ++ toString policy.kitsPerDay.toNat ++ " kits in the last 24 hours"))
  else if saturatingAdd (ledger.purseUsed now) kitMsat > policy.purseMsat then
    .error (.conflict
      ("sponsor_purse_exhausted: " ++
        toString ((ledger.purseUsed now).toNat / 1000) ++ " of " ++
        toString (policy.purseMsat.toNat / 1000) ++
        " sats used in the last 24 hours"))
  else .ok ()

/-- Before a new offer: sponsoring is on, nothing is open, there is room. -/
def checkNewKit : Except SponsorError Unit :=
  if !policy.enabled then
    .error (.conflict
      "sponsor_disabled: the owner has not turned sponsoring on ([sponsor] in the node config)")
  else if ledger.active now ≥ maxActiveKits then
    .error (.conflict "sponsor_kit_open: finish or cancel the open kit first")
  else ledger.checkRoom policy policy.kitMsat now

end Ledger

end BitSov.Sponsor
