import BitSov.Outbox.Row

namespace BitSov.Admission

open Core Spend Outbox

/-!
# The admission journal

One file for each peer holds the latest attempt to pay admission to it.  An
attempt is written before its dispatch, and the dispatch marker only after the
operation journal knows of it, so a file whose marker is unset proves that its
payment never reached the wallet.  Until then the file also keeps the attempt
it replaces.
-/

/-- Context of a settlement notification for a re-admission. -/
structure ReadmissionSettlement where
  budgetMsat : Option UInt64
  reported : Bool := false
  deriving Repr, DecidableEq

/-- One attempt to pay admission. -/
structure Attempt where
  dispatchStarted : Bool
  operation : Option OperationReservationLink := none
  maxRoutingFeeMsat : Option UInt64 := none
  paymentHash : String
  amountMsat : UInt64
  quote : Option (UInt16 × UInt64) := none
  envelope : Option UkmEnvelope := none
  settledAtUnix : Option UInt64 := none
  originalReservation : Option Reservation := none
  messageMayHaveDispatched : Bool := false
  readmission : Option ReadmissionSettlement := none
  proofDelivered : Bool := false
  deriving Repr, DecidableEq

/-- The file of a peer: its latest attempt and those it replaced, in order. -/
structure AttemptFile where
  attempt : Attempt
  previous : List Attempt := []
  deriving Repr, DecidableEq

end BitSov.Admission
