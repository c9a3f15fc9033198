import Mathlib.Data.FinEnum
import Mathlib.Logic.Equiv.List
import Mathlib.Tactic.DeriveCountable
import BitSov.Arithmetic.Bounded
import BitSov.Process.Program

namespace BitSov.Recover

/-!
# The sweep of recovered outputs

What recovery finds on the chain is swept by one transaction with one output
to the destination of the plan.  `RecoveryKeys.buildSweep` builds and signs
that transaction; `Sweep.validate` is the check that the owner's console and
the journal make of it before it may be used.
-/

/-- A secret key, or a hash to sign. -/
abbrev Bytes32 := Vector UInt8 32

/-- A compressed public key. -/
abbrev PublicKey := Vector UInt8 33

open Arithmetic Process List Fallible

/-- A transaction id as it is displayed. -/
abbrev Txid := String

/-- The bytes of an output script. -/
abbrev Script := List UInt8

/-- The witness items of an input. -/
abbrev Witness := List (List UInt8)

structure OutPoint where
  txid : Txid
  vout : UInt32
  deriving Repr, DecidableEq

structure TxOut where
  value : UInt64
  scriptPubkey : Script
  deriving Repr, DecidableEq

structure TxIn where
  previousOutput : OutPoint
  scriptSig : Script
  sequence : UInt32
  witness : Witness
  deriving Repr, DecidableEq

structure Transaction where
  (version lockTime : UInt32)
  input : List TxIn
  output : List TxOut
  deriving Repr, DecidableEq

namespace Transaction

variable (tx : Transaction)

/-- The outputs that a transaction spends, in order. -/
def prevouts : List OutPoint :=
  tx.input.map TxIn.previousOutput

def spends (outpoint : OutPoint) : Bool :=
  tx.input.any fun input => input.previousOutput = outpoint

theorem mem_prevouts_of_spends {tx : Transaction} {outpoint : OutPoint}
    (spends : tx.spends outpoint) : outpoint ∈ tx.prevouts := by
  obtain ⟨input, mem, same⟩ := any_eq_true.mp spends
  exact mem_map.mpr ⟨input, mem, of_decide_eq_true same⟩

def setWitness (index : Nat) (witness : Witness) : Transaction :=
  { tx with input := tx.input.modify index fun input => { input with witness } }

theorem prevouts_setWitness (index witness) :
    (tx.setWitness index witness).prevouts = tx.prevouts := by
  refine ext_getElem? fun position => ?_
  simp only [prevouts, setWitness, List.getElem?_map, List.getElem?_modify]
  cases tx.input[position]? with
  | none => rfl
  | some input => split <;> rfl

end Transaction

/-- An unspent output that a scan of the chain has found. -/
structure FoundOutput where
  outpoint : OutPoint
  txout : TxOut
  /-- Zero means unconfirmed. -/
  confirmations : UInt32
  deriving Repr, DecidableEq

structure ChainTransaction where
  transaction : Transaction
  confirmations : UInt32
  deriving Repr, DecidableEq

/-- What is asked of the Bitcoin library. -/
structure Bitcoin where
  computeTxid : Transaction → Txid
  serializeHex : Transaction → String
  deserializeHex : String → Except String Transaction
  /-- Only a transaction without inputs is not read back as written. -/
  deserialize_serialize : ∀ tx, tx.input ≠ [] → deserializeHex (serializeHex tx) = .ok tx
  scriptOf : (address network : String) → Except String Script
  isPayment : Script → Bool
  weight : Transaction → UInt64
  /-- A feerate in sat/kwu from one in sat/vB. -/
  fromSatPerVb : UInt64 → Option UInt64
  /-- The fee at a feerate in sat/kwu for a weight. -/
  feeWu : (feerate weight : UInt64) → Option UInt64
  minimalNonDust : Script → UInt64
  /-- The compressed public key of a secret key, unless it is none. -/
  publicKey : (secret : Bytes32) → Option PublicKey
  /-- What the numbered input signs with `SIGHASH_ALL` to spend an amount. -/
  p2wpkhSignatureHash : Transaction → (index : Nat) → Script → (value : UInt64) →
    Option Bytes32
  p2wshSignatureHash : Transaction → (index : Nat) → Script → (value : UInt64) →
    Option Bytes32
  /-- The signature of a hash in DER. -/
  signEcdsa : (hash secret : Bytes32) → List UInt8

instance countableString : Countable String := by
  refine Function.Injective.countable (f := fun text : String => text.toList.map Char.toNat) ?_
  intro first second same
  have injective := Function.LeftInverse.injective Char.ofNat_toNat
  exact String.toList_injective (map_injective_iff.mpr injective same)

deriving instance Countable for OutPoint, TxOut, TxIn, Transaction

theorem exists_transaction_text : ∃ text : Transaction → String, Function.Injective text := by
  obtain ⟨number, inj⟩ := exists_injective_nat Transaction
  refine ⟨fun tx => String.ofList (replicate (number tx) '0'), ?_⟩
  intro _ _ same
  have lengths := congrArg String.length same
  simp only [String.length_ofList, length_replicate] at lengths
  exact inj lengths

/-- A Bitcoin library in which everything is free and every script pays. -/
noncomputable def Bitcoin.plain : Bitcoin where
  computeTxid := exists_transaction_text.choose
  serializeHex := exists_transaction_text.choose
  deserializeHex text := (Function.partialInv exists_transaction_text.choose text).elim
    (.error "not a transaction") .ok
  deserialize_serialize tx _ := by
    rw [Function.partialInv_left exists_transaction_text.choose_spec]
    rfl
  scriptOf _ _ := .ok []
  isPayment _ := true
  weight _ := 0
  fromSatPerVb rate := some rate
  feeWu _ _ := some 0
  minimalNonDust _ := 0
  publicKey _ := some (.replicate 33 2)
  p2wpkhSignatureHash _ _ _ _ := some (.replicate 32 0)
  p2wshSignatureHash _ _ _ _ := some (.replicate 32 0)
  signEcdsa _ _ := replicate 71 48

/-- What the owner has decided before the recovery. -/
structure Plan where
  (nodeId network destination : String)
  feeRateSatVb : UInt64
  deriving Repr, DecidableEq

def Plan.address (bitcoin : Bitcoin) (plan : Plan) : Except String Script :=
  bitcoin.scriptOf plan.destination plan.network

/-- A signed transaction as it is stored, with its fee. -/
structure Sweep where
  transaction : String
  feeSats : UInt64
  deriving Repr, DecidableEq

/-- The confirmations after which a transaction is final. -/
def finalConfirmations : UInt32 :=
  6

namespace Sweep

variable (bitcoin : Bitcoin)

def tx (sweep : Sweep) : Except String Transaction :=
  bitcoin.deserializeHex sweep.transaction

/-- The id of the stored transaction. -/
def txid (sweep : Sweep) : Except String Txid := do
  return bitcoin.computeTxid (← sweep.tx bitcoin)

/-- A sweep has one output, which pays the destination of the plan. -/
def validate (sweep : Sweep) (plan : Plan) : Except String UInt64 := do
  match (← sweep.tx bitcoin).output with
  | [output] =>
    let destination ← plan.address bitcoin
    if output.scriptPubkey ≠ destination ∨ output.value = 0 then
      .error "move-home sweep must pay only the owner's destination"
    else .ok output.value
  | _ => .error "move-home sweep must pay only the owner's destination"

variable {bitcoin}

theorem validate_eq_ok_iff {sweep : Sweep} {plan : Plan} {amount : UInt64} :
    sweep.validate bitcoin plan = .ok amount ↔
      ∃ tx output, sweep.tx bitcoin = .ok tx ∧ tx.output = [output] ∧
        plan.address bitcoin = .ok output.scriptPubkey ∧
        output.value ≠ 0 ∧ amount = output.value := by
  unfold validate
  rw [bind_eq_ok_iff]
  constructor
  · rintro ⟨tx, stored, checked⟩
    split at checked
    · next output only =>
      obtain ⟨_, address, checked⟩ := bind_eq_ok_iff.mp checked
      split at checked
      · cases checked
      next accepted =>
      obtain ⟨sameScript, positive⟩ := not_or.mp accepted
      rw [not_not] at sameScript
      cases checked
      exact ⟨tx, output, stored, only, sameScript ▸ address, positive, rfl⟩
    · cases checked
  · rintro ⟨tx, output, stored, only, address, positive, rfl⟩
    refine ⟨tx, stored, ?_⟩
    rw [only]
    exact bind_eq_ok_iff.mpr ⟨output.scriptPubkey, address, if_neg (by simp [positive])⟩

end Sweep

inductive OutputKind where
  | staticRemoteKey
  | anchorToRemote
  deriving Repr, DecidableEq

/-- The sequence of an input and the length of its second witness item. -/
def OutputKind.spending : OutputKind → UInt32 × Nat
  | .staticRemoteKey => (0xfffffffd, 33)
  | .anchorToRemote => (1, 37)

/-- A derived script, with the key that can spend it. -/
structure RecoveryScript where
  keyIndex : UInt32
  kind : OutputKind
  scriptPubkey : Script
  deriving Repr, DecidableEq

inductive RecoveryError where
  | derivation
  | noOutputs
  | duplicateOutpoint
  | unknownScript
  | unconfirmedOutput
  | invalidAmount
  | invalidDestination
  | zeroFeeRate
  | feeOverflow
  | insufficientFunds
  | dustOutput
  | tooHeavy
  | signing
  deriving Repr, DecidableEq

def RecoveryError.toText : RecoveryError → String
  | .derivation => "LDK static key derivation failed"
  | .noOutputs => "no outputs to sweep"
  | .duplicateOutpoint => "duplicate outpoint"
  | .unknownScript => "output script is not a derived v2 static script"
  | .unconfirmedOutput => "output must be confirmed before recovery"
  | .invalidAmount => "invalid input amount or total exceeds MAX_MONEY"
  | .invalidDestination => "destination must be a standard payment script"
  | .zeroFeeRate => "feerate must be nonzero"
  | .feeOverflow => "fee calculation overflow"
  | .insufficientFunds => "inputs do not cover the fee"
  | .dustOutput => "sweep output would be dust"
  | .tooHeavy => "sweep exceeds standard transaction weight; split the inputs"
  | .signing => "sweep signature construction failed"

/-- The largest amount there can be, in satoshis. -/
def maxMoney : UInt64 :=
  2100000000000000

/-- The script of an anchor output, which its key can spend after one block. -/
def anchorScript (publicKey : PublicKey) : Script :=
  -- A push of 33 bytes, OP_CHECKSIGVERIFY, the number one and OP_CSV.
  0x21 :: publicKey.toList ++ [0xad, 0x51, 0xb2]

/-- The derived keys and their scripts. -/
structure RecoveryKeys where
  secrets : List Bytes32
  scripts : List RecoveryScript

/-- A signed transaction and its exact fee. -/
structure Signed where
  transaction : Transaction
  fee : UInt64
  deriving Repr, DecidableEq

/-- The inputs that have been gathered for a sweep. -/
structure Gathered where
  total : UInt64
  input : List TxIn
  descriptors : List RecoveryScript
  deriving Repr, DecidableEq

namespace RecoveryKeys

/-- The derived script of an output; a repeated script keeps its last key. -/
def descriptor (keys : RecoveryKeys) (script : Script) : Option RecoveryScript :=
  keys.scripts.reverse.find? fun derived => derived.scriptPubkey = script

/-- Check one output and make an input of it. -/
def gatherOne (keys : RecoveryKeys) (output : FoundOutput) (gathered : Gathered) :
    Except RecoveryError Gathered :=
  match keys.descriptor output.txout.scriptPubkey with
  | none => .error .unknownScript
  | some descriptor =>
    if output.confirmations = 0 then .error .unconfirmedOutput
    else if output.txout.value = 0 then .error .invalidAmount
    else
      match (checkedAdd gathered.total output.txout.value).filter (· ≤ maxMoney)
      with
      | none => .error .invalidAmount
      | some total =>
        .ok
          { total
            input := gathered.input ++
              [{ previousOutput := output.outpoint
                 scriptSig := []
                 sequence := descriptor.kind.spending.1
                 -- The largest witness that a signature can take.
                 witness := [replicate 72 0, replicate descriptor.kind.spending.2 0] }]
            descriptors := gathered.descriptors ++ [descriptor] }

/-- Check the outputs one by one; none may come twice. -/
def gather (keys : RecoveryKeys) :
    List FoundOutput → List OutPoint → Gathered → Except RecoveryError Gathered
  | [], _, gathered => .ok gathered
  | output :: later, seen, gathered =>
    if output.outpoint ∈ seen then .error .duplicateOutpoint
    else do
      let more ← keys.gatherOne output gathered
      keys.gather later (output.outpoint :: seen) more

/-- The second witness item of an input. -/
def secondItem (kind : OutputKind) (publicKey : PublicKey) : List UInt8 :=
  match kind with
  | .staticRemoteKey => publicKey.toList
  | .anchorToRemote => anchorScript publicKey

/-- The witness of the numbered input of a transaction. -/
def sign (bitcoin : Bitcoin) (keys : RecoveryKeys) (tx : Transaction) (index : Nat)
    (output : FoundOutput) (descriptor : RecoveryScript) : Except RecoveryError Witness :=
  -- The derivation gives every script a key, so the index is in range.
  match keys.secrets[descriptor.keyIndex.toNat]? with
  | none => .error .signing
  | some secret =>
    match bitcoin.publicKey secret with
    | none => .error .signing
    | some publicKey =>
      let hash :=
        match descriptor.kind with
        | .staticRemoteKey =>
          bitcoin.p2wpkhSignatureHash tx index output.txout.scriptPubkey output.txout.value
        | .anchorToRemote =>
          bitcoin.p2wshSignatureHash tx index (anchorScript publicKey) output.txout.value
      match hash with
      | none => .error .signing
      | some hash =>
        -- The byte after the signature is `SIGHASH_ALL`.
        .ok [bitcoin.signEcdsa hash secret ++ [1], secondItem descriptor.kind publicKey]

/-- Sign the inputs one by one, each in the transaction with those before it signed. -/
def signInputs (bitcoin : Bitcoin) (keys : RecoveryKeys) :
    Nat → List (FoundOutput × RecoveryScript) → Transaction → Except RecoveryError Transaction
  | _, [], tx => .ok tx
  | index, (output, descriptor) :: later, tx => do
    let witness ← keys.sign bitcoin tx index output descriptor
    if index < tx.input.length then
      keys.signInputs bitcoin (index + 1) later (tx.setWitness index witness)
    else .error .signing

/-- The unsigned transaction and its fee, at a feerate in sat/kwu. -/
def payOut (bitcoin : Bitcoin) (gathered : Gathered) (destination : Script) (feerate : UInt64) :
    Except RecoveryError Signed :=
  let tx : Transaction := ⟨2, 0, gathered.input, [⟨0, destination⟩]⟩
  if 400000 < bitcoin.weight tx then .error .tooHeavy
  else
    match bitcoin.feeWu feerate (bitcoin.weight tx) with
    | none => .error .feeOverflow
    | some fee =>
      if gathered.total ≤ fee then .error .insufficientFunds
      else if gathered.total - fee < bitcoin.minimalNonDust destination then .error .dustOutput
      else .ok ⟨{ tx with output := [⟨gathered.total - fee, destination⟩] }, fee⟩

/-- Sweep all outputs to one script, at a feerate in sat/kwu. -/
def buildSweep (bitcoin : Bitcoin) (keys : RecoveryKeys) (outputs : List FoundOutput)
    (destination : Script) (feerate : UInt64) : Except RecoveryError Signed :=
  if outputs = [] then .error .noOutputs
  else if bitcoin.isPayment destination = false then .error .invalidDestination
  else if feerate = 0 then .error .zeroFeeRate
  else do
    let gathered ← keys.gather outputs [] ⟨0, [], []⟩
    let unsigned ← payOut bitcoin gathered destination feerate
    let tx ← keys.signInputs bitcoin 0 (outputs.zip gathered.descriptors) unsigned.transaction
    return ⟨tx, unsigned.fee⟩

variable {keys : RecoveryKeys}

/-- The input that stands for an output until it is signed. -/
def placeholder : FoundOutput × RecoveryScript → TxIn
  | (output, descriptor) =>
    ⟨output.outpoint, [], descriptor.kind.spending.1,
      [replicate 72 0, replicate descriptor.kind.spending.2 0]⟩

theorem gatherOne_eq_ok (accepted : keys.gatherOne output gathered = .ok more) :
    ∃ descriptor, more.total.toNat = gathered.total.toNat + output.txout.value.toNat ∧
      more.input = gathered.input ++ [placeholder (output, descriptor)] ∧
      more.descriptors = gathered.descriptors ++ [descriptor] := by
  unfold gatherOne at accepted
  split at accepted
  · cases accepted
  next descriptor _ =>
  split at accepted
  · cases accepted
  split at accepted
  · cases accepted
  split at accepted
  · cases accepted
  next total summed =>
  cases accepted
  exact ⟨descriptor, checkedAdd_eq_some_iff.mp (Option.filter_eq_some_iff.mp summed).1, rfl, rfl⟩

/-- The outputs are distinct, their sum is exact, and each has its input. -/
theorem gather_eq_ok (nodup : seen.Nodup)
    (accepted : keys.gather outputs seen gathered = .ok result) :
    (outputs.map FoundOutput.outpoint ++ seen).Nodup ∧ result.total.toNat =
        gathered.total.toNat + (outputs.map fun output => output.txout.value.toNat).sum ∧
      ∃ pairs : List (FoundOutput × RecoveryScript), pairs.map Prod.fst = outputs ∧
        result.input = gathered.input ++ pairs.map placeholder ∧
        result.descriptors = gathered.descriptors ++ pairs.map Prod.snd := by
  induction outputs generalizing seen gathered with
  | nil =>
    cases accepted
    exact ⟨nodup, rfl, [], rfl, by simp⟩
  | cons output later ih =>
    unfold gather at accepted
    split at accepted
    · cases accepted
    next fresh =>
    obtain ⟨more, acceptedOne, acceptedLater⟩ := bind_eq_ok_iff.mp accepted
    obtain ⟨descriptor, total, input, own⟩ := gatherOne_eq_ok acceptedOne
    obtain ⟨apart, sum, pairs, rfl, inputs, descriptors⟩ :=
      ih (nodup_cons.mpr ⟨fresh, nodup⟩) acceptedLater
    refine ⟨nodup_middle.mp apart, ?_, (output, descriptor) :: pairs, rfl, ?_, ?_⟩
    · rw [sum, total, map_cons, sum_cons, Nat.add_assoc]
    · rw [inputs, input, append_assoc, singleton_append, map_cons]
    · rw [descriptors, own, append_assoc, singleton_append, map_cons]

theorem payOut_eq_ok (accepted : payOut bitcoin gathered destination feerate = .ok unsigned) :
    ∃ value, unsigned.transaction = ⟨2, 0, gathered.input, [⟨value, destination⟩]⟩ ∧
      value.toNat + unsigned.fee.toNat = gathered.total.toNat ∧
      ¬ value < bitcoin.minimalNonDust destination ∧
      bitcoin.feeWu feerate (bitcoin.weight ⟨2, 0, gathered.input, [⟨0, destination⟩]⟩) =
        some unsigned.fee := by
  unfold payOut at accepted
  dsimp only at accepted
  split at accepted
  · cases accepted
  split at accepted
  · cases accepted
  next fee priced =>
  split at accepted
  · cases accepted
  next covered =>
  split at accepted
  · cases accepted
  next clean =>
  cases accepted
  refine ⟨_, rfl, ?_, clean, priced⟩
  have fits := UInt64.le_of_lt (UInt64.not_le.mp covered)
  rw [UInt64.toNat_sub_of_le _ _ fits, Nat.sub_add_cancel (UInt64.le_iff_toNat_le.mp fits)]

theorem signInputs_kept {index : Nat} {pairs : List (FoundOutput × RecoveryScript)}
    {tx signed : Transaction} (accepted : keys.signInputs bitcoin index pairs tx = .ok signed) :
    signed.prevouts = tx.prevouts ∧ signed.output = tx.output := by
  induction pairs generalizing index tx with
  | nil =>
    cases accepted
    exact ⟨rfl, rfl⟩
  | cons pair later ih =>
    obtain ⟨witness, -, accepted⟩ := bind_eq_ok_iff.mp accepted
    split at accepted
    · exact (ih accepted).imp_left (·.trans (tx.prevouts_setWitness index witness))
    · cases accepted

theorem buildSweep_eq_ok
    (built : keys.buildSweep bitcoin outputs destination feerate = .ok signed) :
    outputs ≠ [] ∧ ∃ gathered unsigned, keys.gather outputs [] ⟨0, [], []⟩ = .ok gathered ∧
      payOut bitcoin gathered destination feerate = .ok unsigned ∧
      keys.signInputs bitcoin 0 (outputs.zip gathered.descriptors) unsigned.transaction =
        .ok signed.transaction ∧ signed.fee = unsigned.fee := by
  unfold buildSweep at built
  split at built
  · cases built
  next nonempty =>
  split at built
  · cases built
  split at built
  · cases built
  obtain ⟨gathered, gatheredAll, built⟩ := bind_eq_ok_iff.mp built
  obtain ⟨unsigned, paidOut, built⟩ := bind_eq_ok_iff.mp built
  obtain ⟨tx, signedAll, built⟩ := bind_eq_ok_iff.mp built
  cases built
  exact ⟨nonempty, gathered, unsigned, gatheredAll, paidOut, signedAll, rfl⟩

theorem buildSweep_prevouts
    (built : keys.buildSweep bitcoin outputs destination feerate = .ok signed) :
    outputs ≠ [] ∧ signed.transaction.prevouts = outputs.map FoundOutput.outpoint := by
  obtain ⟨nonempty, _, _, gatheredAll, paidOut, signedAll, -⟩ := buildSweep_eq_ok built
  obtain ⟨-, -, _, rfl, inputs, -⟩ := gather_eq_ok nodup_nil gatheredAll
  obtain ⟨_, paid, -⟩ := payOut_eq_ok paidOut
  refine ⟨nonempty, ?_⟩
  rw [(signInputs_kept signedAll).1, paid, Transaction.prevouts, inputs, nil_append, map_map,
    map_map]
  rfl

/-- The weight does not grow with a witness whose items are no longer, nor
with an amount, and a fee in sat/kwu is rounded up. -/
structure Weighs (bitcoin : Bitcoin) : Prop where
  weight_setWitness : ∀ (tx : Transaction) index input witness, tx.input[index]? = some input →
    Forall₂ (fun item old => item.length ≤ old.length) witness input.witness →
      bitcoin.weight (tx.setWitness index witness) ≤ bitcoin.weight tx
  weight_value : ∀ version lockTime input value destination,
    bitcoin.weight ⟨version, lockTime, input, [⟨value, destination⟩]⟩ =
      bitcoin.weight ⟨version, lockTime, input, [⟨0, destination⟩]⟩
  le_feeWu : ∀ feerate tx fee, bitcoin.feeWu feerate (bitcoin.weight tx) = some fee →
    feerate.toNat * (bitcoin.weight tx).toNat ≤ fee.toNat * 1000

/-- A signature with a low S has at most 71 bytes. -/
def SignsLowS (bitcoin : Bitcoin) : Prop :=
  ∀ hash secret, (bitcoin.signEcdsa hash secret).length ≤ 71

theorem length_secondItem (kind : OutputKind) (publicKey : PublicKey) :
    (secondItem kind publicKey).length = kind.spending.2 := by
  cases kind with
  | staticRemoteKey => exact publicKey.length_toList
  | anchorToRemote => simp [secondItem, anchorScript, OutputKind.spending]

/-- A witness is no longer than the one that has stood for it. -/
theorem sign_eq_ok {descriptor : RecoveryScript} (lowS : SignsLowS bitcoin)
    (accepted : keys.sign bitcoin tx index output descriptor = .ok witness) :
    Forall₂ (fun item old => item.length ≤ old.length) witness
      (placeholder (output, descriptor)).witness := by
  unfold sign at accepted
  split at accepted
  · cases accepted
  next secret _ =>
  split at accepted
  · cases accepted
  next publicKey _ =>
  dsimp only at accepted
  split at accepted
  · cases accepted
  next hash _ =>
  cases accepted
  refine .cons ?_ (.cons ?_ .nil)
  · rw [length_append, length_replicate]
    exact Nat.add_le_add_right (lowS hash secret) 1
  · rw [length_secondItem, length_replicate]

theorem signInputs_weight (weighs : Weighs bitcoin) (lowS : SignsLowS bitcoin)
    {pairs : List (FoundOutput × RecoveryScript)} {tx : Transaction}
    (accepted : keys.signInputs bitcoin index pairs tx = .ok signed)
    (unsigned : tx.input.drop index = pairs.map placeholder) :
    bitcoin.weight signed ≤ bitcoin.weight tx := by
  induction pairs generalizing index tx with
  | nil =>
    cases accepted
    exact UInt64.le_refl _
  | cons pair later ih =>
    obtain ⟨witness, signedOne, accepted⟩ := bind_eq_ok_iff.mp accepted
    split at accepted
    · have own : tx.input[index]? = some (placeholder pair) := by
        rw [← head?_drop, unsigned, map_cons, head?_cons]
      have rest : (tx.setWitness index witness).input.drop (index + 1) = later.map placeholder := by
        rw [Transaction.setWitness, drop_modify_of_lt _ _ _ _ (Nat.lt_succ_self index), ← tail_drop,
          unsigned, map_cons, tail_cons]
      exact UInt64.le_trans (ih accepted rest)
        (weighs.weight_setWitness _ _ _ _ own (sign_eq_ok lowS signedOne))
    · cases accepted

/-- A sweep spends the outputs once each, in order, pays what they hold but
for the fee, and its fee covers the signed transaction. -/
theorem buildSweep_pays {bitcoin : Bitcoin} {outputs : List FoundOutput} {destination : Script}
    {feerate : UInt64} {signed : Signed} (weighs : Weighs bitcoin) (lowS : SignsLowS bitcoin)
    (built : keys.buildSweep bitcoin outputs destination feerate = .ok signed) :
    signed.transaction.prevouts = outputs.map FoundOutput.outpoint ∧
      (outputs.map FoundOutput.outpoint).Nodup ∧
      ∃ value, signed.transaction.output = [⟨value, destination⟩] ∧ value.toNat + signed.fee.toNat =
          (outputs.map fun output => output.txout.value.toNat).sum ∧
        ¬ value < bitcoin.minimalNonDust destination ∧
        feerate.toNat * (bitcoin.weight signed.transaction).toNat ≤ signed.fee.toNat * 1000 := by
  obtain ⟨-, gathered, _, gatheredAll, paidOut, signedAll, fee⟩ := buildSweep_eq_ok built
  obtain ⟨nodup, total, _, own, inputs, descriptors⟩ := gather_eq_ok nodup_nil gatheredAll
  obtain ⟨value, paid, sum, clean, priced⟩ := payOut_eq_ok paidOut
  rw [append_nil] at nodup
  rw [nil_append] at inputs descriptors
  rw [descriptors, ← zip_of_prod own rfl, paid] at signedAll
  refine ⟨(buildSweep_prevouts built).2, nodup, value, (signInputs_kept signedAll).2, ?_, clean, ?_⟩
  · rw [fee, sum, total]
    exact Nat.zero_add _
  · have light := signInputs_weight weighs lowS signedAll inputs
    rw [weighs.weight_value] at light
    calc feerate.toNat * (bitcoin.weight signed.transaction).toNat
      _ ≤ feerate.toNat * (bitcoin.weight ⟨2, 0, gathered.input, [⟨0, destination⟩]⟩).toNat :=
        Nat.mul_le_mul_left _ (UInt64.le_iff_toNat_le.mp light)
      _ ≤ signed.fee.toNat * 1000 := fee ▸ weighs.le_feeWu _ _ _ priced

/-- The bytes of a witness, with one for its count and one for the length of each item. -/
def sizeOfWitness (witness : Witness) : Nat :=
  1 + (witness.map fun item => 1 + item.length).sum

/-- The weight of a transaction whose inputs have no script, as a number. -/
def sizeOf (tx : Transaction) : Nat :=
  40 + 164 * tx.input.length + 2 +
    (tx.input.map fun input => sizeOfWitness input.witness).sum +
    (tx.output.map fun output => 4 * (9 + output.scriptPubkey.length)).sum

/-- A Bitcoin library with these weights, and outputs of at least 294 satoshis. -/
noncomputable def sizedBitcoin : Bitcoin where
  __ := Bitcoin.plain
  weight tx := .ofNat (min (sizeOf tx) (2 ^ 64 - 1))
  feeWu feerate weight :=
    let fee := (feerate.toNat * weight.toNat + 999) / 1000
    if fee < 2 ^ 64 then some (.ofNat fee) else none
  minimalNonDust _ := 294

theorem sizeOfWitness_le {witness old : Witness}
    (shorter : Forall₂ (fun item old => item.length ≤ old.length) witness old) :
    sizeOfWitness witness ≤ sizeOfWitness old := by
  unfold sizeOfWitness
  induction shorter with
  | nil => exact Nat.le_refl _
  | cons _ _ ih =>
    simp only [map_cons, sum_cons]
    omega

theorem sum_sizes_le {witness : Witness} {input : List TxIn} {index : Nat}
    (smaller : ∀ old, input[index]? = some old →
      sizeOfWitness witness ≤ sizeOfWitness old.witness) :
    ((input.modify index fun input => { input with witness }).map fun input =>
        sizeOfWitness input.witness).sum ≤
      (input.map fun input => sizeOfWitness input.witness).sum := by
  induction input generalizing index with
  | nil => rw [modify_nil]
  | cons head rest ih =>
    cases index with
    | zero =>
      rw [modify_zero_cons, map_cons, map_cons, sum_cons, sum_cons]
      exact Nat.add_le_add_right (smaller head rfl) _
    | succ index =>
      rw [modify_succ_cons, map_cons, map_cons, sum_cons, sum_cons]
      exact Nat.add_le_add_left (ih smaller) _

theorem weighs_sizedBitcoin : Weighs sizedBitcoin where
  weight_setWitness tx index input witness found shorter := by
    have smaller : sizeOf (tx.setWitness index witness) ≤ sizeOf tx := by
      have sizes := @sum_sizes_le witness tx.input index fun old isHere => by
        obtain rfl := Option.some.inj (found.symm.trans isHere)
        exact sizeOfWitness_le shorter
      simp only [sizeOf, Transaction.setWitness, length_modify]
      omega
    rw [UInt64.le_iff_toNat_le]
    simp only [sizedBitcoin, UInt64.toNat_ofNat']
    omega
  weight_value _ _ _ _ _ := rfl
  le_feeWu feerate tx fee priced := by
    simp only [sizedBitcoin, Option.ite_none_right_eq_some, Option.some.injEq] at priced
    obtain ⟨fits, rfl⟩ := priced
    rw [UInt64.toNat_ofNat_of_lt' fits]
    change feerate.toNat * (UInt64.ofNat (min (sizeOf tx) (2 ^ 64 - 1))).toNat ≤ _
    omega

/-- One key with both of its scripts. -/
def oneKey : RecoveryKeys where
  secrets := [.replicate 32 1]
  scripts := [⟨0, .staticRemoteKey, [0]⟩, ⟨0, .anchorToRemote, [1]⟩]

/-- An output of each kind. -/
def bothKinds : List FoundOutput :=
  [⟨⟨"a", 0⟩, ⟨5000, [1]⟩, 1⟩, ⟨⟨"b", 1⟩, ⟨7000, [0]⟩, 3⟩]

/-- The transaction weighs 714 units, which at 2500 sat/kwu cost 1785. -/
theorem buildSweep_pays_bothKinds : ∃ signed,
    oneKey.buildSweep sizedBitcoin bothKinds (replicate 22 0) 2500 = .ok signed ∧
      signed.transaction.prevouts = [⟨"a", 0⟩, ⟨"b", 1⟩] ∧ signed.fee = 1785 ∧
      2500 * (sizedBitcoin.weight signed.transaction).toNat ≤ signed.fee.toNat * 1000 := by
  obtain ⟨signed, built, paid⟩ : ∃ signed,
    oneKey.buildSweep sizedBitcoin bothKinds (replicate 22 0) 2500 = .ok signed ∧
      signed.fee = 1785 :=
    ⟨_, rfl, rfl⟩
  have pays := buildSweep_pays weighs_sizedBitcoin (fun _ _ => length_replicate.le) built
  obtain ⟨prevouts, -, _, -, -, -, covered⟩ := pays
  exact ⟨signed, built, prevouts, paid, covered⟩

end RecoveryKeys

end BitSov.Recover
