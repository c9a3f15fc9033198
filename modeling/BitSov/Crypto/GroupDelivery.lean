import BitSov.Crypto.GroupMessages

namespace BitSov.Crypto

open Core Ratchet List

/-!
# Delivery of group messages

A receiver starts the chain of a distribution at number zero.  If the sender
has not used that chain before, the two agree on every number, and messages
decrypt in any order whose gaps the receiver accepts.
-/

variable {Key Cipher Signing Verifying Signature : Type}
  {prims : GroupPrimitives Key Cipher Signing Verifying Signature}

namespace SenderKeyState

variable (prims) in
/-- The state after some messages, as long as their counter fits. -/
def sent (state : SenderKeyState Key Signing) (count : Nat) : SenderKeyState Key Signing :=
  { state with
    chainKey := prims.kdf.chainAt state.chainKey count
    messageCount := state.messageCount + count }

theorem getElem?_encryptAll (state : SenderKeyState Key Signing) (plaintexts)
    (fits : state.messageCount + index < 2 ^ 32) :
    (state.encryptAll prims groupId sender plaintexts)[index]? = plaintexts[index]?.map fun plain =>
        ((state.sent prims index).encrypt prims groupId sender plain).1 := by
  induction plaintexts generalizing state index with
  | nil => rfl
  | cons plain _ ih =>
    cases index with
    | zero => rfl
    | succ index =>
      have next : (state.encrypt prims groupId sender plain).2 = state.sent prims 1 := by
        have counted : wrap32 (state.messageCount + 1) = state.messageCount + 1 :=
          wrap32_of_lt (by omega)
        unfold encrypt sent
        dsimp only
        split <;> rw [counted] <;> rfl
      have sentLater : (state.sent prims 1).sent prims index = state.sent prims (index + 1) := by
        unfold sent
        dsimp only
        congr 1
        omega
      rw [encryptAll, List.getElem?_cons_succ, next, ih (state.sent prims 1)
        (by change state.messageCount + 1 + index < _; omega),
        sentLater, List.getElem?_cons_succ]

theorem length_encryptAll (state : SenderKeyState Key Signing) (plaintexts) :
    (state.encryptAll prims groupId sender plaintexts).length = plaintexts.length := by
  induction plaintexts generalizing state with
  | nil => rfl
  | cons _ _ ih => rw [encryptAll, length_cons, ih, length_cons]

theorem encrypt_eq_ok {state : SenderKeyState Key Signing} {plain : Bytes}
    {message : GroupCiphertext Cipher Signature}
    (encrypted : (state.encrypt prims groupId sender plain).1 = .ok message) :
    prims.aeadEncrypt (prims.kdf.message state.chainKey) plain
      ⟨groupId, sender, state.generation, state.messageCount⟩ = .ok message.ciphertext ∧
      message.generation = state.generation ∧ message.messageNumber = state.messageCount ∧
      message.signature = prims.sign state.signingKey
        ⟨state.generation, state.messageCount, message.ciphertext⟩ := by
  unfold encrypt at encrypted
  dsimp only at encrypted
  split at encrypted
  · cases encrypted
  next _ sealing =>
  cases encrypted
  exact ⟨sealing, rfl, rfl, rfl⟩

end SenderKeyState

namespace ReceiverSenderKey

/-- The message was made with the key of its number on a chain. -/
structure MadeFor (prims : GroupPrimitives Key Cipher Signing Verifying Signature) (seed : Key)
    (verifyingKey : Verifying) (groupId : Bytes) (sender : NodeId)
    (message : GroupCiphertext Cipher Signature) (plaintext : Bytes) : Prop where
  opens : prims.aeadDecrypt
    (prims.kdf.keyAt seed message.messageNumber)
    message.ciphertext
    ⟨groupId, sender, message.generation, message.messageNumber⟩ =
    .ok plaintext
  verifies : prims.verify verifyingKey
    ⟨message.generation, message.messageNumber, message.ciphertext⟩
    message.signature =
    .ok ()

theorem exists_decrypt {entry : ReceiverSenderKey Key Verifying} {seed : Key} {groupId : Bytes}
    {sender : NodeId} {message : GroupCiphertext Cipher Signature} {plain : Bytes}
    (on : Window.On prims.kdf seed entry.window)
    (made : MadeFor prims seed entry.signingKey groupId sender message plain)
    (sameGen : message.generation = entry.generation)
    (unread : entry.window.Unread message.messageNumber)
    (gap : message.messageNumber ≤ entry.chainIndex + senderMaxSkip) :
    ∃ changed, entry.decrypt prims groupId sender message = .ok (plain, changed) := by
  unfold decrypt
  rw [if_neg (not_not.mpr sameGen), made.verifies]
  cases found : entry.skippedKeys.lookup message.messageNumber with
  | some =>
    obtain ⟨-, rfl⟩ := on.stored _ _ found
    dsimp only
    rw [made.opens]
    exact ⟨_, rfl⟩
  | none =>
    have ahead : entry.chainIndex ≤ message.messageNumber := by
      rcases unread with ahead | mem
      · exact ahead
      · exact absurd mem (AList.lookup_eq_none.mp found)
    have stagedKey : prims.kdf.message (prims.kdf.skip (message.messageNumber - entry.chainIndex)
      entry.chainIndex entry.chainKey).2 =
      prims.kdf.keyAt seed message.messageNumber := by
      rw [show entry.chainKey = _ from on.chain]
      change prims.kdf.message (prims.kdf.skip _ _ (prims.kdf.chainAt seed entry.chainIndex)).2 = _
      rw [ChainKdf.skip_chain, Nat.add_sub_cancel' ahead]
      rfl
    dsimp only
    rw [if_neg (Nat.not_lt.mpr ahead), if_neg (by omega), stagedKey, made.opens]
    exact ⟨_, rfl⟩

end ReceiverSenderKey

namespace GroupSession

section

variable {state : SenderKeyState Key Signing} {sender : NodeId}

/-- Receive messages of one sender one after the other. -/
def decryptAll (prims : GroupPrimitives Key Cipher Signing Verifying Signature) (sender : NodeId) :
    GroupSession Key Signing Verifying →
      List (GroupCiphertext Cipher Signature) → List (Except SenderKeyError Bytes)
  | _, [] => []
  | session, message :: later =>
    match session.decrypt prims sender message with
    | .error error => .error error :: decryptAll prims sender session later
    | .ok (plaintext, changed) => .ok plaintext :: decryptAll prims sender changed later

/-- No message is further ahead of those before it than is accepted. -/
def GapsWithin : Nat → List Nat → Prop
  | _, [] => True
  | position, number :: later =>
    number ≤ position + senderMaxSkip ∧ GapsWithin (max position (number + 1)) later

/-- The receiver holds the chain of a sender. -/
structure Follows (prims : GroupPrimitives Key Cipher Signing Verifying Signature)
    (state : SenderKeyState Key Signing) (sender : NodeId)
    (session : GroupSession Key Signing Verifying) (entry : ReceiverSenderKey Key Verifying) :
    Prop where
  found : session.memberKeys.lookup sender = some entry
  generation : entry.generation = state.generation
  signingKey : entry.signingKey = prims.verifyingKey state.signingKey
  on : Window.On prims.kdf state.chainKey entry.window

/-- Messages that were made on the chain decrypt in any accepted order. -/
theorem decryptAll_of_follows
    {session : GroupSession Key Signing Verifying} {entry : ReceiverSenderKey Key Verifying}
    (deliveries : List (GroupCiphertext Cipher Signature × Bytes))
    (follows : Follows prims state sender session entry)
    (made : ∀ delivery ∈ deliveries, delivery.1.generation = state.generation ∧
      delivery.1.messageNumber + 1 < 2 ^ 32 ∧ ReceiverSenderKey.MadeFor prims state.chainKey
        (prims.verifyingKey state.signingKey) session.groupId sender delivery.1 delivery.2)
    (unread : ∀ delivery ∈ deliveries, entry.window.Unread delivery.1.messageNumber)
    (once : (deliveries.map fun delivery => delivery.1.messageNumber).Nodup)
    (gaps : GapsWithin entry.chainIndex (deliveries.map fun delivery => delivery.1.messageNumber)) :
    session.decryptAll prims sender (deliveries.map Prod.fst) =
      deliveries.map fun delivery => .ok delivery.2 := by
  induction deliveries generalizing session entry with
  | nil => rfl
  | cons delivery later ih =>
    obtain ⟨sameGen, fits, madeFor⟩ := made delivery (by simp)
    obtain ⟨absent, onceLater⟩ := nodup_cons.mp once
    obtain ⟨gap, gapsLater⟩ := gaps
    obtain ⟨changed, decrypted⟩ := ReceiverSenderKey.exists_decrypt follows.on
      (follows.signingKey ▸ madeFor)
      (sameGen.trans follows.generation.symm)
      (unread delivery (by simp)) gap
    have reads := ReceiverSenderKey.reads_of_decrypt decrypted
    have opens := reads.opens fits
    have followsLater : Follows prims state sender
      { session with memberKeys := session.memberKeys.insert sender changed }
      changed :=
      { found := AList.lookup_insert _
        generation := reads.sameGeneration.trans follows.generation
        signingKey := reads.sameSigningKey.trans follows.signingKey
        on := opens.on follows.on }
    have unreadLater : ∀ other ∈ later, changed.window.Unread other.1.messageNumber := by
      intro other mem
      have unreadBefore := unread other (mem_cons_of_mem _ mem)
      refine (opens.unread_iff follows.on).mpr ⟨unreadBefore, ?_⟩
      intro same
      exact absent (mem_map.mpr ⟨other, mem, same⟩)
    have position : changed.chainIndex = max entry.chainIndex (delivery.1.messageNumber + 1) :=
      opens.position follows.on
    rw [map_cons, decryptAll, decrypt, follows.found]
    dsimp only
    rw [decrypted]
    dsimp only
    rw [map_cons, ih followsLater (fun other mem => made other (mem_cons_of_mem _ mem))
      unreadLater onceLater (position ▸ gapsLater)]

variable {groupId : Bytes}

theorem follows_of_processDistribution
    {session joined : GroupSession Key Signing Verifying} (correct : prims.Correct)
    (notNewer : ∀ entry,
      session.memberKeys.lookup sender = some entry → entry.generation ≤ state.generation)
    (processed : session.processDistribution prims (state.distribution prims groupId sender) =
      .ok joined) : joined.groupId = groupId ∧ Follows prims state sender joined
      ⟨state.chainKey, 0, prims.verifyingKey state.signingKey, state.generation, ∅⟩ := by
  unfold processDistribution at processed
  split at processed
  · cases processed
  next sameGroup =>
  rw [not_not] at sameGroup
  rw [show (state.distribution prims groupId sender).signingKey =
    prims.toBytes (prims.verifyingKey state.signingKey)
    from rfl, correct.reads] at processed
  cases processed
  refine ⟨sameGroup.symm, ⟨?_, rfl, rfl, Window.on_fresh _⟩⟩
  refine (AList.lookup_insert _).trans (congrArg some ?_)
  refine if_pos ?_
  change ((session.memberKeys.lookup sender).getD _).generation ≤ state.generation
  cases found : session.memberKeys.lookup sender with
  | none => exact Nat.zero_le _
  | some entry => exact notNewer entry found

theorem madeFor_of_encryptAll (correct : prims.Correct) {plaintexts : List Bytes} {index : Nat}
    {message : GroupCiphertext Cipher Signature} (unused : state.messageCount = 0)
    (fits : index < 2 ^ 32)
    (sentBefore : (state.encryptAll prims groupId sender plaintexts)[index]? = some (.ok message)) :
    ∃ plaintext, plaintexts[index]? = some plaintext ∧ message.generation = state.generation ∧
      message.messageNumber = index ∧ ReceiverSenderKey.MadeFor prims state.chainKey
        (prims.verifyingKey state.signingKey) groupId sender message plaintext := by
  rw [SenderKeyState.getElem?_encryptAll state plaintexts (by omega),
    Option.map_eq_some_iff] at sentBefore
  obtain ⟨plaintext, found, encrypted⟩ := sentBefore
  obtain ⟨sealing, sameGen, sameNumber, signed⟩ := SenderKeyState.encrypt_eq_ok encrypted
  have numbered : message.messageNumber = index := by
    rw [sameNumber]
    change state.messageCount + index = index
    omega
  refine ⟨plaintext, found, sameGen, numbered, ?_, ?_⟩
  · refine correct.opens _ _ _ _ ?_
    rw [sameGen, numbered]
    rw [← sameNumber, numbered] at sealing
    exact sealing
  · rw [signed, sameGen, sameNumber]
    exact correct.verifies _ _

/--
A receiver that processes a distribution made before the first message of its
generation decrypts the messages of that generation, in any order without
repetition whose gaps are accepted.
-/
theorem group_messages_arrive (correct : prims.Correct) {state : SenderKeyState Key Signing}
    {groupId : Bytes} {sender : NodeId} {session joined : GroupSession Key Signing Verifying}
    (unused : state.messageCount = 0) (notNewer : ∀ entry,
      session.memberKeys.lookup sender = some entry → entry.generation ≤ state.generation)
    (processed : session.processDistribution prims (state.distribution prims groupId sender) =
      .ok joined) (plaintexts : List Bytes) (fits : plaintexts.length < 2 ^ 32)
    (deliveries : List (Nat × GroupCiphertext Cipher Signature))
    (sentBefore : ∀ delivery ∈ deliveries, (state.encryptAll prims groupId sender
      plaintexts)[delivery.1]? = some (.ok delivery.2)) (once : (deliveries.map Prod.fst).Nodup)
    (gaps : GapsWithin 0 (deliveries.map Prod.fst)) :
    (joined.decryptAll prims sender (deliveries.map Prod.snd)).map Except.toOption =
      deliveries.map fun delivery => plaintexts[delivery.1]? := by
  obtain ⟨sameGroup, follows⟩ := follows_of_processDistribution correct notNewer processed
  have madeFor : ∀ delivery ∈ deliveries, delivery.1 + 1 < 2 ^ 32 ∧
    ∃ plaintext, plaintexts[delivery.1]? = some plaintext ∧
      delivery.2.generation = state.generation ∧
      delivery.2.messageNumber = delivery.1 ∧
      ReceiverSenderKey.MadeFor prims state.chainKey
        (prims.verifyingKey state.signingKey) groupId sender
        delivery.2 plaintext := by
    intro delivery member
    have sent := sentBefore delivery member
    have inRange := (List.getElem?_eq_some_iff.mp sent).1
    rw [SenderKeyState.length_encryptAll] at inRange
    exact ⟨by omega, madeFor_of_encryptAll correct unused (by omega) sent⟩
  -- The plaintext of every delivered message, to be used as a function.
  let plaintextOf : Nat × GroupCiphertext Cipher Signature → Bytes :=
    fun delivery => plaintexts[delivery.1]?.getD []
  have numbers : (deliveries.map fun delivery => (delivery.2, plaintextOf delivery)).map
    (fun delivery => delivery.1.messageNumber) =
    deliveries.map Prod.fst := by
    rw [map_map]
    refine map_congr_left fun delivery member => ?_
    obtain ⟨-, plaintext, -, -, numbered, -⟩ := madeFor delivery member
    exact numbered
  have arrived := decryptAll_of_follows
    (deliveries.map fun delivery => (delivery.2, plaintextOf delivery))
    follows
    (by
      intro _ member
      obtain ⟨delivery, original, rfl⟩ := mem_map.mp member
      obtain ⟨inRange, plaintext, found, sameGeneration, numbered, made⟩ :=
        madeFor delivery original
      refine ⟨sameGeneration, numbered ▸ inRange, ?_⟩
      rw [sameGroup]
      simpa only [plaintextOf, found, Option.getD_some] using made)
    (fun _ _ => .inl (Nat.zero_le _))
    (numbers ▸ once) (numbers ▸ gaps)
  have delivered : joined.decryptAll prims sender (deliveries.map Prod.snd) =
    deliveries.map fun delivery => .ok (plaintextOf delivery) := by
    rw [map_map, map_map] at arrived
    exact arrived
  rw [delivered, map_map]
  refine map_congr_left fun delivery member => ?_
  obtain ⟨-, plaintext, found, -⟩ := madeFor delivery member
  simp [plaintextOf, found, Except.toOption]

end

open GroupExample (fresh joined message sender senderKey)

/-- The second message of a chain arrives before the first. -/
theorem group_messages_arrive_swapped : (joined.decryptAll symbolic sender
      [message 1, message 0]).map Except.toOption = [some [42], some [42]] := by
  have unused : senderKey.messageCount = 0 := rfl
  have notNewer : ∀ entry, fresh.memberKeys.lookup sender = some entry →
    entry.generation ≤ senderKey.generation :=
    nofun
  have processed : fresh.processDistribution symbolic
      (senderKey.distribution symbolic GroupExample.groupId sender) = .ok joined :=
    rfl
  refine group_messages_arrive symbolic_ideal.toCorrect unused notNewer processed
    [[42], [42]] (by decide) [(1, message 1), (0, message 0)]
    ?sent (by decide) ⟨by decide, by decide, trivial⟩
  case sent =>
    intro _ member
    simp only [mem_cons, not_mem_nil, or_false] at member
    rcases member with rfl | rfl <;> rfl

/--
A distribution that is made after the first message: the receiver refuses the
second message, which is the first one it could read.
-/
theorem group_message_lost_after_late_distribution : ∃ message used joined error,
      senderKey.encrypt symbolic GroupExample.groupId sender [42] =
        (.ok (GroupExample.message 0), used) ∧
      fresh.processDistribution symbolic (used.distribution symbolic GroupExample.groupId sender) =
        .ok joined ∧
      (used.encrypt symbolic GroupExample.groupId sender [43]).1 = .ok message ∧
      joined.decrypt symbolic sender message = .error error := ⟨_, _, _, _, rfl, rfl, rfl, rfl⟩

end GroupSession

end BitSov.Crypto
