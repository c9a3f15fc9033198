import BitSov.Crypto.RatchetStore

namespace BitSov.Crypto

open Process Ratchet List Stamped InPlace

/-!
# Restored double ratchets

A session that is exported and restored stores the same keys under new
numbers.  Nothing that is done with it later tells it from the session that
it was exported from: two sessions with the same exported state give the same
answers, and still have the same exported state afterwards.
-/

variable {Secret Public Key Cipher : Type}

/-- A call on a session, with what it draws. -/
inductive RatchetCall (Secret Public Cipher : Type) where
  | encrypt (plaintext : Bytes)
  | decrypt (fresh : Secret) (message : RatchetMessage Public Cipher)

/-- What a call on a session returns. -/
abbrev RatchetAnswer (Public Cipher : Type) :=
  Except RatchetError (RatchetMessage Public Cipher ⊕ Bytes)

namespace DoubleRatchet

variable [DecidableEq Public] (prims : RatchetPrimitives Secret Public Key Cipher)

/-- One call: its answer and the session after it. -/
def perform (ratchet : DoubleRatchet Secret Public Key) :
    RatchetCall Secret Public Cipher → RatchetAnswer Public Cipher × DoubleRatchet Secret Public Key
  | .encrypt plaintext =>
    let (answer, next) := landed ratchet (ratchet.encrypt prims plaintext)
    (answer.map .inl, next)
  | .decrypt fresh message =>
    let (answer, next) := landed ratchet (ratchet.decrypt prims fresh message)
    (answer.map .inr, next)

/-- A sequence of calls: all answers and the session in the end. -/
def performAll (ratchet : DoubleRatchet Secret Public Key) :
    List (RatchetCall Secret Public Cipher) →
      List (RatchetAnswer Public Cipher) × DoubleRatchet Secret Public Key
  | [] => ([], ratchet)
  | call :: later =>
    let (answer, next) := ratchet.perform prims call
    let (answers, last) := next.performAll later
    (answer :: answers, last)

/-- The same session with other numbers for its stored keys. -/
def renumber (ratchet : DoubleRatchet Secret Public Key) (keys : SkippedKeys Public Key)
    (seq : Nat) : DoubleRatchet Secret Public Key :=
  { ratchet with skippedKeys := keys, skippedKeySeq := seq }

variable {prims} {ratchet next : DoubleRatchet Secret Public Key} {keys : SkippedKeys Public Key}
  {seq : Nat}

/-- These keys are stored in the same order as those of the session. -/
structure Alike (ratchet : DoubleRatchet Secret Public Key) (keys : SkippedKeys Public Key)
    (seq : Nat) : Prop where
  sound : ratchet.StoreSound
  renumbered : (ratchet.renumber keys seq).StoreSound
  order : ratchet.skippedKeys.inOrder = keys.inOrder

theorem alike_restored (sound : ratchet.StoreSound) :
    ∃ keys seq, fromState ratchet.exportState = ratchet.renumber keys seq ∧
      Alike ratchet keys seq := by
  refine ⟨_, _, fromState_exportState ratchet, sound, ?_, (inOrder_insertAll_inOrder _).symm⟩
  rw [renumber, ← fromState_exportState]
  exact sound.restore

omit [DecidableEq Public] in
theorem Alike.exportState_eq (alike : Alike ratchet keys seq) :
    (ratchet.renumber keys seq).exportState = ratchet.exportState := by
  rw [exportState, exportState, alike.order]
  rfl

omit [DecidableEq Public] in
theorem encrypt_renumber (plaintext : Bytes) :
    (ratchet.renumber keys seq).encrypt prims plaintext =
      (ratchet.encrypt prims plaintext).map fun (message, next) =>
        (message, next.renumber keys seq) := by
  unfold encrypt
  cases isChain : ratchet.sendingChain with
  | none => simp [renumber, isChain, Except.map]
  | some chain =>
    simp only [renumber, isChain, aeadAd]
    split <;> rfl

omit [DecidableEq Public] in
theorem Alike.encrypt {message : RatchetMessage Public Cipher} {plaintext : Bytes}
    (alike : Alike ratchet keys seq)
    (encrypted : ratchet.encrypt prims plaintext = .ok (message, next)) : Alike next keys seq := by
  obtain ⟨_, -, -, -, rfl⟩ := encrypt_eq_ok encrypted
  exact ⟨⟨alike.sound.bounded, alike.sound.stamped⟩,
    ⟨alike.renumbered.bounded, alike.renumbered.stamped⟩, alike.order⟩

theorem Alike.erase (alike : Alike ratchet keys seq) (id : Public × Nat) :
    Alike { ratchet with skippedKeys := ratchet.skippedKeys.erase id } (keys.erase id) seq where
  sound := alike.sound.erase id
  renumbered := alike.renumbered.erase id
  order := by
    rw [alike.sound.stamped.inOrder_erase id, alike.order]
    exact (alike.renumbered.stamped.inOrder_erase id).symm

/-- What a message stores and evicts is the same. -/
theorem Alike.commitReceive (alike : Alike ratchet keys seq)
    (pending : PendingReceive Secret Public Key) :
    ∃ keys' seq', (ratchet.renumber keys seq).commitReceive pending =
        (ratchet.commitReceive pending).renumber keys' seq' ∧
      Alike (ratchet.commitReceive pending) keys' seq' := by
  have equal : (ratchet.renumber keys seq).commitReceive pending =
      (ratchet.commitReceive pending).renumber
        ((ratchet.renumber keys seq).commitReceive pending).skippedKeys
        (seq + pending.skipped.length) := by
    cases step : pending.dhStep <;>
      simp only [DoubleRatchet.commitReceive, renumber, step, applyDhStep]
  refine ⟨_, _, equal, alike.sound.commitReceive pending, ?_, ?_⟩
  · rw [← equal]
    exact alike.renumbered.commitReceive pending
  · have inserted := alike.sound.stamped.inOrder_insertAll_congr alike.order
      alike.renumbered.stamped pending.skipped
    rw [skippedKeys_commitReceive, skippedKeys_commitReceive]
    exact (alike.sound.stamped.insertAll pending.skipped).inOrder_evictTo_congr inserted
      (alike.renumbered.stamped.insertAll pending.skipped) maxTotalSkippedKeys

section

variable {fresh : Secret} {message : RatchetMessage Public Cipher} {plaintext : Bytes}

/-- Both sessions find the same key, stored or derived. -/
theorem Alike.map_fst_decrypt (alike : Alike ratchet keys seq) :
    ((ratchet.renumber keys seq).decrypt prims fresh message).map Prod.fst =
      (ratchet.decrypt prims fresh message).map Prod.fst := by
  rw [DoubleRatchet.map_fst_decrypt, DoubleRatchet.map_fst_decrypt, map_fst_lookup_eq alike.order]
  rfl

theorem Alike.receives (alike : Alike ratchet keys seq)
    (receives : Receives prims ratchet fresh message plaintext next) :
    ∃ keys' seq', Receives prims (ratchet.renumber keys seq) fresh message plaintext
        (next.renumber keys' seq') ∧ Alike next keys' seq' := by
  have sameKey := map_fst_lookup_eq alike.order
    (message.header.dhPublic, message.header.messageNumber)
  cases receives with
  | stored found opened =>
    rw [found, Option.map_some, eq_comm, Option.map_eq_some_iff] at sameKey
    obtain ⟨⟨_, _⟩, found', rfl⟩ := sameKey
    exact ⟨_, seq, .stored found' opened, alike.erase _⟩
  | @derived pending absent staged opened =>
    rw [absent, Option.map_none, eq_comm, Option.map_eq_none_iff] at sameKey
    obtain ⟨keys', seq', equal, after⟩ := alike.commitReceive pending
    exact ⟨keys', seq', equal ▸ .derived sameKey staged opened, after⟩

end

variable (prims)

/-- One call has the same answer and leaves the sessions alike. -/
theorem Alike.perform (alike : Alike ratchet keys seq)
    (call : RatchetCall Secret Public Cipher) :
    ∃ keys' seq', (ratchet.renumber keys seq).perform prims call =
        ((ratchet.perform prims call).1, (ratchet.perform prims call).2.renumber keys' seq') ∧
      Alike (ratchet.perform prims call).2 keys' seq' := by
  cases call with
  | encrypt plaintext =>
    simp only [DoubleRatchet.perform, encrypt_renumber]
    cases encrypted : ratchet.encrypt prims plaintext with
    | error => exact ⟨keys, seq, rfl, alike⟩
    | ok => exact ⟨keys, seq, rfl, alike.encrypt encrypted⟩
  | decrypt fresh message =>
    simp only [DoubleRatchet.perform]
    cases decrypted : ratchet.decrypt prims fresh message with
    | error error =>
      have same := @Alike.map_fst_decrypt _ _ _ _ _ prims _ _ _ fresh message alike
      rw [decrypted] at same
      cases renumbered : (ratchet.renumber keys seq).decrypt prims fresh message with
      | ok =>
        rw [renumbered] at same
        cases same
      | error =>
        rw [renumbered] at same
        cases same
        exact ⟨keys, seq, rfl, alike⟩
    | ok =>
      obtain ⟨keys', seq', received, after⟩ := alike.receives (decrypt_eq_ok_iff.mp decrypted)
      rw [decrypt_eq_ok_iff.mpr received]
      exact ⟨keys', seq', rfl, after⟩

/-- A sequence of calls has the same answers and leaves the sessions alike. -/
theorem Alike.performAll (alike : Alike ratchet keys seq)
    (calls : List (RatchetCall Secret Public Cipher)) :
    ((ratchet.renumber keys seq).performAll prims calls).1 = (ratchet.performAll prims calls).1 ∧
      ((ratchet.renumber keys seq).performAll prims calls).2.exportState =
        (ratchet.performAll prims calls).2.exportState := by
  induction calls generalizing ratchet keys seq with
  | nil => exact ⟨rfl, alike.exportState_eq⟩
  | cons call later ih =>
    obtain ⟨keys', seq', performed, next⟩ := alike.perform prims call
    obtain ⟨answers, last⟩ := ih next
    simp only [DoubleRatchet.performAll, performed]
    exact ⟨congrArg _ answers, last⟩

/--
Whatever a session has encrypted, decrypted or restored, it can be exported
and restored: every later sequence of calls is answered as by the session
itself, and both have the same exported state in the end, so that the same
keys were evicted.
-/
theorem restored_session_equivalent {prims : RatchetPrimitives Secret Public Key Cipher}
    {allowed : DoubleRatchet Secret Public Key → MessageHeader Public → Prop}
    {ratchet : DoubleRatchet Secret Public Key} (reached : Reached prims allowed ratchet)
    (calls : List (RatchetCall Secret Public Cipher)) :
    ((fromState ratchet.exportState).performAll prims calls).1 =
        (ratchet.performAll prims calls).1 ∧
      ((fromState ratchet.exportState).performAll prims calls).2.exportState =
        (ratchet.performAll prims calls).2.exportState := by
  obtain ⟨_, _, restored, alike⟩ := alike_restored (storeSound_of_reached reached)
  rw [restored]
  exact alike.performAll prims calls

open StoreExample in
/-- The message that was passed over is read once, before and after a restart. -/
theorem restored_session_equivalent_ahead :
    let late := sent (receive bob 2 ⟨1, 0, 0⟩) 3 ⟨1, 0, 1⟩
    let calls := [.decrypt 4 late, .encrypt [7], .decrypt 5 late]
    ((fromState ahead.exportState).performAll RatchetTerm.primitives calls).1 =
        (ahead.performAll RatchetTerm.primitives calls).1 ∧
      (ahead.performAll RatchetTerm.primitives calls).1.map Except.isOk = [true, true, false] :=
  ⟨(restored_session_equivalent reached_ahead _).1, by decide +kernel⟩

end DoubleRatchet

end BitSov.Crypto
