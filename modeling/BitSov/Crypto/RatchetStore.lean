import BitSov.Crypto.RatchetTerms

namespace BitSov.Crypto

open Ratchet List Stamped AList PendingReceive

/-!
# The stored keys of a double ratchet

Whatever is received, a session stores no more keys than it may, and it
forgets those that it has stored first.  As long as the peer does not return
to a ratchet key for which keys are stored, a stored key of the current chain
is behind the position of that chain.
-/

variable {Secret Public Key Cipher : Type} {prims : RatchetPrimitives Secret Public Key Cipher}
  {kdf : ChainKdf Key} {chain : Key} {recvCount upTo : Nat} {ratchetPublic : Public}
  {staged : StagedChain Public Key}

section

variable (accepted : stageSkippedKeys kdf chain recvCount upTo ratchetPublic = .ok staged)
include accepted

theorem mem_stageSkippedKeys {id : Public × Nat} (mem : id ∈ staged.skipped.map Prod.fst) :
    id.1 = ratchetPublic ∧ recvCount ≤ id.2 ∧ id.2 < upTo := by
  unfold stageSkippedKeys at accepted
  split at accepted
  · cases accepted
  cases accepted
  rw [map_map] at mem
  obtain ⟨entry, entryMem, rfl⟩ := mem_map.mp mem
  have numbered : entry.1 ∈ List.range' recvCount (upTo - recvCount) := by
    rw [← kdf.map_fst_skip (upTo - recvCount) recvCount chain]
    exact mem_map_of_mem entryMem
  rw [mem_range'_1] at numbered
  exact ⟨rfl, numbered.1, by dsimp only [Function.comp]; omega⟩

theorem recvCount_stageSkippedKeys : staged.recvCount = max recvCount upTo := by
  unfold stageSkippedKeys at accepted
  split at accepted
  · cases accepted
  · cases accepted
    rfl

end

namespace DoubleRatchet

open RatchetTerm (primitives)

variable {pending : PendingReceive Secret Public Key}

theorem stageMessage_eq_ok {recvCount messageNumber : Nat}
    {dhStep : Option (PendingDhStep Secret Public Key)}
    (accepted : stageMessage prims chain recvCount ratchetPublic messageNumber dhStep before =
      .ok pending) :
    ∃ staged, stageSkippedKeys prims.kdf chain recvCount messageNumber ratchetPublic = .ok staged ∧
      pending =
        { dhStep
          receivingChain := prims.kdf.next staged.chain
          recvCount := wrap32 (staged.recvCount + 1)
          skipped := before ++ staged.skipped
          messageKey := prims.kdf.message staged.chain } := by
  unfold stageMessage at accepted
  split at accepted
  · cases accepted
  next staged stagedOk =>
  cases accepted
  exact ⟨staged, stagedOk, rfl⟩

variable {ratchet : DoubleRatchet Secret Public Key} {header : MessageHeader Public}

theorem mem_stageRemaining (accepted : ratchet.stageRemaining prims header = .ok remaining)
    {id : Public × Nat}
    (mem : id ∈ remaining.map Prod.fst) : ratchet.remoteDhPublic = some id.1 := by
  unfold stageRemaining at accepted
  split at accepted
  · next _ _ _ known =>
    split at accepted
    · cases accepted
    next _ stagedOk =>
    cases accepted
    rw [known, (mem_stageSkippedKeys stagedOk mem).1]
  · cases accepted
    cases mem

/-- What a staged message says about its step and the keys it stores. -/
structure Stages (ratchet : DoubleRatchet Secret Public Key) (header : MessageHeader Public)
    (pending : PendingReceive Secret Public Key) : Prop where
  remote : (ratchet.applyDhStep pending.dhStep).remoteDhPublic = some header.dhPublic
  stepped : pending.dhStep ≠ none → ratchet.remoteDhPublic ≠ some header.dhPublic
  behind : ∀ number,
    (header.dhPublic, number) ∈ pending.skipped.map Prod.fst → number < header.messageNumber
  count : ∃ start,
    pending.recvCount = wrap32 (max start header.messageNumber + 1) ∧
      (start = 0 ∧ ratchet.remoteDhPublic ≠ some header.dhPublic ∨
        start = ratchet.recvCount ∧ ratchet.remoteDhPublic = some header.dhPublic)

variable {plaintext : Bytes} {message : RatchetMessage Public Cipher}

theorem encrypt_eq_ok {ratchet next : DoubleRatchet Secret Public Key}
    (encrypted : ratchet.encrypt prims plaintext = .ok (message, next)) :
    ∃ chain, ratchet.sendingChain = some chain ∧
      prims.aeadEncrypt (prims.kdf.message chain) plaintext (ratchet.aeadAd message.header) =
        .ok message.ciphertext ∧
      message.header = ⟨ratchet.dhPublic, ratchet.previousChainLength, ratchet.sendCount⟩ ∧
      next =
        { ratchet with
          sendingChain := some (prims.kdf.next chain)
          sendCount := wrap32 (ratchet.sendCount + 1) } := by
  unfold encrypt at encrypted
  split at encrypted
  · cases encrypted
  next chain found =>
  dsimp only at encrypted
  split at encrypted
  · cases encrypted
  next _ sealing =>
  cases encrypted
  exact ⟨chain, found, sealing, rfl, rfl⟩

variable [DecidableEq Public] {ratchet : DoubleRatchet Secret Public Key}

variable {fresh : Secret}

theorem stages_of_stageReceive (accepted : ratchet.stageReceive prims fresh header = .ok pending) :
    ratchet.Stages header pending := by
  unfold stageReceive at accepted
  split at accepted
  · next new =>
    split at accepted
    · cases accepted
    next _ remainingOk =>
    obtain ⟨_, stagedOk, rfl⟩ := stageMessage_eq_ok accepted
    refine ⟨rfl, fun _ => new, ?_, 0, ?_, .inl ⟨rfl, new⟩⟩
    · intro _ mem
      rw [map_append, mem_append] at mem
      rcases mem with old | inChain
      · exact absurd (mem_stageRemaining remainingOk old) new
      · exact (mem_stageSkippedKeys stagedOk inChain).2.2
    · rw [recvCount_stageSkippedKeys stagedOk]
  · next same =>
    rw [not_not] at same
    split at accepted
    · cases accepted
    next _ _ =>
    obtain ⟨_, stagedOk, rfl⟩ := stageMessage_eq_ok accepted
    refine ⟨same, fun step => absurd rfl step, ?_, ratchet.recvCount, ?_, .inr ⟨rfl, same⟩⟩
    · intro _ mem
      rw [nil_append] at mem
      exact (mem_stageSkippedKeys stagedOk mem).2.2
    · rw [recvCount_stageSkippedKeys stagedOk]

/-- What a message that decrypts does to the session. -/
inductive Receives (prims : RatchetPrimitives Secret Public Key Cipher)
    (ratchet : DoubleRatchet Secret Public Key) (fresh : Secret)
    (message : RatchetMessage Public Cipher) (plaintext : Bytes) :
    DoubleRatchet Secret Public Key → Prop
  | stored {messageKey : Key} {stamp : Nat}
    (found : ratchet.skippedKeys.lookup
      (message.header.dhPublic, message.header.messageNumber) =
      some (messageKey, stamp))
    (opened : prims.aeadDecrypt messageKey message.ciphertext
      (ratchet.aeadAd message.header) =
      .ok plaintext) :
    Receives prims ratchet fresh message plaintext
      { ratchet with
        skippedKeys := ratchet.skippedKeys.erase
          (message.header.dhPublic, message.header.messageNumber) }
  | derived {pending : PendingReceive Secret Public Key}
    (absent : ratchet.skippedKeys.lookup
      (message.header.dhPublic, message.header.messageNumber) =
      none) (staged : ratchet.stageReceive prims fresh message.header = .ok pending)
    (opened : prims.aeadDecrypt pending.messageKey message.ciphertext
      (ratchet.aeadAd message.header) =
      .ok plaintext) :
    Receives prims ratchet fresh message plaintext (ratchet.commitReceive pending)

theorem decrypt_eq_ok_iff {next : DoubleRatchet Secret Public Key} :
    ratchet.decrypt prims fresh message = .ok (plaintext, next) ↔
      Receives prims ratchet fresh message plaintext next := by
  constructor
  · intro decrypted
    unfold decrypt at decrypted
    dsimp only at decrypted
    split at decrypted
    · next _ _ found =>
      split at decrypted
      · cases decrypted
      next opened =>
      cases decrypted
      exact .stored found opened
    next absent =>
    split at decrypted
    · cases decrypted
    next _ staged =>
    split at decrypted
    · cases decrypted
    next opened =>
    cases decrypted
    exact .derived absent staged opened
  · intro receives
    unfold decrypt
    cases receives with
    | stored found opened =>
      dsimp only
      rw [found]
      dsimp only
      rw [opened]
    | derived absent staged opened =>
      dsimp only
      rw [absent]
      rw [staged]
      dsimp only
      rw [opened]

/-- The sessions that can be reached by messages that meet a condition. -/
inductive Reached (prims : RatchetPrimitives Secret Public Key Cipher)
    (allowed : DoubleRatchet Secret Public Key → MessageHeader Public → Prop) :
    DoubleRatchet Secret Public Key → Prop
  | sender (sharedSecret : Key) (bobSignedPrekey : Public) (associatedData : Bytes)
      (dhSecret : Secret) :
      Reached prims allowed (initSender prims sharedSecret bobSignedPrekey associatedData dhSecret)
  | receiver (sharedSecret : Key) (secret : Secret) (publicKey : Public) (associatedData : Bytes) :
      Reached prims allowed (initReceiver sharedSecret secret publicKey associatedData)
  | encrypt {ratchet next : DoubleRatchet Secret Public Key} {plaintext : Bytes}
      {message : RatchetMessage Public Cipher} (reached : Reached prims allowed ratchet)
      (encrypted : ratchet.encrypt prims plaintext = .ok (message, next)) :
      Reached prims allowed next
  | decrypt {ratchet next : DoubleRatchet Secret Public Key} {fresh : Secret}
      {message : RatchetMessage Public Cipher} {plaintext : Bytes}
      (reached : Reached prims allowed ratchet) (permitted : allowed ratchet message.header)
      (decrypted : ratchet.decrypt prims fresh message = .ok (plaintext, next)) :
      Reached prims allowed next
  | restore {ratchet : DoubleRatchet Secret Public Key} (reached : Reached prims allowed ratchet) :
      Reached prims allowed (fromState ratchet.exportState)

/-- The store is within its limit and its stamps are in order. -/
structure StoreSound (ratchet : DoubleRatchet Secret Public Key) : Prop where
  bounded : ratchet.skippedKeys.entries.length ≤ maxTotalSkippedKeys
  stamped : ratchet.skippedKeys.Sound ratchet.skippedKeySeq

theorem StoreSound.erase (sound : ratchet.StoreSound) (id : Public × Nat) :
    StoreSound { ratchet with skippedKeys := ratchet.skippedKeys.erase id } where
  bounded := (entries_erase_sublist _ _).length_le.trans sound.bounded
  stamped := sound.stamped.erase _

theorem skippedKeys_commitReceive (ratchet : DoubleRatchet Secret Public Key)
    (pending : PendingReceive Secret Public Key) :
    (ratchet.commitReceive pending).skippedKeys = evictTo maxTotalSkippedKeys
      (ratchet.skippedKeys.insertAll ratchet.skippedKeySeq pending.skipped) := by
  unfold commitReceive evictExcessSkippedKeys
  dsimp only

theorem StoreSound.forgets (sound : ratchet.StoreSound)
    (pending : PendingReceive Secret Public Key) :
    Stamped.Forgets (ratchet.skippedKeys.insertAll ratchet.skippedKeySeq pending.skipped)
      (ratchet.commitReceive pending).skippedKeys ∧
      (ratchet.commitReceive pending).skippedKeys.entries.length = min maxTotalSkippedKeys
        (ratchet.skippedKeys.insertAll ratchet.skippedKeySeq pending.skipped).entries.length := by
  have evicted := evictTo_spec (sound.stamped.insertAll pending.skipped) maxTotalSkippedKeys
  rw [skippedKeys_commitReceive]
  exact evicted

theorem StoreSound.commitReceive (sound : ratchet.StoreSound)
    (pending) : (ratchet.commitReceive pending).StoreSound := by
  obtain ⟨forgets, length⟩ := sound.forgets pending
  constructor
  · rw [length]
    exact Nat.min_le_left _ _
  · exact (sound.stamped.insertAll pending.skipped).of_sublist forgets.sublist

theorem fromState_exportState (ratchet : DoubleRatchet Secret Public Key) :
    fromState ratchet.exportState =
      { ratchet with
        skippedKeys := insertAll ∅ 0 ratchet.skippedKeys.inOrder
        skippedKeySeq := ratchet.skippedKeys.inOrder.length } := by
  unfold fromState exportState
  rw [map_map, length_map]
  congr 2
  exact map_id _

/-- The key of a message does not depend on what a ratchet step draws. -/
theorem map_messageKey_stageReceive (ratchet : DoubleRatchet Secret Public Key)
    (fresh other header) : (ratchet.stageReceive prims fresh header).map messageKey =
      (ratchet.stageReceive prims other header).map messageKey := by
  unfold stageReceive
  split_ifs
  · cases ratchet.stageRemaining prims header with
    | error => rfl
    | ok =>
      simp only [stageMessage, stageDhRatchet]
      split <;> rfl
  · rfl

/-- What a message is decrypted to: first its key is found, then it is opened. -/
theorem map_fst_decrypt (ratchet : DoubleRatchet Secret Public Key) (fresh) (message) :
    (ratchet.decrypt prims fresh message).map Prod.fst = ((match (ratchet.skippedKeys.lookup
        (message.header.dhPublic, message.header.messageNumber)).map Prod.fst with
      | some key => .ok key
      | none => (ratchet.stageReceive prims fresh message.header).map messageKey) >>=
        fun key => (prims.aeadDecrypt key message.ciphertext
          (ratchet.aeadAd message.header)).mapError .decryptionFailed) := by
  unfold decrypt
  dsimp only
  cases ratchet.skippedKeys.lookup (message.header.dhPublic, message.header.messageNumber) with
  | some stored =>
    dsimp only [Option.map, bind, Except.bind]
    cases prims.aeadDecrypt stored.1 message.ciphertext _ <;> rfl
  | none =>
    cases ratchet.stageReceive prims fresh message.header with
    | error => rfl
    | ok pending =>
      dsimp only [Option.map, Except.map, bind, Except.bind]
      cases prims.aeadDecrypt pending.messageKey message.ciphertext _ <;> rfl

theorem StoreSound.restore (sound : ratchet.StoreSound) :
    (fromState ratchet.exportState).StoreSound := by
  rw [fromState_exportState]
  constructor
  · refine (length_insertAll_le ∅ 0 ratchet.skippedKeys.inOrder).trans ?_
    rw [length_inOrder, empty_entries, length_nil, Nat.zero_add]
    exact sound.bounded
  have inserted := sound_empty.insertAll ratchet.skippedKeys.inOrder
  rw [Nat.zero_add] at inserted
  exact inserted

variable {allowed : DoubleRatchet Secret Public Key → MessageHeader Public → Prop}

theorem storeSound_of_reached (reached : Reached prims allowed ratchet) : ratchet.StoreSound := by
  induction reached with
  | sender | receiver => exact ⟨Nat.zero_le _, sound_empty⟩
  | encrypt _ encrypted sound =>
    obtain ⟨_, -, -, -, rfl⟩ := encrypt_eq_ok encrypted
    exact ⟨sound.bounded, sound.stamped⟩
  | decrypt _ _ decrypted sound =>
    cases decrypt_eq_ok_iff.mp decrypted with
    | stored => exact sound.erase _
    | @derived pending => exact sound.commitReceive pending
  | restore _ sound => exact sound.restore

/-- A side can send once it knows a key of the peer, and has read nothing before. -/
structure Answers (ratchet : DoubleRatchet Secret Public Key) : Prop where
  remote : ratchet.canSend = ratchet.remoteDhPublic.isSome
  silent : ratchet.canSend = false → ratchet.receivingChain = none ∧ ratchet.skippedKeys = ∅

theorem Answers.receives (answers : ratchet.Answers)
    (receives : Receives prims ratchet fresh message plaintext other) :
    other.canSend = true ∧ other.remoteDhPublic.isSome := by
  cases receives with
  | stored found =>
    cases sends : ratchet.canSend with
    | true => exact ⟨sends, answers.remote ▸ sends⟩
    | false =>
      rw [(answers.silent sends).2, lookup_empty] at found
      cases found
  | @derived pending _ staged =>
    have known := (stages_of_stageReceive staged).remote
    refine ⟨?_, Option.isSome_of_eq_some known⟩
    unfold commitReceive
    cases step : pending.dhStep with
    | some => rfl
    | none =>
      rw [step] at known
      exact answers.remote.trans (Option.isSome_of_eq_some known)

theorem answers_of_reached (reached : Reached prims allowed ratchet) : ratchet.Answers := by
  induction reached with
  | sender => exact ⟨rfl, nofun⟩
  | receiver => exact ⟨rfl, fun _ => ⟨rfl, rfl⟩⟩
  | encrypt _ encrypted answers =>
    obtain ⟨_, sends, -, -, rfl⟩ := encrypt_eq_ok encrypted
    refine ⟨Eq.trans ?_ answers.remote, nofun⟩
    rw [canSend, canSend, sends]
    rfl
  | decrypt _ _ decrypted answers =>
    obtain ⟨sends, knows⟩ := answers.receives (decrypt_eq_ok_iff.mp decrypted)
    exact ⟨sends.trans knows.symm, fun silent => by cases sends.symm.trans silent⟩
  | restore _ answers =>
    rw [fromState_exportState]
    refine ⟨answers.remote, fun silent => ⟨(answers.silent silent).1, ?_⟩⟩
    change insertAll ∅ 0 _ = ∅
    rw [(answers.silent silent).2, inOrder, empty_entries, mergeSort_nil]
    rfl

/--
Whatever a session has encrypted, decrypted or restored, it can send exactly
if it knows a key of the peer, and it can answer every message that it reads.
-/
theorem session_answers (reached : Reached prims allowed ratchet) :
    ratchet.Answers ∧ ∀ fresh message plaintext next,
      ratchet.decrypt prims fresh message = .ok (plaintext, next) → next.canSend = true := by
  have answers := answers_of_reached reached
  refine ⟨answers, fun _ _ _ _ decrypted => ?_⟩
  exact (answers.receives (decrypt_eq_ok_iff.mp decrypted)).1

/--
The message has its key stored, or it does not return to a ratchet key for
which keys are stored, and the receive counter has room for it.
-/
def Proceeds (ratchet : DoubleRatchet Secret Public Key) (header : MessageHeader Public) : Prop :=
  (header.dhPublic, header.messageNumber) ∈ ratchet.skippedKeys ∨
    header.messageNumber + 1 < 2 ^ 32 ∧ ratchet.recvCount + 1 < 2 ^ 32 ∧
      (ratchet.remoteDhPublic ≠ some header.dhPublic →
        ∀ number, (header.dhPublic, number) ∉ ratchet.skippedKeys)

/-- Stored keys of the current chain are behind its position. -/
def Behind (ratchet : DoubleRatchet Secret Public Key) : Prop :=
  ∀ remote number,
    ratchet.remoteDhPublic = some remote →
      (remote, number) ∈ ratchet.skippedKeys → number < ratchet.recvCount

theorem Behind.commitReceive (behind : ratchet.Behind) (sound : ratchet.StoreSound)
    (stages : ratchet.Stages header pending)
    (absent : (header.dhPublic, header.messageNumber) ∉ ratchet.skippedKeys)
    (proceeds : ratchet.Proceeds header) : (ratchet.commitReceive pending).Behind := by
  obtain ⟨_, countRoom, returns⟩ := proceeds.resolve_left absent
  obtain ⟨start, counted, origin⟩ := stages.count
  intro remote number known mem
  have sameRemote := Option.some.inj (known.symm.trans stages.remote)
  subst sameRemote
  have old := mem_of_sublist (sound.forgets pending).1.sublist mem
  change number < pending.recvCount
  have startRoom : start + 1 < 2 ^ 32 := by
    rcases origin with ⟨rfl, -⟩ | ⟨rfl, -⟩
    · norm_num
    · exact countRoom
  rw [counted, wrap32_of_lt (by omega)]
  rcases mem_insertAll_iff.mp old with staged | stored
  · have := stages.behind number staged
    omega
  rcases origin with ⟨-, new⟩ | ⟨rfl, same⟩
  · exact absurd stored (returns new number)
  · have := behind _ number same stored
    omega

theorem behind_of_reached
    (permits : ∀ ratchet header, allowed ratchet header → ratchet.Proceeds header)
    (reached : Reached prims allowed ratchet) : ratchet.Behind := by
  induction reached with
  | sender | receiver =>
    intro remote number _ mem
    exact absurd mem (notMem_empty _)
  | encrypt _ encrypted behind =>
    obtain ⟨_, -, -, -, rfl⟩ := encrypt_eq_ok encrypted
    exact behind
  | decrypt old permitted decrypted behind =>
    cases decrypt_eq_ok_iff.mp decrypted with
    | stored =>
      intro remote number known mem
      exact behind remote number known (mem_erase.mp mem).2
    | derived absent staged =>
      exact behind.commitReceive (storeSound_of_reached old) (stages_of_stageReceive staged)
        (lookup_eq_none.mp absent) (permits _ _ permitted)
  | @restore ratchet _ behind =>
    rw [fromState_exportState]
    intro remote number known mem
    exact behind remote number known ((renumbers_insertAll_inOrder ratchet.skippedKeys).1 _
      |>.mp mem)

/--
In every session that can be reached, the stored keys are within their limit
and have distinct sequence numbers below the next one; a message that is
decrypted evicts those that were stored first; a restored session has the same
keys in the same order.  If all messages proceed, no key of the current chain
is stored at or above the position of the chain.
-/
theorem skipped_keys_accounted
    {allowed : DoubleRatchet Secret Public Key → MessageHeader Public → Prop}
    {ratchet : DoubleRatchet Secret Public Key} (reached : Reached prims allowed ratchet) :
    ratchet.skippedKeys.entries.length ≤ maxTotalSkippedKeys ∧ ratchet.skippedKeys.stamps.Nodup ∧
      (∀ stamp ∈ ratchet.skippedKeys.stamps, stamp < ratchet.skippedKeySeq) ∧
      (∀ fresh message plaintext next, ratchet.decrypt prims fresh message = .ok (plaintext, next) →
          (message.header.dhPublic, message.header.messageNumber) ∉ ratchet.skippedKeys →
            ∃ pending, ratchet.stageReceive prims fresh message.header = .ok pending ∧
              Stamped.Forgets (ratchet.skippedKeys.insertAll ratchet.skippedKeySeq pending.skipped)
                next.skippedKeys ∧ next.skippedKeys.entries.length = min maxTotalSkippedKeys
                (ratchet.skippedKeys.insertAll ratchet.skippedKeySeq
                  pending.skipped).entries.length) ∧
      Stamped.Renumbers ratchet.skippedKeys (fromState ratchet.exportState).skippedKeys ∧
      ((∀ ratchet header, allowed ratchet header → ratchet.Proceeds header) → ratchet.Behind) := by
  have sound := storeSound_of_reached reached
  refine ⟨sound.bounded, sound.stamped.distinct, sound.stamped.below, ?_, ?_, ?_⟩
  · intro _ _ _ _ decrypted absent
    cases decrypt_eq_ok_iff.mp decrypted with
    | stored found => exact absurd (lookup_isSome.mp (by rw [found]; rfl)) absent
    | @derived pending _ staged => exact ⟨pending, staged, sound.forgets pending⟩
  · rw [fromState_exportState]
    exact renumbers_insertAll_inOrder ratchet.skippedKeys
  · intro permits
    exact behind_of_reached permits reached

/-! ## A peer that returns to an earlier ratchet key -/

namespace StoreExample

def bob : DoubleRatchet Nat Nat RatchetTerm :=
  initReceiver .shared 0 0 []

variable (ratchet : DoubleRatchet Nat Nat RatchetTerm) (fresh : Nat) (header : MessageHeader Nat)

/-- What the peer sends under this header, knowing all keys. -/
def sent : RatchetMessage Nat RatchetSealed where
  header
  ciphertext :=
    { key :=
      match ratchet.stageReceive primitives fresh header with
      | .ok pending => pending.messageKey
      | .error _ => .shared
      plaintext := [42]
      ad := ratchet.aeadAd header }

/-- The session after that message. -/
def receive : DoubleRatchet Nat Nat RatchetTerm :=
  match ratchet.decrypt primitives fresh (sent ratchet fresh header)
  with
  | .ok (_, next) => next
  | .error _ => ratchet

theorem reached_receive {allowed : DoubleRatchet Nat Nat RatchetTerm → MessageHeader Nat → Prop}
    {ratchet : DoubleRatchet Nat Nat RatchetTerm} {header : MessageHeader Nat}
    (reached : Reached primitives allowed ratchet) (permitted : allowed ratchet header)
    (fresh) : Reached primitives allowed (receive ratchet fresh header) := by
  unfold receive
  split
  · next decrypted => exact .decrypt reached (by exact permitted) decrypted
  · exact reached

/-- Two messages of a first chain, the one between them is passed over. -/
def ahead : DoubleRatchet Nat Nat RatchetTerm :=
  receive (receive bob 2 ⟨1, 0, 0⟩) 3 ⟨1, 0, 2⟩

/-- A message of a second chain, then one that returns to the first key. -/
def returned : DoubleRatchet Nat Nat RatchetTerm :=
  receive (receive ahead 4 ⟨5, 3, 0⟩) 6 ⟨1, 1, 0⟩

theorem reached_ahead : Reached primitives Proceeds ahead := by
  have first : bob.Proceeds ⟨1, 0, 0⟩ := .inr ⟨by decide, by decide, fun _ _ => notMem_empty _⟩
  have second : (receive bob 2 ⟨1, 0, 0⟩).Proceeds ⟨1, 0, 2⟩ :=
    .inr ⟨by decide, by decide, fun new => absurd (by decide) new⟩
  exact reached_receive (reached_receive (.receiver .shared 0 0 []) first 2) second 3

theorem reached_returned : Reached primitives (fun _ _ => True) returned :=
  reached_receive (reached_receive
    (reached_receive (reached_receive (.receiver .shared 0 0 []) trivial 2) trivial 3)
    trivial 4)
    trivial 6

end StoreExample

theorem session_answers_ahead : StoreExample.ahead.canSend = true :=
  (session_answers StoreExample.reached_ahead).1.remote.trans (by decide +kernel)

/-- The key that was passed over is stored, behind the position. -/
theorem skipped_keys_accounted_ahead :
    (1, 1) ∈ StoreExample.ahead.skippedKeys ∧ StoreExample.ahead.Behind :=
  ⟨by decide +kernel,
    (skipped_keys_accounted StoreExample.reached_ahead).2.2.2.2.2 fun _ _ proceeds => proceeds⟩

/-- A key is stored that the chain of the same ratchet key derives again. -/
theorem skipped_key_ahead_of_returned_chain : ∃ ratchet : DoubleRatchet Nat Nat RatchetTerm,
      Reached primitives (fun _ _ => True) ratchet ∧ ∃ remote number,
        ratchet.remoteDhPublic = some remote ∧
          (remote, number) ∈ ratchet.skippedKeys ∧ ratchet.recvCount ≤ number :=
  ⟨StoreExample.returned, StoreExample.reached_returned, 1, 1,
    by decide +kernel, by decide +kernel, by decide +kernel⟩

end DoubleRatchet

end BitSov.Crypto
