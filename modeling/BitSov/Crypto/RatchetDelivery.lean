import BitSov.Crypto.RatchetDialogue

namespace BitSov.Crypto

open Ratchet List Lineage Stamped AList

/-!
# Delivery in a dialogue

With primitives without collisions every message is decrypted to its
plaintext once: as long as it is not too far ahead and its stored key was not
evicted, and never a second time.
-/

variable {Secret Public Key Cipher : Type} {prims : RatchetPrimitives Secret Public Key Cipher}
  {lineage : Lineage Secret Key} {length : Nat → Nat} {level chain : Nat}

/-! ## What does not change on a level -/

variable {ratchet : DoubleRatchet Secret Public Key}

theorem AtLevel.grow (located : AtLevel prims lineage length ad level ratchet)
    (same : longer level = length level)
    (previous : previousOf longer level = previousOf length level)
    (more : sentBefore length level ≤ sentBefore longer level) :
    AtLevel prims lineage longer ad level ratchet :=
  { located with
    sending := by
      rw [located.sending]
      cases level with
      | zero => rfl
      | succ level => rw [sendingOf, sendingOf, same]
    sendCount := located.sendCount.trans same.symm
    previous := located.previous.trans previous.symm
    received := located.received.trans more }

theorem AtLevel.extend (located : AtLevel prims lineage length ad level ratchet)
    (below : level < place) (fresh) :
    AtLevel prims (lineage.extend place fresh) length ad level ratchet :=
  { located with
    dhSecret := located.dhSecret.trans (secret_extend_of_ne (by omega)).symm
    dhPublic := located.dhPublic.trans (publicKey_extend_of_ne (by omega)).symm
    remote := by
      rw [located.remote]
      cases level with
      | zero => rfl
      | succ level => rw [remoteOf, remoteOf, publicKey_extend_of_ne (by omega)]
    rootKey := located.rootKey.trans (root_extend below).symm
    sending := by
      rw [located.sending]
      cases level with
      | zero => rfl
      | succ level => rw [sendingOf, sendingOf, seed_extend below]
    receiving := by
      rw [located.receiving]
      match level with
      | 0 | 1 => rfl
      | level + 2 => rw [receivingOf, receivingOf, seed_extend (by omega)] }

theorem WrittenAt.grow (written : WrittenAt prims lineage length ad chain entry)
    (more : length (chain + 1) ≤ longer (chain + 1))
    (previous : previousOf longer (chain + 1) = previousOf length (chain + 1)) :
    WrittenAt prims lineage longer ad chain entry :=
  { written with
    number := written.number.trans_le more, previous := written.previous.trans previous.symm }

theorem WrittenAt.extend (written : WrittenAt prims lineage length ad chain entry)
    (below : chain + 1 < place) (fresh) :
    WrittenAt prims (lineage.extend place fresh) length ad chain entry :=
  { written with
    key := written.key.trans (publicKey_extend_of_ne (by omega)).symm
    sealing := by
      rw [seed_extend below]
      exact written.sealing }

variable {recvCount number : Nat}

theorem Passed.below (passed : Passed length level recvCount chain number) : chain + 1 ≤ level := by
  rcases passed with ⟨_, -⟩ | ⟨_, -⟩ <;> omega

theorem passed_grow_iff
    (same : ∀ closed, closed + 3 ≤ level → closed % 2 ≠ level % 2 → longer closed = length closed) :
    Passed longer level recvCount chain number ↔ Passed length level recvCount chain number := by
  unfold Passed
  constructor
  · rintro (current | ⟨before, turn, within⟩)
    · exact .inl current
    · exact .inr ⟨before, turn, same chain before turn ▸ within⟩
  rintro (current | ⟨before, turn, within⟩)
  · exact .inl current
  · exact .inr ⟨before, turn, (same chain before turn).symm ▸ within⟩

section

variable [DecidableEq Public] {level : Nat} {ratchet : DoubleRatchet Secret Public Key}
  {messages : List (RatchetMessage Public Cipher)} {evicted : Set (Public × Nat)}
  {pending : PendingReceive Secret Public Key} {id : Public × Nat}

section

variable (accounts : Accounts prims lineage length level ratchet messages evicted)
include accounts

theorem Accounts.grow
    (same : ∀ closed, closed + 3 ≤ level → closed % 2 ≠ level % 2 → longer closed = length closed) :
    Accounts prims lineage longer level ratchet messages evicted where
  stored id key stamp found := by
    obtain ⟨chain, passed, rest⟩ := accounts.stored id key stamp found
    exact ⟨chain, (passed_grow_iff same).mpr passed, rest⟩
  unstored := accounts.unstored
  read message member := by
    obtain ⟨chain, passed, rest⟩ := accounts.read message member
    exact ⟨chain, (passed_grow_iff same).mpr passed, rest⟩
  passed chain number passed := accounts.passed chain number ((passed_grow_iff same).mp passed)

theorem Accounts.congr (sameStore : other.skippedKeys = ratchet.skippedKeys)
    (sameCount : other.recvCount = ratchet.recvCount) :
    Accounts prims lineage length level other messages evicted where
  stored := by
    rw [sameStore, sameCount]
    exact accounts.stored
  unstored := by
    rw [sameStore]
    exact accounts.unstored
  read := by
    rw [sameCount]
    exact accounts.read
  passed := by
    rw [sameStore, sameCount]
    exact accounts.passed

theorem Accounts.extend (below : level ≤ place) (fresh) :
    Accounts prims (lineage.extend place fresh) length level ratchet messages evicted where
  stored id key stamp found := by
    obtain ⟨chain, passed, idKey, keySame⟩ := accounts.stored id key stamp found
    have chainBelow := passed.below
    refine ⟨chain, passed, ?_, ?_⟩
    · rw [publicKey_extend_of_ne (by omega)]
      exact idKey
    · rw [seed_extend (by omega)]
      exact keySame
  unstored := accounts.unstored
  read message member := by
    obtain ⟨chain, passed, idKey⟩ := accounts.read message member
    have chainBelow := passed.below
    refine ⟨chain, passed, ?_⟩
    rw [publicKey_extend_of_ne (by omega)]
    exact idKey
  passed chain number passed := by
    have chainBelow := passed.below
    rw [publicKey_extend_of_ne (by omega)]
    exact accounts.passed chain number passed

end

variable {message : RatchetMessage Public Cipher}

theorem Accounts.take (accounts : Accounts prims lineage length level ratchet messages evicted)
    (mem : message.id ∈ ratchet.skippedKeys) (kept : evicted ⊆ more) :
    Accounts prims lineage length level
      { ratchet with skippedKeys := ratchet.skippedKeys.erase message.id }
      (messages ++ [message]) more where
  stored id key stamp found := by
    have old := lookup_of_sublist (entries_erase_sublist _ _) found
    exact accounts.stored id key stamp old
  unstored other otherMember stored := by
    obtain ⟨ne, old⟩ := mem_erase.mp stored
    rcases mem_append.mp otherMember with read | only
    · exact accounts.unstored other read old
    · rw [mem_singleton.mp only] at ne
      exact ne rfl
  read other otherMember := by
    rcases mem_append.mp otherMember with read | only
    · exact accounts.read other read
    rw [mem_singleton.mp only]
    obtain ⟨⟨key, stamp⟩, found⟩ := Option.isSome_iff_exists.mp (lookup_isSome.mpr mem)
    obtain ⟨chain, passed, idKey, -⟩ := accounts.stored message.id key stamp found
    exact ⟨chain, passed, idKey⟩
  passed chain number passed := by
    rw [map_append, mem_append]
    by_cases own : (lineage.publicKey prims chain, number) = message.id
    · exact .inr (.inr (.inr (by simp [own])))
    rcases accounts.passed chain number passed with stored | lost | read
    · exact .inl (mem_erase.mpr ⟨own, stored⟩)
    · exact .inr (.inl (kept lost))
    · exact .inr (.inr (.inl read))

theorem lookup_commitReceive (sound : ratchet.StoreSound)
    (found : (ratchet.commitReceive pending).skippedKeys.lookup id = some (key, stamp)) :
    (id, key) ∈ pending.skipped ∨ ratchet.skippedKeys.lookup id = some (key, stamp) := by
  have old := lookup_of_sublist (sound.forgets pending).1.sublist found
  rcases lookup_insertAll old with ⟨staged, -⟩ | ⟨-, stored⟩
  · exact .inl staged
  · exact .inr stored

/--
How a message that was derived widens what a side has passed: by the keys
that it stages and by itself.
-/
structure Widens (prims : RatchetPrimitives Secret Public Key Cipher)
    (lineage : Lineage Secret Key) (length : Nat → Nat) (level nextLevel : Nat)
    (ratchet : DoubleRatchet Secret Public Key) (message : RatchetMessage Public Cipher)
    (pending : PendingReceive Secret Public Key) : Prop where
  room : pending.skipped.length ≤ maxTotalSkippedKeys
  former : ∀ chain number,
    Passed length level ratchet.recvCount chain number →
      Passed length nextLevel pending.recvCount chain number
  cover : ∀ chain number,
    Passed length nextLevel pending.recvCount chain number →
      Passed length level ratchet.recvCount chain number ∨
        (lineage.publicKey prims chain, number) ∈ pending.skipped.map Prod.fst ∨
        (lineage.publicKey prims chain, number) = message.id
  staged : ∀ id key,
    (id, key) ∈ pending.skipped →
      id ≠ message.id ∧
        ∃ chain, Passed length nextLevel pending.recvCount chain id.2 ∧
          ¬ Passed length level ratchet.recvCount chain id.2 ∧
          id.1 = lineage.publicKey prims chain ∧
          key = prims.kdf.keyAt (lineage.seed prims chain) id.2
  own : ∃ chain, Passed length nextLevel pending.recvCount chain message.id.2 ∧
    message.id.1 = lineage.publicKey prims chain

/-- A message that was derived is accounted for, with what it passes over. -/
theorem Accounts.commit (accounts : Accounts prims lineage length level ratchet messages evicted)
    (sound : ratchet.StoreSound) (distinct : lineage.Distinct prims nextLevel)
    (absent : message.id ∉ ratchet.skippedKeys)
    (widens : Widens prims lineage length level nextLevel ratchet message pending) :
    Accounts prims lineage length nextLevel (ratchet.commitReceive pending) (messages ++ [message])
      (evicted ∪ Dialogue.lost ratchet (ratchet.commitReceive pending) message) where
  stored id key stamp found := by
    rcases lookup_commitReceive sound found with staged | old
    · obtain ⟨-, chain, passed, -, rest⟩ := widens.staged id key staged
      exact ⟨chain, passed, rest⟩
    · obtain ⟨chain, passed, rest⟩ := accounts.stored id key stamp old
      exact ⟨chain, widens.former chain _ passed, rest⟩
  unstored other otherMember stored := by
    have stored := mem_of_sublist (sound.forgets pending).1.sublist stored
    rcases mem_insertAll_iff.mp stored with staged | old
    · obtain ⟨⟨id, key⟩, entryMem, same⟩ := mem_map.mp staged
      subst same
      obtain ⟨notOwn, chain, passed, notBefore, idKey, -⟩ := widens.staged _ key entryMem
      rcases mem_append.mp otherMember with read | only
      · obtain ⟨otherChain, passedBefore, otherKey⟩ := accounts.read other read
        have sameChain : chain = otherChain := by
          have below := passed.below
          have otherBelow := (widens.former _ _ passedBefore).below
          exact distinct chain otherChain (by omega) (by omega) (idKey.symm.trans otherKey)
        exact notBefore (sameChain ▸ passedBefore)
      · rw [mem_singleton.mp only] at notOwn
        exact notOwn rfl
    · rcases mem_append.mp otherMember with read | only
      · exact accounts.unstored other read old
      · rw [mem_singleton.mp only] at old
        exact absent old
  read other otherMember := by
    rcases mem_append.mp otherMember with read | only
    · obtain ⟨chain, passed, idKey⟩ := accounts.read other read
      exact ⟨chain, widens.former chain _ passed, idKey⟩
    · rw [mem_singleton.mp only]
      exact widens.own
  passed chain number passed := by
    rw [map_append, mem_append]
    rcases widens.cover chain number passed with old | staged | own
    · rcases accounts.passed chain number old with stored | lost | read
      · by_cases kept :
        (lineage.publicKey prims chain, number) ∈ (ratchet.commitReceive pending).skippedKeys
        · exact .inl kept
        refine .inr (.inl (.inr ⟨stored, kept, ?_⟩))
        rintro same
        exact absent (same ▸ stored)
      · exact .inr (.inl (.inl lost))
      · exact .inr (.inr (.inl read))
    · have stored := mem_evictTo_insertAll sound.stamped widens.room staged
      unfold DoubleRatchet.commitReceive evictExcessSkippedKeys
      dsimp only
      exact .inl stored
    · exact .inr (.inr (.inr (by simp [own])))

end

/-! ## What a side derives on its level -/

section

open DoubleRatchet

variable {level : Nat} {ratchet : DoubleRatchet Secret Public Key} {header : MessageHeader Public}

def stagedMessage (prims : RatchetPrimitives Secret Public Key Cipher)
    (dhStep : Option (PendingDhStep Secret Public Key))
    (before : List (StagedSkippedKey Public Key)) (staged : StagedChain Public Key) :
    PendingReceive Secret Public Key where
  dhStep
  receivingChain := prims.kdf.next staged.chain
  recvCount := wrap32 (staged.recvCount + 1)
  skipped := before ++ staged.skipped
  messageKey := prims.kdf.message staged.chain

theorem mem_stageRemaining_iff (located : AtLevel prims lineage length ad level ratchet)
    (accepted : ratchet.stageRemaining prims header = .ok remaining) :
    remaining.length ≤ maxSkip ∧ ∀ id key, (id, key) ∈ remaining ↔ ∃ below, level = below + 2 ∧
      id.1 = lineage.publicKey prims (below + 1) ∧ ratchet.recvCount ≤ id.2 ∧
      id.2 < header.previousChainLength ∧
      key = prims.kdf.keyAt (lineage.seed prims (below + 1)) id.2 := by
  have receiving := located.receiving
  have remote := located.remote
  unfold stageRemaining at accepted
  match level with
  | 0 | 1 =>
    rw [receiving] at accepted
    cases accepted
    refine ⟨Nat.zero_le _, fun _ _ => ?_⟩
    simp
  | below + 2 =>
    rw [receiving, remote] at accepted
    dsimp only [receivingOf, remoteOf] at accepted
    split at accepted
    · cases accepted
    next _ stagedOk =>
    cases accepted
    have moves := movesOn_of_stageSkippedKeys stagedOk
    refine ⟨moves.length, fun _ _ => ?_⟩
    rw [moves.skipped]
    simp

theorem exists_stageRemaining (ratchet : DoubleRatchet Secret Public Key)
    (within : ratchet.receivingChain.isSome →
      header.previousChainLength ≤ ratchet.recvCount + maxSkip)
    (fits : header.previousChainLength < 2 ^ 32) :
    ∃ remaining, ratchet.stageRemaining prims header = .ok remaining := by
  unfold stageRemaining
  split
  · next chain ratchetPublic found _ =>
    obtain ⟨_, stagedOk⟩ := exists_stageSkippedKeys prims.kdf chain ratchetPublic
      (within (by rw [found]; rfl)) fits
    rw [stagedOk]
    exact ⟨_, rfl⟩
  · exact ⟨_, rfl⟩

variable [DecidableEq Public]

theorem stageReceive_of_known {chain : Key} (known : ratchet.remoteDhPublic = some header.dhPublic)
    (receiving : ratchet.receivingChain = some chain) : ratchet.stageReceive prims fresh header =
      stageMessage prims chain ratchet.recvCount header.dhPublic header.messageNumber none [] := by
  unfold stageReceive
  rw [if_neg (not_not.mpr known), receiving]

variable {below : Nat}

theorem stageReceive_current (located : AtLevel prims lineage length ad (below + 2) ratchet)
    (key : header.dhPublic = lineage.publicKey prims (below + 1))
    (accepted : ratchet.stageReceive prims fresh header = .ok pending) :
    ∃ staged, MovesOn prims.kdf (lineage.seed prims (below + 1))
      ratchet.recvCount header.messageNumber header.dhPublic staged ∧
      pending = stagedMessage prims none [] staged := by
  have known : ratchet.remoteDhPublic = some header.dhPublic := by
    rw [located.remote, key]
    rfl
  rw [stageReceive_of_known known located.receiving] at accepted
  obtain ⟨staged, stagedOk, rfl⟩ := stageMessage_eq_ok accepted
  exact ⟨staged, movesOn_of_stageSkippedKeys stagedOk, rfl⟩

theorem exists_stageReceive_current (drawn)
    (located : AtLevel prims lineage length ad (below + 2) ratchet)
    (key : header.dhPublic = lineage.publicKey prims (below + 1))
    (within : header.messageNumber ≤ ratchet.recvCount + maxSkip)
    (fits : header.messageNumber < 2 ^ 32) :
    ∃ pending, ratchet.stageReceive prims drawn header = .ok pending := by
  have known : ratchet.remoteDhPublic = some header.dhPublic := by
    rw [located.remote, key]
    rfl
  rw [stageReceive_of_known known located.receiving]
  obtain ⟨_, stagedOk⟩ := exists_stageSkippedKeys prims.kdf
    (prims.kdf.chainAt (lineage.seed prims (below + 1)) ratchet.recvCount)
    header.dhPublic within fits
  unfold stageMessage
  rw [stagedOk]
  exact ⟨_, rfl⟩

/-- The first chain key that a side derives with a ratchet key. -/
def derivedSeed (prims : RatchetPrimitives Secret Public Key Cipher)
    (lineage : Lineage Secret Key) (level : Nat) (remote : Public) : Key :=
  (prims.kdfRk (lineage.root prims level) (prims.diffieHellman (lineage.secret level) remote)).2

theorem stageReceive_other (located : AtLevel prims lineage length ad level ratchet)
    (new : remoteOf prims lineage level ≠ some header.dhPublic)
    (accepted : ratchet.stageReceive prims fresh header = .ok pending) :
    ∃ remaining staged, ratchet.stageRemaining prims header = .ok remaining ∧
      MovesOn prims.kdf (derivedSeed prims lineage level header.dhPublic) 0
        header.messageNumber header.dhPublic staged ∧
      pending = stagedMessage prims (some (ratchet.stageDhRatchet prims fresh header.dhPublic).1)
        remaining staged := by
  have unknown : ratchet.remoteDhPublic ≠ some header.dhPublic := by
    rw [located.remote]
    exact new
  unfold stageReceive at accepted
  rw [if_pos unknown] at accepted
  split at accepted
  · cases accepted
  next remaining remainingOk =>
  dsimp only at accepted
  obtain ⟨staged, stagedOk, rfl⟩ := stageMessage_eq_ok accepted
  refine ⟨remaining, staged, remainingOk, ?_, rfl⟩
  unfold stageDhRatchet at stagedOk
  rw [located.rootKey, located.dhSecret] at stagedOk
  exact movesOn_of_stageSkippedKeys stagedOk

theorem exists_stageReceive_other (drawn) (located : AtLevel prims lineage length ad level ratchet)
    (new : remoteOf prims lineage level ≠ some header.dhPublic) (withinBefore :
      ratchet.receivingChain.isSome → header.previousChainLength ≤ ratchet.recvCount + maxSkip)
    (within : header.messageNumber ≤ maxSkip) (fitsBefore : header.previousChainLength < 2 ^ 32)
    (fits : header.messageNumber < 2 ^ 32) :
    ∃ pending, ratchet.stageReceive prims drawn header = .ok pending := by
  have unknown : ratchet.remoteDhPublic ≠ some header.dhPublic := by
    rw [located.remote]
    exact new
  obtain ⟨_, remainingOk⟩ : ∃ _, ratchet.stageRemaining prims header = .ok _ :=
    exists_stageRemaining ratchet withinBefore fitsBefore
  unfold stageReceive
  rw [if_pos unknown, remainingOk]
  dsimp only
  unfold stageMessage
  obtain ⟨_, stagedOk⟩ := exists_stageSkippedKeys prims.kdf
    (ratchet.stageDhRatchet prims drawn header.dhPublic).2
    header.dhPublic (by omega : header.messageNumber ≤ 0 + maxSkip) fits
  rw [stagedOk]
  exact ⟨_, rfl⟩

end

/-! ## Deliveries -/

section

open DoubleRatchet

theorem aeadAd_eq (located : AtLevel prims lineage length ad level ratchet)
    (header) : ratchet.aeadAd header = ⟨ad, header⟩ := by
  rw [aeadAd, located.associatedData]

theorem remoteOf_ne_next (distinct : lineage.Distinct prims (level + 1)) :
    remoteOf prims lineage level ≠ some (lineage.publicKey prims (level + 1)) := by
  cases level with
  | zero => exact nofun
  | succ below =>
    intro same
    have equal := distinct below (below + 1 + 1) (by omega) (by omega) (Option.some.inj same)
    omega

theorem kdfRk_next (ideal : prims.Ideal) :
    prims.kdfRk (lineage.root prims level) (prims.diffieHellman (lineage.secret level)
        (lineage.publicKey prims (level + 1))) =
      (lineage.root prims (level + 1), lineage.seed prims (level + 1)) := by
  unfold publicKey
  rw [ideal.agree]
  rfl

theorem derivedSeed_next (ideal : prims.Ideal) : derivedSeed prims lineage level
      (lineage.publicKey prims (level + 1)) =
      lineage.seed prims (level + 1) := congrArg Prod.snd (kdfRk_next ideal)

theorem kdfRk_extend (fresh) : prims.kdfRk (lineage.root prims (level + 1))
      (prims.diffieHellman fresh (lineage.publicKey prims (level + 1))) =
      ((lineage.extend (level + 2) fresh).root prims (level + 2),
        (lineage.extend (level + 2) fresh).seed prims (level + 2)) := by
  have exchanged : (lineage.extend (level + 2) fresh).exchange prims (level + 1) =
    prims.diffieHellman fresh (lineage.publicKey prims (level + 1)) := by
    unfold exchange
    rw [secret_extend_self, publicKey_extend_of_ne (by omega)]
  change _ = prims.kdfRk ((lineage.extend (level + 2) fresh).root prims (level + 1))
    ((lineage.extend (level + 2) fresh).exchange prims (level + 1))
  rw [root_extend (Nat.lt_succ_self _), exchanged]

variable [DecidableEq Public]

section

variable (ideal : prims.Ideal)
include ideal

theorem not_receives_of_passed {next : DoubleRatchet Secret Public Key}
    (distinct : lineage.Distinct prims level)
    (located : AtLevel prims lineage length ad level ratchet)
    (written : WrittenAt prims lineage length ad chain entry)
    (passed : Passed length level ratchet.recvCount (chain + 1) entry.message.header.messageNumber)
    (absent : entry.message.id ∉ ratchet.skippedKeys) :
    ¬ Receives prims ratchet fresh entry.message plaintext next := by
  intro receives
  cases receives with
  | stored found => exact absent (lookup_isSome.mp (Option.isSome_iff_exists.mpr ⟨_, found⟩))
  | @derived pending _ staged opened =>
    rw [aeadAd_eq located] at opened
    refine absurd (ideal.opens_only written.sealing opened) ?_
    rcases passed with ⟨rfl, _⟩ | ⟨_, _, -⟩
    · -- The chain has moved on, so the key is a later one.
      obtain ⟨moved, moves, rfl⟩ := stageReceive_current located written.key staged
      change prims.kdf.message moved.chain ≠ _
      rw [moves.chain]
      exact fun same => absurd (ideal.keyed _ _ _ _ _ _ same).2 (by omega)
    -- The side derives a chain that nobody sends on.
    have new : remoteOf prims lineage level ≠ some entry.message.header.dhPublic := by
      rw [written.key]
      cases level with
      | zero => exact nofun
      | succ below =>
        intro same
        have equal := distinct below (chain + 1) (by omega) (by omega) (Option.some.inj same)
        omega
    obtain ⟨_, moved, -, moves, rfl⟩ := stageReceive_other located new staged
    change prims.kdf.message moved.chain ≠ _
    rw [moves.chain, written.key]
    exact keyAt_ne_of_old ideal distinct le_rfl (by omega)

theorem decrypt_of_stored (distinct : lineage.Distinct prims bound)
    (levelWithin : level ≤ bound) (located : AtLevel prims lineage length ad level ratchet)
    (accounts : Accounts prims lineage length level ratchet messages evicted)
    (written : WrittenAt prims lineage length ad chain entry) (within : chain + 1 ≤ bound)
    (stored : entry.message.id ∈ ratchet.skippedKeys) :
    ∃ next, ratchet.decrypt prims fresh entry.message = .ok (entry.plaintext, next) := by
  obtain ⟨⟨key, stamp⟩, found⟩ := Option.isSome_iff_exists.mp (lookup_isSome.mpr stored)
  obtain ⟨place, passed, idKey, rfl⟩ := accounts.stored entry.message.id key stamp found
  have same : place = chain + 1 := by
    have below := passed.below
    exact distinct place (chain + 1) (by omega) within (idKey.symm.trans written.key)
  subst same
  refine ⟨_, decrypt_eq_ok_iff.mpr (.stored found ?_)⟩
  rw [aeadAd_eq located]
  exact ideal.opens _ _ _ _ written.sealing

theorem decrypt_of_current {below : Nat}
    (located : AtLevel prims lineage length ad (below + 2) ratchet)
    (written : WrittenAt prims lineage length ad below entry)
    (absent : entry.message.id ∉ ratchet.skippedKeys)
    (ahead : ratchet.recvCount ≤ entry.message.header.messageNumber)
    (within : entry.message.header.messageNumber ≤ ratchet.recvCount + maxSkip)
    (fits : length (below + 1) < 2 ^ 32) :
    ∃ next, ratchet.decrypt prims fresh entry.message = .ok (entry.plaintext, next) := by
  obtain ⟨_, staged⟩ := exists_stageReceive_current fresh located written.key within
    (written.number.trans fits)
  refine ⟨_, decrypt_eq_ok_iff.mpr (.derived (lookup_eq_none.mpr absent) staged ?_)⟩
  obtain ⟨moved, moves, rfl⟩ := stageReceive_current located written.key staged
  change prims.aeadDecrypt (prims.kdf.message moved.chain) _ _ = _
  rw [moves.chain, Nat.max_eq_right ahead, aeadAd_eq located]
  exact ideal.opens _ _ _ _ written.sealing

theorem decrypt_of_next (distinct : lineage.Distinct prims (level + 1))
    (located : AtLevel prims lineage length ad level ratchet)
    (written : WrittenAt prims lineage length ad level entry)
    (absent : entry.message.id ∉ ratchet.skippedKeys)
    (withinBefore : ratchet.receivingChain.isSome →
      entry.message.header.previousChainLength ≤ ratchet.recvCount + maxSkip)
    (within : entry.message.header.messageNumber ≤ maxSkip)
    (fits : ∀ chain, length chain < 2 ^ 32) :
    ∃ next, ratchet.decrypt prims fresh entry.message = .ok (entry.plaintext, next) := by
  have new : remoteOf prims lineage level ≠ some entry.message.header.dhPublic := by
    rw [written.key]
    exact remoteOf_ne_next distinct
  have fitsBefore : entry.message.header.previousChainLength < 2 ^ 32 := by
    rw [written.previous]
    cases level with
    | zero => exact Nat.pow_pos (by decide)
    | succ below => exact fits below
  obtain ⟨_, staged⟩ := exists_stageReceive_other fresh located new withinBefore
    within fitsBefore (written.number.trans (fits _))
  refine ⟨_, decrypt_eq_ok_iff.mpr (.derived (lookup_eq_none.mpr absent) staged ?_)⟩
  obtain ⟨_, moved, -, moves, rfl⟩ := stageReceive_other located new staged
  change prims.aeadDecrypt (prims.kdf.message moved.chain) _ _ = _
  rw [moves.chain, written.key, derivedSeed_next ideal, Nat.zero_max, aeadAd_eq located]
  exact ideal.opens _ _ _ _ written.sealing

end

end

end BitSov.Crypto
