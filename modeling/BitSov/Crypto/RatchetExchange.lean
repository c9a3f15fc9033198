import BitSov.Crypto.RatchetDelivery

namespace BitSov.Crypto

open Ratchet DoubleRatchet Function List Lineage Side

/-!
# Steps of a dialogue

Encrypting and decrypting keep both sides on their levels of one lineage and
keep the account of the messages.
-/

variable {Secret Public Key Cipher : Type} {prims : RatchetPrimitives Secret Public Key Cipher}
  {lineage : Lineage Secret Key} {length : Nat → Nat} {ad : Bytes}
  {ratchet : DoubleRatchet Secret Public Key} {entry : SentMessage Public Cipher}

theorem mem_ids_of_mem {id : Public × Nat} {key : Key}
    {skipped : List (StagedSkippedKey Public Key)} (mem : (id, key) ∈ skipped) :
    id ∈ skipped.map Prod.fst := mem_map_of_mem mem

/-! ## A message in the current chain -/

section

variable {below : Nat} {staged : StagedChain Public Key}

theorem recvCount_stagedMessage {seed : Key} {recvCount number : Nat}
    (moves : MovesOn kdf seed recvCount number ratchetPublic staged) (ahead : recvCount ≤ number)
    (fits : number + 1 < 2 ^ 32) :
    (stagedMessage prims dhStep before staged).recvCount = number + 1 := by
  change wrap32 (staged.recvCount + 1) = _
  rw [moves.count, Nat.max_eq_right ahead, wrap32_of_lt fits]

variable (written : WrittenAt prims lineage length ad below entry)
  (moves : MovesOn prims.kdf (lineage.seed prims (below + 1)) ratchet.recvCount
    entry.message.header.messageNumber entry.message.header.dhPublic staged)
  (ahead : ratchet.recvCount ≤ entry.message.header.messageNumber)
  (fits : length (below + 1) < 2 ^ 32)
include written moves ahead fits

theorem widens_current : Widens prims lineage length (below + 2) (below + 2) ratchet
    entry.message (stagedMessage prims none [] staged) := by
  have count : (stagedMessage prims none [] staged).recvCount =
    entry.message.header.messageNumber + 1 := by
    have number := written.number
    exact recvCount_stagedMessage moves ahead (by omega)
  refine ⟨?_, ?_, ?_, ?_, ?_⟩
  · change ([] ++ staged.skipped).length ≤ _
    rw [nil_append]
    exact moves.length.trans (by decide)
  · rintro chain number (⟨same, behind⟩ | closed)
    · exact .inl ⟨same, by omega⟩
    · exact .inr closed
  · rintro chain number (⟨same, behind⟩ | closed)
    · have chainSame : chain = below + 1 := by omega
      subst chainSame
      rw [count] at behind
      rcases Nat.lt_or_ge number ratchet.recvCount with old | later
      · exact .inl (.inl ⟨rfl, old⟩)
      right
      rcases Nat.lt_or_eq_of_le (Nat.le_of_lt_succ behind) with
        passedOver | rfl
      · left
        exact mem_ids_of_mem
          ((moves.skipped (_, number) _).mpr ⟨written.key.symm, later, passedOver, rfl⟩)
      · right
        exact Prod.ext written.key.symm rfl
    · exact .inl (.inr closed)
  · intro id key mem
    obtain ⟨idKey, _, before, keySame⟩ := (moves.skipped id key).mp mem
    refine ⟨?_, below + 1, .inl ⟨rfl, by omega⟩, ?_, idKey.trans written.key, keySame⟩
    · rintro rfl
      exact absurd before (Nat.lt_irrefl _)
    · rintro (⟨-, behind⟩ | ⟨closed, -⟩) <;> omega
  · refine ⟨below + 1, .inl ⟨rfl, ?_⟩, written.key⟩
    rw [count]
    exact Nat.lt_succ_self _

theorem AtLevel.commit_current [DecidableEq Public]
    (located : AtLevel prims lineage length ad (below + 2) ratchet) :
    AtLevel prims lineage length ad (below + 2)
      (ratchet.commitReceive (stagedMessage prims none [] staged)) := by
  have number := written.number
  have count : (stagedMessage prims none [] staged).recvCount =
    entry.message.header.messageNumber + 1 :=
    recvCount_stagedMessage moves ahead (by omega)
  have chain : (stagedMessage prims none [] staged).receivingChain =
    prims.kdf.chainAt (lineage.seed prims (below + 1))
      (entry.message.header.messageNumber + 1) := by
    change prims.kdf.next staged.chain = _
    rw [moves.chain, Nat.max_eq_right ahead, ChainKdf.chainAt_succ]
  exact
    { located with
      receiving := by
        change some (stagedMessage prims none [] staged).receivingChain = receivingOf prims lineage
              (stagedMessage prims none [] staged).recvCount (below + 2)
        rw [chain, count]
        rfl
      received := by
        change (stagedMessage prims none [] staged).recvCount ≤ _
        rw [count]
        exact number }

end

/-! ## A message that starts the next chain -/

section

theorem widens_next (silent : length 0 = 0) (distinct : lineage.Distinct prims (level + 1))
    (located : AtLevel prims lineage length ad level ratchet)
    (written : WrittenAt prims lineage length ad level entry)
    (remainingOk : ratchet.stageRemaining prims entry.message.header = .ok remaining)
    (moves : MovesOn prims.kdf (lineage.seed prims (level + 1)) 0
      entry.message.header.messageNumber entry.message.header.dhPublic
      staged) (fits : length (level + 1) < 2 ^ 32) :
    Widens prims lineage length level (level + 2) ratchet
      entry.message (stagedMessage prims dhStep remaining staged) := by
  have number := written.number
  have count : (stagedMessage prims dhStep remaining staged).recvCount =
    entry.message.header.messageNumber + 1 :=
    recvCount_stagedMessage moves (Nat.zero_le _) (by omega)
  have previous := written.previous
  have received := located.received
  obtain ⟨remainingLength, mem_remaining⟩ := mem_stageRemaining_iff located remainingOk
  refine ⟨?_, ?_, ?_, ?_, ?_⟩
  · change (remaining ++ staged.skipped).length ≤ _
    rw [length_append]
    have skippedLength := moves.length
    unfold maxSkip at remainingLength skippedLength
    unfold maxTotalSkippedKeys
    omega
  · rintro chain place (⟨rfl, behind⟩ | ⟨_, _, within⟩)
    · refine .inr ⟨by omega, by omega, ?_⟩
      change ratchet.recvCount ≤ length chain at received
      omega
    · exact .inr ⟨by omega, by omega, within⟩
  · rintro chain place (⟨_, behind⟩ | ⟨_, _, within⟩)
    · have chainSame : chain = level + 1 := by omega
      subst chainSame
      rw [count] at behind
      right
      rcases Nat.lt_or_eq_of_le (Nat.le_of_lt_succ behind) with
        passedOver | rfl
      · left
        exact mem_ids_of_mem (mem_append_right _
          ((moves.skipped (_, place) _).mpr ⟨written.key.symm, Nat.zero_le _, passedOver, rfl⟩))
      · exact .inr (Prod.ext written.key.symm rfl)
    · rcases Nat.lt_or_ge level (chain + 3) with _ | before
      · have levelSame : level = chain + 1 := by omega
        subst levelSame
        rcases Nat.lt_or_ge place ratchet.recvCount with old | later
        · exact .inl (.inl ⟨rfl, old⟩)
        -- The rest of the chain that is left behind.
        cases chain with
        | zero => omega
        | succ below =>
          rw [← show previousOf length (below + 1 + 1 + 1) =
            length (below + 1) from rfl, ← previous] at within
          right
          left
          exact mem_ids_of_mem (mem_append_left _
            ((mem_remaining (_, place) _).mpr ⟨below, rfl, rfl, later, within, rfl⟩))
      · exact .inl (.inr ⟨before, by omega, within⟩)
  · intro id key mem
    rcases mem_append.mp mem with old | new
    · obtain ⟨below, rfl, idKey, _, before, keySame⟩ := (mem_remaining id key).mp old
      rw [previous] at before
      refine ⟨?_, below + 1, .inr ⟨by omega, by omega, before⟩, ?_, idKey, keySame⟩
      · rintro rfl
        have equal := distinct (below + 1) (below + 2 + 1) (by omega) le_rfl
          (idKey.symm.trans written.key)
        omega
      · rintro (⟨-, behind⟩ | ⟨_, -⟩) <;> omega
    · obtain ⟨idKey, -, before, keySame⟩ := (moves.skipped id key).mp new
      refine ⟨?_, level + 1, .inl ⟨rfl, by omega⟩, ?_, idKey.trans written.key, keySame⟩
      · rintro rfl
        exact absurd before (Nat.lt_irrefl _)
      intro passed
      have chainBelow := passed.below
      omega
  · refine ⟨level + 1, .inl ⟨rfl, ?_⟩, written.key⟩
    rw [count]
    exact Nat.lt_succ_self _

/-- A side that reads a message of the next chain goes on by two levels. -/
theorem AtLevel.commit_next [DecidableEq Public] (ideal : prims.Ideal)
    (located : AtLevel prims lineage length ad level ratchet)
    (written : WrittenAt prims lineage length ad level entry)
    (moves : MovesOn prims.kdf (lineage.seed prims (level + 1)) 0
      entry.message.header.messageNumber entry.message.header.dhPublic staged)
    (unsent : length (level + 2) = 0) (fits : length (level + 1) < 2 ^ 32) :
    AtLevel prims (lineage.extend (level + 2) fresh) length ad (level + 2)
      (ratchet.commitReceive (stagedMessage prims (some
        (ratchet.stageDhRatchet prims fresh entry.message.header.dhPublic).1)
        remaining staged)) := by
  have number := written.number
  have received : prims.kdfRk ratchet.rootKey (prims.diffieHellman ratchet.dhSecret
    entry.message.header.dhPublic) =
    (lineage.root prims (level + 1), lineage.seed prims (level + 1)) := by
    rw [located.rootKey, located.dhSecret, written.key]
    exact kdfRk_next ideal
  have sending : prims.kdfRk (prims.kdfRk ratchet.rootKey
    (prims.diffieHellman ratchet.dhSecret entry.message.header.dhPublic)).1
    (prims.diffieHellman fresh entry.message.header.dhPublic) =
    ((lineage.extend (level + 2) fresh).root prims (level + 2),
      (lineage.extend (level + 2) fresh).seed prims (level + 2)) := by
    rw [received, written.key]
    exact kdfRk_extend fresh
  have count : wrap32 (staged.recvCount + 1) = entry.message.header.messageNumber + 1 := by
    rw [moves.count, Nat.zero_max, wrap32_of_lt (by omega)]
  exact
    { dhSecret := (secret_extend_self _ _).symm
      dhPublic := congrArg prims.publicKey (secret_extend_self _ _).symm
      remote := by
        change some entry.message.header.dhPublic = some _
        rw [written.key, publicKey_extend_of_ne (by omega)]
      rootKey := congrArg Prod.fst sending
      sending := by
        change some (Prod.snd _) = some _
        rw [unsent]
        exact congrArg (fun keys => some (Prod.snd keys)) sending
      sendCount := unsent.symm
      previous := located.sendCount
      receiving := by
        change some (prims.kdf.next staged.chain) =
            receivingOf prims _ (wrap32 (staged.recvCount + 1)) _
        rw [count, moves.chain, Nat.zero_max, receivingOf,
          seed_extend (Nat.lt_succ_self _), ChainKdf.chainAt_succ]
      received := by
        change wrap32 (staged.recvCount + 1) ≤ length (level + 1)
        rw [count]
        exact number
      associatedData := located.associatedData }

end

/-! ## A message that is sent -/

section

variable {longer : Nat → Nat}

/-- One more message on a level. -/
structure Lengthens (length longer : Nat → Nat) (place : Nat) : Prop where
  own : longer place = length place + 1
  others : ∀ other, other ≠ place → longer other = length other

theorem lengthens_update (length place) :
    Lengthens length (update length place (length place + 1)) place where
  own := update_self _ _ _
  others _ different := update_of_ne different _ _

theorem Lengthens.more (lengthens : Lengthens length longer place) (other) :
    length other ≤ longer other := by
  by_cases same : other = place
  · rw [same, lengthens.own]
    exact Nat.le_succ _
  · rw [lengthens.others other same]

theorem Lengthens.previousOf_eq {place other : Nat} (lengthens : Lengthens length longer place)
    (near : other ≤ place + 1) : previousOf longer other = previousOf length other := by
  match other with
  | 0 | 1 => rfl
  | other + 2 => exact lengthens.others other (by omega)

theorem Lengthens.sentBefore_le (lengthens : Lengthens length longer place) (other) :
    sentBefore length other ≤ sentBefore longer other := by
  cases other with
  | zero => exact le_rfl
  | succ other => exact lengthens.more other

theorem AtLevel.encrypted {level below : Nat}
    (located : AtLevel prims lineage length ad level ratchet) (known : level = below + 1)
    (lengthens : Lengthens length longer level) (numbered : ratchet.sendCount + 1 < 2 ^ 32) :
    AtLevel prims lineage longer ad level
      { ratchet with
        sendingChain := some (prims.kdf.next (prims.kdf.chainAt (lineage.seed prims (below + 1))
                (length (below + 1))))
        sendCount := wrap32 (ratchet.sendCount + 1) } :=
  { located with
    sending := by
      subst known
      rw [sendingOf, lengthens.own, ChainKdf.chainAt_succ]
    sendCount := by
      rw [wrap32_of_lt numbered, located.sendCount, lengthens.own]
    previous := located.previous.trans (lengthens.previousOf_eq (Nat.le_succ _)).symm
    received := located.received.trans (lengthens.sentBefore_le _) }

end

/-! ## Sound dialogues -/

namespace Dialogue

variable [DecidableEq Public] {level : Side → Nat} {dialogue : Dialogue Secret Public Key Cipher}

/-- The lineage of two sides that have not sent anything. -/
def firstLineage (sharedSecret : Key) (responderSecret initiatorSecret : Secret) :
    Lineage Secret Key where
  sharedSecret
  secret place := if place = 0 then responderSecret else initiatorSecret

theorem accounts_empty {level : Nat} {ratchet : DoubleRatchet Secret Public Key}
    {evicted : Set (Public × Nat)} (noKeys : ratchet.skippedKeys = ∅)
    (notReceived : ratchet.recvCount = 0) : Accounts prims lineage (fun _ => 0) level ratchet
      ([] : List (RatchetMessage Public Cipher)) evicted where
  stored id key stamp found := by
    rw [noKeys, AList.lookup_empty] at found
    cases found
  unstored := nofun
  read := nofun
  passed chain number passed := by
    rw [notReceived] at passed
    rcases passed with ⟨-, behind⟩ | ⟨-, -, within⟩
    · exact absurd behind (Nat.not_lt_zero _)
    · exact absurd within (Nat.not_lt_zero _)

theorem sound_start {sharedSecret : Key} {responderSecret initiatorSecret : Secret}
    (ne : prims.publicKey responderSecret ≠ prims.publicKey initiatorSecret) :
    Dialogue.Sound prims (firstLineage sharedSecret responderSecret initiatorSecret)
      (fun _ => 0) ad turn (start prims sharedSecret ad responderSecret initiatorSecret) where
  turns side := by cases side <;> rfl
  apart side := by cases side <;> simp [turn, other]
  secrets := by
    refine ⟨1, fun side => by cases side <;> decide, ⟨.initiator, rfl⟩, rfl, ?_⟩
    intro first second _ _ same
    have firstPlace : first = 0 ∨ first = 1 := by omega
    have secondPlace : second = 0 ∨ second = 1 := by omega
    rcases firstPlace with rfl | rfl <;> rcases secondPlace with rfl | rfl
    · rfl
    · exact absurd same ne
    · exact absurd same.symm ne
    · rfl
  fits _ := Nat.pow_pos (by decide)
  silent := rfl
  unsent _ _ := rfl
  party side := by
    cases side with
    | initiator | responder => exact ⟨rfl, rfl, rfl, rfl, rfl, rfl, rfl, rfl, le_rfl, rfl⟩
  store side := by
    cases side <;> exact ⟨Nat.zero_le _, Stamped.sound_empty⟩
  written := nofun
  once := nofun
  readSent := nofun
  accounts side := by
    cases side <;> exact accounts_empty rfl rfl

theorem Sound.place (sound : dialogue.Sound prims lineage length ad level)
    (mem : entry ∈ dialogue.sent) :
    ∃ chain, chain + 1 ≤ level entry.sender ∧ WrittenAt prims lineage length ad chain entry ∧
      (chain = level entry.sender.other ∨ chain + 2 = level entry.sender.other ∨
        chain + 4 ≤ level entry.sender.other ∧ (chain + 1) % 2 ≠ level entry.sender.other % 2) := by
  obtain ⟨chain, within, _, written⟩ := sound.written entry mem
  refine ⟨chain, within, written, ?_⟩
  have apart := sound.apart entry.sender
  omega

theorem Sound.exists_below (sound : dialogue.Sound prims lineage length ad level)
    (found : (dialogue.party side).sendingChain = some chain) :
    ∃ below, level side = below + 1 ∧ chain = prims.kdf.chainAt (lineage.seed prims (below + 1))
        (length (below + 1)) := by
  have sending := (sound.party side).sending
  cases known : level side with
  | zero =>
    rw [known, found] at sending
    cases sending
  | succ below =>
    rw [known, found] at sending
    exact ⟨below, rfl, Option.some.inj sending⟩

/-- Encrypting adds one message to the chain of the side's level. -/
theorem Sound.wrote {next : DoubleRatchet Secret Public Key}
    (sound : dialogue.Sound prims lineage length ad level)
    (lengthens : Lengthens length longer (level side))
    (numbered : (dialogue.party side).sendCount + 1 < 2 ^ 32)
    (encrypted : (dialogue.party side).encrypt prims plain = .ok (message, next)) :
    (dialogue.wrote side message plain next).Sound prims lineage longer ad level := by
  obtain ⟨_, found, sealing, header, rfl⟩ := encrypt_eq_ok encrypted
  obtain ⟨below, known, rfl⟩ := sound.exists_below found
  have located := sound.party side
  have apart := sound.apart side
  have number : message.header.messageNumber = length (level side) := by
    rw [header]
    exact located.sendCount
  have key : message.header.dhPublic = lineage.publicKey prims (below + 1) := by
    rw [header, ← known]
    exact located.dhPublic
  have near : ∀ other, level other ≤ level side + 1 := by
    intro other
    rcases side.eq_or_eq_other other with rfl | rfl <;> omega
  have newWritten : WrittenAt prims lineage longer ad below ⟨side, message, plain⟩ := by
    refine ⟨key, ?_, ?_, ?_⟩
    · rw [← known, lengthens.own, number]
      exact Nat.lt_succ_self _
    · rw [← known, lengthens.previousOf_eq (Nat.le_succ _)]
      change message.header.previousChainLength = _
      rw [header]
      exact located.previous
    rw [number, known]
    rw [aeadAd_eq located] at sealing
    exact sealing
  refine
    { sound with
      fits := ?fits, silent := ?silent, unsent := ?unsent, party := ?party, store := ?store,
      written := ?written, once := ?once, readSent := ?readSent, accounts := ?accounts }
  case fits =>
    intro place
    by_cases same : place = level side
    · rw [same, lengthens.own, ← located.sendCount]
      exact numbered
    · rw [lengthens.others place same]
      exact sound.fits place
  case silent =>
    rw [lengthens.others 0 (by omega)]
    exact sound.silent
  case unsent =>
    intro place above
    have aboveSide := above side
    rw [lengthens.others place (by omega)]
    exact sound.unsent place above
  case party =>
    refine (forall_update_iff dialogue.party fun other =>
      AtLevel prims lineage longer ad (level other)).mpr ⟨?_, fun other ne => ?_⟩
    · exact located.encrypted known lengthens numbered
    obtain rfl := (side.eq_or_eq_other other).resolve_left ne
    exact (sound.party side.other).grow (lengthens.others _ (by omega))
      (lengthens.previousOf_eq (near side.other)) (lengthens.sentBefore_le _)
  case store =>
    refine (forall_update_iff dialogue.party fun _ => StoreSound).mpr
      ⟨?_, fun other _ => sound.store other⟩
    exact ⟨(sound.store side).bounded, (sound.store side).stamped⟩
  case written =>
    intro entry mem
    rcases mem_append.mp mem with old | only
    · obtain ⟨place, within, turn, written⟩ := sound.written entry old
      have nearSender := near entry.sender
      exact ⟨place, within, turn, written.grow (lengthens.more _)
        (lengthens.previousOf_eq (by omega))⟩
    · rw [mem_singleton.mp only]
      exact ⟨below, known.ge, congrArg (· % 2) known.symm, newWritten⟩
  case once =>
    have unlike : ∀ entry ∈ dialogue.sent, entry.message.id ≠ message.id := by
      intro entry mem same
      obtain ⟨place, within, -, written⟩ := sound.written entry mem
      obtain ⟨_, below', -, -, distinct⟩ := sound.secrets
      have senderBelow := below' entry.sender
      have sideBelow := below' side
      have samePlace : place + 1 = below + 1 := distinct _ _ (by omega) (by omega)
        (written.key.symm.trans ((congrArg Prod.fst same).trans key))
      have sameNumber : entry.message.header.messageNumber = length (level side) :=
        (congrArg Prod.snd same).trans number
      have behind := written.number
      rw [samePlace, ← known] at behind
      omega
    intro first firstMem second secondMem same
    rcases mem_append.mp firstMem with firstFormer | firstOnly
    · rcases mem_append.mp secondMem with secondFormer | secondOnly
      · exact sound.once first firstFormer second secondFormer same
      · rw [mem_singleton.mp secondOnly] at same
        exact absurd same (unlike first firstFormer)
    rw [mem_singleton.mp firstOnly] at same ⊢
    rcases mem_append.mp secondMem with secondFormer | secondOnly
    · exact absurd same.symm (unlike second secondFormer)
    · exact (mem_singleton.mp secondOnly).symm
  case readSent =>
    intro other read mem
    obtain ⟨entry, sentMem, rest⟩ := sound.readSent other read mem
    exact ⟨entry, mem_append_left _ sentMem, rest⟩
  case accounts =>
    have grown (other : Side) : Accounts prims lineage longer (level other) (dialogue.party other)
      (dialogue.read other) (dialogue.evicted other) := by
      refine (sound.accounts other).grow fun closed _ _ => ?_
      have nearAnother := near other
      exact lengthens.others closed (by omega)
    exact (forall_update_iff dialogue.party fun other session => Accounts prims lineage longer
      (level other) session (dialogue.read other) (dialogue.evicted other)).mpr
      ⟨(grown side).congr rfl rfl, fun other _ => grown other⟩

section

variable {message : RatchetMessage Public Cipher} {fresh : Secret}
  {next : DoubleRatchet Secret Public Key}

theorem Sound.readSent_took (sound : dialogue.Sound prims lineage length ad level)
    (mem : entry ∈ dialogue.sent) (other)
    (read : message ∈ (dialogue.took entry.sender.other entry.message fresh next).read other) :
    ∃ origin ∈ dialogue.sent, origin.sender = other.other ∧ origin.message = message := by
  change message ∈ update dialogue.read _ _ other at read
  rcases entry.sender.other.eq_or_eq_other other with rfl | rfl
  · rw [update_self] at read
    rcases mem_append.mp read with old | only
    · exact sound.readSent _ message old
    · rw [mem_singleton.mp only]
      exact ⟨entry, mem, (other_other _).symm, rfl⟩
  · rw [update_of_ne (other_ne _)] at read
    exact sound.readSent _ message read

/-- What holds of the side that took a message and of the other one as it was. -/
theorem forall_took (holds : Side → DoubleRatchet Secret Public Key →
      List (RatchetMessage Public Cipher) → Set (Public × Nat) → Prop)
    (own : holds side next (dialogue.read side ++ [message])
      (dialogue.evicted side ∪ lost (dialogue.party side) next message))
    (others : ∀ another, another ≠ side →
      holds another (dialogue.party another) (dialogue.read another) (dialogue.evicted another)) :
    let took := dialogue.took side message fresh next
    ∀ another, holds another (took.party another) (took.read another) (took.evicted another) := by
  intro took another
  obtain rfl | ne := eq_or_ne another side
  · simpa only [took, Dialogue.took, update_self] using own
  · simpa only [took, Dialogue.took, update_of_ne ne] using others another ne

section

variable (sound : dialogue.Sound prims lineage length ad level)
include sound

theorem Sound.distinct (side) : lineage.Distinct prims (level side) := by
  obtain ⟨_, below, -, -, distinct⟩ := sound.secrets
  have within := below side
  intro first second _ _ same
  exact distinct first second (by omega) (by omega) same

theorem Sound.distinct_extend (ahead : level sender = level sender.other + 1)
    (new : dialogue.New prims fresh) :
    (lineage.extend (level sender.other + 2) fresh).Distinct prims (level sender.other + 2) := by
  have distinct := sound.distinct sender
  rw [ahead] at distinct
  refine distinct.extend fun _ _ => new _ ?_
  obtain ⟨_, below, -, listed, -⟩ := sound.secrets
  have senderBelow := below sender
  rw [listed]
  exact mem_map_of_mem (mem_range.mpr (by omega))

/-- A delivery that leaves its side on its level. -/
theorem Sound.took_level (mem : entry ∈ dialogue.sent)
    (located : AtLevel prims lineage length ad (level entry.sender.other) next)
    (store : next.StoreSound)
    (accounts : Accounts prims lineage length (level entry.sender.other) next
      (dialogue.read entry.sender.other ++ [entry.message]) (dialogue.evicted entry.sender.other ∪
        lost (dialogue.party entry.sender.other) next entry.message)) :
    (dialogue.took entry.sender.other entry.message fresh next).Sound
      prims lineage length ad level :=
  { sound with
    secrets := by
      have same := located.remote.trans (sound.party _).remote.symm
      obtain ⟨top, below, reached, listed, distinct⟩ := sound.secrets
      exact ⟨top, below, reached, (if_pos same).trans listed, distinct⟩
    party := forall_took (fun another session _ _ => AtLevel _ _ _ _ (level another) session)
      located fun _ _ => sound.party _
    store := forall_took (fun _ session _ _ => session.StoreSound) store fun _ _ => sound.store _
    readSent another _ read := sound.readSent_took mem another read
    accounts := forall_took (fun another => Accounts _ _ _ (level another)) accounts
      fun _ _ => sound.accounts _ }

/-- A delivery that takes its side to the next level but one. -/
theorem Sound.took_next (mem : entry ∈ dialogue.sent)
    (ahead : level entry.sender = level entry.sender.other + 1) (new : dialogue.New prims fresh)
    (located : AtLevel prims (lineage.extend (level entry.sender.other + 2) fresh) length
      ad (level entry.sender.other + 2) next) (store : next.StoreSound)
    (accounts : Accounts prims (lineage.extend (level entry.sender.other + 2) fresh) length
      (level entry.sender.other + 2) next (dialogue.read entry.sender.other ++ [entry.message])
      (dialogue.evicted entry.sender.other ∪
        lost (dialogue.party entry.sender.other) next entry.message)) :
    (dialogue.took entry.sender.other entry.message fresh next).Sound
      prims (lineage.extend (level entry.sender.other + 2) fresh) length ad
      (update level entry.sender.other (level entry.sender.other + 2)) := by
  have apart : entry.sender ≠ entry.sender.other := (other_ne entry.sender).symm
  obtain ⟨top, below, ⟨highest, _⟩, listed, distinct⟩ := sound.secrets
  obtain rfl : top = level entry.sender.other + 1 := by
    have senderBelow := below entry.sender
    rcases entry.sender.eq_or_eq_other highest with rfl | rfl <;> omega
  have unlike : next.remoteDhPublic ≠ (dialogue.party entry.sender.other).remoteDhPublic := by
    rw [located.remote, (sound.party _).remote]
    change some _ ≠ _
    rw [publicKey_extend_of_ne (by omega)]
    exact (remoteOf_ne_next distinct).symm
  refine
    { sound with
      turns := ?turns
      apart := ?apart
      secrets := ?secrets
      unsent := ?unsent
      party := ?party
      store := ?store
      written := ?written
      readSent := fun other _ read =>
        sound.readSent_took mem other read
      accounts := ?accounts }
  case turns =>
    intro other
    rcases entry.sender.eq_or_eq_other other with rfl | rfl
    · rw [update_of_ne apart]
      exact sound.turns _
    · rw [update_self, Nat.add_mod_right]
      exact sound.turns _
  case apart =>
    intro other
    rcases entry.sender.eq_or_eq_other other with rfl | rfl
    · rw [update_of_ne apart, update_self]
      omega
    · rw [other_other, update_of_ne apart, update_self]
      omega
  case secrets =>
    refine ⟨level entry.sender.other + 2, ?_, ⟨entry.sender.other, update_self _ _ _⟩, ?_, ?_⟩
    · intro other
      rcases entry.sender.eq_or_eq_other other with rfl | rfl
      · rw [update_of_ne apart]
        omega
      · rw [update_self]
    · have split : range (level entry.sender.other + 2 + 1) =
        range (level entry.sender.other + 2) ++ [level entry.sender.other + 2] :=
        range_succ
      refine (if_neg unlike).trans ?_
      rw [listed, split, map_append, map_singleton, secret_extend_self]
      refine congrArg (· ++ [fresh]) (map_congr_left ?_)
      intro place mem
      have within := mem_range.mp mem
      rw [secret_extend_of_ne (by omega)]
    · exact sound.distinct_extend ahead new
  case unsent =>
    intro place above
    refine sound.unsent place fun other => ?_
    have aboveAnother := above other
    rcases entry.sender.eq_or_eq_other other with rfl | rfl
    · rwa [update_of_ne apart] at aboveAnother
    · rw [update_self] at aboveAnother
      omega
  case party =>
    refine forall_took (fun another session _ _ =>
      AtLevel _ _ _ _ (update level _ _ another) session) ?_ fun another ne => ?_
    · rw [update_self]
      exact located
    obtain rfl := (entry.sender.eq_or_eq_other another).resolve_right ne
    rw [update_of_ne apart]
    exact (sound.party _).extend (by omega) fresh
  case store =>
    exact forall_took (fun _ session _ _ => session.StoreSound) store fun _ _ => sound.store _
  case written =>
    intro other anotherMember
    obtain ⟨chain, within, turn, written⟩ := sound.written other anotherMember
    have bounded := below other.sender
    refine ⟨chain, ?_, ?_, written.extend (by omega) fresh⟩
    · rcases entry.sender.eq_or_eq_other other.sender with same | same
      · rw [same, update_of_ne apart, ← same]
        exact within
      · rw [same, update_self, ← same]
        omega
    rcases entry.sender.eq_or_eq_other other.sender with same | same
    · rw [same, update_of_ne apart, ← same]
      exact turn
    · rw [same, update_self, Nat.add_mod_right, ← same]
      exact turn
  case accounts =>
    refine forall_took (fun another => Accounts _ _ _ (update level _ _ another)) ?_
      fun another ne => ?_
    · rw [update_self]
      exact accounts
    obtain rfl := (entry.sender.eq_or_eq_other another).resolve_right ne
    rw [update_of_ne apart]
    exact (sound.accounts _).extend (by omega) fresh

theorem Sound.ahead (written : WrittenAt prims lineage length ad chain entry)
    (same : chain = level entry.sender.other) :
    level entry.sender = level entry.sender.other + 1 := by
  rcases sound.apart entry.sender with ahead | _
  · exact ahead
  have nothing : length (chain + 1) = 0 := by
    refine sound.unsent (chain + 1) fun other => ?_
    rcases entry.sender.eq_or_eq_other other with rfl | rfl <;> omega
  have number := written.number
  omega

end

/-- A message that is decrypted keeps the dialogue sound. -/
theorem Sound.took (ideal : prims.Ideal) (sound : dialogue.Sound prims lineage length ad level)
    (mem : entry ∈ dialogue.sent) (new : dialogue.New prims fresh)
    (decrypted : (dialogue.party entry.sender.other).decrypt prims fresh entry.message =
      .ok (plain, next)) :
    ∃ laterLineage laterLevel, (dialogue.took entry.sender.other entry.message fresh next).Sound
      prims laterLineage length ad laterLevel := by
  have located := sound.party entry.sender.other
  have store := sound.store entry.sender.other
  have accounts := sound.accounts entry.sender.other
  have receives := decrypt_eq_ok_iff.mp decrypted
  cases receives with
  | stored found =>
    have stored := AList.lookup_isSome.mp (Option.isSome_iff_exists.mpr ⟨_, found⟩)
    refine ⟨lineage, level, sound.took_level mem ?_ ?_ ?_⟩
    · exact ⟨located.dhSecret, located.dhPublic, located.remote,
        located.rootKey, located.sending, located.sendCount,
        located.previous, located.receiving, located.received,
        located.associatedData⟩
    · refine ⟨?_, store.stamped.erase _⟩
      exact (Stamped.entries_erase_sublist _ _).length_le.trans store.bounded
    · exact accounts.take stored Set.subset_union_left
  | @derived pending absent staged =>
    have unstored := AList.lookup_eq_none.mp absent
    obtain ⟨chain, -, written, next | current | _⟩ := sound.place mem
    · have ahead := sound.ahead written next
      subst next
      have distinct := ahead ▸ sound.distinct _
      have unknown : remoteOf prims lineage (level entry.sender.other) ≠
        some entry.message.header.dhPublic := by
        rw [written.key]
        exact remoteOf_ne_next distinct
      obtain ⟨_, moved, remainingOk, moves, rfl⟩ := stageReceive_other located unknown staged
      rw [written.key, derivedSeed_next ideal, ← written.key] at moves
      have fits := sound.fits (level entry.sender.other + 1)
      have unsent : length (level entry.sender.other + 2) = 0 := by
        refine sound.unsent _ fun other => ?_
        rcases entry.sender.eq_or_eq_other other with rfl | rfl <;> omega
      have distinctLater := sound.distinct_extend ahead new
      have movesLater : MovesOn prims.kdf
        ((lineage.extend (level entry.sender.other + 2) fresh).seed
          prims (level entry.sender.other + 1))
        0 entry.message.header.messageNumber
        entry.message.header.dhPublic moved := by
        rw [seed_extend (Nat.lt_succ_self _)]
        exact moves
      refine ⟨_, _, sound.took_next mem ahead new
        (located.commit_next ideal written moves unsent fits)
        (store.commitReceive _) ?_⟩
      exact (accounts.extend (by omega) fresh).commit store distinctLater unstored
        (widens_next sound.silent (distinctLater.mono (Nat.le_succ _))
          (located.extend (by omega) fresh)
          (written.extend (by omega) fresh) remainingOk movesLater fits)
    · have here := current ▸ located
      have ahead : (dialogue.party entry.sender.other).recvCount ≤
        entry.message.header.messageNumber := by
        by_contra behind
        refine absurd (decrypt_eq_ok_iff.mp decrypted) ?_
        exact not_receives_of_passed ideal (sound.distinct _) located written
          (.inl ⟨by omega, by omega⟩) unstored
      obtain ⟨moved, moves, rfl⟩ := stageReceive_current here written.key staged
      have fits := sound.fits (chain + 1)
      refine ⟨lineage, level, sound.took_level mem ?_ (store.commitReceive _) ?_⟩
      · rw [← current]
        exact here.commit_current written moves ahead fits
      refine accounts.commit store (sound.distinct _) unstored ?_
      rw [← current]
      exact widens_current written moves ahead fits
    · refine absurd (decrypt_eq_ok_iff.mp decrypted) ?_
      exact not_receives_of_passed ideal (sound.distinct _) located written
        (.inr ⟨by omega, by omega, written.number⟩) unstored

end

end Dialogue

end BitSov.Crypto
