import BitSov.Crypto.RatchetExchange

namespace BitSov.Crypto

open Ratchet DoubleRatchet RatchetTerm List Stamped

/-!
# Every message is read once

In every dialogue that can be reached, a delivery gives the plaintext of a
message that was not read yet, and an error for one that was.  The counters
have to suffice: beyond the last number of a chain a message is taken for one
that has long been passed.
-/

namespace Dialogue

variable {Secret Public Key Cipher : Type} [DecidableEq Public]
  {prims : RatchetPrimitives Secret Public Key Cipher} {length : Nat → Nat} {ad : Bytes}
  {entry : SentMessage Public Cipher} {dialogue : Dialogue Secret Public Key Cipher}

theorem exists_sound_of_reached (ideal : prims.Ideal)
    (reached : Reached prims (fun number => number + 1 < 2 ^ 32) sharedSecret ad dialogue) :
    ∃ lineage length level, dialogue.Sound prims lineage length ad level := by
  induction reached with
  | start ne => exact ⟨_, _, _, sound_start ne⟩
  | @encrypt dialogue side _ _ _ _ numbered encrypted ih =>
    obtain ⟨lineage, length, level, sound⟩ := ih
    exact ⟨lineage, _, level, sound.wrote (lengthens_update length (level side)) numbered encrypted⟩
  | deliver _ mem new decrypted ih =>
    obtain ⟨lineage, length, level, sound⟩ := ih
    obtain ⟨later, laterLevel, soundLater⟩ := sound.took ideal mem new decrypted
    exact ⟨later, length, laterLevel, soundLater⟩

/-- The messages that are passed over are not more than may be skipped. -/
structure WithinReach (ratchet : DoubleRatchet Secret Public Key) (header : MessageHeader Public) :
    Prop where
  current : ratchet.remoteDhPublic = some header.dhPublic →
    header.messageNumber ≤ ratchet.recvCount + maxSkip
  next :
    ratchet.remoteDhPublic ≠ some header.dhPublic →
      header.messageNumber ≤ maxSkip ∧
        (ratchet.receivingChain.isSome → header.previousChainLength ≤ ratchet.recvCount + maxSkip)

/-- The side has read of this chain and has gone on to another one. -/
def LeftBehind (dialogue : Dialogue Secret Public Key Cipher) (side : Side)
    (header : MessageHeader Public) : Prop :=
  (dialogue.party side).remoteDhPublic ≠ some header.dhPublic ∧
    ∃ message ∈ dialogue.read side, message.header.dhPublic = header.dhPublic

variable {chain : Nat}

theorem Sound.passed_of_read {message : RatchetMessage Public Cipher}
    (sound : dialogue.Sound prims lineage length ad level)
    (written : WrittenAt prims lineage length ad chain entry)
    (within : chain + 1 ≤ level entry.sender) (read : message ∈ dialogue.read entry.sender.other)
    (same : message.header.dhPublic = entry.message.header.dhPublic) :
    Passed length (level entry.sender.other)
      (dialogue.party entry.sender.other).recvCount (chain + 1) message.header.messageNumber := by
  obtain ⟨place, passed, idKey⟩ := (sound.accounts entry.sender.other).read message read
  obtain ⟨_, below, -, -, distinct⟩ := sound.secrets
  have senderBelow := below entry.sender
  have otherBelow := below entry.sender.other
  have placeBelow := passed.below
  have equal := distinct place (chain + 1) (by omega) (by omega)
    (idKey.symm.trans (same.trans written.key))
  exact equal ▸ passed

theorem Sound.evicted_or_read
    (sound : dialogue.Sound prims lineage length ad level) (mem : entry ∈ dialogue.sent)
    (written : WrittenAt prims lineage length ad chain entry)
    (passed : Passed length (level entry.sender.other)
      (dialogue.party entry.sender.other).recvCount (chain + 1) entry.message.header.messageNumber)
    (unstored : entry.message.id ∉ (dialogue.party entry.sender.other).skippedKeys) :
    entry.message.id ∈ dialogue.evicted entry.sender.other ∨
      entry.message ∈ dialogue.read entry.sender.other := by
  have placed := (sound.accounts entry.sender.other).passed (chain + 1) _ passed
  rw [← written.key] at placed
  rcases placed with stored | evicted | read
  · exact absurd stored unstored
  · exact .inl evicted
  right
  obtain ⟨message, readMem, same⟩ := mem_map.mp read
  obtain ⟨origin, originMem, -, rfl⟩ := sound.readSent _ message readMem
  exact sound.once origin originMem entry mem same ▸ readMem

/--
In every dialogue whose chains stay below the counter, a message that was not
read yet is decrypted to its plaintext, unless it is too far ahead or its key
was evicted; a message that was read is refused ever after.
-/
theorem message_decrypted_once {sharedSecret : Key} (ideal : prims.Ideal)
    (reached : Reached prims (fun number => number + 1 < 2 ^ 32) sharedSecret ad dialogue)
    (member : entry ∈ dialogue.sent) (fresh : Secret) :
    (entry.message ∉ dialogue.read entry.sender.other →
      entry.message.id ∉ dialogue.evicted entry.sender.other →
        dialogue.LeftBehind entry.sender.other entry.message.header ∨
          WithinReach (dialogue.party entry.sender.other) entry.message.header →
          ∃ next, (dialogue.party entry.sender.other).decrypt prims fresh entry.message =
            .ok (entry.plaintext, next)) ∧ (entry.message ∈ dialogue.read entry.sender.other →
        ∃ error, (dialogue.party entry.sender.other).decrypt prims fresh entry.message =
          .error error) := by
  obtain ⟨lineage, length, level, sound⟩ := exists_sound_of_reached ideal reached
  obtain ⟨_, below, -, -, distinct⟩ := sound.secrets
  have senderBelow := below entry.sender
  have otherBelow := below entry.sender.other
  have located := sound.party entry.sender.other
  obtain ⟨chain, within, written, place⟩ := sound.place member
  constructor
  · intro unread kept reachable
    by_cases stored : entry.message.id ∈ (dialogue.party entry.sender.other).skippedKeys
    · exact decrypt_of_stored ideal distinct otherBelow located
        (sound.accounts _) written (by omega) stored
    -- What is not stored has not been passed.
    have ahead : ¬ Passed length (level entry.sender.other)
      (dialogue.party entry.sender.other).recvCount (chain + 1)
      entry.message.header.messageNumber := by
      intro passed
      rcases sound.evicted_or_read member written passed stored with
        evicted | read
      · exact kept evicted
      · exact unread read
    rcases place with next | current | ⟨_, turn⟩
    · subst next
      have distinctNext : lineage.Distinct prims (level entry.sender.other + 1) :=
        distinct.mono (by omega)
      have within : WithinReach (dialogue.party entry.sender.other) entry.message.header := by
        refine reachable.resolve_left ?_
        rintro ⟨-, message, read, same⟩
        have passedBelow := (sound.passed_of_read written within read same).below
        omega
      have unknown : (dialogue.party entry.sender.other).remoteDhPublic ≠
        some entry.message.header.dhPublic := by
        rw [located.remote, written.key]
        exact remoteOf_ne_next distinctNext
      exact decrypt_of_next ideal distinctNext located written stored
        (within.next unknown).2 (within.next unknown).1 sound.fits
    · have here : AtLevel prims lineage length ad (chain + 2) (dialogue.party entry.sender.other) :=
        current ▸ located
      have known : (dialogue.party entry.sender.other).remoteDhPublic =
        some entry.message.header.dhPublic := by
        rw [here.remote, written.key]
        rfl
      have within : WithinReach (dialogue.party entry.sender.other) entry.message.header :=
        reachable.resolve_left fun left => left.1 known
      have notBehind : (dialogue.party entry.sender.other).recvCount ≤
        entry.message.header.messageNumber := by
        by_contra behind
        exact ahead (.inl ⟨by omega, by omega⟩)
      exact decrypt_of_current ideal here written stored notBehind
        (within.current known) (sound.fits _)
    · exact absurd (.inr ⟨by omega, turn, written.number⟩) ahead
  · intro read
    have passed := sound.passed_of_read written within read rfl
    have unstored := (sound.accounts entry.sender.other).unstored entry.message read
    cases outcome : (dialogue.party entry.sender.other).decrypt prims fresh entry.message with
    | error error => exact ⟨error, rfl⟩
    | ok =>
      exact absurd (decrypt_eq_ok_iff.mp outcome)
        (not_receives_of_passed ideal (sound.distinct _) located written passed unstored)

/-! ## A chain that is longer than its counter -/

namespace CounterExample

/-- The first chain key of the initiator. -/
def seed : RatchetTerm :=
  .chain .shared (.exchange 0 1)

variable (place sendCount : Nat)

/-- The initiator at a place of its chain. -/
def initiator : DoubleRatchet Nat Nat RatchetTerm where
  dhSecret := 1
  dhPublic := 1
  remoteDhPublic := some 0
  rootKey := .root .shared (.exchange 0 1)
  sendingChain := some (primitives.kdf.chainAt seed place)
  receivingChain := none
  sendCount
  recvCount := 0
  previousChainLength := 0
  skippedKeys := ∅
  skippedKeySeq := 0
  associatedData := []

variable (recvCount : Nat)

/-- The responder at a place of that chain. -/
def responder : DoubleRatchet Nat Nat RatchetTerm where
  dhSecret := 2
  dhPublic := 2
  remoteDhPublic := some 1
  rootKey := .root (.root .shared (.exchange 0 1)) (.exchange 1 2)
  sendingChain := some (.chain (.root .shared (.exchange 0 1)) (.exchange 1 2))
  receivingChain := some (primitives.kdf.chainAt seed place)
  sendCount := 0
  recvCount
  previousChainLength := 0
  skippedKeys := ∅
  skippedKeySeq := 0
  associatedData := []

/-- The message at a place of the chain, under a number. -/
def message (place number : Nat) : RatchetMessage Nat RatchetSealed where
  header := ⟨1, 0, number⟩
  ciphertext := ⟨primitives.kdf.keyAt seed place, [], ⟨[], ⟨1, 0, number⟩⟩⟩

theorem encrypt_initiator : (initiator place sendCount).encrypt primitives [] =
      .ok (message place sendCount, initiator (place + 1) (wrap32 (sendCount + 1))) := by
  unfold encrypt initiator
  rw [ChainKdf.chainAt_succ]
  rfl

/-- What the responder stages for a message that is not ahead. -/
def staged : PendingReceive Nat Nat RatchetTerm where
  dhStep := none
  receivingChain := primitives.kdf.chainAt seed (place + 1)
  recvCount := wrap32 (recvCount + 1)
  skipped := []
  messageKey := primitives.kdf.keyAt seed place

theorem stageReceive_responder {place recvCount number fresh : Nat} (behind : number ≤ recvCount)
    (fits : number < 2 ^ 32) :
    (responder place recvCount).stageReceive primitives fresh ⟨1, 0, number⟩ =
      .ok (staged place recvCount) := by
  have here : number ≤ (responder place recvCount).recvCount := behind
  rw [stageReceive_of_known rfl rfl, staged, ChainKdf.chainAt_succ]
  unfold stageMessage
  rw [stageSkippedKeys_of_behind here fits]
  rfl

theorem commitReceive_responder :
    (responder place recvCount).commitReceive (staged place recvCount) =
      responder (place + 1) (wrap32 (recvCount + 1)) := by
  unfold commitReceive evictExcessSkippedKeys
  dsimp only [staged, responder, insertAll]
  rw [evictTo_empty]
  rfl

variable (fresh : Nat)

theorem decrypt_responder {recvCount : Nat} (fits : recvCount < 2 ^ 32) :
    (responder place recvCount).decrypt primitives fresh (message place recvCount) =
      .ok ([], responder (place + 1) (wrap32 (recvCount + 1))) := by
  rw [← commitReceive_responder]
  exact decrypt_eq_ok_iff.mpr (.derived (AList.lookup_empty _)
    (stageReceive_responder le_rfl fits) (if_pos ⟨rfl, rfl⟩))

theorem decrypt_responder_later {recvCount number : Nat} (behind : number ≤ recvCount)
    (fits : number < 2 ^ 32) :
    ∃ error, (responder place recvCount).decrypt primitives fresh (message (place + 1) number) =
      .error error := by
  cases outcome : (responder place recvCount).decrypt primitives fresh
    (message (place + 1) number) with
  | error error => exact ⟨error, rfl⟩
  | ok result =>
    obtain ⟨_, _⟩ := result
    exfalso
    cases decrypt_eq_ok_iff.mp outcome with
    | stored found => cases found
    | @derived pending _ accepted opened =>
      rw [show (message (place + 1) number).header = ⟨1, 0, number⟩
        from rfl, stageReceive_responder behind fits] at accepted
      cases accepted
      have sealing : primitives.aeadEncrypt (primitives.kdf.keyAt seed (place + 1)) []
        ⟨[], ⟨1, 0, number⟩⟩ =
        .ok (message (place + 1) number).ciphertext :=
        rfl
      have same := primitives_ideal.opens_only sealing opened
      have places := (primitives_ideal.keyed .shared .shared
        (.exchange 0 1) (.exchange 0 1) _ _ same).2
      omega

/-- The dialogue after the first message was sent and read. -/
def first : Dialogue Nat Nat RatchetTerm RatchetSealed :=
  ((start primitives .shared [] 0 1).wrote .initiator
    (message 0 0) [] (initiator 1 1)).took
    .responder (message 0 0) 2 (responder 1 1)

/-- What the responder stages for the first message. -/
def stagedFirst : PendingReceive Nat Nat RatchetTerm :=
  stagedMessage primitives
    (some (stageDhRatchet primitives (initReceiver .shared 0 0 []) 2 1).1)
    [] ⟨seed, 0, []⟩

theorem decrypt_first :
    (initReceiver .shared 0 0 []).decrypt primitives 2 (message 0 0) = .ok ([], responder 1 1) := by
  have committed : (initReceiver .shared 0 0 []).commitReceive stagedFirst = responder 1 1 := by
    unfold commitReceive evictExcessSkippedKeys
    dsimp only [stagedFirst, stagedMessage, initReceiver, insertAll, nil_append]
    rw [evictTo_empty]
    rfl
  have accepted : (initReceiver .shared 0 0 []).stageReceive primitives 2 (message 0 0).header =
    .ok stagedFirst :=
    rfl
  have opened : primitives.aeadDecrypt stagedFirst.messageKey
    (message 0 0).ciphertext ⟨[], (message 0 0).header⟩ =
    .ok [] :=
    rfl
  rw [← committed]
  exact decrypt_eq_ok_iff.mpr (.derived (AList.lookup_empty _) accepted opened)

theorem lost_of_empty {before after : DoubleRatchet Nat Nat RatchetTerm}
    {message : RatchetMessage Nat RatchetSealed} (empty : before.skippedKeys = ∅) :
    lost before after message = ∅ := by
  refine Set.eq_empty_of_forall_notMem fun _ gone => ?_
  have stored := gone.1
  rw [empty] at stored
  exact AList.notMem_empty _ stored

/-- So many messages were sent and read in their order. -/
structure InOrder (allowed : Nat → Prop) (count : Nat)
    (dialogue : Dialogue Nat Nat RatchetTerm RatchetSealed) : Prop where
  reached : Reached primitives allowed .shared [] dialogue
  initiator : dialogue.party .initiator = initiator count count
  responder : dialogue.party .responder = responder count count
  read : ∀ message ∈ dialogue.read .responder,
    ∃ place < count, message.ciphertext.key = primitives.kdf.keyAt seed place
  evicted : dialogue.evicted .responder = ∅
  secrets : dialogue.secrets = [0, 1, 2]

variable {allowed : Nat → Prop}

theorem inOrder_first (permits : ∀ number, number + 1 < 2 ^ 32 → allowed number) :
    InOrder allowed 1 first where
  reached := by
    have written : Reached primitives allowed .shared []
      ((start primitives .shared [] 0 1).wrote .initiator
        (message 0 0) [] (CounterExample.initiator 1 1)) :=
      .encrypt (.start (by decide)) (permits 0 (by decide)) rfl
    have member : (⟨.initiator, message 0 0, []⟩ : SentMessage Nat RatchetSealed) ∈
      ((start primitives .shared [] 0 1).wrote .initiator
        (message 0 0) [] (CounterExample.initiator 1 1)).sent :=
      mem_singleton_self _
    have new : ∀ secret ∈ [0, 1], secret ≠ 2 := by decide
    exact .deliver written member new decrypt_first
  initiator := rfl
  responder := rfl
  read other member := by
    rw [mem_singleton.mp member]
    exact ⟨0, Nat.one_pos, rfl⟩
  evicted := by
    change ∅ ∪ lost _ _ _ = _
    rw [lost_of_empty rfl, Set.union_empty]
  secrets := rfl

variable {count : Nat} {dialogue : Dialogue Nat Nat RatchetTerm RatchetSealed}

/-- One more message in order. -/
theorem InOrder.step (inOrder : InOrder allowed count dialogue) (permitted : allowed count)
    (fits : count + 1 < 2 ^ 32) : ∃ next, InOrder allowed (count + 1) next := by
  have encrypted : (dialogue.party .initiator).encrypt primitives [] =
    .ok (message count count, CounterExample.initiator (count + 1) (count + 1)) := by
    rw [inOrder.initiator, encrypt_initiator, wrap32_of_lt fits]
  have numbered : allowed (dialogue.party .initiator).sendCount := by
    rw [inOrder.initiator]
    exact permitted
  have written := Reached.encrypt inOrder.reached numbered encrypted
  have responder : (dialogue.wrote .initiator (message count count) []
    (CounterExample.initiator (count + 1) (count + 1))).party
    .responder =
    CounterExample.responder count count :=
    inOrder.responder
  have decrypted : (CounterExample.responder count count).decrypt primitives
    3 (message count count) =
    .ok ([], CounterExample.responder (count + 1) (count + 1)) := by
    rw [decrypt_responder count 3 (by omega), wrap32_of_lt fits]
  rw [← responder] at decrypted
  have mem : (⟨.initiator, message count count, []⟩ : SentMessage Nat RatchetSealed) ∈
    (dialogue.wrote .initiator (message count count) []
      (CounterExample.initiator (count + 1) (count + 1))).sent :=
    mem_append_right _ (mem_singleton_self _)
  have new : ∀ secret ∈ dialogue.secrets, secret ≠ 3 := by
    rw [inOrder.secrets]
    decide
  refine ⟨_, .deliver written mem new decrypted, ?_, ?_, ?_, ?_, ?_⟩
  · rfl
  · rfl
  · intro other read
    rcases mem_append.mp read with old | only
    · obtain ⟨place, _, same⟩ := inOrder.read other old
      exact ⟨place, by omega, same⟩
    · rw [mem_singleton.mp only]
      exact ⟨count, Nat.lt_succ_self _, rfl⟩
  · have nothing : lost ((dialogue.wrote .initiator (message count count) []
      (CounterExample.initiator (count + 1) (count + 1))).party
      .responder)
      (CounterExample.responder (count + 1) (count + 1))
      (message count count) =
      ∅ := by
      refine lost_of_empty ?_
      rw [responder]
      rfl
    exact (congrArg₂ (· ∪ ·) inOrder.evicted nothing).trans (Set.union_empty _)
  · refine (if_pos ?_).trans inOrder.secrets
    change _ = ((dialogue.wrote _ _ _ _).party .responder).remoteDhPublic
    rw [responder]
    rfl

theorem exists_inOrder (permits : ∀ number, number + 1 < 2 ^ 32 → allowed number) (count)
    (fits : count + 1 < 2 ^ 32) : ∃ dialogue, InOrder allowed (count + 1) dialogue := by
  induction count with
  | zero => exact ⟨first, inOrder_first permits⟩
  | succ count ih =>
    obtain ⟨_, inOrder⟩ := ih (by omega)
    exact inOrder.step (permits (count + 1) fits) fits

/-- The last number is lost, and the message behind it is refused. -/
theorem InOrder.refused (inOrder : InOrder (fun _ => True) count dialogue)
    (wraps : wrap32 (count + 1) = 0) :
    ∃ (later : Dialogue Nat Nat RatchetTerm RatchetSealed) (entry : SentMessage Nat RatchetSealed),
      Reached primitives (fun _ => True) .shared [] later ∧ entry ∈ later.sent ∧
        entry.message ∉ later.read entry.sender.other ∧
        entry.message.id ∉ later.evicted entry.sender.other ∧
        WithinReach (later.party entry.sender.other) entry.message.header ∧
        ∀ fresh, ∃ error, (later.party entry.sender.other).decrypt primitives fresh entry.message =
          .error error := by
  have lostMessage : (dialogue.party .initiator).encrypt primitives [] =
    .ok (message count count, CounterExample.initiator (count + 1) 0) := by
    rw [inOrder.initiator, encrypt_initiator, wraps]
  have written := Reached.encrypt inOrder.reached trivial lostMessage
  have nextMessage : ((dialogue.wrote .initiator (message count count) []
    (CounterExample.initiator (count + 1) 0)).party
    .initiator).encrypt primitives [] =
    .ok (message (count + 1) 0, CounterExample.initiator (count + 2) (wrap32 1)) :=
    encrypt_initiator (count + 1) 0
  have reached := Reached.encrypt written trivial nextMessage
  refine ⟨_, ⟨.initiator, message (count + 1) 0, []⟩, reached,
    mem_append_right _ (mem_singleton_self _), ?_, ?_, ?_, ?_⟩
  · intro read
    obtain ⟨place, _, same⟩ := inOrder.read _ read
    have places : count + 1 = place := (primitives_ideal.keyed .shared .shared (.exchange 0 1)
      (.exchange 0 1) _ _ same).2
    omega
  · intro evicted
    have gone : (message (count + 1) 0).id ∈ dialogue.evicted .responder := evicted
    rw [inOrder.evicted] at gone
    exact gone
  · refine ⟨fun _ => Nat.zero_le _, fun other => absurd ?_ other⟩
    exact congrArg DoubleRatchet.remoteDhPublic inOrder.responder
  intro fresh
  obtain ⟨error, refused⟩ := decrypt_responder_later count fresh (Nat.zero_le count)
    (Nat.pow_pos (by decide))
  rw [← inOrder.responder] at refused
  exact ⟨error, refused⟩

end CounterExample

section

open CounterExample

/-- The third message is read before the second one, which is read when it comes; the third
one is not read again. -/
theorem message_decrypted_once_overtaken :
    ∃ dialogue : Dialogue Nat Nat RatchetTerm RatchetSealed,
      dialogue.read .responder = [message 0 0, message 2 2] ∧
      (∃ next, (dialogue.party .responder).decrypt primitives 4 (message 1 1) = .ok ([], next)) ∧
      ∃ error, (dialogue.party .responder).decrypt primitives 4 (message 2 2) = .error error := by
  have inOrder : InOrder (fun number => number + 1 < 2 ^ 32) 1 first :=
    inOrder_first fun _ fits => fits
  let written := (first.wrote .initiator (message 1 1) [] (initiator 2 2)).wrote .initiator
    (message 2 2) [] (initiator 3 3)
  have reached : Reached primitives (fun number => number + 1 < 2 ^ 32) .shared [] written :=
    .encrypt (.encrypt inOrder.reached (by decide) rfl) (by decide) rfl
  have overtaking : (⟨.initiator, message 2 2, []⟩ : SentMessage Nat RatchetSealed) ∈
    written.sent :=
    mem_append_right _ (mem_singleton_self _)
  have overtaken : (⟨.initiator, message 1 1, []⟩ : SentMessage Nat RatchetSealed) ∈
    written.sent :=
    mem_append_left _ (mem_append_right _ (mem_singleton_self _))
  have kept (id) : id ∉ written.evicted .responder := by
    intro evicted
    have gone : id ∈ first.evicted .responder := evicted
    rw [inOrder.evicted] at gone
    exact gone
  have other {number : Nat} (later : number ≠ 0) : message number number ≠ message 0 0 :=
    fun same => later (congrArg (·.header.messageNumber) same)
  obtain ⟨next, opened⟩ := (message_decrypted_once primitives_ideal reached overtaking 3).1
    (fun read => other (by decide) (mem_singleton.mp read)) (kept _)
    (.inr ⟨fun _ => by decide, fun unknown => absurd rfl unknown⟩)
  have new : ∀ secret ∈ [0, 1, 2], secret ≠ 3 := by decide
  have delivered := Reached.deliver reached overtaking new opened
  refine ⟨written.took .responder (message 2 2) 3 next, rfl,
    (message_decrypted_once primitives_ideal delivered overtaken 4).1 ?_ ?_ ?_,
    (message_decrypted_once primitives_ideal delivered overtaking 4).2
      (mem_append_right _ (mem_singleton_self _))⟩
  · intro read
    rcases mem_append.mp read with earlier | last
    · exact other (by decide) (mem_singleton.mp earlier)
    · cases congrArg (·.header.messageNumber) (mem_singleton.mp last)
  · rintro (evicted | gone)
    · exact kept _ evicted
    · rw [lost_of_empty rfl] at gone
      exact gone
  · by_cases current : next.remoteDhPublic = some 1
    · refine .inr ⟨fun _ => ?_, fun unknown => absurd current unknown⟩
      exact Nat.le_trans (by decide : 1 ≤ maxSkip) (Nat.le_add_left _ _)
    · exact .inl ⟨current, message 2 2, mem_append_right _ (mem_singleton_self _), rfl⟩

/--
After as many messages as the counter has numbers, one message is lost; the
next one is numbered anew and is not read, although it is the next but one.
-/
theorem message_refused_after_counter : ∃ (dialogue : Dialogue Nat Nat RatchetTerm RatchetSealed)
      (entry : SentMessage Nat RatchetSealed),
      Reached primitives (fun _ => True) .shared [] dialogue ∧ entry ∈ dialogue.sent ∧
        entry.message ∉ dialogue.read entry.sender.other ∧
        entry.message.id ∉ dialogue.evicted entry.sender.other ∧
        WithinReach (dialogue.party entry.sender.other) entry.message.header ∧
        ∀ fresh, ∃ error, (dialogue.party entry.sender.other).decrypt
          primitives fresh entry.message = .error error := by
  have permits : ∀ number, number + 1 < 2 ^ 32 → True := fun _ _ => trivial
  obtain ⟨_, inOrder⟩ := exists_inOrder permits (2 ^ 32 - 2) (by decide)
  exact inOrder.refused (by decide)

end

end Dialogue

end BitSov.Crypto
