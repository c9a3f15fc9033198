import BitSov.Crypto.GroupMessages

namespace BitSov.Crypto

open Core Ratchet ReceiverSenderKey

/-!
# Replays and stored keys of group messages

A message that was decrypted stays read: its window only loses messages, and
a newer generation does not accept it.  This rests on a distribution being
taken over once, since the source starts the window again for a generation
that it already knows.
-/

variable {Key Cipher Signing Verifying Signature : Type}
  {prims : GroupPrimitives Key Cipher Signing Verifying Signature}

namespace GroupSession

variable (prims) in
def Sound (session : GroupSession Key Signing Verifying) : Prop :=
  ∀ member entry,
    session.memberKeys.lookup member = some entry → ∃ seed, Window.On prims.kdf seed entry.window

/--
The distribution is not one of the generation that is in use, and the number
of the message is not the last one that fits its counter.
-/
def FirstSeen (session : GroupSession Key Signing Verifying) : GroupCall Key Cipher Signature → Prop
  | .distribute dist =>
    ∀ entry, session.memberKeys.lookup dist.sender = some entry → dist.generation ≠ entry.generation
  | .receive _ message => message.messageNumber + 1 < 2 ^ 32

/-- The message was decrypted, or its generation is over. -/
def HasRead (session : GroupSession Key Signing Verifying) (sender : NodeId)
    (message : GroupCiphertext Cipher Signature) : Prop :=
  ∃ entry, session.memberKeys.lookup sender = some entry ∧
    message.generation ≤ entry.generation ∧
    (message.generation = entry.generation → ¬ entry.window.Unread message.messageNumber)

theorem sound_new (groupId ourNodeId ourSenderKey) :
    Sound prims (new groupId ourNodeId ourSenderKey) := by
  intro _ _ found
  rw [new, AList.lookup_empty] at found
  cases found

variable {session : GroupSession Key Signing Verifying}

theorem Sound.perform (sound : session.Sound prims) (first : session.FirstSeen call) :
    (session.perform prims call).Sound prims := by
  intro mem entry found
  have step := entryStep_perform prims session call mem
  rw [found] at step
  generalize known : session.memberKeys.lookup mem = before at step
  cases step with
  | same => exact sound mem entry known
  | register => exact ⟨_, Window.on_fresh _⟩
  | read foundBefore reads =>
    obtain ⟨seed, on⟩ := sound mem _ (known.trans foundBefore)
    exact ⟨seed, (reads.opens first).on on⟩

variable {first last : GroupSession Key Signing Verifying}

theorem Sound.runs (sound : first.Sound prims) (runs : Runs prims FirstSeen first last) :
    last.Sound prims := by
  induction runs with
  | refl => exact sound
  | tail _ step ih =>
    obtain ⟨_, firstSeen, rfl⟩ := step
    exact ih.perform firstSeen

section

variable {changed : GroupSession Key Signing Verifying} {sender : NodeId}
  {message : GroupCiphertext Cipher Signature}

theorem HasRead.perform (read : session.HasRead sender message) (sound : session.Sound prims)
    (first : session.FirstSeen call) : (session.perform prims call).HasRead sender message := by
  obtain ⟨entry, found, older, opened⟩ := read
  have step := entryStep_perform prims session call sender
  rw [found] at step
  generalize after : (session.perform prims call).memberKeys.lookup sender = known at step
  cases step with
  | same => exact ⟨entry, after, older, opened⟩
  | @register dist sameSender verifyingKey newer =>
    have notNewer := newer entry rfl
    have ne := first entry (sameSender ▸ found)
    refine ⟨_, after, by dsimp only; omega, ?_⟩
    intro sameGen
    dsimp only at sameGen
    omega
  | @read other _ changed same reads =>
    cases same
    obtain ⟨_, on⟩ := sound sender entry found
    refine ⟨changed, after, ?_, ?_⟩
    · rw [reads.sameGeneration]
      exact older
    intro sameGen unread
    rw [reads.sameGeneration] at sameGen
    exact opened sameGen (((reads.opens first).unread_iff on).mp unread).1

theorem HasRead.runs (read : first.HasRead sender message) (sound : first.Sound prims)
    (runs : Runs prims FirstSeen first last) : last.HasRead sender message := by
  induction runs with
  | refl => exact read
  | tail prior step ih =>
    obtain ⟨_, firstSeen, rfl⟩ := step
    exact ih.perform (sound.runs prior) firstSeen

theorem hasRead_of_decrypt (sound : session.Sound prims) (fits : message.messageNumber + 1 < 2 ^ 32)
    (decrypted : session.decrypt prims sender message = .ok (plain, changed)) :
    changed.HasRead sender message := by
  obtain ⟨entry, entryChanged, found, opened, rfl⟩ := decrypt_eq_ok decrypted
  have reads := reads_of_decrypt opened
  obtain ⟨_, on⟩ := sound sender entry found
  refine ⟨entryChanged, AList.lookup_insert _, ?_, ?_⟩
  · rw [reads.generation, reads.sameGeneration]
  · intro _ unread
    exact (((reads.opens fits).unread_iff on).mp unread).2 rfl

theorem HasRead.refuses (read : session.HasRead sender message)
    (fits : message.messageNumber + 1 < 2 ^ 32) :
    ∃ error, session.decrypt prims sender message = .error error := by
  cases outcome : session.decrypt prims sender message with
  | error error => exact ⟨error, rfl⟩
  | ok =>
    obtain ⟨_, found, -, opened⟩ := read
    obtain ⟨_, _, foundAgain, decrypted, -⟩ := decrypt_eq_ok outcome
    cases found.symm.trans foundAgain
    have reads := reads_of_decrypt decrypted
    exact absurd (reads.opens fits).unread (opened reads.generation)

theorem lookup_processDistribution_of_older {dist : SenderKeyDistribution Key}
    (found : session.memberKeys.lookup dist.sender = some entry)
    (older : dist.generation < entry.generation)
    (processed : session.processDistribution prims dist = .ok changed) (member) :
    changed.memberKeys.lookup member = session.memberKeys.lookup member := by
  have step := entryStep_perform prims session (.distribute dist) member
  rw [perform, processed] at step
  generalize changed.memberKeys.lookup member = after at step
  cases step with
  | same => rfl
  | register sender _ newer =>
    have notOlder := newer entry (sender ▸ found)
    omega

/--
As long as no distribution of the generation in use is processed again, a
message is decrypted at most once: after it was decrypted, it is refused for
good, and a distribution of an earlier generation changes nothing.
-/
theorem group_message_decrypts_once {groupId : Bytes} {ourNodeId : NodeId}
    {ourSenderKey : SenderKeyState Key Signing}
    {before after last : GroupSession Key Signing Verifying} {sender : NodeId}
    {message : GroupCiphertext Cipher Signature} {plaintext : Bytes}
    (earlier : Runs prims FirstSeen (new groupId ourNodeId ourSenderKey) before)
    (fits : message.messageNumber + 1 < 2 ^ 32)
    (decrypted : before.decrypt prims sender message = .ok (plaintext, after))
    (later : Runs prims FirstSeen after last) :
    (∃ error, last.decrypt prims sender message = .error error) ∧ ∀ dist entry changed,
      last.memberKeys.lookup dist.sender = some entry → dist.generation < entry.generation →
        last.processDistribution prims dist = .ok changed →
          ∀ member, changed.memberKeys.lookup member = last.memberKeys.lookup member := by
  have soundBefore := (sound_new groupId ourNodeId ourSenderKey).runs earlier
  have soundAfter : after.Sound prims := by
    have sound : (before.perform prims (.receive sender message)).Sound prims :=
      soundBefore.perform fits
    rwa [perform, decrypted] at sound
  constructor
  · exact ((hasRead_of_decrypt soundBefore fits decrypted).runs soundAfter later).refuses fits
  · intro _ _ _ found older processed member
    exact lookup_processDistribution_of_older found older processed member

end

open GroupExample (distribution fresh joined message sender senderKey)

/-- A receiver that decrypts the second message before the first and then refuses both. -/
theorem group_message_decrypts_once_pair :
    ∃ ahead both, joined.decrypt symbolic sender (message 1) = .ok ([42], ahead) ∧
      ahead.decrypt symbolic sender (message 0) = .ok ([42], both) ∧
      (∃ error, both.decrypt symbolic sender (message 1) = .error error) ∧
      ∃ error, both.decrypt symbolic sender (message 0) = .error error := by
  have joins : Runs symbolic FirstSeen fresh joined :=
    .single ⟨.distribute distribution, nofun, rfl⟩
  have fits (number : Nat) (small : number < 2) : (message number).messageNumber + 1 < 2 ^ 32 :=
    Nat.lt_of_le_of_lt small (by decide)
  let ahead := joined.perform symbolic (.receive sender (message 1))
  let both := ahead.perform symbolic (.receive sender (message 0))
  have newer : joined.decrypt symbolic sender (message 1) = .ok ([42], ahead) := rfl
  have older : ahead.decrypt symbolic sender (message 0) = .ok ([42], both) := rfl
  have reads : Runs symbolic FirstSeen joined ahead :=
    .single ⟨.receive sender (message 1), fits 1 (by decide), rfl⟩
  have goesOn : Runs symbolic FirstSeen ahead both :=
    .single ⟨.receive sender (message 0), fits 0 (by decide), rfl⟩
  exact ⟨ahead, both, newer, older,
    (group_message_decrypts_once joins (fits 1 (by decide)) newer goesOn).1,
    (group_message_decrypts_once (joins.trans reads) (fits 0 (by decide)) older .refl).1⟩

/--
A distribution that is delivered twice: the second time it changes the entry
of its sender, and a message is decrypted for the second time.
-/
theorem group_message_decrypts_twice : ∃ first second third,
      (senderKey.encrypt symbolic GroupExample.groupId sender [42]).1 = .ok (message 0) ∧
      joined.decrypt symbolic sender (message 0) = .ok ([42], first) ∧
      first.processDistribution symbolic distribution = .ok second ∧
      second.memberKeys.lookup sender ≠ first.memberKeys.lookup sender ∧
      second.decrypt symbolic sender (message 0) = .ok ([42], third) := by
  refine ⟨_, _, _, rfl, rfl, rfl, ?_, rfl⟩
  intro same
  have sameIndex := congrArg (Option.map chainIndex) same
  exact absurd sameIndex (by decide)

/-- The keys that are stored leave room for those the message passes over. -/
def Roomy (session : GroupSession Key Signing Verifying) : GroupCall Key Cipher Signature → Prop
  | .distribute _ => True
  | .receive sender message =>
    ∀ entry, session.memberKeys.lookup sender = some entry →
      entry.skippedKeys.keys.length + (message.messageNumber - entry.chainIndex) ≤ senderMaxSkip

/--
As long as every message leaves room for the keys that it passes over, no
sender has more than the maximum of stored keys.
-/
theorem skipped_group_keys_bounded {groupId : Bytes} {ourNodeId : NodeId}
    {ourSenderKey : SenderKeyState Key Signing} {last : GroupSession Key Signing Verifying}
    (runs : Runs prims Roomy (new groupId ourNodeId ourSenderKey) last) {sender : NodeId}
    {entry : ReceiverSenderKey Key Verifying} (found : last.memberKeys.lookup sender = some entry) :
    entry.skippedKeys.keys.length ≤ senderMaxSkip := by
  induction runs generalizing entry with
  | refl =>
    rw [new, AList.lookup_empty] at found
    cases found
  | @tail middle _ _ step ih =>
    obtain ⟨call, roomy, rfl⟩ := step
    have change := entryStep_perform prims middle call sender
    rw [found] at change
    generalize known : middle.memberKeys.lookup sender = before at change
    cases change with
    | same => exact ih known
    | register => exact Nat.zero_le _
    | read foundBefore reads => exact reads.stored.trans (roomy _ (known.trans foundBefore))

/-- A receiver that passes over one message. -/
theorem skipped_group_keys_bounded_one :
    ∃ entry, (joined.perform symbolic (.receive sender (message 1))).memberKeys.lookup sender =
      some entry ∧ entry.skippedKeys.keys.length ≤ senderMaxSkip := by
  have joins : Runs symbolic Roomy fresh joined := .single ⟨.distribute distribution, trivial, rfl⟩
  have runs : Runs symbolic Roomy fresh
    (joined.perform symbolic (.receive sender (message 1))) := by
    refine joins.tail ⟨_, ?_, rfl⟩
    rintro _ ⟨⟩
    decide
  have found : (joined.perform symbolic (.receive sender (message 1))).memberKeys.lookup sender =
      some _ :=
    rfl
  exact ⟨_, found, skipped_group_keys_bounded runs found⟩

/-- A message that passes over the maximum, and one that passes over one more. -/
theorem skipped_group_keys_exceed :
    (((joined.perform symbolic (.receive sender (message 256))).perform symbolic
      (.receive sender (message 258))).memberKeys.lookup sender).map
        (fun entry => entry.skippedKeys.keys.length) = some 257 := by
  decide +kernel

end GroupSession

end BitSov.Crypto
