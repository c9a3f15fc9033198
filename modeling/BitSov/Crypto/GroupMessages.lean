import BitSov.Crypto.SenderKeys

namespace BitSov.Crypto

open Core Ratchet AList

/-!
# Group messages at their receiver

The entry of a sender is a window on the chain that was distributed.  Every
message that decrypts is opened in that window, so a message is never
decrypted twice as long as its distribution is not taken over again.
-/

variable {Key Cipher Signing Verifying Signature : Type}
  {prims : GroupPrimitives Key Cipher Signing Verifying Signature}

namespace ReceiverSenderKey

def window (entry : ReceiverSenderKey Key Verifying) : Window Key :=
  ⟨entry.chainKey, entry.chainIndex, entry.skippedKeys⟩

/-- What a decrypted message changes. -/
structure Reads (prims : GroupPrimitives Key Cipher Signing Verifying Signature)
    (entry : ReceiverSenderKey Key Verifying) (message : GroupCiphertext Cipher Signature)
    (changed : ReceiverSenderKey Key Verifying) : Prop where
  generation : message.generation = entry.generation
  sameGeneration : changed.generation = entry.generation
  sameSigningKey : changed.signingKey = entry.signingKey
  opens : message.messageNumber + 1 < 2 ^ 32 →
    Window.Opens prims.kdf entry.window message.messageNumber changed.window
  stored : changed.skippedKeys.keys.length ≤
    entry.skippedKeys.keys.length + (message.messageNumber - entry.chainIndex)

theorem reads_of_decrypt {entry changed : ReceiverSenderKey Key Verifying} {groupId : Bytes}
    {sender : NodeId} {message : GroupCiphertext Cipher Signature} {plain : Bytes}
    (decrypted : entry.decrypt prims groupId sender message = .ok (plain, changed)) :
    entry.Reads prims message changed := by
  unfold decrypt at decrypted
  split at decrypted
  · cases decrypted
  next sameGen =>
  rw [not_not] at sameGen
  split at decrypted
  · cases decrypted
  dsimp only at decrypted
  split at decrypted
  · next _ found =>
    split at decrypted
    · cases decrypted
    cases decrypted
    refine ⟨sameGen, rfl, rfl, fun _ => ?_, ?_⟩
    · refine .take (lookup_isSome.mp ?_)
      exact Option.isSome_of_eq_some found
    rw [keys_erase]
    exact List.length_erase_le.trans (Nat.le_add_right _ _)
  · split at decrypted
    · cases decrypted
    next ahead =>
    split at decrypted
    · cases decrypted
    split at decrypted
    · cases decrypted
    cases decrypted
    refine ⟨sameGen, rfl, rfl, fun fits => ?_, ?_⟩
    · have advanced : Window.Opens prims.kdf entry.window message.messageNumber
        (entry.window.advance prims.kdf message.messageNumber) :=
        .advance (Nat.le_of_not_lt ahead)
      rw [Window.advance, ← wrap32_of_lt fits] at advanced
      exact advanced
    · exact Window.length_advance_le prims.kdf entry.window message.messageNumber

end ReceiverSenderKey

/-- What a member of a group receives. -/
inductive GroupCall (Key Cipher Signature : Type) where
  | distribute (dist : SenderKeyDistribution Key)
  | receive (sender : NodeId) (message : GroupCiphertext Cipher Signature)

namespace GroupSession

variable (prims) in
/-- The session after a call; a failed call changes nothing. -/
def perform (session : GroupSession Key Signing Verifying) :
    GroupCall Key Cipher Signature → GroupSession Key Signing Verifying
  | .distribute dist =>
    match session.processDistribution prims dist with
    | .ok changed => changed
    | .error _ => session
  | .receive sender message =>
    match session.decrypt prims sender message with
    | .ok (_, changed) => changed
    | .error _ => session

variable (prims) in
/-- Any number of calls that meet a condition when they are made. -/
def Runs (allowed :
      GroupSession Key Signing Verifying → GroupCall Key Cipher Signature → Prop) :
    GroupSession Key Signing Verifying → GroupSession Key Signing Verifying → Prop :=
  Relation.ReflTransGen fun before after =>
    ∃ call, allowed before call ∧ after = before.perform prims call

/-- What a call may do to the entry of a member. -/
inductive EntryStep (prims : GroupPrimitives Key Cipher Signing Verifying Signature)
    (member : NodeId) (known : Option (ReceiverSenderKey Key Verifying)) :
    GroupCall Key Cipher Signature → Option (ReceiverSenderKey Key Verifying) → Prop
  | same {call : GroupCall Key Cipher Signature} : EntryStep prims member known call known
  | register {dist : SenderKeyDistribution Key} (sender : dist.sender = member)
      (verifyingKey : Verifying)
      (newer : ∀ entry, known = some entry → entry.generation ≤ dist.generation) :
    EntryStep prims member known (.distribute dist)
      (some ⟨dist.chainKey, 0, verifyingKey, dist.generation, ∅⟩)
  | read {message : GroupCiphertext Cipher Signature}
      {entry changed : ReceiverSenderKey Key Verifying} (found : known = some entry)
      (reads : entry.Reads prims message changed) :
      EntryStep prims member known (.receive member message) (some changed)

theorem decrypt_eq_ok {session changed : GroupSession Key Signing Verifying} {sender : NodeId}
    {message : GroupCiphertext Cipher Signature} {plain : Bytes}
    (decrypted : session.decrypt prims sender message = .ok (plain, changed)) :
    ∃ entry entryChanged, session.memberKeys.lookup sender = some entry ∧
      entry.decrypt prims session.groupId sender message = .ok (plain, entryChanged) ∧
      changed =
        { session with
          memberKeys := session.memberKeys.insert sender entryChanged } := by
  unfold decrypt at decrypted
  split at decrypted
  · cases decrypted
  next entry found =>
  split at decrypted
  · cases decrypted
  next _ entryChanged opened =>
  cases decrypted
  exact ⟨entry, entryChanged, found, opened, rfl⟩

theorem register_cases {dist : SenderKeyDistribution Key} (known) :
    (∀ entry, known = some entry → entry.generation ≤ dist.generation) ∧
      register prims dist verifyingKey known =
        ⟨dist.chainKey, 0, verifyingKey, dist.generation, ∅⟩ ∨
      known = some (register prims dist verifyingKey known) := by
  unfold register
  cases known with
  | none =>
    refine .inl ⟨nofun, ?_⟩
    exact if_pos (Nat.zero_le _)
  | some =>
    dsimp only [Option.getD_some]
    split
    · next newer =>
      refine .inl ⟨?_, rfl⟩
      rintro _ ⟨⟩
      exact newer
    · exact .inr rfl

/-- Everything a call can do to the entry of a member. -/
theorem entryStep_perform (prims)
    (session : GroupSession Key Signing Verifying) (call : GroupCall Key Cipher Signature)
    (mem : NodeId) : EntryStep prims mem (session.memberKeys.lookup mem) call
      ((session.perform prims call).memberKeys.lookup mem) := by
  cases call with
  | distribute dist =>
    rw [perform]
    split
    · next _ processed =>
      unfold processDistribution at processed
      split at processed
      · cases processed
      split at processed
      · cases processed
      next verifyingKey _ =>
      cases processed
      obtain rfl | ne := eq_or_ne mem dist.sender
      · rw [lookup_insert]
        rcases register_cases (session.memberKeys.lookup dist.sender) with
          ⟨newer, registered⟩ | kept
        · rw [registered]
          exact .register rfl verifyingKey newer
        · rw [← kept]
          exact .same
      · rw [lookup_insert_ne ne]
        exact .same
    · exact .same
  | receive sender =>
    rw [perform]
    split
    · next _ _ decrypted =>
      obtain ⟨_, _, found, opened, rfl⟩ := decrypt_eq_ok decrypted
      obtain rfl | ne := eq_or_ne mem sender
      · rw [lookup_insert]
        exact .read found (ReceiverSenderKey.reads_of_decrypt opened)
      · rw [lookup_insert_ne ne]
        exact .same
    · exact .same

end GroupSession

/-! ## Primitives without collisions -/

/-- Keys as terms: what they were derived from. -/
inductive KeyTerm where
  | origin
  | next (key : KeyTerm)
  | message (key : KeyTerm)
  deriving Repr, DecidableEq

/-- How often a key was derived. -/
def KeyTerm.depth : KeyTerm → Nat
  | .origin => 0
  | .next key => key.depth + 1
  | .message key => key.depth + 1

/-- A ciphertext that says what it was made of. -/
structure Sealed where
  key : KeyTerm
  plaintext : Bytes
  aad : GroupAad
  deriving DecidableEq

def symbolic : GroupPrimitives KeyTerm Sealed Unit Unit (SigPayload Sealed) where
  kdf := ⟨.next, .message⟩
  zeroKey := .origin
  aeadEncrypt key plaintext aad := .ok ⟨key, plaintext, aad⟩
  aeadDecrypt key ciphertext aad :=
    if ciphertext.key = key ∧ ciphertext.aad = aad then .ok ciphertext.plaintext
    else .error "aead::Error"
  verifyingKey _ := ()
  toBytes _ := []
  fromBytes _ := .ok ()
  sign _ payload := payload
  verify _ payload signature :=
    if payload = signature then .ok () else .error "signature error"

theorem depth_chainAt_symbolic (seed index) :
    (symbolic.kdf.chainAt seed index).depth = seed.depth + index := by
  induction index with
  | zero => rfl
  | succ index =>
    rw [ChainKdf.chainAt_succ]
    change (symbolic.kdf.chainAt seed index).depth + 1 = _
    omega

theorem symbolic_ideal : symbolic.Ideal where
  opens key plaintext aad ciphertext sealing := by
    cases sealing
    exact if_pos ⟨rfl, rfl⟩
  reads _ := rfl
  verifies _ _ := if_pos rfl
  authentic key plaintext aad ciphertext opened := by
    change (if _ then _ else _) = _ at opened
    split at opened
    · next own =>
      obtain ⟨rfl, rfl⟩ := own
      cases opened
      rfl
    · cases opened
  committed key plaintext aad otherKey otherPlaintext otherAad ciphertext first second := by
    cases first
    cases second
    exact ⟨rfl, rfl, rfl⟩
  keyed seed first second same := by
    have sameChain := KeyTerm.message.inj same
    have sameDepth := congrArg KeyTerm.depth sameChain
    rw [depth_chainAt_symbolic, depth_chainAt_symbolic] at sameDepth
    omega

/-! ## A group of two -/

namespace GroupExample

def groupId : Bytes :=
  List.replicate 32 7

def sender : NodeId :=
  ⟨.replicate 32 1⟩

def receiver : NodeId :=
  ⟨.replicate 32 2⟩

/-- The sender's key before its first message. -/
def senderKey : SenderKeyState KeyTerm Unit :=
  .generate .origin ()

/-- The distribution that the sender makes before its first message. -/
def distribution : SenderKeyDistribution KeyTerm :=
  senderKey.distribution symbolic groupId sender

/-- The receiver before it knows anybody. -/
def fresh : GroupSession KeyTerm Unit Unit :=
  .new groupId receiver (.generate .origin ())

/-- The receiver after the distribution. -/
def joined : GroupSession KeyTerm Unit Unit :=
  fresh.perform symbolic (.distribute distribution)

/-- The message that the sender makes as its numbered one. -/
def message (number : Nat) : GroupCiphertext Sealed (SigPayload Sealed) :=
  let ciphertext : Sealed := ⟨symbolic.kdf.keyAt .origin number, [42], ⟨groupId, sender, 0, number⟩⟩
  ⟨0, number, ciphertext, ⟨0, number, ciphertext⟩⟩

/-- The second message, passed on under another number. -/
def renumbered : GroupCiphertext Sealed (SigPayload Sealed) :=
  { message 1 with messageNumber := 2 }

theorem failed_decrypt_leaves_members_renumbered :
    let (answer, after) := (GroupSession.decryptInPlace symbolic sender renumbered).run.run joined
    answer = .error (.invalidSignature "signature error") ∧ after = joined :=
  ⟨rfl, GroupSession.failed_decrypt_leaves_members symbolic joined sender renumbered _ rfl⟩

end GroupExample

end BitSov.Crypto
