import BitSov.Core.Envelope
import BitSov.Process.Program

namespace BitSov.Invites

open Core Encoding Process Program Fallible

/-!
# Accepting an invite

What the signature of an invite covers in its two versions, and what a node
does with an invite it accepts.  An address is parsed by a function that is
taken as given, and the storage answers as it likes.
-/

structure BitSovInvite where
  version : UInt8
  (inviterPubkey inviteePubkey : Vector UInt8 32)
  expiryUnix : UInt64
  channelSizeHintSats : Option UInt32
  addr : String := ""
  maxFeeRateSatPerVb : Option UInt32 := none
  channelOpenIntentExpiryUnix : Option UInt64 := none
  nonce : Vector UInt8 16
  signature : Vector UInt8 64

inductive InviteError where
  | emptyAddress
  | addressTooLong (length : Nat)
  | invalidInviterPubkey
  | inviteExpired (expiryUnix nowUnix : UInt64)
  | unsupportedVersion (version : UInt8)
  | invalidSignature

def supportedInviteVersion : UInt8 := 2

def legacyInviteVersion : UInt8 := 1

def maxAddrLen : Nat := 255

def utf8 (text : String) : List UInt8 := text.toUTF8.data.toList

def appendOption (width : Nat) : Option Nat → List UInt8
  | some value => 1 :: beBytes width value
  | none => [0]

namespace BitSovInvite

def domainTag (version : UInt8) : Except InviteError (List UInt8) :=
  if version = legacyInviteVersion then .ok (utf8 "bitsov-invite-v1\x00")
  else if version = supportedInviteVersion then .ok (utf8 "bitsov-invite/v2\x00")
  else .error (.unsupportedVersion version)

variable (invite : BitSovInvite)

def extension : List UInt8 :=
  UInt8.ofNat (utf8 invite.addr).length :: (utf8 invite.addr ++
    (appendOption 4 (invite.maxFeeRateSatPerVb.map (·.toNat)) ++
      appendOption 8 (invite.channelOpenIntentExpiryUnix.map (·.toNat))))

/-- The signed bytes after the tag and the version. -/
def fields : List UInt8 :=
  invite.inviterPubkey.toList ++ (invite.inviteePubkey.toList ++
    (beBytes 8 invite.expiryUnix.toNat ++
      (appendOption 4 (invite.channelSizeHintSats.map (·.toNat)) ++
        ((if invite.version = supportedInviteVersion then invite.extension else []) ++
          invite.nonce.toList))))

/-- The bytes whose digest is signed. -/
def payload : Except InviteError (List UInt8) := do
  let tag ← domainTag invite.version
  if invite.version = supportedInviteVersion ∧ invite.addr = "" then .error .emptyAddress
  else if (utf8 invite.addr).length > maxAddrLen then
    .error (.addressTooLong (utf8 invite.addr).length)
  else .ok (tag ++ invite.version :: invite.fields)

def canonicalBytes (crypto : Crypto) : Except InviteError (Vector UInt8 32) :=
  return crypto.blake3 (← invite.payload)

def verify (crypto : Crypto) (nowUnix : UInt64) : Except InviteError Unit := do
  if invite.expiryUnix ≤ nowUnix then throw (.inviteExpired invite.expiryUnix nowUnix)
  (crypto.verifyingKey invite.inviterPubkey).mapError fun _ => .invalidInviterPubkey
  let canonical ← invite.canonicalBytes crypto
  (crypto.verifyStrict invite.inviterPubkey canonical.toList invite.signature).mapError
    fun _ => .invalidSignature

end BitSovInvite

structure AcceptedInviteRecord where
  nonce : Vector UInt8 16
  inviterPubkey : Vector UInt8 32
  (expiryUnix acceptedAt : UInt64)

structure OnboardingStateRecord where
  inviteId : Option String
  inviterPubkey : Option (Vector UInt8 32)
  inviterLnPubkey : Option String
  currentStep : String
  (tier fundingAddress : Option String)
  fundingAmountSatsRequired : Option UInt64
  fundingAmountSatsReceived : UInt64
  lastPollAt : Option UInt64
  fundingEvidence : Option String

inductive StorageError where
  | alreadyExists
  | other (text : String)

inductive ApiError where
  | badRequest (text : String)
  | invalidInvite (error : InviteError)
  | conflict (text : String)
  | internal (text : String)

structure AcceptInviteResponse where
  inviterPubkey : String
  channelSizeHint : Option UInt32
  addr : String
  maxFeeRateSatPerVb : Option UInt32
  channelOpenIntentExpiryUnix : Option UInt64

inductive AcceptReply where
  | tooManyRequests
  | accepted (response : AcceptInviteResponse)

/-- What accepting an invite asks of the node around it. -/
inductive AcceptOp where
  | checkKey (nodeId : NodeId)
  | now
  | addAcceptedInvite (record : AcceptedInviteRecord)
  | findAcceptedInvite (nonce : Vector UInt8 16)
  | upsertPeer (nodeId : NodeId) (address : Option String)
  | addToWhitelist (nodeId : NodeId)
  | registryAdd (nodeId : NodeId) (addr : String)
  | getOnboardingState
  | upsertOnboardingState (record : OnboardingStateRecord)

@[reducible] def AcceptOp.Answer : AcceptOp → Type
  | .checkKey _ => Bool
  | .now => Except String UInt64
  | .addAcceptedInvite _ | .upsertPeer _ _ | .upsertOnboardingState _ => Except StorageError Unit
  | .findAcceptedInvite _ => Except StorageError (Option AcceptedInviteRecord)
  | .addToWhitelist _ | .registryAdd _ _ => Unit
  | .getOnboardingState => Except StorageError (Option OnboardingStateRecord)

abbrev AcceptM := Fallible ApiError AcceptOp AcceptOp.Answer

/-- The node that accepts: its key, its functions, and how it reads tokens and addresses. -/
structure Node where
  crypto : Crypto
  pubkey : Vector UInt8 32
  decodeToken : String → Except ApiError BitSovInvite
  parseAddr : String → Option String

/-- The scope that accepting an invite gives the onboarding. -/
def scopedOnboarding (previous : Option OnboardingStateRecord) (invite : BitSovInvite)
    (nowUnix : UInt64) : OnboardingStateRecord where
  inviteId := previous.bind (·.inviteId)
  inviterPubkey := some invite.inviterPubkey
  inviterLnPubkey := none
  currentStep := "connecting"
  tier := (previous.bind (·.tier)).or (some "light")
  fundingAddress := previous.bind (·.fundingAddress)
  fundingAmountSatsRequired := previous.bind (·.fundingAmountSatsRequired)
  fundingAmountSatsReceived := (previous.map (·.fundingAmountSatsReceived)).getD 0
  lastPollAt := some nowUnix
  fundingEvidence := previous.bind (·.fundingEvidence)

/-- Commit the acceptance; the answer tells whether it was there already. -/
def commitAcceptance (invite : BitSovInvite) (nowUnix : UInt64) : AcceptM Bool := do
  let added ← ask (AcceptOp.addAcceptedInvite
    ⟨invite.nonce, invite.inviterPubkey, invite.expiryUnix, nowUnix⟩)
  match added with
  | .ok () => return false
  | .error .alreadyExists =>
    let found ← ask (AcceptOp.findAcceptedInvite invite.nonce)
    match found with
    | .error _ => throw (.internal "failed to load accepted invite after duplicate")
    | .ok none => throw (.internal "accepted invite duplicate reported but row was not found")
    | .ok (some existing) =>
      if existing.inviterPubkey ≠ invite.inviterPubkey ∨
        existing.expiryUnix ≠ invite.expiryUnix then
        throw (.conflict "invite nonce already accepted for different invite parameters")
      return true
  | .error (.other _) => throw (.internal "failed to persist accepted invite")

/-- The handler of a token. -/
def acceptInvite (node : Node) (caller : NodeId) (token : String) : AcceptM AcceptReply := do
  let allowed ← ask (AcceptOp.checkKey caller)
  if allowed = false then return .tooManyRequests
  let invite ← known (node.decodeToken token)
  let clock ← ask AcceptOp.now
  let nowUnix ← known (clock.mapError fun _ => .internal "system clock before UNIX_EPOCH")
  known ((invite.verify node.crypto nowUnix).mapError .invalidInvite)
  if invite.inviteePubkey ≠ node.pubkey then throw (.badRequest "wrong invitee")
  let inviter : NodeId := ⟨invite.inviterPubkey⟩
  let alreadyCommitted ← commitAcceptance invite nowUnix
  let address := node.parseAddr invite.addr
  let upserted ← ask (AcceptOp.upsertPeer inviter address)
  known (upserted.mapError fun _ => .internal "failed to upsert inviter peer")
  ask (AcceptOp.addToWhitelist inviter)
  ask (AcceptOp.registryAdd inviter (address.getD "0.0.0.0:0"))
  let read ← ask AcceptOp.getOnboardingState
  let previous := read.toOption.join
  if alreadyCommitted = false ∨ (previous.map (·.currentStep == "connecting")).getD true then
    let written ← ask (AcceptOp.upsertOnboardingState (scopedOnboarding previous invite nowUnix))
    known (written.mapError fun _ => .internal "failed to persist onboarding scope")
  return .accepted ⟨hexEncode invite.inviterPubkey.toList, invite.channelSizeHintSats, invite.addr,
    invite.maxFeeRateSatPerVb, invite.channelOpenIntentExpiryUnix⟩

open List

theorem utf8_inj {first second : String} (same : utf8 first = utf8 second) : first = second :=
  String.toByteArray_inj.mp (ByteArray.ext (Array.toList_inj.mp same))

theorem appendOption_append_inj {α : Type} {width : Nat} {toNat : α → Nat}
    {first second : Option α} {firstRest secondRest : List UInt8}
    (same : appendOption width (first.map toNat) ++ firstRest =
      appendOption width (second.map toNat) ++ secondRest)
    (fits : ∀ value, toNat value < 256 ^ width) (inj : toNat.Injective) :
    first = second ∧ firstRest = secondRest := by
  cases first with
  | none =>
    cases second with
    | none => exact ⟨rfl, tail_eq_of_cons_eq same⟩
    | some value => exact absurd (head_eq_of_cons_eq same) (by decide)
  | some value =>
    cases second with
    | none => exact absurd (head_eq_of_cons_eq same) (by decide)
    | some other =>
      obtain ⟨sameBytes, sameRest⟩ := append_inj (tail_eq_of_cons_eq same) (by simp)
      have sameValue := inj (beBytes_injective (fits value) (fits other) sameBytes)
      exact ⟨congrArg some sameValue, sameRest⟩

namespace BitSovInvite

variable {first second invite : BitSovInvite}

theorem verify_eq_ok (valid : invite.verify crypto nowUnix = .ok ()) :
    ∃ bytes, invite.payload = .ok bytes ∧ crypto.verifyStrict invite.inviterPubkey
      (crypto.blake3 bytes).toList invite.signature = .ok () := by
  unfold verify at valid
  split at valid
  · cases valid
  obtain ⟨-, -, verified⟩ := bind_eq_ok_iff.mp valid
  obtain ⟨_, isDigest, verified⟩ := bind_eq_ok_iff.mp verified
  obtain ⟨bytes, isPayload, isDigest⟩ := bind_eq_ok_iff.mp isDigest
  cases isDigest
  refine ⟨bytes, isPayload, ?_⟩
  cases answer : crypto.verifyStrict invite.inviterPubkey (crypto.blake3 bytes).toList
    invite.signature with
  | error =>
    rw [answer] at verified
    cases verified
  | ok => rfl

theorem payload_eq_ok (isPayload : invite.payload = .ok bytes) :
    ∃ tag, domainTag invite.version = .ok tag ∧ (utf8 invite.addr).length ≤ maxAddrLen ∧
      bytes = tag ++ invite.version :: invite.fields := by
  obtain ⟨tag, isTag, rest⟩ := bind_eq_ok_iff.mp isPayload
  split at rest
  · cases rest
  split at rest
  · cases rest
  · next fits => exact ⟨tag, isTag, Nat.not_lt.mp fits, (Except.ok.inj rest).symm⟩

theorem length_domainTag {version : UInt8} (isTag : domainTag version = .ok tag) :
    tag.length = 17 := by
  unfold domainTag at isTag
  split at isTag
  · cases isTag
    decide
  split at isTag
  · cases isTag
    decide
  · cases isTag

/-- The signed fields of two invites agree. -/
structure SameSigned (first second : BitSovInvite) : Prop where
  version : first.version = second.version
  inviterPubkey : first.inviterPubkey = second.inviterPubkey
  inviteePubkey : first.inviteePubkey = second.inviteePubkey
  expiryUnix : first.expiryUnix = second.expiryUnix
  channelSizeHintSats : first.channelSizeHintSats = second.channelSizeHintSats
  nonce : first.nonce = second.nonce

/-- The fields agree that only the current version signs. -/
structure SameExtension (first second : BitSovInvite) : Prop where
  addr : first.addr = second.addr
  maxFeeRateSatPerVb : first.maxFeeRateSatPerVb = second.maxFeeRateSatPerVb
  channelOpenIntentExpiryUnix :
    first.channelOpenIntentExpiryUnix = second.channelOpenIntentExpiryUnix

theorem SameSigned.eq_of_extension (signed : SameSigned first second)
    (extended : SameExtension first second) (sameSignature : first.signature = second.signature) :
    first = second := by
  obtain ⟨_, _, _, _, _, _⟩ := signed
  obtain ⟨_, _, _⟩ := extended
  cases first
  cases second
  simp_all

/-- The bytes of an extension determine it, and what follows it. -/
theorem extension_append_inj {firstRest secondRest : List UInt8}
    (firstFits : (utf8 first.addr).length ≤ maxAddrLen)
    (secondFits : (utf8 second.addr).length ≤ maxAddrLen)
    (same : first.extension ++ firstRest = second.extension ++ secondRest) :
    SameExtension first second ∧ firstRest = secondRest := by
  simp only [extension, cons_append, append_assoc] at same
  obtain ⟨sameByte, same⟩ := cons.inj same
  -- the lengths fit into the byte that stands for them
  have sameLength : (utf8 first.addr).length = (utf8 second.addr).length := by
    have sameNat := congrArg UInt8.toNat sameByte
    simp only [UInt8.toNat_ofNat', maxAddrLen] at sameNat firstFits secondFits
    omega
  obtain ⟨sameAddr, same⟩ := append_inj same sameLength
  obtain ⟨sameRate, same⟩ :=
    appendOption_append_inj same UInt32.toNat_lt fun _ _ => UInt32.toNat_inj.mp
  obtain ⟨sameIntent, same⟩ :=
    appendOption_append_inj same UInt64.toNat_lt fun _ _ => UInt64.toNat_inj.mp
  exact ⟨⟨utf8_inj sameAddr, sameRate, sameIntent⟩, same⟩

/-- One payload has one set of signed fields; in the current version these are all. -/
theorem signed_of_payload_eq {bytes : List UInt8} (firstPayload : first.payload = .ok bytes)
    (secondPayload : second.payload = .ok bytes) :
    SameSigned first second ∧
      (first.version = supportedInviteVersion → SameExtension first second) := by
  obtain ⟨_, isTag, firstFits, rfl⟩ := payload_eq_ok firstPayload
  obtain ⟨_, isOther, secondFits, same⟩ := payload_eq_ok secondPayload
  have sameSize := (length_domainTag isTag).trans (length_domainTag isOther).symm
  obtain ⟨sameVersion, same⟩ := cons.inj (append_inj same sameSize).2
  obtain ⟨sameInviter, same⟩ := append_inj same (by simp)
  obtain ⟨sameInvitee, same⟩ := append_inj same (by simp)
  obtain ⟨sameExpiry, same⟩ := append_inj same (by simp)
  have sameExpiry := UInt64.toNat_inj.mp
    (beBytes_injective first.expiryUnix.toNat_lt second.expiryUnix.toNat_lt sameExpiry)
  obtain ⟨sameHint, same⟩ :=
    appendOption_append_inj same UInt32.toNat_lt fun _ _ => UInt32.toNat_inj.mp
  have signed (sameNonce : first.nonce.toList = second.nonce.toList) : SameSigned first second :=
    ⟨sameVersion, Vector.toList_inj.mp sameInviter, Vector.toList_inj.mp sameInvitee, sameExpiry,
      sameHint, Vector.toList_inj.mp sameNonce⟩
  rw [← sameVersion] at same
  by_cases current : first.version = supportedInviteVersion
  · simp only [current, if_true] at same
    obtain ⟨extended, sameNonce⟩ := extension_append_inj firstFits secondFits same
    exact ⟨signed sameNonce, fun _ => extended⟩
  · simp only [if_neg current, nil_append] at same
    exact ⟨signed same, fun isCurrent => absurd isCurrent current⟩

/-- Invites with one payload and one signature are valid at the same times. -/
theorem SameSigned.verify_eq {bytes : List UInt8} (signed : SameSigned first second)
    (firstPayload : first.payload = .ok bytes) (secondPayload : second.payload = .ok bytes)
    (sameSignature : first.signature = second.signature) (crypto : Crypto) (nowUnix : UInt64) :
    first.verify crypto nowUnix = second.verify crypto nowUnix := by
  simp only [verify, canonicalBytes, signed.expiryUnix, signed.inviterPubkey, firstPayload,
    secondPayload, sameSignature]

end BitSovInvite

/-- Storage that takes everything, at a time. -/
def takesAll (nowUnix : UInt64) : (op : AcceptOp) → Unit → op.Answer × Unit
  | .checkKey _, _ => (true, ())
  | .now, _ => (.ok nowUnix, ())
  | .addAcceptedInvite _, _ | .upsertPeer _ _, _ | .upsertOnboardingState _, _ => (.ok (), ())
  | .findAcceptedInvite _, _ => (.ok none, ())
  | .addToWhitelist _, _ | .registryAdd _ _, _ => ((), ())
  | .getOnboardingState, _ => (.ok none, ())

/-- A valid invite to the node is answered with its unsigned fields too. -/
theorem acceptInvite_takesAll {node : Node} {token : String} {invite : BitSovInvite}
    {nowUnix : UInt64} (isInvite : node.decodeToken token = .ok invite)
    (valid : invite.verify node.crypto nowUnix = .ok ())
    (forNode : invite.inviteePubkey = node.pubkey) (caller : NodeId) :
    (acceptInvite node caller token).run.runWith (takesAll nowUnix) () =
      (.ok (.accepted ⟨hexEncode invite.inviterPubkey.toList, invite.channelSizeHintSats,
        invite.addr, invite.maxFeeRateSatPerVb, invite.channelOpenIntentExpiryUnix⟩), ()) := by
  simp only [acceptInvite, isInvite, known_ok_bind]
  change (known ((invite.verify node.crypto nowUnix).mapError ApiError.invalidInvite) >>=
    _).run.runWith (takesAll nowUnix) () = _
  rw [valid]
  simp only [forNode, ne_eq, not_true, if_false]
  rfl

/--
Two valid invites of one inviter with one signature have the same effects and
the same answer in every state of a node exactly when they are of the current
version, or invite somebody else, or agree in the fields that the first
version does not sign.
-/
theorem accept_same_effect (node : Node) (caller : NodeId) (firstToken secondToken : String)
    (first second : BitSovInvite) (isFirst : node.decodeToken firstToken = .ok first)
    (isSecond : node.decodeToken secondToken = .ok second) (nowUnix : UInt64)
    (firstValid : first.verify node.crypto nowUnix = .ok ())
    (secondValid : second.verify node.crypto nowUnix = .ok ())
    (sameKey : first.inviterPubkey = second.inviterPubkey)
    (sameSignature : first.signature = second.signature)
    (inj : ∀ bytes others, first.payload = .ok bytes → second.payload = .ok others →
      node.crypto.blake3 bytes = node.crypto.blake3 others → bytes = others)
    (oneDigest : ∀ digest other,
      node.crypto.verifyStrict first.inviterPubkey digest first.signature = .ok () →
      node.crypto.verifyStrict first.inviterPubkey other first.signature = .ok () →
        digest = other) :
    (∀ (σ : Type) (handler : (op : AcceptOp) → σ → op.Answer × σ) (state : σ),
      (acceptInvite node caller firstToken).run.runWith handler state =
        (acceptInvite node caller secondToken).run.runWith handler state) ↔
      first.version = supportedInviteVersion ∨ first.inviteePubkey ≠ node.pubkey ∨
        (first.addr = second.addr ∧ first.maxFeeRateSatPerVb = second.maxFeeRateSatPerVb ∧
          first.channelOpenIntentExpiryUnix = second.channelOpenIntentExpiryUnix) := by
  obtain ⟨_, firstPayload, firstVerified⟩ := BitSovInvite.verify_eq_ok firstValid
  obtain ⟨_, secondPayload, secondVerified⟩ := BitSovInvite.verify_eq_ok secondValid
  rw [← sameKey, ← sameSignature] at secondVerified
  have sameDigest := oneDigest _ _ firstVerified secondVerified
  obtain rfl := inj _ _ firstPayload secondPayload (Vector.toList_inj.mp sameDigest)
  obtain ⟨signed, extended⟩ := BitSovInvite.signed_of_payload_eq firstPayload secondPayload
  have ofExtension (extended : BitSovInvite.SameExtension first second) (σ : Type)
      (handler : (op : AcceptOp) → σ → op.Answer × σ) (state : σ) :
      (acceptInvite node caller firstToken).run.runWith handler state =
        (acceptInvite node caller secondToken).run.runWith handler state := by
    obtain rfl := signed.eq_of_extension extended sameSignature
    simp only [acceptInvite, isFirst, isSecond]
  refine ⟨fun sameEffect => ?_, ?_⟩
  · -- storage that takes everything lets the node answer with the fields
    by_cases current : first.version = supportedInviteVersion
    · exact .inl current
    by_cases forNode : first.inviteePubkey = node.pubkey
    · have same := sameEffect Unit (takesAll nowUnix) ()
      rw [acceptInvite_takesAll isFirst firstValid forNode,
        acceptInvite_takesAll isSecond secondValid (signed.inviteePubkey ▸ forNode)] at same
      injection same with sameReply
      injection sameReply with sameReply
      injection sameReply with sameResponse
      injection sameResponse with _ _ sameAddr sameRate sameIntent
      exact .inr (.inr ⟨sameAddr, sameRate, sameIntent⟩)
    · exact .inr (.inl forNode)
  · rintro (current | notForNode | ⟨sameAddr, sameRate, sameIntent⟩)
    · exact ofExtension (extended current)
    · intro σ handler state
      have notOther : second.inviteePubkey ≠ node.pubkey := signed.inviteePubkey ▸ notForNode
      have sameVerify := signed.verify_eq firstPayload secondPayload sameSignature node.crypto
      simp only [acceptInvite, isFirst, isSecond, known_ok_bind, if_pos notForNode, if_pos notOther]
      refine runWith_bind_congr (fun _ => rfl) (fun _ _ => ?_) state
      split
      · rfl
      refine runWith_bind_congr (fun _ => rfl) (fun _ _ => ?_) _
      refine runWith_bind_congr (fun _ => rfl) (fun _ _ => ?_) _
      rw [sameVerify]
      refine runWith_bind_congr (fun _ => rfl) (fun _ _ => ?_) _
      rfl
    · exact ofExtension ⟨sameAddr, sameRate, sameIntent⟩

section

/-- An invite with a network address; all keys are zero. -/
def invite (version : UInt8) (addr : String) : BitSovInvite :=
  ⟨version, .replicate 32 0, .replicate 32 0, 100, none, addr, none, none, .replicate 16 0,
    .replicate 64 0⟩

/-- A node that reads a token as the address of an invite; "again" is another token of one. -/
def plainNode (version : UInt8) : Node where
  crypto := ⟨fun _ => .replicate 32 0, fun _ => .replicate 32 0, fun _ => .ok (),
    fun _ digest _ => if digest = replicate 32 0 then .ok () else .error ""⟩
  pubkey := .replicate 32 0
  decodeToken token := .ok (invite version (if token = "again" then "10.0.0.1:9000" else token))
  parseAddr := some

/-- A storage that notes the addresses of peers. -/
def noteAddresses : (op : AcceptOp) → List (Option String) → op.Answer × List (Option String)
  | .checkKey _, noted => (true, noted)
  | .now, noted => (.ok 1, noted)
  | .addAcceptedInvite _, noted => (.ok (), noted)
  | .findAcceptedInvite _, noted => (.ok none, noted)
  | .upsertPeer _ address, noted => (.ok (), noted ++ [address])
  | .addToWhitelist _, noted | .registryAdd _ _, noted => ((), noted)
  | .getOnboardingState, noted => (.ok none, noted)
  | .upsertOnboardingState _, noted => (.ok (), noted)

def notedAddresses (version : UInt8) (token : String) : List (Option String) :=
  ((acceptInvite (plainNode version) ⟨.replicate 32 0⟩ token).run.runWith noteAddresses []).2

end

theorem verified_by_plainNode (version : UInt8) (digest : List UInt8)
    (verified : (plainNode version).crypto.verifyStrict (.replicate 32 0) digest
      (.replicate 64 0) = .ok ()) : digest = replicate 32 0 := by
  by_contra ne
  exact absurd ((if_neg ne).symm.trans verified) nofun

/-- Two addresses have one effect on a node that is not invited, and in the current version. -/
theorem accept_same_effect_plainNode :
    (∀ (σ : Type) (handler : (op : AcceptOp) → σ → op.Answer × σ) (state : σ),
      (acceptInvite { plainNode 1 with pubkey := .replicate 32 1 } ⟨.replicate 32 0⟩
          "10.0.0.1:9000").run.runWith handler state =
        (acceptInvite { plainNode 1 with pubkey := .replicate 32 1 } ⟨.replicate 32 0⟩
          "10.6.6.6:9000").run.runWith handler state) ∧
      notedAddresses 2 "again" = notedAddresses 2 "10.0.0.1:9000" := by
  refine ⟨(accept_same_effect { plainNode 1 with pubkey := .replicate 32 1 } _ _ _ _ _ rfl rfl 1
      rfl rfl rfl rfl (fun _ _ isFirst isSecond _ => Except.ok.inj (isFirst.symm.trans isSecond))
      fun digest other isFirst isSecond => ?_).mpr (.inr (.inl (by decide))),
    congrArg Prod.snd ((accept_same_effect (plainNode 2) _ _ _ _ _ rfl rfl 1 rfl rfl rfl rfl
      (fun _ _ isFirst isSecond _ => Except.ok.inj (isFirst.symm.trans isSecond))
      fun digest other isFirst isSecond => ?_).mpr (.inl rfl) _ noteAddresses [])⟩
  · rw [verified_by_plainNode 1 digest isFirst, verified_by_plainNode 1 other isSecond]
  · rw [verified_by_plainNode 2 digest isFirst, verified_by_plainNode 2 other isSecond]

/-- In the first version the address is not signed, and decides what is stored. -/
theorem accept_other_address : (invite 1 "10.0.0.1:9000").verify (plainNode 1).crypto 1 = .ok () ∧
      (invite 1 "10.6.6.6:9000").verify (plainNode 1).crypto 1 = .ok () ∧
      (invite 1 "10.0.0.1:9000").payload.toOption = (invite 1 "10.6.6.6:9000").payload.toOption ∧
      notedAddresses 1 "10.0.0.1:9000" = [some "10.0.0.1:9000"] ∧
      notedAddresses 1 "10.6.6.6:9000" = [some "10.6.6.6:9000"] := ⟨rfl, rfl, rfl, rfl, rfl⟩

end BitSov.Invites
