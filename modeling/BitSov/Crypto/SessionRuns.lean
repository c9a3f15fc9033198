import BitSov.Crypto.RatchetStore
import BitSov.Crypto.SessionManager

namespace BitSov.Crypto

open Core Option

/-!
# Runs of a session manager

The calls of a manager, one after the other in the order in which they take
the lock, with saves and restarts between them.  `SlotStep` says what a call
does to the session with one peer and to what is saved of it.
-/

inductive SessionCall (Secret Public Cipher : Type) where
  | encrypt (peer : NodeId) (plaintext : Bytes) (answer : StoreAnswer) (heard : Bool)
  | decrypt (peer : NodeId) (message : RatchetMessage Public Cipher) (draws : ReadDraws Secret)
      (clock : Clock)
  | initiate (peer : NodeId) (bundle : SerializablePrekeyBundle) (replacement : SessionReplacement)
      (draws : SessionManager.InitiateDraws Secret) (clock : Clock)
  | accept (peer : NodeId) (initData : SerializableSessionInit) (replacement : SessionReplacement)
      (clock : Clock)
  | confirm (peer : NodeId) (clock : Clock)
  | persist (peer : NodeId) (answer : StoreAnswer)
  | replenish (secrets : Nat → Secret)
  | remove (peer : NodeId) (answer : StoreAnswer)
  | markNeedsRenegotiation (peer : NodeId)
  | oweRatchetInit (peer : NodeId)
  | takeRatchetInitOwed (peer : NodeId)
  | expireRetired (clock : Clock)
  | restart (draws : SessionManager.BootDraws Secret) (loads : NodeId → Bool)

/-- The session with a peer and what is saved of it. -/
structure SessionSlot (Secret Public Key : Type) where
  session : Option (PeerSession Secret Public Key)
  saved : Option (SavedRatchet Secret Public Key)

variable {Secret Public Key Cipher Verifying Signature : Type}

namespace SessionManager

def slot (manager : SessionManager Secret Public Key Signature) (peer : NodeId) :
    SessionSlot Secret Public Key :=
  ⟨manager.sessions peer, manager.store.bind fun store => store peer⟩

section

variable {prims : SessionPrimitives Secret Public Key Cipher Verifying Signature}
  {manager : SessionManager Secret Public Key Signature} {peer other : NodeId}

theorem slot_of_session (found : manager.sessions peer = some session) :
    manager.slot peer = ⟨some session, (manager.slot peer).saved⟩ := by
  rw [← found]
  rfl

theorem sessions_put_self (session) : (manager.put peer session).sessions peer = session := by
  exact Function.update_self peer session manager.sessions

theorem slot_put_self (session) :
    (manager.put peer session).slot peer = ⟨session, (manager.slot peer).saved⟩ := by
  unfold put slot
  dsimp only
  rw [Function.update_self]

theorem slot_put_of_ne (ne : peer ≠ other) (session) :
    (manager.put other session).slot peer = manager.slot peer := by
  unfold put slot
  dsimp only
  rw [Function.update_of_ne ne]

theorem slot_writeStore_self (manager : SessionManager Secret Public Key Signature) (peer)
    (saved answer) :
    ∃ kept, (manager.writeStore peer saved answer).slot peer = ⟨manager.sessions peer, kept⟩ ∧
      (kept = (manager.slot peer).saved ∨ kept = saved) ∧
      (answer.effective → manager.store ≠ none → kept = saved) := by
  unfold writeStore
  split
  · cases found : manager.store with
    | none =>
      refine ⟨none, ?_, .inl ?_, fun _ absent => absurd rfl absent⟩
      · rfl
      unfold slot
      rw [found]
      rfl
    | some store =>
      refine ⟨saved, ?_, .inr rfl, fun _ _ => rfl⟩
      unfold slot
      rw [map_some, bind_some, Function.update_self]
  · next ineffective => exact ⟨_, rfl, .inl rfl, fun effective => absurd effective ineffective⟩

theorem slot_writeStore_of_ne (ne : peer ≠ other) (saved answer) :
    (manager.writeStore other saved answer).slot peer = manager.slot peer := by
  unfold writeStore
  split
  · unfold slot
    cases manager.store with
    | none => rfl
    | some store => rw [map_some, bind_some, bind_some, Function.update_of_ne ne]
  · rfl

theorem installSession_slot :
    ((manager.installSession peer ratchet new initiator clock).2 = manager ∧
      ∃ error, (manager.installSession peer ratchet new initiator clock).1 = .error error) ∨
      (manager.installSession peer ratchet new initiator clock).1 = .ok () ∧
        (manager.installSession peer ratchet new initiator clock).2.slot peer =
          ⟨some (match manager.sessions peer with
            | some session =>
              session.holdAside ⟨manager.derived, initiator, ratchet⟩ initiator clock
            | none => .new ⟨manager.derived, initiator, ratchet⟩ clock.nowMs initiator),
            (manager.slot peer).saved⟩ := by
  unfold installSession
  split
  · exact .inl ⟨rfl, _, rfl⟩
  · next found =>
    refine .inr ⟨rfl, ?_⟩
    rw [slot_put_self, found]
    rfl
  next found =>
  refine .inr ⟨rfl, ?_⟩
  rw [slot_put_self, found]
  rfl

theorem installSession_slot_of_ne (manager : SessionManager Secret Public Key Signature)
    (ne : peer ≠ other) (ratchet new initiator clock) :
    (manager.installSession other ratchet new initiator clock).2.slot peer = manager.slot peer := by
  unfold installSession
  split
  · rfl
  · rw [slot_put_of_ne ne]
    rfl
  · rw [slot_put_of_ne ne]
    rfl

theorem slot_consume (manager : SessionManager Secret Public Key Signature) (peer named) :
    (manager.consume named).slot peer = manager.slot peer := by
  unfold consume
  split <;> rfl

variable {other : NodeId}

section

variable (ne : peer ≠ other)
include ne

theorem slot_initiateWith_of_ne (bundle new draws clock) :
    (manager.initiateWith prims other bundle new draws clock).2.slot peer = manager.slot peer := by
  unfold initiateWith
  split
  · rfl
  next _ ratchet _ =>
  have same := installSession_slot_of_ne manager ne ratchet new true clock
  split
  · next installed =>
    rw [installed] at same
    exact same
  next installed =>
  rw [installed] at same
  exact same

theorem slot_acceptWith_of_ne (initData new clock) :
    (manager.acceptWith prims other initData new clock).2.slot peer = manager.slot peer := by
  unfold acceptWith
  split
  · rfl
  next _ ratchet _ =>
  have same := installSession_slot_of_ne manager ne ratchet new false clock
  split
  · next installed =>
    rw [installed] at same
    exact same
  next installed =>
  rw [installed] at same
  rw [slot_consume]
  exact same

theorem slot_confirmSession_of_ne (clock) :
    (manager.confirmSession other clock).2.slot peer = manager.slot peer := by
  unfold confirmSession
  split
  · rfl
  split
  · rfl
  · exact slot_put_of_ne ne _

theorem slot_persistSession_of_ne (answer) :
    (manager.persistSession other answer).slot peer = manager.slot peer := by
  unfold persistSession
  split
  · rfl
  · exact slot_writeStore_of_ne ne _ _

theorem slot_removeSession_of_ne (answer) :
    (manager.removeSession other answer).2.slot peer = manager.slot peer := by
  unfold removeSession
  split
  · rfl
  · exact (slot_writeStore_of_ne ne _ _).trans (slot_put_of_ne ne _)

end

end

end SessionManager

variable [DecidableEq Public]

inductive PeerSession.ReadBy (prims : RatchetPrimitives Secret Public Key Cipher)
    (session : PeerSession Secret Public Key) (draws : ReadDraws Secret)
    (message : RatchetMessage Public Cipher) (clock : Clock) (plaintext : Bytes) :
    PeerSession Secret Public Key → Prop
  | current {next : HeldRatchet Secret Public Key}
    (opened : session.held.decrypt prims draws.current message = .ok (plaintext, next)) :
    ReadBy prims session draws message clock plaintext
      { session with held := next, needsRenegotiation := false }
  | unconfirmed {error : RatchetError} {held next : HeldRatchet Secret Public Key}
    (rejected : session.held.decrypt prims draws.current message = .error error)
    (aside : session.unconfirmed = some held)
    (opened : held.decrypt prims draws.unconfirmed message = .ok (plaintext, next)) :
    ReadBy prims session draws message clock plaintext (session.switchTo next clock)
  | retired {retired : RetiredSession Secret Public Key} {next : HeldRatchet Secret Public Key}
    (found : session.retired = some retired)
    (opened : retired.held.decrypt prims draws.retired message = .ok (plaintext, next)) :
    ReadBy prims session draws message clock plaintext
      { session with retired := some { retired with held := next }, ratchetInitOwed := true }

namespace PeerSession

variable {prims : RatchetPrimitives Secret Public Key Cipher}
  {session : PeerSession Secret Public Key}

theorem readBy_of_readRetired
    (was : session.readRetired prims draws message clock error = .ok (plaintext, next)) :
    session.ReadBy prims draws message clock plaintext next := by
  unfold readRetired at was
  split at was
  · cases was
  next retired readable =>
  split at was
  · cases was
  next opened =>
  cases was
  exact .retired (filter_eq_some_iff.mp readable).1 opened

theorem readBy_of_read (was : session.read prims draws message clock = .ok (plaintext, next)) :
    session.ReadBy prims draws message clock plaintext next := by
  unfold read at was
  split at was
  · next opened =>
    cases was
    exact .current opened
  next error rejected =>
  split at was
  · exact readBy_of_readRetired was
  next _ aside =>
  split at was
  · next opened =>
    cases was
    exact .unconfirmed rejected aside opened
  · exact readBy_of_readRetired was

theorem preview_eq (session : PeerSession Secret Public Key)
    (draws previewDraws) : session.preview prims previewDraws message clock =
      (session.read prims draws message clock).map Prod.fst := by
  have copied (held : HeldRatchet Secret Public Key) (fresh other : Secret) :
      ((DoubleRatchet.fromState held.ratchet.exportState).decrypt prims other message).map
        Prod.fst =
        (held.ratchet.decrypt prims fresh message).map Prod.fst := by
    rw [DoubleRatchet.fromState_exportState, DoubleRatchet.map_fst_decrypt,
      DoubleRatchet.map_fst_decrypt, Ratchet.Stamped.map_fst_lookup_insertAll_inOrder,
      held.ratchet.map_messageKey_stageReceive fresh other]
    rfl
  simp only [preview, read, readRetired, HeldRatchet.decrypt, copied session.held draws.current]
  cases session.held.ratchet.decrypt prims draws.current message with
  | ok => rfl
  | error error =>
    cases session.unconfirmed <;> cases session.readable clock
    case none.none => rfl
    case none.some retired =>
      simp only [Option.map, Option.toList, List.nil_append, List.findSome?,
        copied retired.held draws.retired]
      cases retired.held.ratchet.decrypt prims draws.retired message <;> rfl
    case some.none held =>
      simp only [Option.map, Option.toList, List.append_nil, List.findSome?,
        copied held draws.unconfirmed]
      cases held.ratchet.decrypt prims draws.unconfirmed message <;> rfl
    case some.some held retired =>
      simp only [Option.map, Option.toList, List.cons_append, List.nil_append,
        List.findSome?, copied held draws.unconfirmed, copied retired.held draws.retired]
      cases held.ratchet.decrypt prims draws.unconfirmed message <;>
        cases retired.held.ratchet.decrypt prims draws.retired message <;> rfl

end PeerSession

namespace SessionManager

def perform (prims : SessionPrimitives Secret Public Key Cipher Verifying Signature)
    (manager : SessionManager Secret Public Key Signature) :
    SessionCall Secret Public Cipher → SessionManager Secret Public Key Signature
  | .encrypt peer plaintext answer _ => (manager.encrypt prims peer plaintext answer).2
  | .decrypt peer message draws clock => (manager.decrypt prims peer message draws clock).2
  | .initiate peer bundle replacement draws clock =>
    (manager.initiateWith prims peer bundle replacement draws clock).2
  | .accept peer initData replacement clock =>
    (manager.acceptWith prims peer initData replacement clock).2
  | .confirm peer clock => (manager.confirmSession peer clock).2
  | .persist peer answer => manager.persistSession peer answer
  | .replenish secrets => manager.replenishPrekeys prims secrets
  | .remove peer answer => (manager.removeSession peer answer).2
  | .markNeedsRenegotiation peer => manager.markNeedsRenegotiation peer
  | .oweRatchetInit peer => manager.oweRatchetInit peer
  | .takeRatchetInitOwed peer => (manager.takeRatchetInitOwed peer).2
  | .expireRetired clock => manager.expireRetiredSessions clock
  | .restart draws loads => manager.restart prims draws loads

/-- The session that a call derives. -/
inductive Derives (prims : SessionPrimitives Secret Public Key Cipher Verifying Signature)
    (manager : SessionManager Secret Public Key Signature) (peer : NodeId) :
    SessionCall Secret Public Cipher → HeldRatchet Secret Public Key → Clock → Prop
  | initiated {bundle : SerializablePrekeyBundle} {replacement : SessionReplacement}
      {draws : InitiateDraws Secret} {clock : Clock} {initiation : X3dhInitiation Public Key}
      {ratchet : DoubleRatchet Secret Public Key}
      (derivation : manager.deriveInitiation prims bundle draws = .ok (initiation, ratchet)) :
    Derives prims manager peer
      (.initiate peer bundle replacement draws clock)
      ⟨manager.derived, true, ratchet⟩ clock
  | accepted {initData : SerializableSessionInit} {replacement : SessionReplacement} {clock : Clock}
      {named : Option (Nat × OneTimePreKey Secret Public)}
      {ratchet : DoubleRatchet Secret Public Key}
      (derivation : manager.deriveAcceptance prims initData = .ok (named, ratchet)) :
    Derives prims manager peer
      (.accept peer initData replacement clock)
      ⟨manager.derived, false, ratchet⟩ clock

/-- What a call does to the session of a peer. -/
inductive SlotStep (prims : SessionPrimitives Secret Public Key Cipher Verifying Signature)
    (manager : SessionManager Secret Public Key Signature) (peer : NodeId) :
    SessionCall Secret Public Cipher → SessionSlot Secret Public Key →
      SessionSlot Secret Public Key → Prop
  | same {call : SessionCall Secret Public Cipher} {slot : SessionSlot Secret Public Key}
    (other : ∀ plaintext answer heard, call ≠ .encrypt peer plaintext answer heard) :
    SlotStep prims manager peer call slot slot
  | failed {slot : SessionSlot Secret Public Key} {plaintext : Bytes} {answer : StoreAnswer}
    {heard : Bool} {error : SessionError}
    (result : (manager.encrypt prims peer plaintext answer).1 = .error error) :
    SlotStep prims manager peer (.encrypt peer plaintext answer heard) slot slot
  | advanced {session : PeerSession Secret Public Key}
    {saved kept : Option (SavedRatchet Secret Public Key)} {plaintext : Bytes}
    {answer : StoreAnswer} {heard : Bool} {message : RatchetMessage Public Cipher}
    {next : DoubleRatchet Secret Public Key}
    (encrypted : session.held.ratchet.encrypt prims.toRatchetPrimitives
      plaintext =
      .ok (message, next))
    (keeps : kept = none ∨ kept = some (session.held.withRatchet next).save) :
    SlotStep prims manager peer (.encrypt peer plaintext answer heard)
      ⟨some session, saved⟩
      ⟨some { session with held := session.held.withRatchet next }, kept⟩
  | withheld {session : PeerSession Secret Public Key}
    {saved kept : Option (SavedRatchet Secret Public Key)} {plaintext : Bytes}
    {answer : StoreAnswer} {heard : Bool} {message : RatchetMessage Public Cipher}
    {next : DoubleRatchet Secret Public Key} {error : SessionError}
    (encrypted : session.held.ratchet.encrypt prims.toRatchetPrimitives
      plaintext =
      .ok (message, next))
    (result : (manager.encrypt prims peer plaintext answer).1 = .error error)
    (keeps : kept = saved ∨ kept = some (session.held.withRatchet next).save) :
    SlotStep prims manager peer (.encrypt peer plaintext answer heard)
      ⟨some session, saved⟩
      ⟨some
        { session with
          held := session.held.withRatchet (.fromState session.held.ratchet.exportState) },
        kept⟩
  | read {session next : PeerSession Secret Public Key}
    {saved : Option (SavedRatchet Secret Public Key)} {message : RatchetMessage Public Cipher}
    {draws : ReadDraws Secret} {clock : Clock} {plaintext : Bytes}
    (was : session.ReadBy prims.toRatchetPrimitives draws message clock plaintext next) :
    SlotStep prims manager peer (.decrypt peer message draws clock)
      ⟨some session, saved⟩ ⟨some next, saved⟩
  | installed {saved : Option (SavedRatchet Secret Public Key)}
    {call : SessionCall Secret Public Cipher} {held : HeldRatchet Secret Public Key}
    {clock : Clock} (derives : Derives prims manager peer call held clock) :
    SlotStep prims manager peer call ⟨none, saved⟩
      ⟨some (.new held clock.nowMs held.initiated), saved⟩
  | heldAside {session : PeerSession Secret Public Key}
    {saved : Option (SavedRatchet Secret Public Key)} {call : SessionCall Secret Public Cipher}
    {held : HeldRatchet Secret Public Key} {clock : Clock}
    (derives : Derives prims manager peer call held clock) :
    SlotStep prims manager peer call ⟨some session, saved⟩
      ⟨some (session.holdAside held held.initiated clock), saved⟩
  | confirmed {session next : PeerSession Secret Public Key}
    {saved : Option (SavedRatchet Secret Public Key)} {clock : Clock}
    (was : session.confirm clock = some next) :
    SlotStep prims manager peer (.confirm peer clock) ⟨some session, saved⟩ ⟨some next, saved⟩
  | persisted {session : PeerSession Secret Public Key}
    {saved kept : Option (SavedRatchet Secret Public Key)} {answer : StoreAnswer}
    (keeps : kept = saved ∨ kept = some session.held.save) :
    SlotStep prims manager peer (.persist peer answer) ⟨some session, saved⟩ ⟨some session, kept⟩
  | removed {session : PeerSession Secret Public Key}
    {saved kept : Option (SavedRatchet Secret Public Key)} {answer : StoreAnswer}
    (keeps : kept = saved ∨ kept = none) :
    SlotStep prims manager peer (.remove peer answer) ⟨some session, saved⟩ ⟨none, kept⟩
  | flagged {session : PeerSession Secret Public Key}
    {saved : Option (SavedRatchet Secret Public Key)} {call : SessionCall Secret Public Cipher}
    (needsRenegotiation ratchetInitOwed : Bool)
    (isFlag : call = .markNeedsRenegotiation peer ∨ call = .oweRatchetInit peer ∨
      call = .takeRatchetInitOwed peer) :
    SlotStep prims manager peer call ⟨some session, saved⟩
      ⟨some
        { session with needsRenegotiation, ratchetInitOwed },
        saved⟩
  | expired {session : PeerSession Secret Public Key}
    {saved : Option (SavedRatchet Secret Public Key)} {clock : Clock} :
    SlotStep prims manager peer (.expireRetired clock)
      ⟨some session, saved⟩
      ⟨some { session with retired := session.readable clock }, saved⟩
  | restarted {session resumed : Option (PeerSession Secret Public Key)}
    {saved : Option (SavedRatchet Secret Public Key)} {draws : BootDraws Secret}
    {loads : NodeId → Bool}
    (resumes : resumed = none ∨
      ∃ state, saved = some state ∧ resumed = some (.new (.restore state) none false)) :
    SlotStep prims manager peer (.restart draws loads) ⟨session, saved⟩ ⟨resumed, saved⟩

section

variable {prims : SessionPrimitives Secret Public Key Cipher Verifying Signature}
  {manager : SessionManager Secret Public Key Signature} {peer : NodeId}
  {call : SessionCall Secret Public Cipher}

theorem SlotStep.of_eq {slot next : SessionSlot Secret Public Key} (same : next = slot)
    (other : ∀ plaintext answer heard, call ≠ .encrypt peer plaintext answer heard) :
    SlotStep prims manager peer call slot next := by
  rw [same]
  exact .same other

theorem encrypt_of_session (found : manager.sessions peer = some session)
    (encrypted : session.held.ratchet.encrypt prims.toRatchetPrimitives plaintext =
      .ok (message, next)) (answer) : manager.encrypt prims peer plaintext answer =
      let advanced := { session with held := session.held.withRatchet next }
      let written := manager.writeStore peer (some advanced.held.save) answer
      match manager.store, answer with
      | none, _ => (.ok message, manager.put peer (some advanced))
      | some _, .stored => (.ok message, written.put peer (some advanced))
      | some _, .failed _ =>
        (.error .notPersisted, written.put peer (some
          { session with
            held := session.held.withRatchet (.fromState session.held.ratchet.exportState) })) := by
  unfold encrypt
  rw [found]
  dsimp only
  rw [encrypted]
  cases manager.store with
  | none => rfl
  | some store =>
    cases answer with
    | stored | failed => rfl

theorem slotStep_encrypt (plaintext answer heard) :
    SlotStep prims manager peer (.encrypt peer plaintext answer heard) (manager.slot peer)
      ((manager.encrypt prims peer plaintext answer).2.slot peer) := by
  cases found : manager.sessions peer with
  | none =>
    have was : manager.encrypt prims peer plaintext answer =
      (.error (.noSession peer), manager) := by
      unfold encrypt
      rw [found]
    rw [was]
    exact .failed (congrArg Prod.fst was)
  | some session =>
    cases encrypted : session.held.ratchet.encrypt prims.toRatchetPrimitives plaintext with
    | error error =>
      have was : manager.encrypt prims peer plaintext answer =
        (.error (.ratchet error), manager) := by
        unfold encrypt
        rw [found]
        dsimp only
        rw [encrypted]
      rw [was]
      exact .failed (congrArg Prod.fst was)
    | ok sealing =>
      obtain ⟨_, next⟩ := sealing
      have was := encrypt_of_session found encrypted answer
      obtain ⟨_, written, keeps, effective⟩ := slot_writeStore_self manager peer
        (some (session.held.withRatchet next).save) answer
      have savedKept := congrArg SessionSlot.saved written
      cases stores : manager.store with
      | none =>
        rw [stores] at was
        rw [slot_of_session found, was, slot_put_self]
        refine .advanced encrypted (.inl ?_)
        unfold slot
        rw [stores]
        rfl
      | some store =>
        rw [stores] at was
        cases answer with
        | stored =>
          rw [slot_of_session found, was, slot_put_self, savedKept]
          refine .advanced encrypted (.inr (effective rfl ?_))
          rw [stores]
          exact some_ne_none store
        | failed =>
          have result := congrArg Prod.fst was
          rw [slot_of_session found, was, slot_put_self, savedKept]
          exact .withheld encrypted result keeps

variable {other : NodeId}

theorem slot_encrypt_of_ne (ne : peer ≠ other) (plaintext answer) :
    (manager.encrypt prims other plaintext answer).2.slot peer = manager.slot peer := by
  unfold encrypt
  split
  · rfl
  split
  · rfl
  split
  · exact slot_put_of_ne ne _
  · cases answer with
    | stored | failed => exact (slot_put_of_ne ne _).trans (slot_writeStore_of_ne ne _ _)

theorem slotStep_decrypt (message draws clock) :
    SlotStep prims manager peer (.decrypt peer message draws clock) (manager.slot peer)
      ((manager.decrypt prims peer message draws clock).2.slot peer) := by
  unfold decrypt
  split
  · exact .same nofun
  next _ found =>
  split
  · exact .same nofun
  next _ next was =>
  rw [slot_put_self, slot_of_session found]
  exact .read (PeerSession.readBy_of_read was)

theorem slot_decrypt_of_ne (ne : peer ≠ other) (message draws clock) :
    (manager.decrypt prims other message draws clock).2.slot peer = manager.slot peer := by
  unfold decrypt
  split
  · rfl
  split
  · rfl
  · exact slot_put_of_ne ne _

theorem slotStep_installSession
    (derives : Derives prims manager peer call ⟨manager.derived, initiator, ratchet⟩ clock)
    (new) : SlotStep prims manager peer call (manager.slot peer)
      ((manager.installSession peer ratchet new initiator clock).2.slot peer) := by
  rcases installSession_slot with ⟨same, -⟩ | ⟨-, installed⟩
  · rw [same]
    refine .same ?_
    rintro _ _ _ rfl
    cases derives
  rw [installed]
  cases found : manager.sessions peer with
  | none =>
    have empty : manager.slot peer = ⟨none, (manager.slot peer).saved⟩ := by
      rw [← found]
      rfl
    rw [empty]
    exact .installed derives
  | some =>
    rw [slot_of_session found]
    exact .heldAside derives

theorem slotStep_initiateWith (bundle new draws clock) :
    SlotStep prims manager peer (.initiate peer bundle new draws clock) (manager.slot peer)
      ((manager.initiateWith prims peer bundle new draws clock).2.slot peer) := by
  unfold initiateWith
  split
  · exact .same nofun
  next _ ratchet derivation =>
  have derives : Derives prims manager peer (.initiate peer bundle new draws clock)
    ⟨manager.derived, true, ratchet⟩ clock :=
    .initiated derivation
  have step := slotStep_installSession derives new
  split
  · next installed =>
    rw [installed] at step
    exact step
  next installed =>
  rw [installed] at step
  exact step

theorem slotStep_acceptWith (initData new clock) :
    SlotStep prims manager peer (.accept peer initData new clock) (manager.slot peer)
      ((manager.acceptWith prims peer initData new clock).2.slot peer) := by
  unfold acceptWith
  split
  · exact .same nofun
  next _ ratchet derivation =>
  have derives : Derives prims manager peer (.accept peer initData new clock)
    ⟨manager.derived, false, ratchet⟩ clock :=
    .accepted derivation
  have step := slotStep_installSession derives new
  split
  · next installed =>
    rw [installed] at step
    exact step
  next installed =>
  rw [installed] at step
  rw [slot_consume]
  exact step

theorem slotStep_confirmSession (clock) : SlotStep prims manager peer (.confirm peer clock)
      (manager.slot peer) ((manager.confirmSession peer clock).2.slot peer) := by
  unfold confirmSession
  split
  · exact .same nofun
  next _ found =>
  split
  · exact .same nofun
  next next was =>
  rw [slot_put_self, slot_of_session found]
  exact .confirmed was

theorem slotStep_persistSession (answer) : SlotStep prims manager peer (.persist peer answer)
      (manager.slot peer) ((manager.persistSession peer answer).slot peer) := by
  unfold persistSession
  split
  · exact .same nofun
  next session found =>
  obtain ⟨_, written, keeps, -⟩ := slot_writeStore_self manager peer (some session.held.save) answer
  rw [written, found, slot_of_session found]
  exact .persisted keeps

theorem slotStep_removeSession (answer) : SlotStep prims manager peer (.remove peer answer)
      (manager.slot peer) ((manager.removeSession peer answer).2.slot peer) := by
  unfold removeSession
  split
  · exact .same nofun
  next _ found =>
  obtain ⟨_, written, keeps, -⟩ := slot_writeStore_self (manager.put peer none) peer none answer
  rw [written, sessions_put_self, slot_of_session found]
  exact .removed keeps

theorem slotStep_modifySession
    (isFlag : call = .markNeedsRenegotiation peer ∨ call = .oweRatchetInit peer ∨
      call = .takeRatchetInitOwed peer) (changes : ∀ session, ∃ needsRenegotiation ratchetInitOwed,
      change session = { session with needsRenegotiation, ratchetInitOwed := ratchetInitOwed }) :
    SlotStep prims manager peer call (manager.slot peer)
      ((manager.modifySession peer change).slot peer) := by
  unfold modifySession
  rw [slot_put_self]
  cases found : manager.sessions peer with
  | none =>
    refine .of_eq ?_ ?_
    · rw [map_none, ← found]
      rfl
    · rintro _ _ _ rfl
      rcases isFlag with wrong | wrong | wrong <;> cases wrong
  | some session =>
    obtain ⟨needsRenegotiation, ratchetInitOwed, changed⟩ := changes session
    rw [map_some, changed, slot_of_session found]
    exact .flagged needsRenegotiation ratchetInitOwed isFlag

theorem slotStep_expireRetired (clock) :
    SlotStep prims manager peer (.expireRetired clock) (manager.slot peer)
      ((manager.expireRetiredSessions clock).slot peer) := by
  cases found : manager.sessions peer with
  | none =>
    refine .of_eq ?_ nofun
    unfold expireRetiredSessions slot
    dsimp only
    rw [found]
    rfl
  | some session =>
    have expires : (manager.expireRetiredSessions clock).slot peer =
      ⟨some { session with retired := session.readable clock }, (manager.slot peer).saved⟩ := by
      unfold expireRetiredSessions slot
      dsimp only
      rw [found]
      rfl
    rw [expires, slot_of_session found]
    exact .expired

theorem slotStep_restart (draws loads) :
    SlotStep prims manager peer (.restart draws loads) (manager.slot peer)
      ((manager.restart prims draws loads).slot peer) := by
  unfold restart restoreSessions
  split
  · next none =>
    have empty : (withOptionalStore prims manager.identity manager.store draws
      manager.derived).slot peer =
      ⟨Option.none, (manager.slot peer).saved⟩ :=
      rfl
    rw [empty]
    exact .restarted (.inl rfl)
  · next store stores =>
    change manager.store = _ at stores
    have savedOf : (manager.slot peer).saved = store peer := by
      unfold slot
      rw [stores]
      rfl
    have resumes : ∀ resumed, (resumed = none ∨
      ∃ state, store peer = some state ∧ resumed = some (.new (.restore state) none false)) →
      SlotStep prims manager peer (.restart draws loads) (manager.slot peer)
        ⟨resumed, (manager.slot peer).saved⟩ := by
      intro resumed which
      rw [← savedOf] at which
      exact .restarted which
    have slotOf : ({ withOptionalStore prims manager.identity manager.store draws
        manager.derived with
        sessions := fun peer =>
          resumedSession (store peer) (loads peer) none } :
          SessionManager Secret Public Key Signature).slot peer =
        ⟨resumedSession (store peer) (loads peer) none, (manager.slot peer).saved⟩ :=
      rfl
    refine slotOf ▸ resumes _ ?_
    cases store peer with
    | none => exact .inl rfl
    | some state =>
      cases loads peer with
      | false => exact .inl rfl
      | true => exact .inr ⟨state, rfl, rfl⟩

/-- What any call does to the slot of any peer. -/
theorem slotStep_perform (prims : SessionPrimitives Secret Public Key Cipher Verifying Signature)
    (manager peer call) : SlotStep prims manager peer call (manager.slot peer)
      ((manager.perform prims call).slot peer) := by
  cases call with
  | encrypt other plaintext answer heard =>
    obtain rfl | ne := eq_or_ne peer other
    · exact slotStep_encrypt plaintext answer heard
    refine .of_eq (slot_encrypt_of_ne ne plaintext answer) ?_
    rintro _ _ _ ⟨⟩
    exact ne rfl
  | decrypt other message draws clock =>
    obtain rfl | ne := eq_or_ne peer other
    · exact slotStep_decrypt message draws clock
    · exact .of_eq (slot_decrypt_of_ne ne message draws clock) nofun
  | initiate other bundle new draws clock =>
    obtain rfl | ne := eq_or_ne peer other
    · exact slotStep_initiateWith bundle new draws clock
    · exact .of_eq (slot_initiateWith_of_ne ne bundle new draws clock) nofun
  | accept other initData new clock =>
    obtain rfl | ne := eq_or_ne peer other
    · exact slotStep_acceptWith initData new clock
    · exact .of_eq (slot_acceptWith_of_ne ne initData new clock) nofun
  | confirm other clock =>
    obtain rfl | ne := eq_or_ne peer other
    · exact slotStep_confirmSession clock
    · exact .of_eq (slot_confirmSession_of_ne ne clock) nofun
  | persist other answer =>
    obtain rfl | ne := eq_or_ne peer other
    · exact slotStep_persistSession answer
    · exact .of_eq (slot_persistSession_of_ne ne answer) nofun
  | replenish =>
    refine .of_eq ?_ nofun
    rw [perform, replenishPrekeys]
    split <;> rfl
  | remove other answer =>
    obtain rfl | ne := eq_or_ne peer other
    · exact slotStep_removeSession answer
    · exact .of_eq (slot_removeSession_of_ne ne answer) nofun
  | markNeedsRenegotiation other =>
    obtain rfl | ne := eq_or_ne peer other
    · exact slotStep_modifySession (.inl rfl) fun session => ⟨true, session.ratchetInitOwed, rfl⟩
    · exact .of_eq (slot_put_of_ne ne _) nofun
  | oweRatchetInit other =>
    obtain rfl | ne := eq_or_ne peer other
    · exact slotStep_modifySession (.inr (.inl rfl)) fun session =>
        ⟨session.needsRenegotiation, true, rfl⟩
    · exact .of_eq (slot_put_of_ne ne _) nofun
  | takeRatchetInitOwed other =>
    obtain rfl | ne := eq_or_ne peer other
    · exact slotStep_modifySession (.inr (.inr rfl)) fun session =>
        ⟨session.needsRenegotiation, false, rfl⟩
    · exact .of_eq (slot_put_of_ne ne _) nofun
  | expireRetired clock => exact slotStep_expireRetired clock
  | restart draws loads => exact slotStep_restart draws loads

/--
A preview has the plaintext or the error that decrypting at the same instant
has, whatever the two draw, and changes nothing.
-/
theorem previewDecrypt_eq (message : RatchetMessage Public Cipher)
    (draws previewDraws : ReadDraws Secret) (clock : Clock) :
    manager.previewDecrypt prims peer message previewDraws clock =
      ((manager.decrypt prims peer message draws clock).1, manager) := by
  unfold previewDecrypt decrypt
  cases manager.sessions peer with
  | none => rfl
  | some session =>
    dsimp only
    rw [session.preview_eq draws]
    cases session.read prims.toRatchetPrimitives draws message clock <;> rfl

end

end SessionManager

def RatchetTerm.sessionPrimitives (exchange : Nat → Nat → RatchetTerm) :
    SessionPrimitives Nat Nat RatchetTerm RatchetSealed Unit Unit where
  toRatchetPrimitives := { RatchetTerm.primitives with diffieHellman := exchange }
  asBytes key := .replicate 32 (UInt8.ofNat key)
  ofBytes bytes := bytes[0].toNat
  sharedSecret keys := keys.foldl .root .shared
  signatureFromSlice _ := .ok ()
  signatureBytes _ := []
  verifyingKey _ := .ok ()
  verify _ _ _ := .ok ()

end BitSov.Crypto
