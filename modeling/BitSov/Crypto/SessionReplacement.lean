import BitSov.Crypto.SessionRuns

namespace BitSov.Crypto

open Core

/-!
# How sessions replace each other

The session that a peer's messages are encrypted with is replaced only after
the peer has acknowledged one that this node has initiated, or has used one
that was held aside.  A restart goes back to what was saved.
-/

variable {Secret Public Key Cipher Verifying Signature : Type}

/-- The peer may acknowledge a session that this node has initiated. -/
def PeerSession.Acknowledgeable (session : PeerSession Secret Public Key) : Prop :=
  (∃ held, session.unconfirmed = some held ∧ held.initiated = true) ∨
    session.awaitingConfirmation = true ∧ session.held.initiated = true

/-- The flags of a session say who has initiated what. -/
structure PeerSession.Truthful (session : PeerSession Secret Public Key) : Prop where
  aside : ∀ held, session.unconfirmed = some held → held.initiated = session.unconfirmedInitiated
  awaiting : session.awaitingConfirmation = true → session.held.initiated = true

namespace PeerSession

theorem truthful_new {held : HeldRatchet Secret Public Key} {establishedAtMs : Option Nat}
    {awaitingConfirmation : Bool} (told : awaitingConfirmation → held.initiated) :
    (new held establishedAtMs awaitingConfirmation).Truthful where
  aside := nofun
  awaiting := told

theorem truthful_switchTo (session : PeerSession Secret Public Key) (held clock) :
    (session.switchTo held clock).Truthful where
  aside := nofun
  awaiting := nofun

variable {session : PeerSession Secret Public Key}

theorem confirm_eq_some (was : session.confirm clock = some next) :
    (∃ held, session.unconfirmed = some held ∧ session.unconfirmedInitiated ∧
      next = session.switchTo held clock) ∨ session.awaitingConfirmation ∧
        next = { session with awaitingConfirmation := false } := by
  unfold confirm at was
  split at was
  · next held aside =>
    split at was
    · next initiated =>
      cases was
      exact .inl ⟨held, aside, initiated, rfl⟩
    split at was
    · next awaiting =>
      cases was
      exact .inr ⟨awaiting, rfl⟩
    · cases was
  · split at was
    · next awaiting =>
      cases was
      exact .inr ⟨awaiting, rfl⟩
    · cases was

theorem Truthful.confirm_eq_none (truthful : session.Truthful)
    (unexpected : ¬ session.Acknowledgeable) (clock) : session.confirm clock = none := by
  cases was : session.confirm clock with
  | none => rfl
  | some =>
    refine absurd ?_ unexpected
    rcases confirm_eq_some was with ⟨held, aside, initiated, -⟩ | ⟨awaiting, -⟩
    · exact .inl ⟨held, aside, (truthful.aside held aside).trans initiated⟩
    · exact .inr ⟨awaiting, truthful.awaiting awaiting⟩

theorem Truthful.confirm (truthful : session.Truthful) (was : session.confirm clock = some next) :
    next.Truthful := by
  rcases confirm_eq_some was with ⟨held, -, -, rfl⟩ | ⟨-, rfl⟩
  · exact truthful_switchTo session held clock
  · exact ⟨truthful.aside, nofun⟩

end PeerSession

namespace SessionManager

variable {manager : SessionManager Secret Public Key Signature}

theorem confirmSession_of_session (found : manager.sessions peer = some session) (clock) :
    manager.confirmSession peer clock = match session.confirm clock with
      | none => (false, manager)
      | some confirmed => (true, manager.put peer (some confirmed)) := by
  unfold confirmSession
  cases outcome : session.confirm clock with
  | none | some => simp only [found, outcome]

theorem held_of_confirmSession (truthful : session.Truthful)
    (found : manager.sessions peer = some session)
    (after : (manager.confirmSession peer clock).2.sessions peer = some next) :
    next.held = session.held ∨ session.unconfirmed = some next.held ∧ next.held.initiated := by
  rw [confirmSession_of_session found] at after
  cases was : session.confirm clock with
  | none =>
    rw [was] at after
    cases found.symm.trans after
    exact .inl rfl
  | some =>
    rw [was] at after
    cases (sessions_put_self _).symm.trans after
    rcases PeerSession.confirm_eq_some was with
      ⟨held, aside, initiated, rfl⟩ | ⟨-, rfl⟩
    · exact .inr ⟨aside, (truthful.aside held aside).trans initiated⟩
    · exact .inl rfl

end SessionManager

variable [DecidableEq Public]
  {prims : SessionPrimitives Secret Public Key Cipher Verifying Signature}
  {message : RatchetMessage Public Cipher} {plaintext : Bytes}

theorem HeldRatchet.decrypt_eq_ok {prims : RatchetPrimitives Secret Public Key Cipher}
    {held next : HeldRatchet Secret Public Key} {fresh : Secret}
    (opened : held.decrypt prims fresh message = .ok (plaintext, next)) :
    ∃ ratchet, held.ratchet.decrypt prims fresh message = .ok (plaintext, ratchet) ∧
      next = held.withRatchet ratchet := by
  unfold HeldRatchet.decrypt at opened
  split at opened
  · next ratchet decrypted =>
    cases opened
    exact ⟨ratchet, decrypted, rfl⟩
  · cases opened

theorem PeerSession.Truthful.read {prims : RatchetPrimitives Secret Public Key Cipher}
    {session next : PeerSession Secret Public Key} {draws : ReadDraws Secret} {clock : Clock}
    (truthful : session.Truthful) (was : session.ReadBy prims draws message clock plaintext next) :
    next.Truthful := by
  cases was with
  | current opened =>
    obtain ⟨_, -, rfl⟩ := HeldRatchet.decrypt_eq_ok opened
    exact ⟨truthful.aside, truthful.awaiting⟩
  | unconfirmed => exact truthful_switchTo _ _ _
  | retired => exact ⟨truthful.aside, truthful.awaiting⟩

namespace SessionManager

/-- The managers that calls lead to, from the first start of a node on. -/
inductive Reachable (prims : SessionPrimitives Secret Public Key Cipher Verifying Signature) :
    SessionManager Secret Public Key Signature → Prop
  | boot (identity : NodeIdentity Secret Public Signature) (draws : BootDraws Secret)
      {store : Option (SessionStore Secret Public Key)}
      (empty : store = none ∨ store = some fun _ => none) :
      Reachable prims (withOptionalStore prims identity store draws 0)
  | call {manager : SessionManager Secret Public Key Signature}
      (earlier : Reachable prims manager) (call : SessionCall Secret Public Cipher) :
      Reachable prims (manager.perform prims call)

variable {manager : SessionManager Secret Public Key Signature}

/-- A call keeps the flags truthful. -/
theorem truthful_perform
    (truthful : ∀ session, manager.sessions peer = some session → session.Truthful) (call)
    (after : (manager.perform prims call).sessions peer = some next) : next.Truthful := by
  have step := slotStep_perform prims manager peer call
  generalize before : manager.slot peer = slot at step
  generalize later : (manager.perform prims call).slot peer = slot' at step
  have sessionBefore := congrArg SessionSlot.session before
  have sessionAfter := (congrArg SessionSlot.session later).symm.trans after
  change manager.sessions peer = _ at sessionBefore
  cases step with
  | same | failed | persisted => exact truthful next (sessionBefore.trans sessionAfter)
  | advanced | withheld | flagged | expired =>
    have old := truthful _ sessionBefore
    cases sessionAfter
    exact ⟨old.aside, old.awaiting⟩
  | read was =>
    cases sessionAfter
    exact (truthful _ sessionBefore).read was
  | installed =>
    cases sessionAfter
    exact PeerSession.truthful_new fun told => told
  | heldAside =>
    have old := truthful _ sessionBefore
    cases sessionAfter
    refine ⟨?_, old.awaiting⟩
    rintro _ ⟨⟩
    rfl
  | confirmed was =>
    cases sessionAfter
    exact (truthful _ sessionBefore).confirm was
  | removed => cases sessionAfter
  | restarted resumes =>
    rcases resumes with rfl | ⟨_, -, rfl⟩
    · cases sessionAfter
    · cases sessionAfter
      exact PeerSession.truthful_new nofun

variable {session : PeerSession Secret Public Key}

theorem truthful_of_reachable (reachable : Reachable prims manager)
    (found : manager.sessions peer = some session) : session.Truthful := by
  induction reachable generalizing session with
  | boot => cases found
  | call _ call ih => exact truthful_perform (fun _ old => ih old) call found

/--
The ratchet that messages to a peer are encrypted with is another one after a
call only if the peer has acknowledged a session that this node has initiated,
if the call has read a message under the session held aside, or if the node has
started again and resumed exactly the session that was saved.  An
acknowledgement of nothing that this node has initiated changes nothing, and
none puts a session in use that this node has accepted.
-/
theorem session_in_use_replaced_on_proof {manager : SessionManager Secret Public Key Signature}
    (reachable : Reachable prims manager) (peer : NodeId) (call : SessionCall Secret Public Cipher)
    {session next : PeerSession Secret Public Key} (found : manager.sessions peer = some session)
    (after : (manager.perform prims call).sessions peer = some next) :
    (next.held.name ≠ session.held.name →
      (∃ clock held, call = .confirm peer clock ∧ session.unconfirmed = some held ∧
        held.initiated ∧ next.held = held) ∨
        (∃ message draws clock held plaintext, call = .decrypt peer message draws clock ∧
          session.unconfirmed = some held ∧
            held.decrypt prims.toRatchetPrimitives draws.unconfirmed message =
              .ok (plaintext, next.held)) ∨
        ∃ draws loads saved, call = .restart draws loads ∧
          (manager.slot peer).saved = some saved ∧ next = .new (.restore saved) none false) ∧
      (∀ clock, call = .confirm peer clock → ¬ session.Acknowledgeable →
        (manager.confirmSession peer clock).1 = false ∧ manager.perform prims call = manager) ∧
      ∀ clock, call = .confirm peer clock → next.held = session.held ∨ next.held.initiated := by
  have truthful := truthful_of_reachable reachable found
  have promoted : ∀ clock, call = .confirm peer clock → next.held = session.held ∨
    session.unconfirmed = some next.held ∧ next.held.initiated := by
    rintro clock rfl
    exact held_of_confirmSession truthful found after
  refine ⟨?_, ?_, ?_⟩
  · intro other
    have step := slotStep_perform prims manager peer call
    generalize before : manager.slot peer = slot at step
    generalize later : (manager.perform prims call).slot peer = slot' at step
    have sessionBefore := found.symm.trans (congrArg SessionSlot.session before)
    have sessionAfter := (congrArg SessionSlot.session later).symm.trans after
    cases step with
    | same | failed =>
      cases sessionBefore.trans sessionAfter
      exact absurd rfl other
    | advanced | withheld | flagged | expired | heldAside | persisted =>
      cases sessionBefore
      cases sessionAfter
      exact absurd rfl other
    | @read _ _ _ message draws clock plaintext was =>
      cases sessionBefore
      cases sessionAfter
      cases was with
      | current opened =>
        obtain ⟨_, -, rfl⟩ := HeldRatchet.decrypt_eq_ok opened
        exact absurd rfl other
      | unconfirmed _ aside opened =>
        exact .inr (.inl ⟨message, draws, clock, _, plaintext, rfl, aside, opened⟩)
      | retired => exact absurd rfl other
    | installed => cases sessionBefore
    | @confirmed _ _ _ clock _ =>
      rcases promoted clock rfl with same | ⟨aside, initiated⟩
      · rw [same] at other
        exact absurd rfl other
      · exact .inl ⟨clock, next.held, rfl, aside, initiated, rfl⟩
    | removed => cases sessionAfter
    | @restarted _ _ _ draws loads resumes =>
      rcases resumes with rfl | ⟨state, known, rfl⟩
      · cases sessionAfter
      · cases sessionAfter
        exact .inr (.inr ⟨draws, loads, state, rfl, known, rfl⟩)
  · rintro clock rfl unexpected
    have nothing := truthful.confirm_eq_none unexpected clock
    have was : manager.confirmSession peer clock = (false, manager) := by
      rw [confirmSession_of_session found, nothing]
    exact ⟨congrArg Prod.fst was, congrArg Prod.snd was⟩
  · intro clock confirms
    exact (promoted clock confirms).imp id And.right

/-! ## A session that is replaced, and a restart -/

namespace ReplacementExample

def peer : NodeId :=
  ⟨.replicate 32 9⟩

def terms : SessionPrimitives Nat Nat RatchetTerm RatchetSealed Unit Unit :=
  RatchetTerm.sessionPrimitives RatchetTerm.primitives.diffieHellman

/-- The bundle that the peer publishes, with identity 2 and signed key 3. -/
def bundle : SerializablePrekeyBundle where
  identityKey := terms.keyText 2
  signedPrekey := terms.keyText 3
  signedPrekeySig := ""
  nodeId := toHex peer
  oneTimePrekey := none
  oneTimePrekeyId := none

def clock (instant : Nat) : Clock :=
  ⟨instant, some instant⟩

/-- A node without sessions, with identity 1. -/
def boot (store : Option (SessionStore Nat Nat RatchetTerm)) :
    SessionManager Nat Nat RatchetTerm Unit :=
  withOptionalStore terms ⟨⟨.replicate 32 8⟩, 1, 1, fun _ => ()⟩
    store ⟨4, 0, fun index => 100 + index⟩ 0

/-- The node initiates a session, drawing an ephemeral and a ratchet secret. -/
def initiates (ephemeral : Nat) : SessionCall Nat Nat RatchetSealed :=
  .initiate peer bundle .afterConfirmation ⟨ephemeral, ephemeral + 1⟩ (clock 0)

/-- The node with a session and another one that it has initiated. -/
def renewing : SessionManager Nat Nat RatchetTerm Unit :=
  ((boot none).perform terms (initiates 10)).perform terms (initiates 12)

/-- The same node with a store, which fails to save the session that takes over. -/
def unsaved : SessionManager Nat Nat RatchetTerm Unit :=
  [initiates 10, .encrypt peer [1] .stored true, initiates 12, .confirm peer (clock 1),
    .persist peer (.failed false)].foldl (perform terms) (boot (some fun _ => none))

/-- The node starts again, and the store can be read. -/
def restarts : SessionCall Nat Nat RatchetSealed :=
  .restart ⟨4, 0, fun index => 100 + index⟩ fun _ => true

/-- The node after the peer has acknowledged the other one. -/
def renewed : SessionManager Nat Nat RatchetTerm Unit :=
  renewing.perform terms (.confirm peer (clock 1))

theorem reachable_renewing : Reachable terms renewing :=
  .call (.call (.boot _ _ (.inl rfl)) (initiates 10)) (initiates 12)

theorem reachable_unsaved : Reachable terms unsaved :=
  .call (.call (.call (.call (.call (.boot _ _ (.inr rfl)) (initiates 10))
    (.encrypt peer [1] .stored true)) (initiates 12)) (.confirm peer (clock 1)))
    (.persist peer (.failed false))

end ReplacementExample

section

open ReplacementExample

/-- The acknowledgement puts the second session in use, and a restart the saved one. -/
theorem session_in_use_replaced_on_proof_acknowledged :
    (∃ session next, renewing.sessions peer = some session ∧ renewed.sessions peer = some next ∧
      session.unconfirmed = some next.held ∧ next.held.initiated) ∧
    ∃ next saved, (unsaved.perform terms restarts).sessions peer = some next ∧
      (unsaved.slot peer).saved = some saved ∧ next = .new (.restore saved) none false := by
  refine ⟨⟨_, _, rfl, rfl, ?_⟩, ?_⟩
  · rcases (session_in_use_replaced_on_proof reachable_renewing peer (.confirm peer (clock 1))
      rfl rfl).1 (by decide) with ⟨_, held, -, aside, initiated, rfl⟩ |
      ⟨_, _, _, _, _, isDecrypt, -⟩ | ⟨_, _, _, isRestart, -⟩
    · exact ⟨aside, initiated⟩
    · cases isDecrypt
    · cases isRestart
  · rcases (session_in_use_replaced_on_proof reachable_unsaved peer restarts rfl rfl).1
      (by decide) with ⟨_, _, isConfirm, -⟩ | ⟨_, _, _, _, _, isDecrypt, -⟩ |
      ⟨_, _, saved, -, known, same⟩
    · cases isConfirm
    · cases isDecrypt
    · exact ⟨_, saved, rfl, known, same⟩

/-- After a save has failed, a restart goes back to the session that was replaced. -/
theorem restart_returns_to_saved_session : ∃ session next,
    Reachable terms unsaved ∧ unsaved.sessions peer = some session ∧
      (unsaved.perform terms restarts).sessions peer = some next ∧
      next.held.name ≠ session.held.name ∧ (∀ clock, restarts ≠ .confirm peer clock) ∧
      ∀ message draws clock, restarts ≠ .decrypt peer message draws clock :=
  ⟨_, _, reachable_unsaved, rfl, rfl, by decide, nofun, nofun⟩

end

end SessionManager

end BitSov.Crypto
