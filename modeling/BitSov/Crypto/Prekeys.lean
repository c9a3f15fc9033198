import Mathlib.Data.List.Perm.Basic
import BitSov.Process.Program
import BitSov.Crypto.SessionRuns

namespace BitSov.Crypto

open Core Process List Fallible SessionPrimitives

/-!
# One-time pre-keys

Every accepted session that names a one-time pre-key removes it from the
pool, and a call that fails changes nothing.  The ids of a pool are distinct
as long as fewer ids are drawn than the counter has.
-/

variable {Secret Public Key Cipher Verifying Signature : Type}

namespace SessionManager

section

variable {prims : SessionPrimitives Secret Public Key Cipher Verifying Signature}
  {manager : SessionManager Secret Public Key Signature}
  {replacement : SessionReplacement} {error : SessionError} {peer : NodeId} {clock : Clock}

variable {key : OneTimePreKey Secret Public}

theorem namedPrekey_eq_ok {id : Option Nat}
    (named : manager.namedPrekey id = .ok (some (index, key))) :
    manager.oneTimePrekeys[index]? = some key ∧ id = some key.id := by
  unfold namedPrekey at named
  split at named
  · cases named
  next _ =>
  split at named
  · next found =>
    cases named
    have mem := mem_of_find?_eq_some found
    have same := find?_some found
    rw [mem_zipIdx_iff_getElem?] at mem
    exact ⟨mem, congrArg some (eq_of_beq same).symm⟩
  · cases named

theorem installSession_pool (manager : SessionManager Secret Public Key Signature) (peer)
    (ratchet replacement initiator clock) :
    (manager.installSession peer ratchet replacement initiator clock).2.oneTimePrekeys =
      manager.oneTimePrekeys ∧
      (manager.installSession peer ratchet replacement initiator clock).2.nextOpkId =
        manager.nextOpkId := by
  unfold installSession
  split <;> exact ⟨rfl, rfl⟩

variable {ratchet : DoubleRatchet Secret Public Key}

theorem installSession_of_error
    (failed : (manager.installSession peer ratchet replacement initiator clock).1 = .error error) :
    (manager.installSession peer ratchet replacement initiator clock).2 = manager := by
  rcases installSession_slot with ⟨same, -⟩ | ⟨succeeded, -⟩
  · exact same
  · cases succeeded.symm.trans failed

/-- The outcomes of `accept_session`. -/
inductive Accepts (prims : SessionPrimitives Secret Public Key Cipher Verifying Signature)
    (manager : SessionManager Secret Public Key Signature) (peer : NodeId)
    (initData : SerializableSessionInit) (replacement : SessionReplacement) (clock : Clock) :
    Except SessionError Unit × SessionManager Secret Public Key Signature → Prop
  | failed (error : SessionError) :
      Accepts prims manager peer initData replacement clock (.error error, manager)
  | accepted {named : Option (Nat × OneTimePreKey Secret Public)}
      {ratchet : DoubleRatchet Secret Public Key}
      (derivation : manager.deriveAcceptance prims initData = .ok (named, ratchet)) :
    Accepts prims manager peer initData replacement clock
      (.ok (), (manager.installSession peer ratchet replacement false clock).2.consume named)

theorem accepts_acceptWith (prims : SessionPrimitives Secret Public Key Cipher Verifying Signature)
    (manager) (peer : NodeId) (initData replacement clock) :
    Accepts prims manager peer initData replacement clock
      (manager.acceptWith prims peer initData replacement clock) := by
  unfold acceptWith
  split
  · exact .failed _
  next _ _ derivation =>
  split
  · next error left installed =>
    have unchanged := installSession_of_error (congrArg Prod.fst installed)
    rw [installed] at unchanged
    rw [show left = manager from unchanged]
    exact .failed error
  next installed after =>
  have same := congrArg Prod.snd after
  dsimp only at same
  rw [← same]
  exact .accepted derivation

theorem namedPrekey_of_deriveAcceptance
    (derivation : manager.deriveAcceptance prims initData = .ok (named, ratchet)) :
    manager.namedPrekey initData.oneTimePrekeyId = .ok named := by
  obtain ⟨_, -, derivation⟩ := bind_eq_ok_iff.mp derivation
  obtain ⟨_, -, derivation⟩ := bind_eq_ok_iff.mp derivation
  obtain ⟨_, -, derivation⟩ := bind_eq_ok_iff.mp derivation
  obtain ⟨_, lookedUp, derivation⟩ := bind_eq_ok_iff.mp derivation
  cases derivation
  exact lookedUp

def SamePool (manager next : SessionManager Secret Public Key Signature) : Prop :=
  next.oneTimePrekeys = manager.oneTimePrekeys ∧ next.nextOpkId = manager.nextOpkId

theorem samePool_put (manager : SessionManager Secret Public Key Signature) (peer) (session) :
    SamePool manager (manager.put peer session) := ⟨rfl, rfl⟩

theorem samePool_writeStore (manager : SessionManager Secret Public Key Signature) (peer)
    (saved answer) : SamePool manager (manager.writeStore peer saved answer) := by
  unfold writeStore
  split <;> exact ⟨rfl, rfl⟩

theorem SamePool.trans {first second third : SessionManager Secret Public Key Signature}
    (before : SamePool first second) (after : SamePool second third) :
    SamePool first third := ⟨after.1.trans before.1, after.2.trans before.2⟩

theorem samePool_initiateWith (peer bundle replacement draws clock) :
    SamePool manager (manager.initiateWith prims peer bundle replacement draws clock).2 := by
  unfold initiateWith
  split
  · exact ⟨rfl, rfl⟩
  next _ ratchet _ =>
  have same := installSession_pool manager peer ratchet replacement true clock
  split
  · next installed =>
    rw [installed] at same
    exact same
  next installed =>
  rw [installed] at same
  exact same

theorem initiateWith_of_error
    (failed : (manager.initiateWith prims peer bundle replacement draws clock).1 = .error error) :
    (manager.initiateWith prims peer bundle replacement draws clock).2 = manager := by
  unfold initiateWith at failed ⊢
  split
  · rfl
  next derivation =>
  rw [derivation] at failed
  dsimp only at failed
  split
  · next installed =>
    have same := installSession_of_error (congrArg Prod.fst installed)
    rw [installed] at same
    exact same
  next installed =>
  rw [installed] at failed
  cases failed

variable {next : SessionManager Secret Public Key Signature}
  {consumed : List (OneTimePreKey Secret Public)}

/-- No prekey has the id of another one, also of those consumed. -/
structure Distinct (consumed : List (OneTimePreKey Secret Public))
    (manager : SessionManager Secret Public Key Signature) : Prop where
  ids : ((consumed ++ manager.oneTimePrekeys).map fun key => key.id).Nodup
  below : ∀ key ∈ consumed ++ manager.oneTimePrekeys, key.id < manager.nextOpkId
  fits : manager.nextOpkId < 2 ^ 32

theorem Distinct.of_samePool (distinct : Distinct consumed manager) (same : SamePool manager next) :
    Distinct consumed next := by
  obtain ⟨samePool, sameNext⟩ := same
  refine ⟨?_, ?_, ?_⟩
  · rw [samePool]
    exact distinct.ids
  · rw [samePool, sameNext]
    exact distinct.below
  · rw [sameNext]
    exact distinct.fits

theorem distinct_boot (identity store draws derived) :
    Distinct [] (withOptionalStore prims identity store draws derived) := by
  have base := draws.base.toNat_lt
  refine ⟨?_, ?_, ?_⟩
  · rw [nil_append]
    unfold withOptionalStore
    rw [map_map]
    refine nodup_range.map ?_
    intro _ _ same
    exact Nat.add_left_cancel same
  · intro _ mem
    obtain ⟨_, within, rfl⟩ := mem_map.mp mem
    exact Nat.add_lt_add_left (mem_range.mp within) _
  · change draws.base.toNat / 2 + 10 < 2 ^ 32
    omega

theorem Distinct.consume (distinct : Distinct consumed manager)
    (found : manager.oneTimePrekeys[index]? = some key) :
    Distinct (key :: consumed) (manager.consume (some (index, key))) := by
  obtain ⟨bound, isKey⟩ := List.getElem?_eq_some_iff.mp found
  have perm : List.Perm (key :: consumed ++ manager.oneTimePrekeys.eraseIdx index)
    (consumed ++ manager.oneTimePrekeys) := by
    rw [cons_append]
    refine perm_middle.symm.trans (List.Perm.append_left consumed ?_)
    rw [← isKey]
    exact List.getElem_cons_eraseIdx_perm bound
  refine ⟨?_, ?_, distinct.fits⟩
  · exact ((perm.map fun key => key.id).nodup_iff).mpr distinct.ids
  · intro other mem
    exact distinct.below other (perm.mem_iff.mp mem)

/-- New pre-keys have new ids. -/
theorem Distinct.replenish (distinct : Distinct consumed manager)
    (left : manager.nextOpkId + (10 - manager.oneTimePrekeys.length) < 2 ^ 32)
    (secrets) : Distinct consumed (manager.replenishPrekeys prims secrets) := by
  unfold replenishPrekeys
  split
  · have unwrapped : ∀ index ∈ range (10 - manager.oneTimePrekeys.length),
      wrap32 (manager.nextOpkId + index) = manager.nextOpkId + index := by
      intro index mem
      have := mem_range.mp mem
      exact wrap32_of_lt (by omega)
    refine ⟨?_, ?_, ?_⟩
    · rw [← append_assoc, map_append, nodup_append]
      refine ⟨distinct.ids, ?_, ?_⟩
      · rw [map_map]
        refine nodup_range.map_on ?_
        intro first firstMem second secondMem same
        dsimp only [Function.comp, generateOneTimePreKey] at same
        rw [unwrapped first firstMem, unwrapped second secondMem] at same
        exact Nat.add_left_cancel same
      intro _ old new mem same
      subst same
      obtain ⟨key, keyMem, rfl⟩ := mem_map.mp old
      rw [map_map] at mem
      obtain ⟨index, within, isNew⟩ := mem_map.mp mem
      dsimp only [Function.comp, generateOneTimePreKey] at isNew
      rw [unwrapped index within] at isNew
      have := distinct.below key keyMem
      omega
    · intro key mem
      dsimp only at mem ⊢
      rw [wrap32_of_lt left]
      rw [← append_assoc] at mem
      rcases mem_append.mp mem with old | new
      · have := distinct.below key old
        omega
      obtain ⟨index, within, rfl⟩ := mem_map.mp new
      dsimp only [generateOneTimePreKey]
      rw [unwrapped index within]
      have := mem_range.mp within
      omega
    · exact Nat.mod_lt _ (by decide)
  · exact distinct

end

variable [DecidableEq Public]
  (prims : SessionPrimitives Secret Public Key Cipher Verifying Signature)
  (manager : SessionManager Secret Public Key Signature)

/-- The one-time pre-key that a call uses up. -/
def consumedBy :
    SessionCall Secret Public Cipher → List (OneTimePreKey Secret Public)
  | .accept peer initData replacement clock =>
    match (manager.acceptWith prims peer initData replacement clock).1,
      manager.namedPrekey initData.oneTimePrekeyId
    with
    | .ok (), .ok (some (_, key)) => [key]
    | _, _ => []
  | _ => []

/--
Runs of one manager with the one-time pre-keys that its accepted sessions
have used up.
-/
inductive Pooled (allowed : SessionManager Secret Public Key Signature →
      SessionCall Secret Public Cipher → Prop) :
    List (OneTimePreKey Secret Public) → SessionManager Secret Public Key Signature → Prop
  | boot (identity : NodeIdentity Secret Public Signature)
    (store : Option (SessionStore Secret Public Key)) (draws : BootDraws Secret) (derived : Nat) :
      Pooled allowed [] (withOptionalStore prims identity store draws derived)
  | call {consumed : List (OneTimePreKey Secret Public)}
      {manager : SessionManager Secret Public Key Signature}
      (earlier : Pooled allowed consumed manager) (call : SessionCall Secret Public Cipher)
      (running : ∀ draws loads, call ≠ .restart draws loads) (permitted : allowed manager call) :
      Pooled allowed (manager.consumedBy prims call ++ consumed) (manager.perform prims call)
  | restore {consumed : List (OneTimePreKey Secret Public)}
      {manager : SessionManager Secret Public Key Signature}
      (earlier : Pooled allowed consumed manager) (loads : NodeId → Bool) :
      Pooled allowed consumed (manager.restoreSessions loads)

/-- New pre-keys have ids left. -/
def IdsLeft (call : SessionCall Secret Public Cipher) : Prop :=
  ∀ secrets, call = .replenish secrets →
    manager.nextOpkId + (10 - manager.oneTimePrekeys.length) < 2 ^ 32

section

variable {prims} {manager : SessionManager Secret Public Key Signature}
  {consumed : List (OneTimePreKey Secret Public)}

/-- What a call that accepts nothing leaves of the pool. -/
theorem samePool_perform (call) (running : ∀ draws loads, call ≠ .restart draws loads)
    (noAccept : ∀ peer initData replacement clock, call ≠ .accept peer initData replacement clock)
    (noReplenish : ∀ secrets, call ≠ .replenish secrets) :
    SamePool manager (manager.perform prims call) := by
  cases call with
  | encrypt peer plain answer =>
    change SamePool manager (manager.encrypt prims peer plain answer).2
    unfold encrypt
    split
    · exact ⟨rfl, rfl⟩
    split
    · exact ⟨rfl, rfl⟩
    split
    · exact samePool_put _ _ _
    · cases answer with
      | stored | failed => exact (samePool_writeStore _ _ _ _).trans (samePool_put _ _ _)
  | decrypt peer message draws clock =>
    change SamePool manager (manager.decrypt prims peer message draws clock).2
    unfold decrypt
    split
    · exact ⟨rfl, rfl⟩
    split
    · exact ⟨rfl, rfl⟩
    · exact samePool_put _ _ _
  | initiate peer bundle replacement draws clock =>
    exact samePool_initiateWith peer bundle replacement draws clock
  | accept peer initData replacement clock =>
    exact absurd rfl (noAccept peer initData replacement clock)
  | confirm peer clock =>
    change SamePool manager (manager.confirmSession peer clock).2
    unfold confirmSession
    split
    · exact ⟨rfl, rfl⟩
    split
    · exact ⟨rfl, rfl⟩
    · exact samePool_put _ _ _
  | persist peer answer =>
    change SamePool manager (manager.persistSession peer answer)
    unfold persistSession
    split
    · exact ⟨rfl, rfl⟩
    · exact samePool_writeStore _ _ _ _
  | replenish secrets => exact absurd rfl (noReplenish secrets)
  | remove peer answer =>
    change SamePool manager (manager.removeSession peer answer).2
    unfold removeSession
    split
    · exact ⟨rfl, rfl⟩
    · exact (samePool_put _ _ _).trans (samePool_writeStore _ _ _ _)
  | markNeedsRenegotiation | oweRatchetInit | takeRatchetInitOwed => exact samePool_put _ _ _
  | expireRetired => exact ⟨rfl, rfl⟩
  | restart draws loads => exact absurd rfl (running draws loads)

theorem Distinct.accept (distinct : Distinct consumed manager) (peer : NodeId)
    (initData replacement clock) :
    Distinct (manager.consumedBy prims (.accept peer initData replacement clock) ++ consumed)
      (manager.perform prims (.accept peer initData replacement clock)) := by
  have accepts := accepts_acceptWith prims manager peer initData replacement clock
  unfold consumedBy perform
  dsimp only
  generalize manager.acceptWith prims peer initData replacement clock = result at accepts
  cases accepts with
  | failed => exact distinct
  | @accepted named ratchet derivation =>
    have installed := installSession_pool manager peer ratchet replacement false clock
    have distinctInstalled := distinct.of_samePool installed
    have looked := namedPrekey_of_deriveAcceptance derivation
    rw [looked]
    cases named with
    | none => exact distinctInstalled
    | some entry =>
      obtain ⟨_, _⟩ := entry
      refine distinctInstalled.consume ?_
      rw [installed.1]
      exact (namedPrekey_eq_ok looked).1

theorem distinct_of_pooled (pooled : Pooled prims IdsLeft consumed manager) :
    Distinct consumed manager := by
  induction pooled with
  | boot identity store draws derived => exact distinct_boot identity store draws derived
  | call _ call running permitted distinct =>
    cases call with
    | accept peer initData replacement clock =>
      exact distinct.accept peer initData replacement clock
    | replenish secrets => exact distinct.replenish (permitted secrets rfl) secrets
    | encrypt | decrypt | initiate | confirm | persist | remove
      | markNeedsRenegotiation | oweRatchetInit | takeRatchetInitOwed
      | expireRetired | restart =>
        exact distinct.of_samePool (samePool_perform _ running nofun nofun)
  | restore _ _ distinct =>
    refine distinct.of_samePool ?_
    unfold restoreSessions
    split <;> exact ⟨rfl, rfl⟩

/--
As long as ids are left: the ids of the pool are distinct, no one-time pre-key
is used up by two accepted sessions, and none that is used up is in the pool.
A call to initiate or accept a session that fails changes nothing at all.
-/
theorem prekeys_consumed_once (pooled : Pooled prims IdsLeft consumed manager) :
    (manager.oneTimePrekeys.map fun key => key.id).Nodup ∧
      ((consumed ++ manager.oneTimePrekeys).map fun key => key.id).Nodup ∧
      (∀ peer initData replacement clock error,
        (manager.acceptWith prims peer initData replacement clock).1 = .error error →
          (manager.acceptWith prims peer initData replacement clock).2 = manager) ∧
      ∀ peer bundle replacement draws clock error,
        (manager.initiateWith prims peer bundle replacement draws clock).1 = .error error →
          (manager.initiateWith prims peer bundle replacement draws clock).2 = manager := by
  have distinct := distinct_of_pooled pooled
  refine ⟨?_, distinct.ids, ?_, ?_⟩
  · have ids := distinct.ids
    rw [map_append] at ids
    exact ids.of_append_right
  · intro peer initData replacement clock error failed
    have accepts := accepts_acceptWith prims manager peer initData replacement clock
    generalize manager.acceptWith prims peer initData replacement clock = result at accepts failed ⊢
    cases accepts with
    | failed => rfl
    | accepted => cases failed
  · intro _ _ _ _ _ error failed
    exact initiateWith_of_error failed

end

/-! ## A pool that outlives its ids -/

namespace PrekeyExample

def terms : SessionPrimitives Nat Nat RatchetTerm RatchetSealed Unit Unit :=
  RatchetTerm.sessionPrimitives RatchetTerm.primitives.diffieHellman

def partner : NodeId :=
  ⟨.replicate 32 9⟩

/-- A node whose first one-time pre-key has the id 0. -/
def boot : SessionManager Nat Nat RatchetTerm Unit :=
  withOptionalStore terms ⟨⟨.replicate 32 8⟩, 1, 1, fun _ => ()⟩ none
    ⟨4, 0, fun index => 100 + index⟩ 0

/-- An init of the partner that names a one-time pre-key. -/
def init (id : Nat) : SerializableSessionInit :=
  ⟨terms.keyText 2, terms.keyText 5, some id, terms.keyText 6⟩

def accepts (id : Nat) : SessionCall Nat Nat RatchetSealed :=
  .accept partner (init id) .afterConfirmation ⟨0, some 0⟩

def replenishes : SessionCall Nat Nat RatchetSealed :=
  .replenish fun index => 200 + index

theorem parse_init (id) : terms.parseX25519Key (init id).identityKey = .ok 2 ∧
      terms.parseX25519Key (init id).ephemeralKey = .ok 5 ∧
        terms.parseX25519Key (init id).ratchetKey = .ok 6 := by
  unfold init
  dsimp only
  decide +kernel

variable {manager : SessionManager Nat Nat RatchetTerm Unit} {key : OneTimePreKey Nat Nat}

theorem namedPrekey_of_append (pool : manager.oneTimePrekeys = before ++ key :: rest)
    (first : key.id ∉ before.map fun other => other.id) :
    manager.namedPrekey (some key.id) = .ok (some (before.length, key)) := by
  have none : before.zipIdx.find? (fun entry => entry.1.id == key.id) = none := by
    rw [find?_eq_none]
    rintro ⟨other, _⟩ mem same
    refine first (mem_map.mpr ⟨other, ?_, eq_of_beq same⟩)
    exact mem_of_getElem? (mem_zipIdx_iff_getElem?.mp mem)
  have found : ((key, before.length) :: rest.zipIdx (before.length + 1)).find?
    (fun entry => entry.1.id == key.id) =
    some (key, before.length) :=
    find?_cons_of_pos (beq_self_eq_true key.id)
  unfold namedPrekey
  dsimp only
  rw [pool, zipIdx_append, find?_append, none, zipIdx_cons, Option.none_or, Nat.zero_add, found]

/-- An init takes the pre-key that it names out of the pool. -/
theorem pool_accepts (pool : manager.oneTimePrekeys = before ++ key :: rest)
    (first : key.id ∉ before.map fun other => other.id) :
    (manager.perform terms (accepts key.id)).oneTimePrekeys = before ++ rest ∧
      (manager.perform terms (accepts key.id)).nextOpkId = manager.nextOpkId := by
  have derivation : ∃ ratchet, manager.deriveAcceptance terms (init key.id) =
    .ok (some (before.length, key), ratchet) :=
    ⟨_, bind_eq_ok_iff.mpr ⟨2, (parse_init key.id).1, bind_eq_ok_iff.mpr
      ⟨5, (parse_init key.id).2.1, bind_eq_ok_iff.mpr ⟨6, (parse_init key.id).2.2,
        bind_eq_ok_iff.mpr ⟨_, namedPrekey_of_append pool first, rfl⟩⟩⟩⟩⟩
  obtain ⟨ratchet, derivation⟩ := derivation
  have installs :
    (manager.installSession partner ratchet .afterConfirmation false ⟨0, some 0⟩).1 = .ok () := by
    unfold installSession
    cases manager.sessions partner with
    | none | some => rfl
  have installed := installSession_pool manager partner ratchet .afterConfirmation false ⟨0, some 0⟩
  have accepted : manager.perform terms (accepts key.id) =
    (manager.installSession partner ratchet .afterConfirmation false
      ⟨0, some 0⟩).2.consume (some (before.length, key)) := by
    change (manager.acceptWith terms partner (init key.id) .afterConfirmation ⟨0, some 0⟩).2 = _
    unfold acceptWith
    rw [derivation]
    dsimp only
    generalize manager.installSession partner ratchet .afterConfirmation false
      ⟨0, some 0⟩ = result at installs
    obtain ⟨_, _⟩ := result
    cases installs
    rfl
  rw [accepted]
  refine ⟨?_, installed.2⟩
  change eraseIdx _ _ = _
  rw [installed.1, pool, eraseIdx_append_of_length_le (Nat.le_refl before.length),
    Nat.sub_self, eraseIdx_cons_zero]

/-- Some run leads to a pool with these ids and this next id. -/
def Leads (ids : List Nat) (nextId : Nat) : Prop :=
  ∃ consumed manager,
    Pooled terms (fun _ _ => True) consumed manager ∧
      (manager.oneTimePrekeys.map fun key => key.id) = ids ∧ manager.nextOpkId = nextId

theorem leads_of_append {kept rest : List Nat} {nextId : Nat} (leads : Leads (kept ++ rest) nextId)
    (apart : ∀ id ∈ rest, id ∉ kept) : Leads kept nextId := by
  induction rest with
  | nil =>
    rw [append_nil] at leads
    exact leads
  | cons id rest ih =>
    refine ih ?_ fun other mem => apart other (mem_cons_of_mem id mem)
    obtain ⟨_, _, pooled, ids, isNext⟩ := leads
    obtain ⟨before, _, pool, isKept, isRest⟩ := map_eq_append_iff.mp ids
    obtain ⟨key, _, rfl, isId, isOthers⟩ := map_eq_cons_iff.mp isRest
    have first : key.id ∉ before.map fun other => other.id := by
      rw [isKept, isId]
      exact apart id mem_cons_self
    obtain ⟨taken, sameNext⟩ := pool_accepts pool first
    refine ⟨_, _, pooled.call (accepts key.id) nofun trivial, ?_, sameNext.trans isNext⟩
    rw [taken, map_append, isKept, isOthers]

theorem leads_replenish (leads : Leads [first, second, third, fourth] nextId) :
    Leads ([first, second, third, fourth] ++
      (range 6).map fun index => wrap32 (nextId + index)) (wrap32 (nextId + 6)) := by
  obtain ⟨_, manager, pooled, ids, rfl⟩ := leads
  have length : manager.oneTimePrekeys.length = 4 := by
    have := congrArg length ids
    rwa [length_map] at this
  have replenished : (manager.replenishPrekeys terms fun index => 200 + index) =
    { manager with
      oneTimePrekeys := manager.oneTimePrekeys ++ (range 6).map fun index =>
        terms.generateOneTimePreKey (wrap32 (manager.nextOpkId + index)) (200 + index)
      nextOpkId := wrap32 (manager.nextOpkId + 6) } := by
    unfold replenishPrekeys
    rw [if_pos (by omega), length]
  refine ⟨_, _, pooled.call replenishes nofun trivial, ?_, ?_⟩
  · change (map _ (replenishPrekeys terms manager _).oneTimePrekeys) = _
    rw [replenished, map_append, ids, map_map]
    rfl
  · change (replenishPrekeys terms manager _).nextOpkId = _
    rw [replenished]

theorem leads_rounds (rounds) (within : rounds ≤ 715827882) :
    Leads ([0, 1, 2, 3] ++ (range 6).map fun index => wrap32 (4 + 6 * rounds + index))
      (wrap32 (10 + 6 * rounds)) := by
  induction rounds with
  | zero => exact ⟨[], boot, .boot _ _ _ _, by decide +kernel, rfl⟩
  | succ rounds ih =>
    have leads := ih (by omega)
    have drained := leads_of_append leads (by
      intro _ mem
      obtain ⟨index, inRange, rfl⟩ := mem_map.mp mem
      have := mem_range.mp inRange
      rw [wrap32_of_lt (by omega)]
      intro kept
      simp only [mem_cons, not_mem_nil, or_false] at kept
      omega)
    have replenished := leads_replenish drained
    have ids : ((range 6).map fun index => wrap32 (wrap32 (10 + 6 * rounds) + index)) =
      (range 6).map fun index => wrap32 (4 + 6 * (rounds + 1) + index) := by
      refine map_congr_left fun index _ => ?_
      unfold wrap32
      omega
    have nextId : wrap32 (wrap32 (10 + 6 * rounds) + 6) = wrap32 (10 + 6 * (rounds + 1)) := by
      unfold wrap32
      omega
    rw [ids, nextId] at replenished
    exact replenished

end PrekeyExample

section

open PrekeyExample

/-- An init uses up the first of ten pre-keys. -/
theorem prekeys_consumed_once_first :
    (((boot.perform terms (accepts 0)).oneTimePrekeys).map fun key => key.id).Nodup ∧
      boot.consumedBy terms (accepts 0) ≠ [] := by
  have pooled : Pooled terms IdsLeft (boot.consumedBy terms (accepts 0) ++ [])
    (boot.perform terms (accepts 0)) :=
    .call (.boot _ _ _ _) (accepts 0) nofun nofun
  refine ⟨(prekeys_consumed_once pooled).1, ?_⟩
  intro nothing
  have length := congrArg length nothing
  revert length
  decide +kernel

/--
After a node has given out all ids of its counter, while four pre-keys stayed
unused, two pre-keys of its pool have the same id.
-/
theorem prekey_ids_repeat_after_counter :
    ∃ consumed manager, Pooled terms (fun _ _ => True) consumed manager ∧
      ¬ (manager.oneTimePrekeys.map fun key => key.id).Nodup := by
  obtain ⟨consumed, manager, pooled, ids, -⟩ := leads_rounds 715827882 le_rfl
  refine ⟨consumed, manager, pooled, ?_⟩
  rw [ids]
  decide +kernel

end

end SessionManager

end BitSov.Crypto
