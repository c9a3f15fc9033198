import BitSov.Sponsor.Custody

namespace BitSov.Sponsor

open Arithmetic Process Fallible

/-!
# The critical sections as ledger paths

Whatever fails in a critical section, the ledger file has only been observed
or was observed and edited.  Each edit is a path of the licence of its caller.
-/

namespace Ledger

variable {ledger : Ledger} {kit : Kit} {wallNow : UInt64}

/-- The file as it was, or after a look at the clock. -/
def Observed (before after : Ledger) : Prop :=
  after = before ∨ ∃ wallNow, after = before.observe wallNow

variable {licence : Licence}

theorem Observed.path (observed : Observed before after) : LedgerPath licence before after := by
  rcases observed with rfl | ⟨wallNow, rfl⟩
  · exact .refl
  · exact .single (.observe before wallNow)

theorem mem_observe_of_dispatched (mem : kit ∈ ledger.kits) (sent : kit.isDispatched)
    (wallNow) : kit ∈ (ledger.observe wallNow).kits :=
  List.mem_map.mpr ⟨kit, mem, Kit.observe_eq_self (Kit.isPending_of_isDispatched sent) _⟩

section

variable (mem : kit ∈ (ledger.observe wallNow).kits)
include mem

theorem mem_of_mem_observe : kit ∈ ledger.kits ∨ kit.state = .expired := by
  obtain ⟨old, formerMem, rfl⟩ := List.mem_map.mp mem
  rcases old.observe_cases (max ledger.lastObservedTime wallNow) with
    same | ⟨_, expired⟩
  · rw [same]
    exact .inl formerMem
  · rw [expired]
    exact .inr rfl

theorem mem_of_mem_observe_of_pending (pending : kit.isPending) : kit ∈ ledger.kits := by
  rcases mem_of_mem_observe mem with old | expired
  · exact old
  · simp [Kit.isPending, expired] at pending

end

theorem Sound.observe (sound : ledger.Sound) (wallNow) : (ledger.observe wallNow).Sound where
  ids := by simpa [Ledger.observe, Function.comp_def] using sound.ids
  kits later member := by
    obtain ⟨kit, kitMem, rfl⟩ := List.mem_map.mp member
    exact Kit.sound_observe (sound.kits kit kitMem) _

theorem setKit_setKit (ledger : Ledger) (same : first.introId = introId) (second) :
    (ledger.setKit introId first).setKit introId second = ledger.setKit introId second := by
  unfold setKit
  congr 1
  induction ledger.kits with
  | nil => rfl
  | cons kit _ ih =>
    by_cases found : kit.introId = introId
    · simp [List.replaceF, found, same]
    · simp [List.replaceF, found, ih]

section

variable (found : ledger.kit introId = .ok kit)
include found

theorem setKit_self : ledger.setKit introId kit = ledger := by
  obtain ⟨_, _, split, replaced⟩ := setKit_split found
  have sameKits : (ledger.setKit introId kit).kits = ledger.kits := by
    rw [replaced kit, split]
  cases ledger
  simp only [setKit] at sameKits ⊢
  rw [sameKits]

theorem path_setKit (mine : licence.mine introId) (changes : KitChange licence ledger kit changed) :
    LedgerPath licence ledger (ledger.setKit introId changed) := by
  obtain ⟨left, right, split, replaced⟩ := setKit_split found
  have same : ledger.setKit introId changed = { ledger with kits := left ++ changed :: right } := by
    rw [← replaced changed]
    rfl
  rw [same]
  exact .single (.change split ((mem_of_kit_eq_ok found).2 ▸ mine) changes)

theorem mem_setKit (changed) : changed ∈ (ledger.setKit introId changed).kits := by
  obtain ⟨_, _, _, replaced⟩ := setKit_split found
  rw [replaced changed]
  simp

end

end Ledger

variable {ledger : Ledger}

theorem observed_of_loadsObserved (sound : before.Sound)
    (loads : LoadsObserved before after loaded) : before.Observed after ∧
      ∀ observed, loaded = some observed → ∃ wallNow, observed = before.observe wallNow := by
  unfold LoadsObserved at loads
  rw [sound.load_eq_self] at loads
  cases loaded with
  | none => exact ⟨loads, nofun⟩
  | some =>
    obtain ⟨wallNow, same, saved⟩ := loads
    constructor
    · split at saved
      · exact .inl saved
      · exact .inr ⟨wallNow, saved.trans same⟩
    · rintro _ ⟨⟩
      exact ⟨wallNow, same⟩

variable {world : World}

/-- A critical section only observes, or observes and edits. -/
theorem Transacts.cases (sound : world.ledger.Sound)
    (transacts : Transacts node world edit answer ledger) :
    (world.ledger.Observed ledger ∧ ∃ error, answer = .error error) ∨
      ∃ wallNow kit, edit.apply node world.config.policy (world.ledger.observe wallNow)
        (world.ledger.observe wallNow).lastObservedTime = .ok (kit, ledger) ∧
        ∀ seen, answer = .ok seen → seen.now = (world.ledger.observe wallNow).lastObservedTime ∧
          seen.kit = kit ∧ ∀ introId, edit = .inspect introId →
            seen.active = world.active.any fun marker => marker.2 = introId := by
  obtain ⟨_, loaded, loads, outcome⟩ := transacts
  obtain ⟨fileObserved, inMemory⟩ := observed_of_loadsObserved sound loads
  cases loaded with
  | none =>
    obtain ⟨failed, rfl⟩ := outcome
    cases answer with
    | ok => cases failed
    | error error => exact .inl ⟨fileObserved, error, rfl⟩
  | some observed =>
    obtain ⟨wallNow, rfl⟩ := inMemory observed rfl
    simp only at outcome
    split at outcome
    · next error _ =>
      obtain ⟨rfl, rfl⟩ := outcome
      exact .inl ⟨fileObserved, error, rfl⟩
    next kit _ applied =>
    cases answer with
    | ok =>
      obtain ⟨rfl, now, sameKit, active⟩ := outcome
      refine .inr ⟨wallNow, kit, applied, ?_⟩
      rintro _ ⟨⟩
      exact ⟨now, sameKit, active⟩
    | error error =>
      rcases outcome with rfl | rfl
      · exact .inl ⟨fileObserved, error, rfl⟩
      · exact .inr ⟨wallNow, kit, applied, nofun⟩

/-- What an approval that passes its checks is about. -/
structure Approved (policy : SponsorPolicy) (ledger : Ledger) (body : ApproveRequest) (kit : Kit)
    (claim : Claim) : Prop where
  enabled : policy.enabled = true
  found : ledger.kit body.introId = .ok kit
  frozen : kit.state = .candidate
  room : ledger.checkRoom policy (saturatingAdd kit.giftMsat kit.feeMsat)
    ledger.lastObservedTime = .ok ()
  candidate : kit.candidate = some claim.candidate
  fee : claim.feeMsat = kit.feeMsat
  approves : body.Approves kit claim.candidate
  inTime : ledger.lastObservedTime < kit.expiresAt

theorem approved_of_checkApproval
    (checked : checkApproval node policy ledger ledger.lastObservedTime body = .ok (kit, claim)) :
    Approved policy ledger body kit claim := by
  simp only [checkApproval, bind_eq_ok_iff, require_eq_ok_iff,
    decide_eq_true_eq, pure, Except.pure, Except.ok.injEq, Prod.mk.injEq]
    at checked
  obtain ⟨_, enabled, found, foundKit, _, frozen, _, _, _, _, _, room, candidate,
    hasCandidate, _, matching, _, _, _, _, _, _, _, _, _, inTime, _, code,
    _, _, rfl, rfl⟩ := checked
  have frozenCandidate : found.candidate = some candidate := by
    unfold Kit.requireCandidate at hasCandidate
    split at hasCandidate
    · next same =>
      cases hasCandidate
      exact same
    · cases hasCandidate
  obtain ⟨newcomer, hash, gift, fee⟩ := matching
  exact
    { enabled
      found := foundKit
      frozen
      room
      candidate := frozenCandidate
      fee := rfl
      approves := ⟨(Ledger.mem_of_kit_eq_ok foundKit).2.symm, newcomer, hash, gift, fee, code.2⟩
      inTime := lt_left_of_lt_min (lt_left_of_lt_min inTime) }

/-- A claim only observes, or observes and claims the kit. -/
theorem Claims.cases (sound : world.ledger.Sound) (claims : Claims node world body answer ledger) :
    (world.ledger.Observed ledger ∧ ∃ error, answer = .error error) ∨ ∃ wallNow kit claim,
      Approved world.config.policy (world.ledger.observe wallNow) body kit claim ∧
        ledger = (world.ledger.observe wallNow).setKit body.introId
          (kit.claimed (world.ledger.observe wallNow).lastObservedTime) ∧
        ∀ granted, answer = .ok granted → granted = claim := by
  obtain ⟨_, loaded, loads, outcome⟩ := claims
  obtain ⟨fileObserved, inMemory⟩ := observed_of_loadsObserved sound loads
  cases loaded with
  | none =>
    obtain ⟨failed, rfl⟩ := outcome
    cases answer with
    | ok granted => cases failed
    | error error => exact .inl ⟨fileObserved, error, rfl⟩
  | some observed =>
    obtain ⟨wallNow, rfl⟩ := inMemory observed rfl
    simp only at outcome
    split at outcome
    · next error _ =>
      obtain ⟨rfl, rfl⟩ := outcome
      exact .inl ⟨fileObserved, error, rfl⟩
    next kit claim checked =>
    have approved := approved_of_checkApproval checked
    cases answer with
    | ok granted =>
      obtain ⟨rfl, rfl⟩ := outcome
      refine .inr ⟨wallNow, kit, granted, approved, rfl, ?_⟩
      rintro _ ⟨⟩
      rfl
    | error error =>
      rcases outcome with rfl | rfl | rfl
      · exact .inl ⟨fileObserved, error, rfl⟩
      · exact .inr ⟨wallNow, kit, claim, approved, rfl, fun _ same => by
          cases same⟩
      -- The candidate was restored where it stood.
      have sameId : (kit.claimed (world.ledger.observe wallNow).lastObservedTime).introId =
        body.introId :=
        (Ledger.mem_of_kit_eq_ok approved.found).2
      rw [Ledger.setKit_setKit _ sameId, Ledger.setKit_self approved.found]
      exact .inl ⟨.inr ⟨wallNow, rfl⟩, error, rfl⟩

end BitSov.Sponsor
