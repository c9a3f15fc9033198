import BitSov.Process.Machine
import BitSov.Process.Timed
import BitSov.Relational.Table

namespace BitSov.Gossip

open Process Relational Table Timed

/-!
# Validation of gossip

A message is accepted when its id has not been seen, its timestamp is recent
and its sender is within its rate limit.  The seen ids and the rate limits are
behind locks of their own, and a call lets go of each lock before it goes on,
so calls and evictions interleave between the checks and the mark.
-/

inductive GossipError where
  | duplicate (id : String)
  | tooOld (ageSecs maxSecs : Nat)
  | fromFuture (aheadSecs maxSecs : Nat)
  | rateLimited (sender : String) (count max : Nat)
  deriving Repr, DecidableEq

structure GossipConfig where
  maxPerSenderPerHour : Nat := 60
  maxAgeSecs : Nat := 3600
  maxFutureSecs : Nat := 300
  dedupTtlSecs : Nat := 7200
  rateLimitWindowMs : Nat := 3600 * 1000
  deriving Repr, DecidableEq

structure SeenEntry where
  sender : String
  seenAtMs : Nat
  deriving Repr, DecidableEq

structure RateLimitEntry where
  (count windowStartMs : Nat)
  deriving Repr, DecidableEq

/-- How far a call of `validate` has got. -/
inductive Phase where
  | started
  /-- The id was not seen. -/
  | unseen
  /-- The timestamp was recent. -/
  | fresh
  /-- The sender was within its rate limit. -/
  | counted
  | accepted
  | rejected (error : GossipError)
  deriving Repr, DecidableEq

/-- Between the seen check of a call and its mark. -/
def Phase.active : Phase → Bool
  | .unseen | .fresh | .counted => true
  | _ => false

/-- The timestamp of the call has passed, and the call may go on or has. -/
def Phase.timely : Phase → Bool
  | .fresh | .counted | .accepted => true
  | _ => false

structure Call where
  (id sender : String)
  timestampMs : Nat
  phase : Phase := .started
  deriving Repr, DecidableEq

/-- The validator with the calls made so far. -/
structure Validator where
  seen : Table String SeenEntry := .empty
  rateLimits : Table String RateLimitEntry := .empty
  calls : List Call := []

/-- One step under one lock. -/
inductive Step where
  | validate (id sender : String) (timestampMs : Nat)
  | proceed (index : Nat)
  | evictSeen
  | evictRateLimits
  deriving Repr, DecidableEq

namespace GossipConfig

variable (config : GossipConfig)

def checkTimestamp (timestampMs nowMs : Nat) : Except GossipError Unit :=
  if timestampMs > nowMs then
    let aheadSecs := (timestampMs - nowMs) / 1000
    if aheadSecs > config.maxFutureSecs then .error (.fromFuture aheadSecs config.maxFutureSecs)
    else .ok ()
  else
    let ageSecs := (nowMs - timestampMs) / 1000
    if ageSecs > config.maxAgeSecs then .error (.tooOld ageSecs config.maxAgeSecs) else .ok ()

variable (limits : Table String RateLimitEntry) (sender : String) (nowMs : Nat)

/-- The entry a sender is counted in, with its window reset once it has passed. -/
def currentWindow : RateLimitEntry :=
  let entry := (limits.lookup sender).getD ⟨0, nowMs⟩
  if nowMs - entry.windowStartMs ≥ config.rateLimitWindowMs then ⟨0, nowMs⟩ else entry

/-- Count a message against its sender, or refuse it. -/
def checkRateLimit : Except GossipError Unit × Table String RateLimitEntry :=
  let entry := config.currentWindow limits sender nowMs
  let put (entry : RateLimitEntry) :=
    (limits.insertOrIgnore sender entry).updateWhere (fun key _ => key = sender) fun _ => entry
  if entry.count ≥ config.maxPerSenderPerHour then
    (.error (.rateLimited sender entry.count config.maxPerSenderPerHour), put entry)
  else (.ok (), put { entry with count := entry.count + 1 })

end GossipConfig

namespace Validator

variable (config : GossipConfig) (validator : Validator) (nowMs : Nat)

def isSeen (id : String) : Bool :=
  validator.seen.contains id

/-- Mark an id as seen; an id that is already marked keeps its entry. -/
def markSeen (id sender : String) : Validator :=
  { validator with seen := validator.seen.insertOrIgnore id ⟨sender, nowMs⟩ }

def evictSeen : Validator :=
  { validator with
    seen := validator.seen.deleteWhere fun _ entry =>
      !(nowMs - entry.seenAtMs < config.dedupTtlSecs * 1000) }

def evictRateLimits : Validator :=
  { validator with
    rateLimits := validator.rateLimits.deleteWhere fun _ entry =>
      !(nowMs - entry.windowStartMs < config.rateLimitWindowMs) }

def reach (index : Nat) (call : Call) (phase : Phase) : Validator :=
  { validator with calls := validator.calls.set index { call with phase } }

/-- The next step of a call of `validate`. -/
def proceed (index : Nat) : Validator :=
  match validator.calls[index]? with
  | none => validator
  | some call =>
    match call.phase with
    | .started =>
      validator.reach index call
        (if validator.isSeen call.id then .rejected (.duplicate call.id) else .unseen)
    | .unseen =>
      match config.checkTimestamp call.timestampMs nowMs with
      | .error error => validator.reach index call (.rejected error)
      | .ok () => validator.reach index call .fresh
    | .fresh =>
      let (checked, limits) := config.checkRateLimit validator.rateLimits call.sender nowMs
      let limited := { validator with rateLimits := limits }
      match checked with
      | .error error => limited.reach index call (.rejected error)
      | .ok () => limited.reach index call .counted
    | .counted => (validator.markSeen nowMs call.id call.sender).reach index call .accepted
    | .accepted | .rejected _ => validator

def perform : Step → Validator
  | .validate id sender timestampMs =>
    { validator with calls := validator.calls ++ [{ id, sender, timestampMs }] }
  | .proceed index => validator.proceed config nowMs index
  | .evictSeen => validator.evictSeen config nowMs
  | .evictRateLimits => validator.evictRateLimits config nowMs

/-- No seen check is made while another call with the id is between its own check and its mark. -/
def Serialized : Step → Prop
  | .proceed index => ∀ call ∈ validator.calls[index]?, call.phase = .started →
    ∀ other ∈ validator.calls, other.phase.active = true → other.id ≠ call.id
  | _ => True

end Validator

/-- An entry outlives every message that could be accepted when it was made. -/
def GossipConfig.Covers (config : GossipConfig) : Prop :=
  config.maxFutureSecs + config.maxAgeSecs + 2 ≤ config.dedupTtlSecs

open GossipConfig (Covers checkRateLimit checkTimestamp currentWindow)

variable {config : GossipConfig} {validator : Validator} {nowMs index : Nat} {call : Call}

theorem checkTimestamp_ok (passes : config.checkTimestamp timestampMs nowMs = .ok ()) :
    timestampMs < nowMs + (config.maxFutureSecs + 1) * 1000 ∧
      nowMs < timestampMs + (config.maxAgeSecs + 1) * 1000 := by
  simp only [checkTimestamp] at passes
  split at passes <;> split at passes <;> first | omega | cases passes

/-- What holds for one call, with the ids that are seen. -/
structure Call.Sound (config : GossipConfig) (nowMs : Nat) (seen : Table String SeenEntry)
    (call : Call) : Prop where
  unseen : call.phase.active = true → seen.lookup call.id = none
  recent : call.phase.timely = true → call.timestampMs < nowMs + (config.maxFutureSecs + 1) * 1000
  kept : call.phase = .accepted →
    (∃ entry, seen.lookup call.id = some entry ∧
      call.timestampMs < entry.seenAtMs + (config.maxFutureSecs + 1) * 1000) ∨
    call.timestampMs + (config.maxAgeSecs + 1) * 1000 ≤ nowMs

/-- Two calls with one id are not both active, and only one of them passes for a timestamp. -/
def Call.Apart (one other : Call) : Prop :=
  one.id = other.id → ¬ (one.phase.active = true ∧ other.phase.active = true) ∧
    (one.phase = .accepted ∨ other.phase = .accepted → one.phase.timely = true →
      other.phase.timely = true → one.timestampMs ≠ other.timestampMs)

variable {one other : Call}

theorem Call.Apart.symm (apart : one.Apart other) : other.Apart one := by
  intro same
  obtain ⟨alone, once⟩ := apart same.symm
  exact ⟨fun both => alone both.symm, fun either timely timely' sameTime =>
    once either.symm timely' timely sameTime.symm⟩

/-- A call that has not started or is over is apart from every other. -/
theorem Call.Apart.of_idle (inactive : other.phase.active = false)
    (untimely : other.phase.timely = false) : one.Apart other := by
  intro _
  rw [inactive, untimely]
  exact ⟨fun both => Bool.false_ne_true both.2, fun _ _ timely => absurd timely Bool.false_ne_true⟩

namespace Validator

structure Sound (config : GossipConfig) (nowMs : Nat) (validator : Validator) : Prop where
  each : ∀ {index : Nat} {call : Call}, validator.calls[index]? = some call →
    call.Sound config nowMs validator.seen
  apart : ∀ {first second : Nat} {one other : Call}, validator.calls[first]? = some one →
    validator.calls[second]? = some other → first ≠ second → one.Apart other

theorem Sound.later (ordered : since ≤ nowMs) (sound : validator.Sound config since) :
    validator.Sound config nowMs where
  each found :=
    { unseen := (sound.each found).unseen
      recent := fun timely => Nat.lt_of_lt_of_le ((sound.each found).recent timely) (by omega)
      kept := fun accepted =>
        ((sound.each found).kept accepted).imp_right (Nat.le_trans · ordered) }
  apart := sound.apart

section

variable (sound : validator.Sound config nowMs)
include sound

section

variable (found : validator.calls[index]? = some call)
include found

/-- One call moves on, and what it does to the seen ids is right for the others. -/
theorem Sound.reach {phase : Phase} {next : Validator} (calls : next.calls = validator.calls)
    (here : { call with phase }.Sound config nowMs next.seen)
    (others : ∀ {other another}, other ≠ index → validator.calls[other]? = some another →
      another.Sound config nowMs next.seen ∧ another.Apart { call with phase }) :
    (next.reach index call phase).Sound config nowMs where
  each isThere := by
    rw [Validator.reach, calls] at isThere
    rcases getElem?_set_eq_some isThere with ⟨-, rfl⟩ | ⟨elsewhere, old⟩
    · exact here
    · exact (others elsewhere old).1
  apart isOne isOther different := by
    rw [Validator.reach, calls] at isOne isOther
    rcases getElem?_set_eq_some isOne with ⟨rfl, rfl⟩ | ⟨elsewhere, old⟩ <;>
      rcases getElem?_set_eq_some isOther with ⟨rfl, rfl⟩ | ⟨elsewhere', former'⟩
    · exact absurd rfl different
    · exact (others elsewhere' former').2.symm
    · exact (others elsewhere old).2
    · exact sound.apart old former' different

theorem Sound.reject {limits : Table String RateLimitEntry} {error : GossipError} :
    ({ validator with rateLimits := limits }.reach index call (.rejected error)).Sound
      config nowMs :=
  sound.reach found rfl ⟨nofun, nofun, nofun⟩ fun _ old => ⟨sound.each old, .of_idle rfl rfl⟩

theorem Sound.mark (counted : call.phase = .counted) :
    ((validator.markSeen nowMs call.id call.sender).reach index call .accepted).Sound
      config nowMs := by
  have active : call.phase.active := by rw [counted]; rfl
  have timely : call.phase.timely := by rw [counted]; rfl
  have absent := (sound.each found).unseen active
  have recent := (sound.each found).recent timely
  refine sound.reach found rfl ⟨nofun, fun _ => recent, fun _ =>
    .inl ⟨⟨call.sender, nowMs⟩, ?_, recent⟩⟩ ?_
  · exact (lookup_insertOrIgnore_self ..).trans (by rw [absent, Option.getD_none])
  intro _ another elsewhere old
  have apart := sound.apart old found elsewhere
  refine ⟨⟨fun isActive => ?_, (sound.each old).recent, fun accepted => ?_⟩, fun same => ?_⟩
  · have ne : another.id ≠ call.id := fun same => (apart same).1 ⟨isActive, active⟩
    exact (lookup_insertOrIgnore_of_ne ne).trans ((sound.each old).unseen isActive)
  · -- An id that is marked anew had no entry, so the entry is of another id.
    refine ((sound.each old).kept accepted).imp_left fun ⟨entry, present, young⟩ => ?_
    have ne : another.id ≠ call.id := by
      intro same
      rw [same, absent] at present
      cases present
    exact ⟨entry, (lookup_insertOrIgnore_of_ne ne).trans present, young⟩
  · have inactive := Bool.eq_false_iff.mpr fun isActive => (apart same).1 ⟨isActive, active⟩
    refine ⟨fun both => Bool.false_ne_true both.2, fun _ isTimely _ =>
      (apart same).2 (.inl ?_) isTimely timely⟩
    -- What is timely and no longer active was accepted.
    revert inactive isTimely
    cases another.phase <;> simp [Phase.active, Phase.timely]

end

theorem Sound.proceed (serialized : validator.Serialized (.proceed index)) :
    (validator.proceed config nowMs index).Sound config nowMs := by
  unfold Validator.proceed
  split
  · exact sound
  next call found =>
  have here := sound.each found
  split
  · next started =>
    split
    · exact sound.reject found
    next notSeen =>
    refine sound.reach found rfl ⟨fun _ => ?_, by rintro ⟨⟩, by rintro ⟨⟩⟩ fun _ former =>
      ⟨sound.each former, fun same => ⟨fun both => ?_, by rintro _ _ ⟨⟩⟩⟩
    · simpa [isSeen, contains] using notSeen
    · exact serialized call (by rw [found]; rfl) started _ (List.mem_of_getElem? former) both.1 same
  · next unseen =>
    have active : call.phase.active := by rw [unseen]; rfl
    split
    · exact sound.reject found
    next passes =>
    obtain ⟨recent, _⟩ := checkTimestamp_ok passes
    refine sound.reach found rfl ⟨fun _ => here.unseen active, fun _ => recent, by rintro ⟨⟩⟩
      fun elsewhere former => ⟨sound.each former, fun same => ⟨fun both => ?_, ?_⟩⟩
    · exact (sound.apart former found elsewhere same).1 ⟨both.1, active⟩
    -- The id is not marked, so a call accepted before has a timestamp that is too old by now.
    rintro (accepted | ahead) - - sameTime
    swap
    · cases ahead
    rcases (sound.each former).kept accepted with ⟨_, present, -⟩ | _
    · rw [same, here.unseen active] at present
      cases present
    · dsimp only at sameTime
      omega
  · next fresh =>
    have active : call.phase.active := by rw [fresh]; rfl
    have timely : call.phase.timely := by rw [fresh]; rfl
    dsimp only
    split
    · exact sound.reject found
    refine sound.reach found rfl ⟨fun _ => here.unseen active, fun _ => here.recent timely,
      by rintro ⟨⟩⟩ fun elsewhere former => ⟨sound.each former, fun same => ?_⟩
    obtain ⟨alone, once⟩ := sound.apart former found elsewhere same
    refine ⟨fun both => alone ⟨both.1, active⟩, ?_⟩
    rintro (accepted | ahead) isTimely -
    · exact once (.inl accepted) isTimely timely
    · cases ahead
  · next counted => exact sound.mark found counted
  · exact sound
  · exact sound

end

theorem Sound.perform (covers : config.Covers) {step : Step}
    (serialized : validator.Serialized step) (sound : validator.Sound config nowMs) :
    (validator.perform config nowMs step).Sound config nowMs := by
  cases step with
  | validate =>
    constructor
    · intro index call found
      rcases getElem?_concat_eq_some found with old | ⟨-, rfl⟩
      · exact sound.each old
      · exact ⟨nofun, nofun, nofun⟩
    intro _ _ _ _ isOne isOther ne
    rcases getElem?_concat_eq_some isOne with isOne | ⟨-, rfl⟩
    · rcases getElem?_concat_eq_some isOther with isOther | ⟨-, rfl⟩
      · exact sound.apart isOne isOther ne
      · exact .of_idle rfl rfl
    · exact (Call.Apart.of_idle rfl rfl).symm
  | proceed index => exact sound.proceed serialized
  | evictSeen =>
    refine ⟨fun {index call} found => ?_, sound.apart⟩
    obtain ⟨unseen, recent, kept⟩ := sound.each found
    refine ⟨fun active => by simp [Validator.perform, evictSeen, unseen active], recent, ?_⟩
    intro accepted
    rcases kept accepted with ⟨entry, present, young⟩ | expired
    · by_cases lives : nowMs - entry.seenAtMs < config.dedupTtlSecs * 1000
      · exact .inl ⟨entry, by simp [Validator.perform, evictSeen, present, lives], young⟩
      right
      unfold Covers at covers
      omega
    · exact .inr expired
  | evictRateLimits => exact ⟨sound.each, sound.apart⟩

/--
With the default configuration, in every interleaving in which no seen check
is made while another call with the id is between its check and its mark, a
message with a given id and timestamp is accepted at most once.
-/
theorem gossip_accepted_once (steps : List (Nat × Step)) (since : Nat)
    (admitted : Timed.Admitted (perform {}) (fun validator _ => validator.Serialized) since
      {} steps) (first second : Nat) (one other : Call)
    (isOne : (run (perform {}) {} steps).calls[first]? = some one)
    (isOther : (run (perform {}) {} steps).calls[second]? = some other)
    (accepted : one.phase = .accepted ∧ other.phase = .accepted)
    (same : one.id = other.id ∧ one.timestampMs = other.timestampMs) : first = second := by
  have sound := @Timed.invariant_run _ _ _ _ (Sound {}) Sound.later
    (Sound.perform (by unfold Covers; decide)) steps since {} admitted
    ⟨nofun, nofun⟩
  by_contra different
  refine ((sound.apart isOne isOther different) same.1).2 (.inl accepted.1) ?_ ?_ same.2
  · rw [accepted.1]; rfl
  · rw [accepted.2]; rfl

/-- Two calls for one message, one after the other. -/
def repeated : List (Nat × Step) :=
  [(5, .validate "m" "s" 5), (5, .proceed 0), (5, .proceed 0), (5, .proceed 0), (5, .proceed 0),
    (6, .validate "m" "s" 5), (6, .proceed 1)]

theorem gossip_accepted_once_repeated : (run (perform {}) {} repeated).calls =
      [⟨"m", "s", 5, .accepted⟩, ⟨"m", "s", 5, .rejected (.duplicate "m")⟩] ∧
      ∀ second other, (run (perform {}) {} repeated).calls[second]? = some other →
        other.phase = .accepted → other.id = "m" ∧ other.timestampMs = 5 → 0 = second := by
  refine ⟨by decide, fun second other isOther accepted same => ?_⟩
  refine gossip_accepted_once repeated 0 ?_ 0 second ⟨"m", "s", 5, .accepted⟩ other (by decide)
    isOther ⟨rfl, accepted⟩ ⟨same.1.symm, same.2.symm⟩
  simp [repeated, Timed.Admitted, Serialized, perform, proceed, reach, isSeen, markSeen,
    Phase.active, contains, lookup, empty, insertOrIgnore,
    checkTimestamp, checkRateLimit, currentWindow]

/-- Both calls look for the id before either of them marks it. -/
theorem gossip_accepted_twice : (run (perform {}) {}
      [(5, .validate "m" "s" 5), (5, .validate "m" "s" 5), (5, .proceed 0), (5, .proceed 1),
        (5, .proceed 0), (5, .proceed 0), (5, .proceed 0),
        (5, .proceed 1), (5, .proceed 1), (5, .proceed 1)]).calls =
      [⟨"m", "s", 5, .accepted⟩, ⟨"m", "s", 5, .accepted⟩] := by
  decide

/-! ## Rate windows -/

section

variable (config : GossipConfig) (sender : String) (startMs : Nat)

/-- Whether a step takes a message of the sender past the rate limit. -/
def passes (validator : Validator) (nowMs : Nat) : Step → Bool
  | .proceed index => validator.calls[index]?.any fun call => call.phase = .fresh &&
    call.sender = sender && (config.checkRateLimit validator.rateLimits sender nowMs).1.isOk
  | _ => false

/-- A step, with the messages of the sender that have passed within a window's length. -/
def tally (state : Validator × Nat) (nowMs : Nat) (step : Step) : Validator × Nat :=
  (state.1.perform config nowMs step,
    if (startMs ≤ nowMs ∧ nowMs < startMs + config.rateLimitWindowMs) ∧
        state.1.passes config sender nowMs step then state.2 + 1 else state.2)

/--
What has passed is counted in the window that the sender is in until the time
is over; a window that began before lets nothing pass.
-/
structure Counted (nowMs : Nat) (validator : Validator) (passed : Nat) : Prop where
  since : startMs ≤ nowMs
  limited : passed ≤ config.maxPerSenderPerHour
  current : ∀ laterMs, nowMs ≤ laterMs → laterMs < startMs + config.rateLimitWindowMs →
    let window := config.currentWindow validator.rateLimits sender laterMs
    passed ≤ window.count ∧ startMs ≤ window.windowStartMs ∨
      passed = 0 ∧ config.maxPerSenderPerHour ≤ window.count

variable {config sender startMs}

theorem lookup_checkRateLimit {limits : Table String RateLimitEntry} :
    (config.checkRateLimit limits peer nowMs).2.lookup sender = if sender = peer then
        some ⟨(config.currentWindow limits peer nowMs).count +
          if (config.checkRateLimit limits peer nowMs).1.isOk then 1 else 0,
          (config.currentWindow limits peer nowMs).windowStartMs⟩ else limits.lookup sender := by
  obtain rfl | ne := eq_or_ne sender peer
  · rw [if_pos rfl]
    unfold checkRateLimit
    dsimp only
    split <;> simp [lookup_insertOrIgnore_self, Except.isOk, Except.toBool]
  · rw [if_neg ne]
    unfold checkRateLimit
    dsimp only
    split <;> simp [lookup_insertOrIgnore_of_ne ne, ne]

theorem rateLimits_proceed (found : validator.calls[index]? = some call) :
    (validator.proceed config nowMs index).rateLimits =
      if call.phase = .fresh then (config.checkRateLimit validator.rateLimits call.sender nowMs).2
      else validator.rateLimits := by
  unfold proceed
  rw [found]
  dsimp only
  split <;> rename_i isPhase <;> rw [isPhase]
  · rfl
  · split <;> rfl
  · split <;> rfl
  all_goals rfl

section

variable (counted : Counted config sender startMs nowMs validator passed)
include counted

theorem Counted.keep
    (same : ∀ laterMs, nowMs ≤ laterMs → config.currentWindow next.rateLimits sender laterMs =
      config.currentWindow validator.rateLimits sender laterMs) :
    Counted config sender startMs nowMs next passed := by
  refine ⟨counted.since, counted.limited, fun laterMs after before => ?_⟩
  rw [same laterMs after]
  exact counted.current laterMs after before

/-- A check counts the message in the window it finds or starts. -/
theorem Counted.check
    (checked : next.rateLimits = (config.checkRateLimit validator.rateLimits sender nowMs).2) :
    Counted config sender startMs nowMs next
      (if (startMs ≤ nowMs ∧ nowMs < startMs + config.rateLimitWindowMs) ∧
          (config.checkRateLimit validator.rateLimits sender nowMs).1.isOk then passed + 1
      else passed) := by
  have since := counted.since
  have below (passes : (config.checkRateLimit validator.rateLimits sender nowMs).1.isOk) :
      (config.currentWindow validator.rateLimits sender nowMs).count <
        config.maxPerSenderPerHour := by
    by_contra full
    simp [checkRateLimit, Nat.not_lt.mp full, Except.isOk, Except.toBool] at passes
  refine ⟨since, ?_, fun laterMs _ _ => ?_⟩
  · split
    · next passes =>
      have room := below passes.2
      have behind := counted.current nowMs (Nat.le_refl _) passes.1.2
      dsimp only at behind
      omega
    · exact counted.limited
  have inside : startMs ≤ nowMs ∧ nowMs < startMs + config.rateLimitWindowMs := by omega
  have behind := counted.current nowMs (Nat.le_refl _) inside.2
  dsimp only at behind
  rw [currentWindow, checked, lookup_checkRateLimit, if_pos rfl, Option.getD_some]
  simp only [inside, true_and]
  by_cases passes : (config.checkRateLimit validator.rateLimits sender nowMs).1.isOk
  · have room := below passes
    rw [if_pos passes, if_pos passes, if_neg (Nat.not_le.mpr (by omega))]
    dsimp only
    omega
  · rw [if_neg passes, if_neg passes]
    split <;> dsimp only <;> omega

theorem Counted.evict :
    Counted config sender startMs nowMs (validator.evictRateLimits config nowMs) passed := by
  refine counted.keep fun laterMs _ => ?_
  -- A window that is evicted would be started anew.
  simp only [currentWindow, evictRateLimits, lookup_deleteWhere]
  cases validator.rateLimits.lookup sender with
  | none => rfl
  | some entry =>
    by_cases running : nowMs - entry.windowStartMs < config.rateLimitWindowMs
    · simp [Option.filter, running]
    · have gone : laterMs - entry.windowStartMs ≥ config.rateLimitWindowMs := by omega
      simp [Option.filter, running, gone]

theorem Counted.step (step : Step) :
    Counted config sender startMs nowMs (validator.perform config nowMs step)
      (tally config sender startMs (validator, passed) nowMs step).2 := by
  have quietly (quiet : validator.passes config sender nowMs step = false) :
    (tally config sender startMs (validator, passed) nowMs step).2 = passed := by
    simp [tally, quiet]
  cases step with
  | validate | evictSeen => exact (quietly rfl).symm ▸ counted.keep fun _ _ => rfl
  | evictRateLimits => exact (quietly rfl).symm ▸ counted.evict
  | proceed index =>
    cases found : validator.calls[index]? with
    | none =>
      refine (quietly (by simp [passes, found])).symm ▸ counted.keep fun _ _ => ?_
      simp [perform, proceed, found]
    | some call =>
      have limits : (validator.proceed config nowMs index).rateLimits = _ :=
        rateLimits_proceed found
      by_cases checks : call.phase = .fresh ∧ call.sender = sender
      · obtain ⟨fresh, rfl⟩ := checks
        rw [if_pos fresh] at limits
        simpa [tally, perform, passes, found, fresh] using counted.check limits
      rw [quietly (by simp only [passes, found, Option.any_some]; grind)]
      refine counted.keep fun _ _ => ?_
      have same : (validator.proceed config nowMs index).rateLimits.lookup sender =
        validator.rateLimits.lookup sender := by
        rw [limits]
        split
        · next fresh => rw [lookup_checkRateLimit, if_neg fun same => checks ⟨fresh, same.symm⟩]
        · rfl
      simp only [perform, currentWindow, same]

end

theorem Counted.of_run {steps : List (Nat × Step)}
    (begun : Counted config sender startMs startMs validator 0)
    (ordered : Admitted (tally config sender startMs) (fun _ _ _ => True) startMs
      (validator, 0) steps) :
    (run (tally config sender startMs) (validator, 0) steps).2 ≤ config.maxPerSenderPerHour := by
  refine (@Timed.invariant_run _ _ _ _
    (fun nowMs state => Counted config sender startMs nowMs state.1 state.2) ?_
    (fun _ counted => counted.step _) steps startMs (validator, 0) ordered begun).limited
  intro since nowMs state later counted
  exact ⟨Nat.le_trans counted.since later, counted.limited, fun laterMs after =>
    counted.current laterMs (Nat.le_trans later after)⟩

/-- A call of `validate` that goes on at once. -/
def atOnce (sender : String) (nowMs index : Nat) (id : String) : List (Nat × Step) :=
  (nowMs, .validate id sender nowMs) :: List.replicate 4 (nowMs, .proceed index)

section

variable (inside : startMs ≤ nowMs ∧ nowMs < startMs + config.rateLimitWindowMs)
include inside

theorem currentWindow_running {limits : Table String RateLimitEntry} :
    nowMs - (config.currentWindow limits sender nowMs).windowStartMs <
      config.rateLimitWindowMs := by
  unfold currentWindow
  dsimp only
  split
  · dsimp only
    omega
  · next running => exact Nat.not_le.mp running

/-- A new message of a sender that has not used up its window is accepted. -/
theorem run_atOnce {id : String} {window : RateLimitEntry}
    (current : config.currentWindow validator.rateLimits sender nowMs = window)
    (room : window.count < config.maxPerSenderPerHour)
    (unseen : validator.seen.lookup id = none) (passed : Nat) :
    ∃ next, run (tally config sender startMs) (validator, passed)
        (atOnce sender nowMs validator.calls.length id) = (next, passed + 1) ∧
      next.calls = validator.calls ++ [⟨id, sender, nowMs, .accepted⟩] ∧
      next.rateLimits.lookup sender = some { window with count := window.count + 1 } := by
  have timely : config.checkTimestamp nowMs nowMs = .ok () := by simp [checkTimestamp]
  have counts : (config.checkRateLimit validator.rateLimits sender nowMs).1 = .ok () := by
    simp [checkRateLimit, current, Nat.not_le.mpr room]
  have stored : (config.checkRateLimit validator.rateLimits sender nowMs).2.lookup sender =
      some ⟨window.count + 1, window.windowStartMs⟩ := by
    rw [lookup_checkRateLimit, if_pos rfl, counts, current]
    rfl
  refine ⟨⟨validator.seen.insertOrIgnore id ⟨sender, nowMs⟩, _,
    validator.calls ++ [⟨id, sender, nowMs, .accepted⟩]⟩, ?_, rfl, stored⟩
  simp [atOnce, run, tally, perform, proceed, reach, markSeen, isSeen, contains, unseen, timely,
    counts, passes, inside, Except.isOk, Except.toBool, List.replicate]

/-- As many new messages as the window still has room for are all accepted. -/
theorem exists_burst (count : Nat) {window : RateLimitEntry} (validator : Validator)
    (current : config.currentWindow validator.rateLimits sender nowMs = window)
    (room : window.count + count ≤ config.maxPerSenderPerHour) (passed : Nat)
    {sinceMs : Nat} (ordered : sinceMs ≤ nowMs) :
    ∃ steps next, Admitted (tally config sender startMs) (fun _ _ _ => True) sinceMs
        (validator, passed) steps ∧
      lastTime sinceMs steps ≤ nowMs ∧
      run (tally config sender startMs) (validator, passed) steps = (next, passed + count) ∧
      (count = 0 ∧ next = validator ∨
        next.rateLimits.lookup sender = some { window with count := window.count + count }) := by
  have running : nowMs - window.windowStartMs < config.rateLimitWindowMs := by
    rw [← current]
    exact currentWindow_running inside
  induction count generalizing validator window passed sinceMs with
  | zero => exact ⟨[], validator, trivial, ordered, rfl, .inl ⟨rfl, rfl⟩⟩
  | succ count ih =>
    have infinite : Infinite String :=
      .of_surjective String.toList fun list => ⟨.ofList list, String.toList_ofList⟩
    obtain ⟨id, unseen⟩ := validator.seen.exists_lookup_eq_none
    obtain ⟨second, isRun, -, stored⟩ :=
      run_atOnce inside current (by omega) unseen passed
    have currentSecond : config.currentWindow second.rateLimits sender nowMs =
        { window with count := window.count + 1 } := by
      rw [currentWindow, stored, Option.getD_some]
      exact if_neg (Nat.not_le.mpr running)
    obtain ⟨steps, next, admitted, last, isRest, storedRest⟩ :=
      ih second currentSecond (by dsimp only; omega) (passed + 1) (Nat.le_refl nowMs) running
    refine ⟨atOnce sender nowMs validator.calls.length id ++ steps, next, ?_, last, ?_, .inr ?_⟩
    · rw [admitted_append, isRun]
      refine ⟨?_, admitted⟩
      simp [atOnce, Admitted, ordered, List.replicate]
    · rw [run_append, isRun, isRest]
      congr 1
      omega
    · rcases storedRest with ⟨rfl, rfl⟩ | storedRest
      · exact stored
      · rw [storedRest]
        dsimp only
        congr 2
        omega

end

/--
From a state on, at most the allowed number of messages of a sender passes
within the length of a window, in every interleaving with other calls and
evictions, exactly if the sender's window does not run out in between or has
no room left.
-/
theorem sender_capped_iff (config : GossipConfig) (sender : String) (startMs : Nat)
    (validator : Validator) :
    (∀ steps, Admitted (tally config sender startMs) (fun _ _ _ => True) startMs
        (validator, 0) steps →
      (run (tally config sender startMs) (validator, 0) steps).2 ≤ config.maxPerSenderPerHour) ↔
    ∀ entry ∈ validator.rateLimits.lookup sender,
      entry.windowStartMs + config.rateLimitWindowMs ≤ startMs ∨ startMs ≤ entry.windowStartMs ∨
        config.maxPerSenderPerHour ≤ entry.count := by
  constructor
  · intro capped entry found
    by_contra! ⟨runs, began, room⟩
    have current : config.currentWindow validator.rateLimits sender startMs = entry := by
      rw [currentWindow, Option.mem_def.mp found, Option.getD_some]
      exact if_neg (by omega)
    have inside : startMs ≤ startMs ∧ startMs < startMs + config.rateLimitWindowMs := by omega
    obtain ⟨steps, full, admitted, last, isRun, stored⟩ :=
      exists_burst inside (config.maxPerSenderPerHour - entry.count) validator current (by omega) 0
        (Nat.le_refl _)
    have stored := stored.resolve_left fun none => by omega
    -- The window has no room left, and runs out before the length of a window has passed.
    have renewed : config.currentWindow full.rateLimits sender
        (entry.windowStartMs + config.rateLimitWindowMs) =
        ⟨0, entry.windowStartMs + config.rateLimitWindowMs⟩ := by
      rw [currentWindow, stored, Option.getD_some]
      exact if_pos (by dsimp only; omega)
    have still : startMs ≤ entry.windowStartMs + config.rateLimitWindowMs ∧
        entry.windowStartMs + config.rateLimitWindowMs < startMs + config.rateLimitWindowMs := by
      omega
    obtain ⟨more, next, admittedMore, -, isMore, -⟩ :=
      exists_burst still config.maxPerSenderPerHour full renewed (by dsimp only; omega)
        (0 + (config.maxPerSenderPerHour - entry.count)) (last.trans still.1)
    have exceeded := capped (steps ++ more) (admitted_append.mpr ⟨admitted, isRun ▸ admittedMore⟩)
    rw [run_append, isRun, isMore] at exceeded
    dsimp only at exceeded
    omega
  · intro holds steps ordered
    refine Counted.of_run ⟨Nat.le_refl _, Nat.zero_le _, fun laterMs after _ => ?_⟩ ordered
    unfold currentWindow
    dsimp only
    split
    · exact .inl ⟨Nat.zero_le _, after⟩
    next running =>
    cases found : validator.rateLimits.lookup sender with
    | none => exact .inl ⟨Nat.zero_le _, after⟩
    | some entry =>
      have state := holds entry found
      rw [found, Option.getD_some] at running
      rw [Option.getD_some]
      omega

/-- Two messages of one sender at both ends of a window of ten milliseconds. -/
def edges : List (Nat × Step) :=
  atOnce "s" 0 0 "a" ++ atOnce "s" 9 1 "b"

/-- Of a sender that may send two, one before and two after the edge of a window are accepted. -/
theorem sender_exceeds_rolling_window :
    let config : GossipConfig := { maxPerSenderPerHour := 2, rateLimitWindowMs := 10 }
    let steps := edges ++ atOnce "s" 10 2 "c" ++ atOnce "s" 11 3 "d"
    (run (perform config) {} steps).calls.map (·.phase) = List.replicate 4 .accepted ∧
      (run (tally config "s" 9) ({}, 0) steps).2 = 3 := by
  decide

end

end Validator

end BitSov.Gossip
