import BitSov.Encoding.Bytes
import BitSov.Process.Program

namespace BitSov.Message

open Encoding Process List Fallible

/-!
# Frames on a stream

A frame is sent as its length in four bytes and its JSON form.  A reader keeps
what it has received and decodes from it as long as a frame is complete.
-/

inductive WireError where
  | frameTooLarge (size max : Nat)
  | serialization (reason : String)
  | invalidFrame (reason : String)

def maxFrameSize : Nat :=
  16 * 1024 * 1024

/-- The JSON form of the frames. -/
structure FrameJson (Frame : Type) where
  toBytes : Frame → Except WireError (List UInt8)
  fromBytes : List UInt8 → Except WireError Frame

/-- The JSON of a frame is read back as the frame. -/
def FrameJson.RoundTrips {Frame : Type} (json : FrameJson Frame) (frame : Frame) : Prop :=
  ∀ payload, json.toBytes frame = .ok payload → json.fromBytes payload = .ok frame

variable {Frame : Type} (json : FrameJson Frame)

def encodeFrame (frame : Frame) : Except WireError (List UInt8) := do
  let payload ← json.toBytes frame
  if payload.length > maxFrameSize then
    .error (.frameTooLarge payload.length maxFrameSize)
  else .ok (beBytes 4 payload.length ++ payload)

/-- The first frame of a buffer with the bytes it takes, once it is complete. -/
def decodeFrame (buf : List UInt8) : Except WireError (Option (Frame × Nat)) :=
  if buf.length < 4 then .ok none
  else
    let len := ofBeBytes (buf.take 4)
    if len > maxFrameSize then .error (.frameTooLarge len maxFrameSize)
    else if buf.length < 4 + len then .ok none
    else do
      let frame ← json.fromBytes ((buf.drop 4).take len)
      return some (frame, 4 + len)

/-- Decode up to a number of frames; what remains is kept. -/
def decodeAll : Nat → List UInt8 → Except WireError (List Frame × List UInt8)
  | 0, buf => .ok ([], buf)
  | fuel + 1, buf => do
    match ← decodeFrame json buf with
    | none => return ([], buf)
    | some (frame, consumed) =>
      let (frames, rest) ← decodeAll fuel (buf.drop consumed)
      return (frame :: frames, rest)

/-- Append each buffer to what was kept and decode all that is complete. -/
def receiveAll : List UInt8 → List (List UInt8) → Except WireError (List Frame × List UInt8)
  | kept, [] => .ok ([], kept)
  | kept, buf :: later => do
    let (frames, rest) ← decodeAll json (kept ++ buf).length (kept ++ buf)
    let (more, rest) ← receiveAll rest later
    return (frames ++ more, rest)

variable {json}

theorem encodeFrame_eq_ok (encoded : encodeFrame json frame = .ok bytes) :
    ∃ payload, json.toBytes frame = .ok payload ∧ payload.length ≤ maxFrameSize ∧
      bytes = beBytes 4 payload.length ++ payload := by
  obtain ⟨payload, written, encoded⟩ := bind_eq_ok_iff.mp encoded
  split at encoded
  · cases encoded
  next fits =>
  cases encoded
  exact ⟨payload, written, Nat.le_of_not_lt fits, rfl⟩

theorem ofBeBytes_length {payload : List UInt8} (fits : payload.length ≤ maxFrameSize) :
    ofBeBytes (beBytes 4 payload.length) = payload.length := by
  rw [ofBeBytes_beBytes, Nat.mod_eq_of_lt]
  exact fits.trans_lt (by decide)

theorem four_le_length (encoded : encodeFrame json frame = .ok bytes) : 4 ≤ bytes.length := by
  obtain ⟨_, -, -, rfl⟩ := encodeFrame_eq_ok encoded
  simp

theorem decodeFrame_append (returns : json.RoundTrips frame)
    (encoded : encodeFrame json frame = .ok bytes) (rest) :
    decodeFrame json (bytes ++ rest) = .ok (some (frame, bytes.length)) := by
  obtain ⟨payload, written, fits, rfl⟩ := encodeFrame_eq_ok encoded
  have read := returns payload written
  rw [append_assoc]
  have start : (beBytes 4 payload.length ++ (payload ++ rest)).take 4 = _ :=
    take_left' (length_beBytes _ _)
  have body : ((beBytes 4 payload.length ++ (payload ++ rest)).drop 4).take payload.length =
      payload := by
    rw [drop_left' (length_beBytes _ _), take_left]
  rw [decodeFrame, if_neg (by simp)]
  simp only [start, ofBeBytes_length fits]
  rw [if_neg (Nat.not_lt.mpr fits), if_neg (by simp), body, read]
  simp [bind, Except.bind, pure, Except.pure]

theorem decodeFrame_of_short (encoded : encodeFrame json frame = .ok bytes)
    (before : buf <+: bytes) (short : buf.length < bytes.length) :
    decodeFrame json buf = .ok none := by
  obtain ⟨payload, -, fits, rfl⟩ := encodeFrame_eq_ok encoded
  rw [decodeFrame]
  split
  · rfl
  next long =>
  have start : buf.take 4 = beBytes 4 payload.length := by
    obtain ⟨missing, same⟩ := before
    have kept : (buf ++ missing).take 4 = _ := take_append_of_le_length (Nat.le_of_not_lt long)
    rw [← kept, same, take_left' (length_beBytes _ _)]
  simp only [start, ofBeBytes_length fits]
  rw [if_neg (Nat.not_lt.mpr fits), if_pos]
  simpa using short

/-- The frames, whose JSON can be read back, were sent as these bytes. -/
abbrev Sent (json : FrameJson Frame) : List Frame → List (List UInt8) → Prop :=
  Forall₂ fun frame bytes => json.RoundTrips frame ∧ encodeFrame json frame = .ok bytes

/-- The next frame is not complete. -/
abbrev Waits (kept : List UInt8) (sent : List (List UInt8)) : Prop :=
  ∀ bytes ∈ sent.head?, kept.length < bytes.length

/-- Of frames that were sent, all that are complete are decoded. -/
theorem decodeAll_sent (encoded : Sent json frames sent) (before : buf <+: sent.flatten)
    (enough : buf.length ≤ fuel) :
    ∃ done later sentLater kept, frames = done ++ later ∧ Sent json later sentLater ∧
      decodeAll json fuel buf = .ok (done, kept) ∧ Waits kept sentLater ∧
      ∀ more, buf ++ more = sent.flatten → kept ++ more = sentLater.flatten := by
  induction encoded generalizing buf fuel with
  | nil =>
    obtain rfl := prefix_nil.mp before
    refine ⟨[], [], [], [], rfl, .nil, ?_, nofun, fun _ same => same⟩
    cases fuel <;> rfl
  | @cons frame bytes frames sent head tail ih =>
    rw [flatten_cons] at before ⊢
    by_cases short : buf.length < bytes.length
    · have inside := prefix_of_prefix_length_le before (prefix_append bytes _) short.le
      refine ⟨[], frame :: frames, bytes :: sent, buf, rfl, .cons head tail, ?_, ?_,
        fun _ same => same⟩
      · cases fuel with
        | zero => rfl
        | succ =>
          rw [decodeAll, decodeFrame_of_short head.2 inside short]
          rfl
      · rintro _ ⟨⟩
        exact short
    · obtain ⟨after, rfl⟩ := prefix_of_prefix_length_le (prefix_append bytes sent.flatten) before
        (Nat.le_of_not_lt short)
      have some := four_le_length head.2
      rw [length_append] at enough
      obtain ⟨fuel, rfl⟩ := Nat.exists_eq_add_one.mpr (show 0 < fuel by omega)
      obtain ⟨done, later, sentLater, kept, rfl, encodedLater, decoded, waits, follows⟩ :=
        ih ((prefix_append_right_inj bytes).mp before) (show after.length ≤ fuel by omega)
      refine ⟨frame :: done, later, sentLater, kept, rfl, encodedLater, ?_, waits,
        fun more same => follows more ?_⟩
      · rw [decodeAll, decodeFrame_append head.1 head.2]
        simp only [bind, Except.bind, drop_left, decoded]
        rfl
      · rw [append_assoc] at same
        exact append_cancel_left same

theorem receiveAll_sent (encoded : Sent json frames sent) (waits : Waits kept sent)
    (cut : kept ++ buffers.flatten = sent.flatten) :
    receiveAll json kept buffers = .ok (frames, []) := by
  induction buffers generalizing kept frames sent with
  | nil =>
    rw [flatten_nil, append_nil] at cut
    cases encoded with
    | nil =>
      rw [cut]
      rfl
    | cons =>
      have short := waits _ rfl
      rw [cut, flatten_cons, length_append] at short
      omega
  | cons buf later ih =>
    rw [flatten_cons, ← append_assoc] at cut
    obtain ⟨done, _, _, kept, rfl, encodedLater, decoded, waitsLater, follows⟩ :=
      decodeAll_sent encoded ⟨_, cut⟩ le_rfl
    rw [receiveAll, decoded]
    simp only [bind, Except.bind, ih encodedLater waitsLater (follows _ cut)]
    rfl

/-- However the stream is cut, the frames arrive as they were sent; a part of
a frame is waited for, and a length above the limit is an error at once. -/
theorem frames_received {frames : List Frame} {sent buffers : List (List UInt8)}
    (encoded : Sent json frames sent) (cut : buffers.flatten = sent.flatten) :
    receiveAll json [] buffers = .ok (frames, []) ∧
      (∀ frame bytes buf, encodeFrame json frame = .ok bytes → buf <+: bytes → buf ≠ bytes →
        decodeFrame json buf = .ok none) ∧
      ∀ buf : List UInt8, 4 ≤ buf.length → ofBeBytes (buf.take 4) > maxFrameSize →
        decodeFrame json buf = .error (.frameTooLarge (ofBeBytes (buf.take 4)) maxFrameSize) := by
  refine ⟨receiveAll_sent encoded ?_ cut, ?_, ?_⟩
  · intro bytes mem
    cases encoded with
    | nil => cases mem
    | cons head =>
      cases mem
      exact (four_le_length head.2).trans_lt' (by simp)
  · intro _ _ _ isSent before ne
    exact decodeFrame_of_short isSent before (before.length_le.lt_of_ne fun same =>
      ne (before.eq_of_length same))
  · intro buf long large
    rw [decodeFrame, if_neg (Nat.not_lt.mpr long)]
    exact if_pos large

/-- Frames that are byte strings. -/
def plainJson : FrameJson (List UInt8) where
  toBytes := .ok
  fromBytes := .ok

/-- Two frames, cut within the length of the first and within the second. -/
theorem frames_received_plainJson :
    receiveAll plainJson [] [[0, 0], [0, 1, 7, 0, 0, 0, 2, 8], [9]] = .ok ([[7], [8, 9]], []) := by
  have returns (frame : List UInt8) : plainJson.RoundTrips frame := by
    rintro _ ⟨⟩
    rfl
  have encoded : Sent plainJson [[7], [8, 9]] [[0, 0, 0, 1, 7], [0, 0, 0, 2, 8, 9]] := by
    refine .cons ⟨returns _, ?_⟩ (.cons ⟨returns _, ?_⟩ .nil) <;>
      simp [encodeFrame, plainJson, maxFrameSize, beBytes, bind, Except.bind]
  exact (frames_received encoded (by decide)).1

end BitSov.Message
