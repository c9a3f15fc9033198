import BitSov.Encoding.Bytes

namespace BitSov.Message

open Encoding

/-!
# Cookies before the handshake

A cookie is a tag over the address of its holder and an epoch, under a secret
that rotates with the first call of a later window.  Two generations are kept.
-/

inductive IpAddr where
  | v4 (octets : Vector UInt8 4)
  | v6 (octets : Vector UInt8 16)

def IpAddr.octets : IpAddr → List UInt8
  | .v4 octets => octets.toList
  | .v6 octets => octets.toList

/-- The address in network order and the epoch in little-endian order. -/
def macInput (ip : IpAddr) (epoch : UInt64) : List UInt8 :=
  ip.octets ++ (beBytes 8 epoch.toNat).reverse

def cookieEpochSecs : UInt64 := 30

def cookieRotateEpochs : Nat := 4

def epochOf (nowUnix : UInt64) : UInt64 :=
  nowUnix / cookieEpochSecs

structure Cookie (Tag : Type) where
  epoch : UInt64
  mac : Tag

structure KeyGenerations (Secret : Type) where
  window : Option Nat
  current : Secret
  previous : Option Secret

variable {Secret Tag : Type} [DecidableEq Tag] (mac : Secret → List UInt8 → Tag)

namespace KeyGenerations

/-- Advance to the window of an epoch; a rotation takes the fresh secret. -/
def secrets (keys : KeyGenerations Secret) (epochNow : UInt64) (fresh : Secret) :
    KeyGenerations Secret :=
  let nowWindow := epochNow.toNat / cookieRotateEpochs
  match keys.window with
  | none => { keys with window := some nowWindow }
  | some window =>
    if nowWindow = window + 1 then ⟨some nowWindow, fresh, some keys.current⟩
    else if nowWindow > window + 1 then ⟨some nowWindow, fresh, none⟩
    else keys

def issue (keys : KeyGenerations Secret) (ip : IpAddr) (nowUnix : UInt64) (fresh : Secret) :
    Cookie Tag × KeyGenerations Secret :=
  let epoch := epochOf nowUnix
  let keys := keys.secrets epoch fresh
  (⟨epoch, mac keys.current (macInput ip epoch)⟩, keys)

def verify (keys : KeyGenerations Secret) (ip : IpAddr) (presented : Cookie Tag)
    (nowUnix : UInt64) (fresh : Secret) : Bool × KeyGenerations Secret :=
  let epochNow := epochOf nowUnix
  if presented.epoch ≠ epochNow ∧ presented.epoch + 1 ≠ epochNow then (false, keys)
  else
    let keys := keys.secrets epochNow fresh
    let input := macInput ip presented.epoch
    (mac keys.current input = presented.mac ||
      keys.previous.any fun previous => mac previous input = presented.mac, keys)

end KeyGenerations

open KeyGenerations List

/-- A call, with the secret it draws if it rotates. -/
inductive CookieCall (Secret Tag : Type) where
  | issue (ip : IpAddr) (nowUnix : UInt64) (fresh : Secret)
  | verify (ip : IpAddr) (presented : Cookie Tag) (nowUnix : UInt64) (fresh : Secret)

def CookieCall.nowUnix : CookieCall Secret Tag → UInt64
  | .issue _ nowUnix _ | .verify _ _ nowUnix _ => nowUnix

def CookieCall.perform (keys : KeyGenerations Secret) :
    CookieCall Secret Tag → KeyGenerations Secret
  | .issue ip nowUnix fresh => (keys.issue mac ip nowUnix fresh).2
  | .verify ip presented nowUnix fresh => (keys.verify mac ip presented nowUnix fresh).2

/-- The window of a time. -/
def windowOf (nowUnix : UInt64) : Nat :=
  (epochOf nowUnix).toNat / cookieRotateEpochs

/-- No window after the given one has begun. -/
def Behind (slot : Nat) (keys : KeyGenerations Secret) : Prop :=
  ∀ window, keys.window = some window → window ≤ slot

/-- A secret that was current in a window is held. -/
def Held (secret : Secret) (slot : Nat) (keys : KeyGenerations Secret) : Prop :=
  keys.window = some slot ∧ keys.current = secret ∨
    keys.window = some (slot + 1) ∧ keys.previous = some secret

variable {keys : KeyGenerations Secret} {calls : List (CookieCall Secret Tag)}

theorem Behind.secrets (behind : Behind slot keys) (passed : windowOf nowUnix ≤ slot) (fresh) :
    Behind slot (keys.secrets (epochOf nowUnix) fresh) := by
  unfold Behind KeyGenerations.secrets windowOf at *
  grind

theorem Held.secrets (held : Held secret slot keys)
    (near : windowOf nowUnix = slot ∨ windowOf nowUnix = slot + 1) (fresh) :
    Held secret slot (keys.secrets (epochOf nowUnix) fresh) := by
  unfold Held KeyGenerations.secrets windowOf at *
  grind

variable (first : Secret)

end BitSov.Message
