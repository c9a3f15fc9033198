import Mathlib.Tactic.Ring

namespace Encoding

/-!
# Byte strings

Fixed-width big-endian numbers and lower-case hexadecimal text, as
length-delimited signing formats and textual interfaces use them.
-/

/-- The big-endian encoding of `value` in `width` bytes. -/
def beBytes : Nat → Nat → List UInt8
  | 0, _ => []
  | width + 1, value => UInt8.ofNat (value / 256 ^ width) :: beBytes width value

/-- The number a big-endian byte string stands for. -/
def ofBeBytes : List UInt8 → Nat
  | [] => 0
  | byte :: rest => byte.toNat * 256 ^ rest.length + ofBeBytes rest

@[simp] theorem length_beBytes (width value) : (beBytes width value).length = width := by
  induction width with
  | zero => rfl
  | succ width ih => simp [beBytes, ih]

theorem ofBeBytes_beBytes (width value) :
    ofBeBytes (beBytes width value) = value % 256 ^ width := by
  induction width with
  | zero => simp [beBytes, ofBeBytes, Nat.mod_one]
  | succ width ih =>
    rw [beBytes, ofBeBytes, ih, length_beBytes, Nat.mod_pow_succ, UInt8.toNat_ofNat']
    ring

theorem beBytes_injective (firstFits : first < 256 ^ width)
    (secondFits : second < 256 ^ width) (sameBytes : beBytes width first = beBytes width second) :
    first = second := by
  have sameValue := congrArg ofBeBytes sameBytes
  rwa [ofBeBytes_beBytes, ofBeBytes_beBytes,
    Nat.mod_eq_of_lt firstFits, Nat.mod_eq_of_lt secondFits]
    at sameValue

/-- One lower-case hexadecimal digit. -/
def hexDigit (value : Nat) : Char :=
  if value < 10 then Char.ofNat ('0'.toNat + value) else Char.ofNat ('a'.toNat + (value - 10))

/-- The lower-case hexadecimal text of a byte string. -/
def hexEncode (bytes : List UInt8) : String :=
  String.ofList (bytes.flatMap fun byte => [hexDigit (byte.toNat / 16), hexDigit (byte.toNat % 16)])

/-- Why a text is not hexadecimal. -/
inductive FromHexError where
  | invalidHexCharacter (character : Char) (index : Nat)
  | oddLength
  deriving Repr, DecidableEq

def FromHexError.toText : FromHexError → String
  | .invalidHexCharacter character index =>
    "Invalid character " ++ character.quote ++ " at position " ++ toString index
  | .oddLength => "Odd number of digits"

/-- The value of one hexadecimal digit of either case. -/
def hexValue (byte : UInt8) (index : Nat) : Except FromHexError Nat :=
  if 65 ≤ byte.toNat ∧ byte.toNat ≤ 70 then .ok (byte.toNat - 65 + 10)
  else if 97 ≤ byte.toNat ∧ byte.toNat ≤ 102 then .ok (byte.toNat - 97 + 10)
  else if 48 ≤ byte.toNat ∧ byte.toNat ≤ 57 then .ok (byte.toNat - 48)
  else .error (.invalidHexCharacter (Char.ofNat byte.toNat) index)

/-- Decode pairs of digits, the first of which stands at `index`. -/
def hexDecodePairs : Nat → List UInt8 → Except FromHexError (List UInt8)
  | index, high :: low :: rest => do
    let highValue ← hexValue high index
    let lowValue ← hexValue low (index + 1)
    let bytes ← hexDecodePairs (index + 2) rest
    return UInt8.ofNat (highValue * 16 + lowValue) :: bytes
  | _, _ => .ok []

def hexDecode (text : String) : Except FromHexError (List UInt8) :=
  let bytes := text.toUTF8.data.toList
  if bytes.length % 2 ≠ 0 then .error .oddLength else hexDecodePairs 0 bytes

def exactly (length : Nat) (bytes : List UInt8) : Option (Vector UInt8 length) :=
  if sameLength : bytes.length = length then some ⟨bytes.toArray, sameLength⟩ else none

end Encoding
