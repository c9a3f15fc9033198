import BitSov.Crypto.DoubleRatchet

namespace BitSov.Crypto

open Ratchet ChainKdf

/-!
# Primitives without collisions

What is assumed of the primitives of a double ratchet when messages are told
apart by their keys: two sides agree on an exchanged key, different exchanges
and different places in a chain have different keys, and a ciphertext opens
only under what it was made with.  Terms that say how they were derived
satisfy all of it.
-/

/-- What is assumed of the primitives. -/
structure RatchetPrimitives.Ideal {Secret Public Key Cipher : Type}
    (prims : RatchetPrimitives Secret Public Key Cipher) : Prop where
  agree : ∀ first second,
    prims.diffieHellman first (prims.publicKey second) =
      prims.diffieHellman second (prims.publicKey first)
  separate : ∀ first second third fourth,
    prims.diffieHellman first (prims.publicKey second) =
      prims.diffieHellman third (prims.publicKey fourth) →
      prims.publicKey first = prims.publicKey third ∧
        prims.publicKey second = prims.publicKey fourth ∨
        prims.publicKey first = prims.publicKey fourth ∧
          prims.publicKey second = prims.publicKey third
  keyed : ∀ rootKey otherRootKey dhOutput otherDhOutput place otherPlace,
    prims.kdf.keyAt (prims.kdfRk rootKey dhOutput).2 place =
      prims.kdf.keyAt (prims.kdfRk otherRootKey otherDhOutput).2 otherPlace →
      dhOutput = otherDhOutput ∧ place = otherPlace
  opens : ∀ key plaintext ad ciphertext,
    prims.aeadEncrypt key plaintext ad = .ok ciphertext →
      prims.aeadDecrypt key ciphertext ad = .ok plaintext
  authentic : ∀ key plaintext ad ciphertext,
    prims.aeadDecrypt key ciphertext ad = .ok plaintext →
      prims.aeadEncrypt key plaintext ad = .ok ciphertext
  committed : ∀ key plaintext ad otherKey otherPlaintext otherAd ciphertext,
    prims.aeadEncrypt key plaintext ad = .ok ciphertext →
      prims.aeadEncrypt otherKey otherPlaintext otherAd =
        .ok ciphertext →
        key = otherKey ∧ plaintext = otherPlaintext ∧ ad = otherAd

/-- Keys as the terms that derive them. -/
inductive RatchetTerm where
  | shared
  | exchange (first second : Nat)
  | root (rootKey dhOutput : RatchetTerm)
  | chain (rootKey dhOutput : RatchetTerm)
  | next (key : RatchetTerm)
  | message (key : RatchetTerm)
  deriving Repr, DecidableEq

/-- A ciphertext that says what it was made of. -/
structure RatchetSealed where
  key : RatchetTerm
  plaintext : Bytes
  ad : RatchetAd Nat
  deriving DecidableEq

namespace RatchetTerm

/-- The primitives on terms; a public key is the number of its secret. -/
def primitives : RatchetPrimitives Nat Nat RatchetTerm RatchetSealed where
  publicKey secret := secret
  diffieHellman first second := .exchange (min first second) (max first second)
  kdfRk rootKey dhOutput := (.root rootKey dhOutput, .chain rootKey dhOutput)
  kdf := ⟨.next, .message⟩
  aeadEncrypt key plaintext ad := .ok ⟨key, plaintext, ad⟩
  aeadDecrypt key ciphertext ad :=
    if ciphertext.key = key ∧ ciphertext.ad = ad then .ok ciphertext.plaintext
    else .error "aead::Error"

theorem chainAt_inj (same : primitives.kdf.chainAt (.chain rootKey dhOutput) place =
      primitives.kdf.chainAt (.chain otherRootKey otherDhOutput) otherPlace) :
    dhOutput = otherDhOutput ∧ place = otherPlace := by
  induction place generalizing otherPlace with
  | zero =>
    cases otherPlace with
    | zero =>
      cases same
      exact ⟨rfl, rfl⟩
    | succ =>
      rw [chainAt_succ] at same
      cases same
  | succ place ih =>
    rw [chainAt_succ] at same
    cases otherPlace with
    | zero => cases same
    | succ otherPlace =>
      rw [chainAt_succ] at same
      obtain ⟨sameOutput, samePlace⟩ := ih (RatchetTerm.next.inj same)
      exact ⟨sameOutput, congrArg Nat.succ samePlace⟩

theorem primitives_ideal : primitives.Ideal where
  agree first second := by
    change RatchetTerm.exchange (min first second) (max first second) =
      .exchange (min second first) (max second first)
    rw [Nat.min_comm, Nat.max_comm]
  separate first second third fourth same := by
    obtain ⟨least, greatest⟩ := RatchetTerm.exchange.inj same
    change first = third ∧ second = fourth ∨ first = fourth ∧ second = third
    change min first second = min third fourth at least
    change max first second = max third fourth at greatest
    omega
  keyed _ _ _ _ _ _ same := chainAt_inj (RatchetTerm.message.inj same)
  opens key plaintext ad ciphertext sealing := by
    cases sealing
    exact if_pos ⟨rfl, rfl⟩
  authentic key plaintext ad ciphertext opened := by
    change (if _ then _ else _) = _ at opened
    split at opened
    · next own =>
      obtain ⟨rfl, rfl⟩ := own
      cases opened
      rfl
    · cases opened
  committed key plaintext ad otherKey otherPlaintext otherAd ciphertext sealing sealingAgain := by
    cases sealing
    cases sealingAgain
    exact ⟨rfl, rfl, rfl⟩

end RatchetTerm

end BitSov.Crypto
