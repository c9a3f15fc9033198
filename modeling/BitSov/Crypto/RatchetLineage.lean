import BitSov.Crypto.RatchetStore

namespace BitSov.Crypto

open Ratchet

/-!
# The levels of a session

The ratchet keys of a session come into use one after the other, in turns:
the first is the key pair of the side that answers, the second belongs to the
initiator, and every ratchet step adds one.  The exchange of two neighbours
gives the next root key and the chain under which the owner of the later key
sends.  A `Lineage` is that sequence of keys, and a side that has come to a
level knows exactly the keys of its own level and of the one before.
-/

/-- The shared secret and the ratchet keys in the order of their use. -/
structure Lineage (Secret Key : Type) where
  sharedSecret : Key
  secret : Nat → Secret

namespace Lineage

variable {Secret Public Key Cipher : Type} (prims : RatchetPrimitives Secret Public Key Cipher)
  (lineage : Lineage Secret Key)

def publicKey (level : Nat) : Public :=
  prims.publicKey (lineage.secret level)

/-- The exchange between a level and the next one. -/
def exchange (level : Nat) : Key :=
  prims.diffieHellman (lineage.secret (level + 1)) (lineage.publicKey prims level)

def root : Nat → Key
  | 0 => lineage.sharedSecret
  | level + 1 => (prims.kdfRk (root level) (lineage.exchange prims level)).1

/-- The first chain key of a level; nobody sends on level zero. -/
def seed : Nat → Key
  | 0 => lineage.sharedSecret
  | level + 1 => (prims.kdfRk (lineage.root prims level) (lineage.exchange prims level)).2

/-- Put a new ratchet key on a level. -/
def extend (level : Nat) (fresh : Secret) : Lineage Secret Key :=
  { lineage with secret := Function.update lineage.secret level fresh }

/-- The public keys up to a level are different. -/
def Distinct (bound : Nat) : Prop :=
  ∀ first second,
    first ≤ bound →
      second ≤ bound →
        lineage.publicKey prims first =
          lineage.publicKey prims second →
          first = second

variable {prims lineage}

theorem secret_extend_of_ne (ne : other ≠ level) :
    (lineage.extend level fresh).secret other = lineage.secret other := by
  simp [extend, ne]

theorem secret_extend_self (level fresh) : (lineage.extend level fresh).secret level = fresh := by
  simp [extend]

theorem publicKey_extend_of_ne (ne : other ≠ level) :
    (lineage.extend level fresh).publicKey prims other = lineage.publicKey prims other :=
  congrArg prims.publicKey (secret_extend_of_ne ne)

theorem exchange_extend (below : other + 1 < level) :
    (lineage.extend level fresh).exchange prims other = lineage.exchange prims other := by
  unfold exchange
  rw [secret_extend_of_ne (by omega), publicKey_extend_of_ne (by omega)]

theorem root_extend (below : other < level) :
    (lineage.extend level fresh).root prims other = lineage.root prims other := by
  induction other with
  | zero => rfl
  | succ other ih => rw [root, root, ih (by omega), exchange_extend below]

theorem seed_extend (below : other < level) :
    (lineage.extend level fresh).seed prims other = lineage.seed prims other := by
  cases other with
  | zero => rfl
  | succ other => rw [seed, seed, root_extend (by omega), exchange_extend below]

theorem Distinct.mono (distinct : lineage.Distinct prims bound)
    (within : smaller ≤ bound) : lineage.Distinct prims smaller :=
  fun first second firstWithin secondWithin =>
    distinct first second (firstWithin.trans within) (secondWithin.trans within)

theorem Distinct.extend (distinct : lineage.Distinct prims bound)
    (new : ∀ level ≤ bound, lineage.publicKey prims level ≠ prims.publicKey fresh) :
    (lineage.extend (bound + 1) fresh).Distinct prims (bound + 1) := by
  have known : ∀ level ≤ bound, (lineage.extend (bound + 1) fresh).publicKey prims level =
    lineage.publicKey prims level :=
    fun level _ => publicKey_extend_of_ne (by omega)
  have last : (lineage.extend (bound + 1) fresh).publicKey prims (bound + 1) =
    prims.publicKey fresh :=
    congrArg prims.publicKey (secret_extend_self (bound + 1) fresh)
  intro first second firstWithin secondWithin same
  rcases Nat.lt_or_eq_of_le firstWithin with _ | rfl
  · rw [known first (by omega)] at same
    rcases Nat.lt_or_eq_of_le secondWithin with _ | rfl
    · rw [known second (by omega)] at same
      exact distinct first second (by omega) (by omega) same
    · rw [last] at same
      exact absurd same (new first (by omega))
  rcases Nat.lt_or_eq_of_le secondWithin with _ | rfl
  · rw [last, known second (by omega)] at same
    exact absurd same.symm (new second (by omega))
  · rfl

theorem keyAt_ne_of_old (ideal : prims.Ideal)
    (distinct : lineage.Distinct prims bound) (levelWithin : level ≤ bound)
    (old : chain + 1 < level) :
    prims.kdf.keyAt (prims.kdfRk rootKey (prims.diffieHellman (lineage.secret level)
      (lineage.publicKey prims (chain + 1)))).2 place ≠
      prims.kdf.keyAt (lineage.seed prims (chain + 1)) number := by
  intro same
  obtain ⟨exchanged, -⟩ := ideal.keyed _ _ _ _ _ _ same
  have equal : level = chain + 1 ∨ level = chain := by
    rcases ideal.separate _ _ _ _ exchanged with ⟨first, -⟩ | ⟨first, -⟩
    · exact .inl (distinct level (chain + 1) levelWithin (by omega) first)
    · exact .inr (distinct level chain levelWithin (by omega) first)
  omega

end Lineage

variable {Secret Public Key Cipher : Type} {recvCount upTo : Nat}

theorem RatchetPrimitives.Ideal.opens_only {prims : RatchetPrimitives Secret Public Key Cipher}
    (ideal : prims.Ideal) {key other : Key} {plain opened : Bytes} {ad : RatchetAd Public}
    {ciphertext : Cipher} (sealing : prims.aeadEncrypt key plain ad = .ok ciphertext)
    (opens : prims.aeadDecrypt other ciphertext ad = .ok opened) : other = key :=
  (ideal.committed _ _ _ _ _ _ _ (ideal.authentic _ _ _ _ opens) sealing).1

theorem exists_stageSkippedKeys (kdf) (chain : Key) (ratchetPublic : Public)
    (within : upTo ≤ recvCount + maxSkip) (fits : upTo < 2 ^ 32) :
    ∃ staged, stageSkippedKeys kdf chain recvCount upTo ratchetPublic = .ok staged := by
  have enough : ¬ min (recvCount + maxSkip) u32Max < upTo := by
    unfold u32Max
    omega
  unfold stageSkippedKeys
  rw [if_neg enough]
  exact ⟨_, rfl⟩

variable {kdf : ChainKdf Key} {ratchetPublic : Public}

theorem stageSkippedKeys_of_behind (behind : upTo ≤ recvCount) (fits : upTo < 2 ^ 32) :
    stageSkippedKeys kdf chain recvCount upTo ratchetPublic = .ok ⟨chain, recvCount, []⟩ := by
  have enough : ¬ min (recvCount + maxSkip) u32Max < upTo := by
    unfold u32Max
    omega
  have nothing : upTo - recvCount = 0 := by omega
  unfold stageSkippedKeys
  rw [if_neg enough, nothing, Nat.max_eq_left behind]
  rfl

/-- What is staged when a chain moves on, seen from its first key. -/
structure MovesOn (kdf : ChainKdf Key) (seed : Key) (recvCount upTo : Nat) (ratchetPublic : Public)
    (staged : StagedChain Public Key) : Prop where
  chain : staged.chain = kdf.chainAt seed (max recvCount upTo)
  count : staged.recvCount = max recvCount upTo
  length : staged.skipped.length ≤ maxSkip
  skipped : ∀ id key,
    (id, key) ∈ staged.skipped ↔
      id.1 = ratchetPublic ∧ recvCount ≤ id.2 ∧ id.2 < upTo ∧ key = kdf.keyAt seed id.2

theorem movesOn_of_stageSkippedKeys
    (accepted : stageSkippedKeys kdf (kdf.chainAt seed recvCount) recvCount upTo ratchetPublic =
      .ok staged) : MovesOn kdf seed recvCount upTo ratchetPublic staged := by
  unfold stageSkippedKeys at accepted
  split at accepted
  · cases accepted
  next _ =>
  cases accepted
  refine ⟨?_, rfl, ?_, ?_⟩
  · dsimp only
    rw [ChainKdf.skip_chain]
    congr 1
    omega
  · rw [List.length_map, ChainKdf.length_skip]
    omega
  rintro ⟨_, number⟩ _
  simp only [List.mem_map, Prod.mk.injEq, Prod.exists]
  constructor
  · rintro ⟨_, _, mem, ⟨rfl, rfl⟩, rfl⟩
    obtain ⟨after, _, same⟩ := kdf.mem_skip_iff.mp mem
    exact ⟨rfl, after, by omega, same⟩
  · rintro ⟨rfl, after, _, rfl⟩
    exact ⟨number, _, kdf.mem_skip_iff.mpr ⟨after, by omega, rfl⟩, ⟨rfl, rfl⟩, rfl⟩

end BitSov.Crypto
