import Mathlib.Data.List.Basic

namespace BitSov.Relay

open List (append_inj append_subset cons_subset foldl mem_cons_self)

/-!
# Inclusion in a depositor whitelist

The root of a whitelist is that of a binary tree over the depositors.  An
inner node hashes its children in sorted order, so a path is the siblings
alone.  Nothing but the length of what is hashed keeps leaves and inner nodes
apart.
-/

/-- A hash, or the bytes of a node id. -/
abbrev Bytes32 := Vector UInt8 32

/-- What is hashed for a pair, in sorted order. -/
def sortedPair (acc sibling : Bytes32) : List UInt8 :=
  if acc.toList ≤ sibling.toList then acc.toList ++ sibling.toList
  else sibling.toList ++ acc.toList

theorem length_sortedPair (acc sibling) : (sortedPair acc sibling).length = 64 := by
  unfold sortedPair
  split <;> simp

theorem sortedPair_comm (acc sibling) : sortedPair acc sibling = sortedPair sibling acc := by
  unfold sortedPair
  split <;> split
  next forth back => rw [List.le_antisymm forth back]
  · rfl
  · rfl
  next forth back => exact absurd (List.le_total _ _) (not_or.mpr ⟨forth, back⟩)

theorem sortedPair_inj (same : sortedPair acc sibling = sortedPair left right) :
    acc = left ∧ sibling = right ∨ acc = right ∧ sibling = left := by
  have apart {a b c d : Bytes32} (same : a.toList ++ b.toList = c.toList ++ d.toList) :
      a = c ∧ b = d := by
    obtain ⟨first, second⟩ := append_inj same (by simp)
    exact ⟨Vector.toList_inj.mp first, Vector.toList_inj.mp second⟩
  unfold sortedPair at same
  split at same <;> split at same
  · exact .inl (apart same)
  · exact .inr (apart same)
  · exact .inr (apart same).symm
  · exact .inl (apart same).symm

variable (blake3 : List UInt8 → Bytes32)

/-- Fold a hash with the siblings above it. -/
def climb : Bytes32 → List Bytes32 → Bytes32 :=
  foldl fun acc sibling => blake3 (sortedPair acc sibling)

/-- Whether a path leads from a depositor to the root. -/
def verifyMerkleInclusion (depositor : Bytes32) (path : List Bytes32) (root : Bytes32) : Bool :=
  climb blake3 (blake3 depositor.toList) path = root

/-- The strings that are hashed along a path. -/
def climbed : Bytes32 → List Bytes32 → List (List UInt8)
  | _, [] => []
  | acc, sibling :: rest =>
    sortedPair acc sibling :: climbed (blake3 (sortedPair acc sibling)) rest

/-- No two of the strings have one hash. -/
abbrev CollisionFree (texts : List (List UInt8)) : Prop :=
  ∀ first ∈ texts, ∀ second ∈ texts, blake3 first = blake3 second → first = second

/-- A binary tree over depositors. -/
inductive MerkleTree where
  | leaf (depositor : Bytes32)
  | node (left right : MerkleTree)

namespace MerkleTree

def root : MerkleTree → Bytes32
  | leaf depositor => blake3 depositor.toList
  | node left right => blake3 (sortedPair left.root right.root)

/-- The strings that are hashed in a tree. -/
def hashed : MerkleTree → List (List UInt8)
  | leaf depositor => [depositor.toList]
  | node left right =>
    sortedPair (left.root blake3) (right.root blake3) :: left.hashed ++ right.hashed

/-- The depositor is a leaf, and the path is its siblings from there up. -/
def Includes (depositor : Bytes32) : MerkleTree → List Bytes32 → Prop
  | leaf other, path => depositor = other ∧ path = []
  | node left right, path => ∃ below,
    left.Includes depositor below ∧ path = below ++ [right.root blake3] ∨
      right.Includes depositor below ∧ path = below ++ [left.root blake3]

end MerkleTree

variable {blake3} {tree : MerkleTree} {depositor : Bytes32}

theorem climb_concat (acc sibling : Bytes32) (path : List Bytes32) :
    climb blake3 acc (path ++ [sibling]) = blake3 (sortedPair (climb blake3 acc path) sibling) :=
  List.foldl_concat ..

theorem climbed_concat : climbed blake3 acc (path ++ [sibling]) =
    climbed blake3 acc path ++ [sortedPair (climb blake3 acc path) sibling] := by
  induction path generalizing acc with
  | nil => rfl
  | cons _ _ ih => exact congrArg (_ :: ·) ih

theorem climb_of_includes (includes : tree.Includes blake3 depositor path) :
    climb blake3 (blake3 depositor.toList) path = tree.root blake3 := by
  induction tree generalizing path with
  | leaf =>
    obtain ⟨rfl, rfl⟩ := includes
    rfl
  | node left right leftIh rightIh =>
    obtain ⟨below, ⟨included, rfl⟩ | ⟨included, rfl⟩⟩ := includes
    · rw [climb_concat, leftIh included, MerkleTree.root]
    · rw [climb_concat, rightIh included, sortedPair_comm, MerkleTree.root]

theorem includes_of_climb (free : CollisionFree blake3 texts) (asked : depositor.toList ∈ texts)
    (own : tree.hashed blake3 ⊆ texts)
    (along : climbed blake3 (blake3 depositor.toList) path ⊆ texts)
    (same : climb blake3 (blake3 depositor.toList) path = tree.root blake3) :
    tree.Includes blake3 depositor path := by
  induction tree generalizing path with
  | leaf other =>
    obtain rfl | ⟨below, sibling, rfl⟩ := path.eq_nil_or_concat'
    · exact ⟨Vector.toList_inj.mp (free _ asked _ (own mem_cons_self) same), rfl⟩
    · rw [climb_concat] at same
      rw [climbed_concat, append_subset, cons_subset] at along
      -- What an inner node hashes is twice as long as a depositor.
      have lengths := congrArg List.length (free _ along.2.1 _ (own mem_cons_self) same)
      simp [length_sortedPair] at lengths
  | node left right leftIh rightIh =>
    obtain ⟨pair, inside⟩ := cons_subset.mp own
    obtain ⟨inLeft, inRight⟩ := append_subset.mp inside
    obtain rfl | ⟨below, sibling, rfl⟩ := path.eq_nil_or_concat'
    · have lengths := congrArg List.length (free _ asked _ pair same)
      simp [length_sortedPair] at lengths
    · rw [climb_concat] at same
      rw [climbed_concat, append_subset, cons_subset] at along
      obtain ⟨here, rfl⟩ | ⟨here, rfl⟩ := sortedPair_inj (free _ along.2.1 _ pair same)
      · exact ⟨below, .inl ⟨leftIh inLeft along.1 here, rfl⟩⟩
      · exact ⟨below, .inr ⟨rightIh inRight along.1 here, rfl⟩⟩

/-- A path is accepted exactly for a leaf with its siblings, unless strings
that are hashed for the tree and the path collide. -/
theorem verifyMerkleInclusion_iff (tree : MerkleTree) (depositor : Bytes32) (path : List Bytes32)
    (free : CollisionFree blake3 (tree.hashed blake3 ++
      depositor.toList :: climbed blake3 (blake3 depositor.toList) path)) :
    verifyMerkleInclusion blake3 depositor path (tree.root blake3) = true ↔
      tree.Includes blake3 depositor path := by
  rw [verifyMerkleInclusion, decide_eq_true_iff]
  refine ⟨includes_of_climb free ?_ ?_ ?_, climb_of_includes⟩ <;> simp

/-- The sum of the first byte of a string and its length, as a hash. -/
def lengthHash (text : List UInt8) : Bytes32 :=
  .replicate 32 (text.headD 0 + .ofNat text.length)

/-- A tree over two depositors. -/
def twoDepositors : MerkleTree :=
  .node (.leaf (.replicate 32 1)) (.leaf (.replicate 32 2))

theorem verifyMerkleInclusion_twoDepositors : verifyMerkleInclusion lengthHash (.replicate 32 2)
    [.replicate 32 33] (twoDepositors.root lengthHash) = true :=
  (verifyMerkleInclusion_iff twoDepositors _ _ (by decide)).mpr ⟨[], .inr ⟨⟨rfl, rfl⟩, rfl⟩⟩

end BitSov.Relay
