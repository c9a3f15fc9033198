import Mathlib.Tactic.Ring

namespace Arithmetic

/-!
# Saturating and checked machine arithmetic

Unsigned 64-bit addition, subtraction and multiplication that saturate at the
bounds of the type, the checked variants that fail instead, and saturating
signed 64-bit subtraction on integers.  The equations relate each of them to
the natural numbers.
-/

def u64Max : Nat :=
  2 ^ 64 - 1

/-- The unsigned 64-bit number closest to a natural number. -/
def clampU64 (value : Nat) : UInt64 :=
  if value ≤ u64Max then UInt64.ofNat value else UInt64.ofNat u64Max

variable (first second : UInt64)

/-- Addition that stops at the largest number. -/
def saturatingAdd : UInt64 :=
  clampU64 (first.toNat + second.toNat)

/-- Multiplication that stops at the largest number. -/
def saturatingMul : UInt64 :=
  clampU64 (first.toNat * second.toNat)

def saturatingSub : UInt64 :=
  if second ≤ first then first - second else 0

def checkedAdd : Option UInt64 :=
  if first.toNat + second.toNat ≤ u64Max then some (first + second) else none

/-- Signed 64-bit subtraction that stops at the bounds of the type. -/
def saturatingSubI64 (first second : Int) : Int :=
  max (-(2 ^ 63)) (min (2 ^ 63 - 1) (first - second))

variable (value : UInt64)

theorem toNat_le_u64Max : value.toNat ≤ u64Max := by
  have bound := value.toNat_lt
  unfold u64Max
  omega

theorem toNat_saturatingAdd {first second : UInt64} (fits : first.toNat + second.toNat ≤ u64Max) :
    (saturatingAdd first second).toNat = first.toNat + second.toNat := by
  rw [saturatingAdd, clampU64, if_pos fits, UInt64.toNat_ofNat']
  exact Nat.mod_eq_of_lt (by unfold u64Max at fits; omega)

theorem toNat_saturatingAdd_eq_min :
    (saturatingAdd first second).toNat = min (first.toNat + second.toNat) u64Max := by
  unfold saturatingAdd clampU64
  split
  · next fits =>
    rw [UInt64.toNat_ofNat', Nat.min_eq_left fits]
    exact Nat.mod_eq_of_lt (by unfold u64Max at fits; omega)
  next overflows =>
  rw [UInt64.toNat_ofNat', Nat.min_eq_right (Nat.le_of_not_le overflows)]
  exact Nat.mod_eq_of_lt (by unfold u64Max; omega)

@[simp] theorem saturatingAdd_zero : saturatingAdd value 0 = value := by
  rw [← UInt64.toNat_inj, toNat_saturatingAdd_eq_min]
  exact Nat.min_eq_left (toNat_le_u64Max value)

theorem u64_max_eq_left {first second : UInt64} (below : second ≤ first) :
    max first second = first := by
  rw [← UInt64.toNat_inj, UInt64.toNat_max]
  exact Nat.max_eq_left (UInt64.le_iff_toNat_le.mp below)

theorem u64_max_self (value : UInt64) : max value value = value :=
  u64_max_eq_left (UInt64.le_refl value)

theorem le_u64_max_left : first ≤ max first second := by
  rw [UInt64.le_iff_toNat_le, UInt64.toNat_max]
  exact Nat.le_max_left _ _

theorem le_u64_max_right : second ≤ max first second := by
  rw [UInt64.le_iff_toNat_le, UInt64.toNat_max]
  exact Nat.le_max_right _ _

theorem le_saturatingAdd_left : first ≤ saturatingAdd first second := by
  rw [UInt64.le_iff_toNat_le, toNat_saturatingAdd_eq_min]
  exact Nat.le_min.mpr ⟨Nat.le_add_right _ _, toNat_le_u64Max first⟩

theorem saturatingAdd_le_saturatingAdd {first second third fourth : UInt64} (left : first ≤ third)
    (right : second ≤ fourth) : saturatingAdd first second ≤ saturatingAdd third fourth := by
  rw [UInt64.le_iff_toNat_le] at left right ⊢
  rw [toNat_saturatingAdd_eq_min, toNat_saturatingAdd_eq_min]
  omega

theorem lt_left_of_lt_min {value first second : UInt64} (below : value < min first second) :
    value < first := by
  rw [UInt64.lt_iff_toNat_lt, UInt64.toNat_min] at below
  exact UInt64.lt_iff_toNat_lt.mpr (Nat.lt_of_lt_of_le below (Nat.min_le_left _ _))

theorem toNat_add_of_le {first second : UInt64} (fits : first.toNat + second.toNat ≤ u64Max) :
    (first + second).toNat = first.toNat + second.toNat := by
  rw [UInt64.toNat_add]
  exact Nat.mod_eq_of_lt (by unfold u64Max at fits; omega)

@[simp] theorem toNat_saturatingSub :
    (saturatingSub first second).toNat = first.toNat - second.toNat := by
  unfold saturatingSub
  split
  · next below => exact UInt64.toNat_sub_of_le _ _ below
  next above =>
  rw [UInt64.le_iff_toNat_le] at above
  rw [UInt64.toNat_zero]
  omega

theorem checkedAdd_eq_some_iff {first second sum : UInt64} :
    checkedAdd first second = some sum ↔ sum.toNat = first.toNat + second.toNat := by
  unfold checkedAdd
  split
  · next fits =>
    rw [Option.some.injEq, ← UInt64.toNat_inj, toNat_add_of_le fits]
    exact eq_comm
  next overflows =>
  refine iff_of_false (by simp) ?_
  intro same
  exact overflows (same ▸ toNat_le_u64Max sum)

end Arithmetic
