import Mathlib.Data.Rat.Floor
import Mathlib.Tactic.Linarith

/-!
# Sampling a row of items

A row is scaled down by a ratio to the number of its items times the ratio,
without the fraction.  The item at an index of the scaled row is looked up at the
index divided by the ratio, rounded.  For a ratio up to 1 this index is one of the
row, and it grows with the index of the scaled row.
-/

namespace Sampling

variable {K : Type*} [Field K] [LinearOrder K] [IsStrictOrderedRing K]
  [FloorSemiring K]

/-- The number of items of a scaled row. -/
def scaled (items : Nat) (ratio : K) : Nat :=
  ⌊(items : K) * ratio⌋₊

/-- Round to the nearest integer, and a half up. -/
def nearest (value : K) : Nat :=
  ⌊value + 1 / 2⌋₊

variable {ratio : K} {items index other : Nat}

@[simp]
theorem scaled_zero : scaled 0 ratio = 0 := by
  simp [scaled]

theorem scaled_le (atMost : ratio ≤ 1) : scaled items ratio ≤ items := by
  apply Nat.floor_le_of_le
  calc
    (items : K) * ratio ≤ items * 1 := by gcongr
    _ = items := mul_one _

theorem nearest_mono {value greater : K} (le : value ≤ greater) :
    nearest value ≤ nearest greater :=
  Nat.floor_mono (by linarith)

theorem nearest_le {value : K} {bound : Nat} (nonneg : 0 ≤ value)
    (le : value ≤ bound) : nearest value ≤ bound := by
  rw [nearest, ← Nat.lt_succ_iff, Nat.floor_lt (by linarith)]
  push_cast
  linarith

theorem nearest_div_mono (positive : 0 < ratio) (le : index ≤ other) :
    nearest ((index : K) / ratio) ≤ nearest ((other : K) / ratio) := by
  apply nearest_mono
  gcongr

/-- What is looked up for an item of the scaled row is an item of the row. -/
theorem nearest_div_lt (positive : 0 < ratio) (atMost : ratio ≤ 1)
    (inScaled : index < scaled items ratio) :
    nearest ((index : K) / ratio) < items := by
  have nonneg : 0 ≤ (items : K) * ratio := by positivity
  have below : ((index + 1 : Nat) : K) ≤ items * ratio :=
    (Nat.le_floor_iff nonneg).mp inScaled
  push_cast at below
  have someItem : 0 < items := by
    apply Nat.pos_of_ne_zero
    rintro rfl
    rw [scaled_zero] at inScaled
    exact absurd inScaled (Nat.not_lt_zero index)
  have quotient : (index : K) / ratio ≤ (items - 1 : Nat) := by
    rw [Nat.cast_sub someItem, Nat.cast_one, div_le_iff₀ positive]
    linarith
  have atLast : nearest ((index : K) / ratio) ≤ items - 1 :=
    nearest_le (by positivity) quotient
  omega

end Sampling
