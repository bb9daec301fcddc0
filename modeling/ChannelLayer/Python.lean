/-
**Python's runtime as the channel layer meets it: its exceptions and its `float`.**

`PyError` names the exceptions the modelled code raises. A Python `float` is an IEEE 754
binary64: an operation on floats, and the true division `a / b` of two `int`s, deliver the
binary64 value nearest the exact result, the one with the even significand of two equally near,
and an infinity once that is `2 ^ 1024` or more. `int()` of a float truncates toward zero.

* `nearestDouble`, `toFloat`: that rounding of a rational, on the grid of `2 ^ ulpExponent x`;
* `nearestDouble_sub_le`, `nearestDouble_rel_le`: the result is within half a grid step, so within
  `2 ^ -53` of the exact value relative to it once that is `2 ^ -1022` or more;
  `nearestDouble_le_max`, `le_nearestDouble` give the one-sided bounds the rate limiter uses;
* `nearestDouble_of_grid`, `nearestDouble_eq_of_near`: a value `n * 2 ^ k` with `|n| < 2 ^ 53`
  and `k ≥ -1074` is its own rounding, and a value is placed on the grid of its binade by the
  integer nearest its scaled value, for reading a run at given clock readings;
* `IsDouble`: what `time.time()` returns; two such readings closer than `2 ^ -1022` differ by a
  binary64 (`toFloat_sub_of_subnormal`), so a difference of clock readings is rounded only
  where it is normal.
-/

import Mathlib.Data.Int.Log
import Mathlib.Data.Rat.Floor

namespace ChannelLayer

/-! ## Exceptions -/

/-- Modelled from the spec: the exceptions of the dispatch path. The channel layer's own
classes (`AuthenticationError`, `ValidationError` with its `error_code`, `RateLimitError`,
`MessageError`) are declared in `core/exceptions.py`, which is not part of the source; the others
are Python's own. A `ValidationError` raised with no explicit code carries its class default. -/
inductive PyError where
  | attributeError
  | typeError
  | zeroDivisionError
  | overflowError
  | valueError
  | authenticationError
  | validationError (errorCode : Option String)
  | rateLimitError
  | messageError
  deriving DecidableEq, Repr

/-! ## `float` -/

/-- A Python `float`: a finite binary64 value, read as the rational it denotes (the sign of a zero
aside), an infinity, or NaN. -/
inductive PyFloat where
  | finite (x : ℚ)
  | infinity (negative : Bool)
  | nan
  deriving DecidableEq

/-- The integer nearest `y`, the even one of two equally near. -/
def roundHalfEven (y : ℚ) : ℤ :=
  if y - ⌊y⌋ < 1 / 2 then ⌊y⌋
  else if 1 / 2 < y - ⌊y⌋ then ⌊y⌋ + 1
  else if ⌊y⌋ % 2 = 0 then ⌊y⌋ else ⌊y⌋ + 1

/-- The exponent of the unit in the last place of the binary64 values near `x`: a significand
has 53 bits, and below `2 ^ -1022` the grid stays at `2 ^ -1074`. -/
def ulpExponent (x : ℚ) : ℤ :=
  max (Int.log 2 |x|) (-1022) - 52

/-- The binary64 value nearest `x`, ties to even, with the exponent unbounded above. -/
def nearestDouble (x : ℚ) : ℚ :=
  roundHalfEven (x / 2 ^ ulpExponent x) * 2 ^ ulpExponent x

/-- The `float` an operation whose exact result is `x` delivers: `nearestDouble x`, or the
infinity of the sign of `x` when that is `2 ^ 1024` or more. -/
def toFloat (x : ℚ) : PyFloat :=
  if (2 : ℚ) ^ 1024 ≤ |nearestDouble x| then .infinity (decide (x < 0))
  else .finite (nearestDouble x)

/-- A value a `float` holds, such as a reading of `time.time()`. -/
def IsDouble (x : ℚ) : Prop :=
  toFloat x = .finite x

/-- Python's `int()` on a finite float: truncation toward zero. -/
def truncate (x : ℚ) : ℤ :=
  if 0 ≤ x then ⌊x⌋ else ⌈x⌉

/-- `x * y` for a `float` `x` and a finite `float` `y`: an infinity times zero is NaN. -/
def PyFloat.mulFinite : PyFloat → ℚ → PyFloat
  | .finite x, y => toFloat (x * y)
  | .infinity negative, y => if y = 0 then .nan else .infinity (negative != decide (y < 0))
  | .nan, _ => .nan

/-- `int(x)` on a `float`: `OverflowError` on an infinity, `ValueError` on NaN. -/
def PyFloat.toInt : PyFloat → Except PyError ℤ
  | .finite x => .ok (truncate x)
  | .infinity _ => .error .overflowError
  | .nan => .error .valueError

/-- `a / b` on two `int`s: the quotient rounded once to a `float`; `ZeroDivisionError` for a zero
divisor, `OverflowError` for a quotient too large for a `float`. -/
def intTrueDiv (a b : ℤ) : Except PyError ℚ :=
  if b = 0 then .error .zeroDivisionError
  else
    match toFloat ((a : ℚ) / b) with
    | .finite quotient => .ok quotient
    | _ => .error .overflowError

/-! ## Rounding to an integer -/

theorem roundHalfEven_sub_le (y : ℚ) : |(roundHalfEven y : ℚ) - y| ≤ 1 / 2 := by
  have below := Int.floor_le y
  have above := Int.lt_floor_add_one y
  unfold roundHalfEven
  split_ifs <;> rw [abs_le] <;> push_cast <;> constructor <;> linarith

theorem roundHalfEven_eq_of_near {y : ℚ} {n : ℤ} (near : |y - n| < 1 / 2) :
    roundHalfEven y = n := by
  obtain ⟨lower, upper⟩ := abs_lt.mp near
  by_cases up : (n : ℚ) ≤ y
  · have floor : ⌊y⌋ = n := Int.floor_eq_iff.mpr ⟨up, by linarith⟩
    simp only [roundHalfEven, floor]
    rw [if_pos (by linarith)]
  · have floor : ⌊y⌋ = n - 1 := Int.floor_eq_iff.mpr ⟨by push_cast; linarith, by push_cast; linarith⟩
    simp only [roundHalfEven, floor]
    rw [if_neg (by push_cast; linarith), if_pos (by push_cast; linarith), sub_add_cancel]

theorem roundHalfEven_intCast (n : ℤ) : roundHalfEven n = n :=
  roundHalfEven_eq_of_near (by simp)

theorem roundHalfEven_nonneg {y : ℚ} (nonneg : 0 ≤ y) : 0 ≤ roundHalfEven y := by
  have := Int.floor_nonneg.mpr nonneg
  unfold roundHalfEven
  split_ifs <;> omega

theorem roundHalfEven_le_of_lt {y : ℚ} {n : ℤ} (below : y < n) : roundHalfEven y ≤ n := by
  have := Int.floor_lt.mpr below
  unfold roundHalfEven
  split_ifs <;> omega

/-! ## The grid -/

theorem two_zpow_pos (k : ℤ) : (0 : ℚ) < 2 ^ k :=
  zpow_pos two_pos k

theorem ulpExponent_ge (x : ℚ) : -1074 ≤ ulpExponent x := by
  unfold ulpExponent
  omega

/-- A normal value's grid step is at most `2 ^ -52` of it. -/
theorem zpow_ulpExponent_le {x : ℚ} (normal : 2 ^ (-1022 : ℤ) ≤ |x|) :
    (2 : ℚ) ^ ulpExponent x ≤ |x| * 2 ^ (-52 : ℤ) := by
  have positive : 0 < |x| := (two_zpow_pos _).trans_le normal
  have binade : -1022 ≤ Int.log 2 |x| :=
    (Int.zpow_le_iff_le_log (by norm_num) positive).mp (by exact_mod_cast normal)
  have floor : ((2 : ℕ) : ℚ) ^ Int.log 2 |x| ≤ |x| := Int.zpow_log_le_self (by norm_num) positive
  rw [ulpExponent, max_eq_left binade, zpow_sub₀ two_ne_zero, div_eq_mul_inv, ← zpow_neg]
  exact mul_le_mul_of_nonneg_right (by exact_mod_cast floor) (two_zpow_pos _).le

/-- Below `2 ^ -1022` the grid step is `2 ^ -1074`. -/
theorem ulpExponent_of_subnormal {x : ℚ} (nonzero : x ≠ 0) (small : |x| < 2 ^ (-1022 : ℤ)) :
    ulpExponent x = -1074 := by
  have binade : Int.log 2 |x| < -1022 :=
    (Int.lt_zpow_iff_log_lt (by norm_num) (abs_pos.mpr nonzero)).mp (by exact_mod_cast small)
  rw [ulpExponent, max_eq_right binade.le]
  norm_num

/-- A value below `2 ^ (k + 53)` has a grid step of at most `2 ^ k`. -/
theorem ulpExponent_le {x : ℚ} {k : ℤ} (nonzero : x ≠ 0) (bottom : -1074 ≤ k)
    (small : |x| < 2 ^ (k + 53)) : ulpExponent x ≤ k := by
  have binade : Int.log 2 |x| < k + 53 :=
    (Int.lt_zpow_iff_log_lt (by norm_num) (abs_pos.mpr nonzero)).mp (by exact_mod_cast small)
  unfold ulpExponent
  omega

/-! ## The rounding -/

theorem nearestDouble_zero : nearestDouble 0 = 0 := by
  have rounded : roundHalfEven 0 = 0 := by exact_mod_cast roundHalfEven_intCast 0
  simp [nearestDouble, rounded]

/-- **The rounding is within half a grid step.** -/
theorem nearestDouble_sub_le (x : ℚ) :
    |nearestDouble x - x| ≤ 2 ^ ulpExponent x / 2 := by
  have step := two_zpow_pos (ulpExponent x)
  have scaled : nearestDouble x - x = (roundHalfEven (x / 2 ^ ulpExponent x) -
      x / 2 ^ ulpExponent x) * 2 ^ ulpExponent x := by
    rw [nearestDouble, sub_mul, div_mul_cancel₀ _ step.ne']
  rw [scaled, abs_mul, abs_of_pos step]
  exact (mul_le_mul_of_nonneg_right (roundHalfEven_sub_le _) step.le).trans_eq
    (one_div_mul_eq_div _ _)

/-- **A normal value is rounded within `2 ^ -53` of itself.** -/
theorem nearestDouble_rel_le {x : ℚ} (normal : 2 ^ (-1022 : ℤ) ≤ |x|) :
    |nearestDouble x - x| ≤ |x| * 2 ^ (-53 : ℤ) := by
  have step := zpow_ulpExponent_le normal
  have half : |x| * (2 : ℚ) ^ (-53 : ℤ) = |x| * 2 ^ (-52 : ℤ) / 2 := by ring_nf
  rw [half]
  exact (nearestDouble_sub_le x).trans (div_le_div_of_nonneg_right step two_pos.le)

theorem nearestDouble_nonneg {x : ℚ} (nonneg : 0 ≤ x) : 0 ≤ nearestDouble x :=
  mul_nonneg (Int.cast_nonneg.mpr (roundHalfEven_nonneg (div_nonneg nonneg (two_zpow_pos _).le)))
    (two_zpow_pos _).le

/-- A nonnegative value below `2 ^ -1022` rounds to at most `2 ^ -1022`. -/
theorem nearestDouble_le_of_subnormal {x : ℚ} (nonneg : 0 ≤ x) (small : x < 2 ^ (-1022 : ℤ)) :
    nearestDouble x ≤ 2 ^ (-1022 : ℤ) := by
  rcases nonneg.eq_or_lt with rfl | positive
  · rw [nearestDouble_zero]
    exact (two_zpow_pos _).le
  have grid := ulpExponent_of_subnormal positive.ne' (by rwa [abs_of_pos positive])
  have least : (2 : ℚ) ^ 52 * 2 ^ (-1074 : ℤ) = 2 ^ (-1022 : ℤ) := by
    rw [← zpow_natCast, ← zpow_add₀ two_ne_zero]
    rfl
  have scaled : x / 2 ^ (-1074 : ℤ) < ((2 ^ 52 : ℤ) : ℚ) := by
    rwa [div_lt_iff₀ (two_zpow_pos _), Int.cast_pow, Int.cast_two, least]
  have rounded : (roundHalfEven (x / 2 ^ (-1074 : ℤ)) : ℚ) ≤ 2 ^ 52 := by
    exact_mod_cast roundHalfEven_le_of_lt scaled
  rw [nearestDouble, grid]
  calc (roundHalfEven (x / 2 ^ (-1074 : ℤ)) : ℚ) * 2 ^ (-1074 : ℤ)
      ≤ 2 ^ 52 * 2 ^ (-1074 : ℤ) := mul_le_mul_of_nonneg_right rounded (two_zpow_pos _).le
    _ = 2 ^ (-1022 : ℤ) := least

/-- **Upper bound of the rounding of a nonnegative value**: `2 ^ -53` above it, or the least
normal value. -/
theorem nearestDouble_le_max {x : ℚ} (nonneg : 0 ≤ x) :
    nearestDouble x ≤ max (x * (1 + 2 ^ (-53 : ℤ))) (2 ^ (-1022 : ℤ)) := by
  by_cases normal : 2 ^ (-1022 : ℤ) ≤ x
  · have close := (abs_le.mp (nearestDouble_rel_le (by rwa [abs_of_nonneg nonneg]))).2
    rw [abs_of_nonneg nonneg] at close
    exact le_max_of_le_left (by linarith)
  · exact le_max_of_le_right (nearestDouble_le_of_subnormal nonneg (not_le.mp normal))

/-- **Lower bound of the rounding of a normal value**: at most `2 ^ -53` below it. -/
theorem le_nearestDouble {x : ℚ} (normal : 2 ^ (-1022 : ℤ) ≤ x) :
    x * (1 - 2 ^ (-53 : ℤ)) ≤ nearestDouble x := by
  have nonneg : 0 ≤ x := (two_zpow_pos _).le.trans normal
  have close := (abs_le.mp (nearestDouble_rel_le (by rwa [abs_of_nonneg nonneg]))).1
  rw [abs_of_nonneg nonneg] at close
  linarith

/-- **A value on the grid of its binade is its own rounding**: `n * 2 ^ k` with `|n| < 2 ^ 53`
and `k ≥ -1074`. -/
theorem nearestDouble_of_grid (n k : ℤ) (significand : |n| < 2 ^ 53) (bottom : -1074 ≤ k) :
    nearestDouble (n * 2 ^ k) = n * 2 ^ k := by
  rcases eq_or_ne n 0 with rfl | nonzero
  · simpa using nearestDouble_zero
  have small : |(n : ℚ) * 2 ^ k| < 2 ^ (k + 53) := by
    rw [abs_mul, abs_of_pos (two_zpow_pos k), zpow_add₀ two_ne_zero, mul_comm (2 ^ k : ℚ)]
    exact mul_lt_mul_of_pos_right (by exact_mod_cast significand) (two_zpow_pos k)
  have below := ulpExponent_le (mul_ne_zero (Int.cast_ne_zero.mpr nonzero) (two_zpow_pos k).ne')
    bottom small
  have scaled : (n : ℚ) * 2 ^ k / 2 ^ ulpExponent ((n : ℚ) * 2 ^ k) =
      ((n * 2 ^ (k - ulpExponent ((n : ℚ) * 2 ^ k)).toNat : ℤ) : ℚ) := by
    push_cast
    rw [← zpow_natCast, Int.toNat_of_nonneg (by omega), zpow_sub₀ two_ne_zero, mul_div_assoc]
  rw [nearestDouble, scaled, roundHalfEven_intCast, ← scaled,
    div_mul_cancel₀ _ (two_zpow_pos _).ne']

/-- **A value is placed on the grid of its binade by the integer nearest its scaled value.** -/
theorem nearestDouble_eq_of_near {x : ℚ} {n k : ℤ} (bottom : -1074 ≤ k)
    (lower : 2 ^ (k + 52) ≤ |x|) (upper : |x| < 2 ^ (k + 53)) (near : |x / 2 ^ k - n| < 1 / 2) :
    nearestDouble x = n * 2 ^ k := by
  have positive : 0 < |x| := (two_zpow_pos _).trans_le lower
  have above : Int.log 2 |x| < k + 53 :=
    (Int.lt_zpow_iff_log_lt (by norm_num) positive).mp (by exact_mod_cast upper)
  have below : k + 52 ≤ Int.log 2 |x| :=
    (Int.zpow_le_iff_le_log (by norm_num) positive).mp (by exact_mod_cast lower)
  have binade : Int.log 2 |x| = k + 52 := by omega
  have grid : ulpExponent x = k := by
    rw [ulpExponent, binade]
    omega
  rw [nearestDouble, grid, roundHalfEven_eq_of_near near]

/-! ## Values a `float` holds -/

theorem toFloat_of_lt {x : ℚ} (small : |nearestDouble x| < 2 ^ 1024) :
    toFloat x = .finite (nearestDouble x) := by
  simp [toFloat, not_le.mpr small]

theorem eq_nearestDouble_of_toFloat {x y : ℚ} (rounded : toFloat x = .finite y) :
    y = nearestDouble x := by
  unfold toFloat at rounded
  split_ifs at rounded
  exact (PyFloat.finite.inj rounded).symm

theorem isDouble_of_grid (n k : ℤ) (significand : |n| < 2 ^ 53) (bottom : -1074 ≤ k)
    (small : |(n : ℚ) * 2 ^ k| < 2 ^ 1024) : IsDouble (n * 2 ^ k) := by
  unfold IsDouble
  rw [toFloat_of_lt (by rwa [nearestDouble_of_grid n k significand bottom]),
    nearestDouble_of_grid n k significand bottom]

theorem isDouble_intCast (n : ℤ) (significand : |n| < 2 ^ 53) : IsDouble n := by
  have small : |(n : ℚ)| < 2 ^ 53 := by exact_mod_cast significand
  simpa using isDouble_of_grid n 0 significand (by norm_num)
    (by rw [zpow_zero, mul_one]; exact small.trans (by norm_num))

theorem isDouble_zero : IsDouble 0 := by
  simpa using isDouble_intCast 0 (by norm_num)

/-- A nonnegative value up to `2 ^ 1023` rounds to a finite `float`. -/
theorem toFloat_of_nonneg_of_le {x : ℚ} (nonneg : 0 ≤ x) (small : x ≤ 2 ^ (1023 : ℤ)) :
    toFloat x = .finite (nearestDouble x) := by
  have top : (2 : ℚ) ^ (1023 : ℤ) * 2 = 2 ^ 1024 := by
    rw [← zpow_add_one₀ two_ne_zero]
    norm_num
  have tiny : (2 : ℚ) ^ (-1022 : ℤ) < 2 ^ (1023 : ℤ) := zpow_lt_zpow_right₀ one_lt_two (by norm_num)
  have u : (2 : ℚ) ^ (-53 : ℤ) < 1 := zpow_lt_one_of_neg₀ one_lt_two (by norm_num)
  have doubled : (2 : ℚ) ^ (1023 : ℤ) < 2 ^ (1023 : ℤ) * 2 :=
    lt_mul_of_one_lt_right (two_zpow_pos _) one_lt_two
  refine toFloat_of_lt ((abs_of_nonneg (nearestDouble_nonneg nonneg)).trans_lt
    ((nearestDouble_le_max nonneg).trans_lt (max_lt ?_ ((tiny.trans doubled).trans_eq top))))
  calc x * (1 + 2 ^ (-53 : ℤ)) ≤ 2 ^ (1023 : ℤ) * (1 + 2 ^ (-53 : ℤ)) :=
        mul_le_mul_of_nonneg_right small (by positivity)
    _ < 2 ^ (1023 : ℤ) * 2 := mul_lt_mul_of_pos_left (by linarith only [u]) (two_zpow_pos _)
    _ = 2 ^ 1024 := top

theorem PyFloat.toInt_eq_error {x : PyFloat} {error : PyError} (raised : x.toInt = .error error) :
    error = .overflowError ∨ error = .valueError := by
  cases x <;> cases raised
  exacts [.inl rfl, .inr rfl]

theorem intTrueDiv_eq_error {a b : ℤ} {error : PyError} (raised : intTrueDiv a b = .error error) :
    error = .zeroDivisionError ∨ error = .overflowError := by
  unfold intTrueDiv at raised
  split_ifs at raised
  · cases raised
    exact .inl rfl
  · split at raised <;> cases raised
    exact .inr rfl

/-- `a / b` for `0 ≤ a ≤ b` raises nothing: it is the quotient rounded once. -/
theorem intTrueDiv_of_le {a b : ℤ} (nonneg : 0 ≤ a) (le : a ≤ b) (positive : 0 < b) :
    intTrueDiv a b = .ok (nearestDouble (a / b)) := by
  have b' : (0 : ℚ) < b := by exact_mod_cast positive
  have atMostOne : (a : ℚ) / b ≤ 1 := (div_le_one b').mpr (by exact_mod_cast le)
  rw [intTrueDiv, if_neg positive.ne', toFloat_of_nonneg_of_le
    (div_nonneg (by exact_mod_cast nonneg) b'.le)
    (atMostOne.trans (one_le_zpow₀ one_le_two (by norm_num)))]

/-- Every value a `float` holds is a multiple of `2 ^ -1074`. -/
theorem IsDouble.grid {x : ℚ} (double : IsDouble x) : ∃ m : ℤ, x = m * 2 ^ (-1074 : ℤ) := by
  have rounded := eq_nearestDouble_of_toFloat double
  have bottom := ulpExponent_ge x
  refine ⟨roundHalfEven (x / 2 ^ ulpExponent x) * 2 ^ (ulpExponent x + 1074).toNat, ?_⟩
  conv_lhs => rw [rounded, nearestDouble]
  push_cast
  rw [← zpow_natCast, Int.toNat_of_nonneg (by omega), mul_assoc, ← zpow_add₀ two_ne_zero]
  congr 2
  ring

/-- **Two `float`s closer than `2 ^ -1022` differ by a `float`**: their difference is exact. -/
theorem toFloat_sub_of_subnormal {a b : ℚ} (doubleA : IsDouble a) (doubleB : IsDouble b)
    (small : |a - b| < 2 ^ (-1022 : ℤ)) : toFloat (a - b) = .finite (a - b) := by
  obtain ⟨m, rfl⟩ := doubleA.grid
  obtain ⟨m', rfl⟩ := doubleB.grid
  have difference : (m : ℚ) * 2 ^ (-1074 : ℤ) - m' * 2 ^ (-1074 : ℤ) =
      ((m - m' : ℤ) : ℚ) * 2 ^ (-1074 : ℤ) := by push_cast; ring
  rw [difference] at small ⊢
  have significand : |m - m'| < 2 ^ 53 := by
    rw [abs_mul, abs_of_pos (two_zpow_pos _)] at small
    have : |((m - m' : ℤ) : ℚ)| < 2 ^ 52 := by
      rw [← lt_div_iff₀ (two_zpow_pos _)] at small
      norm_num at small ⊢
      exact small
    have : |m - m'| < 2 ^ 52 := by exact_mod_cast this
    omega
  exact isDouble_of_grid _ _ significand (by norm_num) (small.trans (by norm_num))

end ChannelLayer
