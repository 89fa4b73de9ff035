import Mathlib.Data.Int.Log
import Mathlib.Data.Rat.Floor
import Mathlib.Tactic.Linarith
import Mathlib.Tactic.Positivity
import Mathlib.Tactic.NormNum

/-!
# Binary floating-point data

A datum is read as the exact rational it denotes. Conversion into a format rounds
to the nearest multiple of the unit in the last place, ties to even. A finite datum
carries the proof that its format can hold it, so rounding has to produce one.
-/

namespace FloatingPoint

/-- Significant bits, weight of the least subnormal, and the overflow threshold, the last
two as exponents of two. -/
structure Format where
  precision : Nat
  minExponent : Int
  maxExponent : Int
  wide : 0 < precision

def binary32 : Format := ⟨24, -149, 128, by decide⟩

def binary64 : Format := ⟨53, -1074, 1024, by decide⟩

/-- The numbers `m * 2 ^ e` of a format. -/
def Format.Representable (F : Format) (x : ℚ) : Prop :=
  |x| < (2 : ℚ) ^ F.maxExponent ∧
    ∃ mantissa exponent : ℤ, |mantissa| < 2 ^ F.precision ∧ F.minExponent ≤ exponent ∧
      x = mantissa * (2 : ℚ) ^ exponent

inductive Datum (F : Format) where
  | nan
  | infinite (negative : Bool)
  | negativeZero
  | finite (x : ℚ) (representable : F.Representable x)
  deriving DecidableEq

/-- The number a datum denotes. -/
def Datum.value? {F : Format} : Datum F → Option ℚ
  | .nan => none
  | .infinite _ => none
  | .negativeZero => some 0
  | .finite x _ => some x

/-- The nearest integer, the even one of two. -/
def roundEven (x : ℚ) : ℤ :=
  let below := ⌊x⌋
  if x - below < 1 / 2 then below
  else if 1 / 2 < x - below then below + 1
  else if below % 2 = 0 then below
  else below + 1

/-- Exponent of the unit in the last place at `x`. -/
def Format.ulpExponent (F : Format) (x : ℚ) : ℤ :=
  max (Int.log 2 |x| + 1 - F.precision) F.minExponent

/-- Round as if the exponent had no upper bound. -/
def Format.roundUnbounded (F : Format) (x : ℚ) : ℚ :=
  roundEven (x / (2 : ℚ) ^ F.ulpExponent x) * (2 : ℚ) ^ F.ulpExponent x

@[simp] theorem roundEven_intCast (n : ℤ) : roundEven (n : ℚ) = n := by
  simp [roundEven]

theorem abs_roundEven_le {x : ℚ} {bound : ℤ} (bounded : |x| < bound) : |roundEven x| ≤ bound := by
  obtain ⟨lower, upper⟩ := abs_lt.mp bounded
  have floorLower : -bound ≤ ⌊x⌋ := Int.le_floor.mpr (by push_cast; linarith)
  have floorUpper : ⌊x⌋ < bound := Int.floor_lt.mpr upper
  unfold roundEven
  dsimp only
  rw [abs_le]
  split_ifs <;> omega

/-- Below the unit in the last place of its binade `x` has at most `precision` bits. -/
theorem Format.abs_div_ulp_lt (F : Format) (x : ℚ) :
    |x / (2 : ℚ) ^ F.ulpExponent x| < ((2 ^ F.precision : ℤ) : ℚ) := by
  have positive : (0 : ℚ) < (2 : ℚ) ^ F.ulpExponent x := zpow_pos (by norm_num) _
  have binade : |x| < (2 : ℚ) ^ (Int.log 2 |x| + 1) := by
    exact_mod_cast Int.lt_zpow_succ_log_self (by norm_num : 1 < 2) |x|
  rw [abs_div, abs_of_pos positive, div_lt_iff₀ positive]
  calc
    |x| < (2 : ℚ) ^ (Int.log 2 |x| + 1) := binade
    _ ≤ (2 : ℚ) ^ ((F.precision : ℤ) + F.ulpExponent x) := by
      apply zpow_le_zpow_right₀ (by norm_num)
      have := le_max_left (Int.log 2 |x| + 1 - F.precision) F.minExponent
      unfold Format.ulpExponent
      omega
    _ = ((2 ^ F.precision : ℤ) : ℚ) * (2 : ℚ) ^ F.ulpExponent x := by
      rw [zpow_add₀ (by norm_num)]
      push_cast
      rw [zpow_natCast]

/-- A rounded number fits the format unless it overflows: a mantissa that rounds up to
`2 ^ precision` moves to the next binade. -/
theorem Format.representable_roundUnbounded (F : Format) {x : ℚ}
    (inRange : |F.roundUnbounded x| < (2 : ℚ) ^ F.maxExponent) :
    F.Representable (F.roundUnbounded x) := by
  refine ⟨inRange, ?_⟩
  have minimal : F.minExponent ≤ F.ulpExponent x := le_max_right _ _
  have mantissa := abs_roundEven_le (F.abs_div_ulp_lt x)
  rcases lt_or_eq_of_le mantissa with small | carried
  · exact ⟨_, F.ulpExponent x, small, minimal, rfl⟩
  · obtain ⟨bits, width⟩ : ∃ bits, F.precision = bits + 1 :=
      ⟨F.precision - 1, by have := F.wide; omega⟩
    obtain ⟨half, evenMantissa, halved⟩ : ∃ half : ℤ,
        roundEven (x / (2 : ℚ) ^ F.ulpExponent x) = half * 2 ∧ |half| = 2 ^ bits := by
      rw [width, pow_succ] at carried
      rcases (abs_eq (by positivity)).mp carried with plus | minus
      · exact ⟨2 ^ bits, plus, by simp⟩
      · exact ⟨-2 ^ bits, by rw [minus]; ring, by simp⟩
    refine ⟨half, F.ulpExponent x + 1, ?_, by omega, ?_⟩
    · rw [halved, width, pow_succ]
      have : (0 : ℤ) < 2 ^ bits := by positivity
      omega
    · rw [Format.roundUnbounded, evenMantissa, zpow_add_one₀ (by norm_num)]
      push_cast
      ring

/-- A representable number is a multiple of its unit in the last place. -/
theorem Format.exists_mul_ulp {F : Format} {x : ℚ} (representable : F.Representable x) :
    ∃ multiple : ℤ, x = multiple * (2 : ℚ) ^ F.ulpExponent x := by
  obtain ⟨_, mantissa, exponent, bounded, minimal, rfl⟩ := representable
  rcases eq_or_ne mantissa 0 with rfl | nonzero
  · exact ⟨0, by simp⟩
  have magnitude : |(mantissa : ℚ) * (2 : ℚ) ^ exponent| <
      (2 : ℚ) ^ ((F.precision : ℤ) + exponent) := by
    have positive : (0 : ℚ) < (2 : ℚ) ^ exponent := zpow_pos (by norm_num) _
    have small : |(mantissa : ℚ)| < (2 : ℚ) ^ F.precision := by exact_mod_cast bounded
    rw [abs_mul, abs_of_pos positive, zpow_add₀ (by norm_num), zpow_natCast]
    exact mul_lt_mul_of_pos_right small positive
  have nonzeroNumber : 0 < |(mantissa : ℚ) * (2 : ℚ) ^ exponent| := by
    apply abs_pos.mpr
    exact mul_ne_zero (by exact_mod_cast nonzero) (zpow_ne_zero _ (by norm_num))
  have logarithm : Int.log 2 |(mantissa : ℚ) * (2 : ℚ) ^ exponent| <
      (F.precision : ℤ) + exponent :=
    (Int.lt_zpow_iff_log_lt (by norm_num) nonzeroNumber).mp (by exact_mod_cast magnitude)
  have finer : F.ulpExponent (mantissa * (2 : ℚ) ^ exponent) ≤ exponent :=
    max_le (by omega) minimal
  obtain ⟨shift, gap⟩ := Int.le.dest finer
  refine ⟨mantissa * 2 ^ shift, ?_⟩
  generalize F.ulpExponent (mantissa * (2 : ℚ) ^ exponent) = ulp at gap
  rw [← gap, zpow_add₀ (by norm_num), zpow_natCast]
  push_cast
  ring

theorem Format.roundUnbounded_of_representable {F : Format} {x : ℚ}
    (representable : F.Representable x) : F.roundUnbounded x = x := by
  obtain ⟨multiple, value⟩ := F.exists_mul_ulp representable
  have quotient : x / (2 : ℚ) ^ F.ulpExponent x = multiple := by
    rw [div_eq_iff (zpow_ne_zero _ (by norm_num))]
    exact value
  rw [Format.roundUnbounded, quotient, roundEven_intCast, ← value]

/-- Conversion of an exact number into a format. -/
def Format.round (F : Format) (x : ℚ) : Datum F :=
  if inRange : |F.roundUnbounded x| < (2 : ℚ) ^ F.maxExponent then
    if F.roundUnbounded x = 0 ∧ x < 0 then .negativeZero
    else .finite (F.roundUnbounded x) (F.representable_roundUnbounded inRange)
  else .infinite (decide (x < 0))

/-- Conversion between formats. -/
def Datum.convert {F : Format} (G : Format) : Datum F → Datum G
  | .nan => .nan
  | .infinite negative => .infinite negative
  | .negativeZero => .negativeZero
  | .finite x _ => G.round x

theorem Format.round_of_representable {F : Format} {x : ℚ} (representable : F.Representable x) :
    F.round x = .finite x representable := by
  have exact := Format.roundUnbounded_of_representable representable
  have notNegative : ¬ (x = 0 ∧ x < 0) := fun ⟨zero, negative⟩ => by simp [zero] at negative
  simp [Format.round, exact, representable.1, notNegative]

/-- Conversion delivers the number itself exactly when the format holds it. -/
theorem Format.value?_round_eq_iff {F : Format} {x : ℚ} :
    (F.round x).value? = some x ↔ F.Representable x := by
  constructor
  · intro delivered
    unfold Format.round at delivered
    split_ifs at delivered with inRange negative
    · simp only [Datum.value?, Option.some.injEq] at delivered
      exact absurd negative.2 (by simp [← delivered])
    · simp only [Datum.value?, Option.some.injEq] at delivered
      have fits := F.representable_roundUnbounded inRange
      rwa [delivered] at fits
    · simp [Datum.value?] at delivered
  · intro representable
    rw [Format.round_of_representable representable]
    rfl

/-- Every number of `F` is one of `G`. -/
structure Format.Extends (G F : Format) : Prop where
  precision : F.precision ≤ G.precision
  minExponent : G.minExponent ≤ F.minExponent
  maxExponent : F.maxExponent ≤ G.maxExponent

theorem binary64_extends_binary32 : binary64.Extends binary32 := ⟨by decide, by decide, by decide⟩

theorem Format.Extends.representable {G F : Format} (extends_ : G.Extends F) {x : ℚ}
    (representable : F.Representable x) : G.Representable x := by
  obtain ⟨inRange, mantissa, exponent, bounded, minimal, value⟩ := representable
  refine ⟨lt_of_lt_of_le inRange (zpow_le_zpow_right₀ (by norm_num) extends_.maxExponent),
    mantissa, exponent, ?_, le_trans extends_.minExponent minimal, value⟩
  exact lt_of_lt_of_le bounded (pow_le_pow_right₀ (by norm_num) extends_.precision)

/-- Widening changes no number. -/
theorem Datum.value?_convert_of_extends {G F : Format} (extends_ : G.Extends F) (datum : Datum F) :
    (datum.convert G).value? = datum.value? := by
  cases datum with
  | finite x representable =>
      exact Format.value?_round_eq_iff.mpr (extends_.representable representable)
  | _ => rfl

/-- The integers of a format with units, below its overflow threshold. -/
theorem Format.representable_intCast_iff {F : Format} (units : F.minExponent ≤ 0) {n : ℤ}
    (inRange : |(n : ℚ)| < (2 : ℚ) ^ F.maxExponent) :
    F.Representable n ↔
      ∃ (mantissa : ℤ) (shift : ℕ), |mantissa| < 2 ^ F.precision ∧ n = mantissa * 2 ^ shift := by
  constructor
  · rintro ⟨_, mantissa, exponent, bounded, _, value⟩
    rcases le_or_gt 0 exponent with integral | fractional
    · obtain ⟨shift, rfl⟩ := Int.eq_ofNat_of_zero_le integral
      refine ⟨mantissa, shift, bounded, ?_⟩
      rw [zpow_natCast] at value
      exact_mod_cast value
    · -- An integer below a fractional unit is no larger than its mantissa.
      refine ⟨n, 0, ?_, by simp⟩
      have smaller : |(n : ℚ)| ≤ |(mantissa : ℚ)| := by
        have positive : (0 : ℚ) < (2 : ℚ) ^ exponent := zpow_pos (by norm_num) _
        rw [value, abs_mul, abs_of_pos positive]
        exact mul_le_of_le_one_right (abs_nonneg _)
          (zpow_le_one_of_nonpos₀ (by norm_num) fractional.le)
      exact lt_of_le_of_lt (by exact_mod_cast smaller) bounded
  · rintro ⟨mantissa, shift, bounded, rfl⟩
    refine ⟨inRange, mantissa, shift, bounded, by omega, ?_⟩
    push_cast
    rw [zpow_natCast]

/-! ## Rounding twice -/

theorem abs_roundEven_sub_le (x : ℚ) : |(roundEven x : ℚ) - x| ≤ 1 / 2 := by
  have lower := Int.floor_le x
  have upper := Int.lt_floor_add_one x
  unfold roundEven
  dsimp only
  rw [abs_le]
  split_ifs with down up even <;> push_cast <;> constructor <;> linarith

/-- Only one integer is nearer than a half. -/
theorem roundEven_eq_of_near {x : ℚ} {n : ℤ} (near : |(n : ℚ) - x| < 1 / 2) :
    roundEven x = n := by
  have rounded := abs_le.mp (abs_roundEven_sub_le x)
  obtain ⟨lower, upper⟩ := abs_lt.mp near
  have above : ((roundEven x - n : ℤ) : ℚ) < 1 := by push_cast; linarith
  have below : (-1 : ℚ) < ((roundEven x - n : ℤ) : ℚ) := by push_cast; linarith
  have above' : roundEven x - n < 1 := by exact_mod_cast above
  have below' : -1 < roundEven x - n := by exact_mod_cast below
  omega

theorem le_abs_roundEven {x : ℚ} {bound : ℤ} (bounded : bound ≤ |x|) : bound ≤ |roundEven x| := by
  obtain ⟨lower, upper⟩ := abs_le.mp (abs_roundEven_sub_le x)
  rcases abs_cases x with ⟨same, _⟩ | ⟨same, _⟩ <;> rw [same] at bounded
  · have next : ((bound : ℤ) : ℚ) < ((roundEven x + 1 : ℤ) : ℚ) := by push_cast; linarith
    exact (Int.lt_add_one_iff.mp (by exact_mod_cast next)).trans (le_abs_self _)
  · have next : ((bound : ℤ) : ℚ) < ((-roundEven x + 1 : ℤ) : ℚ) := by push_cast; linarith
    exact (Int.lt_add_one_iff.mp (by exact_mod_cast next)).trans (neg_le_abs _)

/-- A rounded number is at most half a unit in the last place away. -/
theorem Format.abs_roundUnbounded_sub_le (F : Format) (x : ℚ) :
    |F.roundUnbounded x - x| ≤ (2 : ℚ) ^ F.ulpExponent x / 2 := by
  have positive : (0 : ℚ) < (2 : ℚ) ^ F.ulpExponent x := zpow_pos (by norm_num) _
  have near := abs_roundEven_sub_le (x / (2 : ℚ) ^ F.ulpExponent x)
  calc
    |F.roundUnbounded x - x| = |(roundEven (x / (2 : ℚ) ^ F.ulpExponent x) : ℚ) -
        x / (2 : ℚ) ^ F.ulpExponent x| * (2 : ℚ) ^ F.ulpExponent x := by
      rw [← abs_of_pos positive, ← abs_mul, abs_of_pos positive, sub_mul,
        div_mul_cancel₀ _ positive.ne']
      rfl
    _ ≤ 1 / 2 * (2 : ℚ) ^ F.ulpExponent x := mul_le_mul_of_nonneg_right near positive.le
    _ = (2 : ℚ) ^ F.ulpExponent x / 2 := by ring

@[simp] theorem Format.roundUnbounded_zero (F : Format) : F.roundUnbounded 0 = 0 := by
  simp [Format.roundUnbounded, show roundEven 0 = 0 by simpa using roundEven_intCast 0]

/-- Rounding does not leave the binade downwards. -/
theorem Format.log_le_log_roundUnbounded (F : Format) {x : ℚ} (nonzero : x ≠ 0)
    (normal : F.ulpExponent x ≤ Int.log 2 |x|) :
    Int.log 2 |x| ≤ Int.log 2 |F.roundUnbounded x| := by
  have positive : (0 : ℚ) < (2 : ℚ) ^ F.ulpExponent x := zpow_pos (by norm_num) _
  obtain ⟨bits, width⟩ := Int.le.dest normal
  have binade : (2 : ℚ) ^ Int.log 2 |x| ≤ |x| := by
    exact_mod_cast Int.zpow_log_le_self (by norm_num : 1 < 2) (abs_pos.mpr nonzero)
  have scaled : ((2 ^ bits : ℤ) : ℚ) ≤ |x / (2 : ℚ) ^ F.ulpExponent x| := by
    rw [abs_div, abs_of_pos positive, le_div_iff₀ positive]
    refine le_trans (le_of_eq ?_) binade
    rw [← width, zpow_add₀ (by norm_num), zpow_natCast]
    push_cast
    ring
  have kept : (2 : ℚ) ^ Int.log 2 |x| ≤ |F.roundUnbounded x| := by
    have mantissa : ((2 ^ bits : ℤ) : ℚ) ≤ |(roundEven (x / (2 : ℚ) ^ F.ulpExponent x) : ℚ)| := by
      exact_mod_cast le_abs_roundEven scaled
    rw [Format.roundUnbounded, abs_mul, abs_of_pos positive, ← width,
      zpow_add₀ (by norm_num), zpow_natCast, mul_comm]
    push_cast at mantissa
    exact mul_le_mul_of_nonneg_right mantissa positive.le
  have nonzeroRounded : 0 < |F.roundUnbounded x| :=
    lt_of_lt_of_le (zpow_pos (by norm_num) _) kept
  exact (Int.zpow_le_iff_le_log (by norm_num) nonzeroRounded).mp (by exact_mod_cast kept)

/-- Rounding twice: a number that `G` rounds to one of `F` is rounded to the same one by `F`. -/
theorem Format.Extends.roundUnbounded_eq {G F : Format} (extends_ : G.Extends F) {x : ℚ}
    (representable : F.Representable (G.roundUnbounded x)) :
    F.roundUnbounded x = G.roundUnbounded x := by
  rcases eq_or_ne x 0 with rfl | nonzero
  · simp
  have finer : G.ulpExponent x ≤ F.ulpExponent x := by
    have precision := extends_.precision
    have minExponent := extends_.minExponent
    unfold Format.ulpExponent
    omega
  rcases finer.eq_or_lt with same | strict
  · rw [Format.roundUnbounded, ← same]
    rfl
  obtain ⟨multiple, value⟩ := F.exists_mul_ulp representable
  have coarse : F.ulpExponent x ≤ F.ulpExponent (G.roundUnbounded x) := by
    have wide := F.wide
    have log : Int.log 2 |x| + 1 - F.precision ≤ F.minExponent ∨
        Int.log 2 |x| ≤ Int.log 2 |G.roundUnbounded x| := by
      by_cases subnormal : Int.log 2 |x| + 1 - F.precision ≤ F.minExponent
      · exact .inl subnormal
      · refine .inr (G.log_le_log_roundUnbounded nonzero ?_)
        unfold Format.ulpExponent at strict ⊢
        omega
    unfold Format.ulpExponent
    omega
  obtain ⟨shift, gap⟩ := Int.le.dest coarse
  have positive : (0 : ℚ) < (2 : ℚ) ^ F.ulpExponent x := zpow_pos (by norm_num) _
  have whole : G.roundUnbounded x =
      ((multiple * 2 ^ shift : ℤ) : ℚ) * (2 : ℚ) ^ F.ulpExponent x := by
    rw [value]
    generalize F.ulpExponent (G.roundUnbounded x) = ulp at gap
    rw [← gap, zpow_add₀ (by norm_num), zpow_natCast]
    push_cast
    ring
  have half : (2 : ℚ) ^ G.ulpExponent x / 2 < (2 : ℚ) ^ F.ulpExponent x / 2 := by
    have smaller : (2 : ℚ) ^ G.ulpExponent x < (2 : ℚ) ^ F.ulpExponent x :=
      zpow_lt_zpow_right₀ (by norm_num) strict
    linarith
  have near : |((multiple * 2 ^ shift : ℤ) : ℚ) - x / (2 : ℚ) ^ F.ulpExponent x| < 1 / 2 := by
    have close := (G.abs_roundUnbounded_sub_le x).trans_lt half
    rw [whole] at close
    rw [sub_div' positive.ne', abs_div, abs_of_pos positive, div_lt_iff₀ positive]
    linarith
  rw [Format.roundUnbounded, roundEven_eq_of_near near, whole]

theorem Format.value?_round {F : Format} {x : ℚ}
    (inRange : |F.roundUnbounded x| < (2 : ℚ) ^ F.maxExponent) :
    (F.round x).value? = some (F.roundUnbounded x) := by
  rw [Format.round, dif_pos inRange]
  split_ifs with negative
  · rw [negative.1]
    rfl
  · rfl

theorem Format.abs_roundUnbounded_le (F : Format) {x : ℚ} {exponent : ℤ}
    (bounded : |x| < (2 : ℚ) ^ exponent) (wide : F.minExponent + F.precision ≤ exponent) :
    |F.roundUnbounded x| ≤ (2 : ℚ) ^ exponent := by
  rcases eq_or_ne x 0 with rfl | nonzero
  · simpa using (zpow_pos (by norm_num : (0 : ℚ) < 2) exponent).le
  have positive : (0 : ℚ) < (2 : ℚ) ^ F.ulpExponent x := zpow_pos (by norm_num) _
  have log : Int.log 2 |x| < exponent :=
    (Int.lt_zpow_iff_log_lt (by norm_num) (abs_pos.mpr nonzero)).mp (by exact_mod_cast bounded)
  have mantissa : |(roundEven (x / (2 : ℚ) ^ F.ulpExponent x) : ℚ)| ≤ (2 : ℚ) ^ F.precision := by
    exact_mod_cast abs_roundEven_le (F.abs_div_ulp_lt x)
  calc
    |F.roundUnbounded x| ≤ (2 : ℚ) ^ F.precision * (2 : ℚ) ^ F.ulpExponent x := by
      rw [Format.roundUnbounded, abs_mul, abs_of_pos positive]
      exact mul_le_mul_of_nonneg_right mantissa positive.le
    _ = (2 : ℚ) ^ ((F.precision : ℤ) + F.ulpExponent x) := by
      rw [zpow_add₀ (by norm_num), zpow_natCast]
    _ ≤ (2 : ℚ) ^ exponent := by
      apply zpow_le_zpow_right₀ (by norm_num)
      unfold Format.ulpExponent
      omega

/-- Going through the narrower format delivers what the wider one delivers exactly when that is a
number of the narrower format. -/
theorem Format.Extends.convert_round_eq_iff {G F : Format} (extends_ : G.Extends F) {x : ℚ}
    (inRange : |F.roundUnbounded x| < (2 : ℚ) ^ F.maxExponent)
    (inRange' : |G.roundUnbounded x| < (2 : ℚ) ^ G.maxExponent) :
    (F.round x).convert G = G.round x ↔ F.Representable (G.roundUnbounded x) := by
  constructor
  · intro same
    have values := congrArg Datum.value? same
    rw [Datum.value?_convert_of_extends extends_, Format.value?_round inRange,
      Format.value?_round inRange', Option.some.injEq] at values
    rw [← values]
    exact F.representable_roundUnbounded inRange
  · intro representable
    have rounded := extends_.roundUnbounded_eq representable
    rw [Format.round, Format.round, dif_pos inRange, dif_pos inRange']
    simp only [rounded]
    split_ifs
    · rfl
    · exact Format.round_of_representable (extends_.representable representable)

end FloatingPoint
