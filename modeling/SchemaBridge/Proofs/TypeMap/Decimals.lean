/-
# Decimals the target holds

A decimal of precision `p` and scale `s` has `p - s` digits before its point and `s` after it.  The
target has one type for all of them, with 29 digits before the point and nine after it, so a decimal
keeps its values exactly when both parts fit.  An exact decimal always has room for its fraction,
but the precision is compared as a whole: one of 38 digits without a fraction is exact and has nine
digits too many.

## Key statements

* `forall_hasDigits_iff`: the numbers with so many digits are among those with others exactly when
  neither part shrinks.
* `decimal_keepsValues_iff`: the decimals whose values the target holds.
-/
import Mathlib.Algebra.Order.Field.Rat
import Mathlib.Tactic.NormNum
import Mathlib.Tactic.Positivity
import SchemaBridge.Proofs.TypeMap.Declared

namespace SchemaBridge.TypeMap

open CanonicalType

/-! ## Numbers by their digits -/

/-- A number with at most so many digits before the point and after it. -/
structure HasDigits (whole fraction : ℕ) (v : ℚ) : Prop where
  whole : |v| < 10 ^ whole
  fraction : ∃ n : ℤ, v * 10 ^ fraction = n

/-- A number `NUMERIC` holds. -/
def IsNumeric (v : ℚ) : Prop := |v| < 10 ^ 29 ∧ ∃ n : ℤ, v * 10 ^ 9 = n

/-- The target holds 29 digits before the point and 9 after it. -/
theorem isNumeric_iff (v : ℚ) : IsNumeric v ↔ HasDigits 29 9 v :=
  ⟨fun ⟨hwhole, hfraction⟩ => ⟨hwhole, hfraction⟩, fun h => ⟨h.whole, h.fraction⟩⟩

section Digits

variable {a b c d : ℕ} {v : ℚ}

/-- More digits hold as much. -/
theorem HasDigits.mono (h : HasDigits a b v) (hac : a ≤ c) (hbd : b ≤ d) : HasDigits c d v := by
  obtain ⟨n, hn⟩ := h.fraction
  refine ⟨h.whole.trans_le (pow_le_pow_right₀ (by norm_num) hac), n * 10 ^ (d - b), ?_⟩
  calc
    v * 10 ^ d = v * 10 ^ b * 10 ^ (d - b) := by
      rw [mul_assoc, ← pow_add, Nat.add_sub_cancel' hbd]
    _ = ((n * 10 ^ (d - b) : ℤ) : ℚ) := by rw [hn]; push_cast; rfl

/-- The least number that is not zero and has so many digits. -/
theorem hasDigits_unit (h : 0 < a + b) : HasDigits a b (1 / 10 ^ b) := by
  have hpos : (0 : ℚ) < 10 ^ b := by positivity
  refine ⟨?_, 1, ?_⟩
  · rw [abs_of_pos (by positivity), div_lt_iff₀ hpos, ← pow_add]
    exact one_lt_pow₀ (by norm_num) (by omega)
  · rw [one_div_mul_cancel hpos.ne', Int.cast_one]

/-- A power of ten has one digit more than its exponent. -/
theorem hasDigits_power : HasDigits a b (10 ^ c) ↔ c < a := by
  have habs : |(10 : ℚ) ^ c| = 10 ^ c := abs_of_pos (by positivity)
  constructor
  · intro h
    have hlt : (10 : ℚ) ^ c < 10 ^ a := habs ▸ h.whole
    exact (pow_lt_pow_iff_right₀ (by norm_num)).1 hlt
  · intro h
    refine ⟨?_, 10 ^ c * 10 ^ b, ?_⟩
    · rw [habs]
      exact pow_lt_pow_right₀ (by norm_num) h
    · push_cast
      rfl

/-- The numbers with so many digits are among those with others exactly when neither the part before
the point nor the one after it shrinks. -/
theorem forall_hasDigits_iff (h : 0 < a + b) :
    (∀ v, HasDigits a b v → HasDigits c d v) ↔ a ≤ c ∧ b ≤ d := by
  refine ⟨fun hall => ⟨?_, ?_⟩, fun ⟨hac, hbd⟩ v hv => hv.mono hac hbd⟩
  · by_contra hca
    exact lt_irrefl c (hasDigits_power.1 (hall (10 ^ c) (hasDigits_power.2 (by omega))))
  · obtain ⟨n, hn⟩ := (hall _ (hasDigits_unit h)).fraction
    have hpos : (0 : ℚ) < 10 ^ b := by positivity
    have hmul : (10 : ℚ) ^ d = n * 10 ^ b := by
      rw [← hn, one_div_mul_eq_div, div_mul_cancel₀ _ hpos.ne']
    have hdvd : (10 : ℤ) ^ b ∣ 10 ^ d := ⟨n, by rw [mul_comm]; exact_mod_cast hmul⟩
    have hnat : 10 ^ b ∣ 10 ^ d := by exact_mod_cast hdvd
    exact (Nat.pow_dvd_pow_iff_le_right (by norm_num)).1 hnat

end Digits

/-! ## Decimals -/

section Decimals

variable {p s : ℕ} {scale : Option ℕ}

/-- A scale that is not given is zero. -/
theorem choose_decimal_getD (p : ℕ) (scale : Option ℕ) :
    choose (decimal (some p) scale) = choose (decimal (some p) (some (scale.getD 0))) := rfl

/-- A decimal number becomes the target's. -/
theorem target_decimal (p s : ℕ) :
    (choose (decimal (some p) (some s))).target = .scalar .numeric := by
  by_cases h : p ≤ maxPrecision ∧ s ≤ maxScale ∧ s ≤ p <;>
    simp [choose, h, Mapping.exact, Mapping.lossy]

/-- The target holds every value of a decimal exactly when the decimal is exact and has at most 29
digits before its point.  So a decimal that is lossy does lose values; of an exact one the fraction
is always held, and what is lost are the values of 30 digits and more before the point. -/
theorem decimal_keepsValues_iff (hscale : scale.getD 0 = s) (hp : 1 ≤ p) (hs : s ≤ p) :
    (choose (decimal (some p) scale)).target = .scalar .numeric
    ∧ ((∀ v, HasDigits (p - s) s v → IsNumeric v) ↔
        (choose (decimal (some p) scale)).confidence = .exact ∧ p - s ≤ 29)
    ∧ ((choose (decimal (some p) scale)).confidence = .exact →
        ∀ v, HasDigits (p - s) s v → (IsNumeric v ↔ |v| < 10 ^ 29)) := by
  have hexact : (choose (decimal (some p) scale)).confidence = .exact ↔ p ≤ 38 ∧ s ≤ 9 := by
    have hfits := confidence_decimal p s
    rw [choose_decimal_getD, hscale, hfits, Fits]
    omega
  refine ⟨by rw [choose_decimal_getD, target_decimal], ?_, fun h v hv => ?_⟩
  · simp only [isNumeric_iff]
    rw [forall_hasDigits_iff (by omega), hexact]
    omega
  · obtain ⟨-, hfraction⟩ := hexact.1 h
    exact ⟨fun hheld => hheld.1, fun hsize =>
      ⟨hsize, (hv.mono (le_refl _) hfraction).fraction⟩⟩

/-- The largest decimal with a fraction of nine digits is held, and the largest one without a
fraction is exact and is not. -/
theorem decimal_keepsValues_largest :
    (∀ v, HasDigits 29 9 v → IsNumeric v)
    ∧ (choose (decimal (some 38) none)).confidence = .exact
    ∧ ¬ ∀ v, HasDigits 38 0 v → IsNumeric v := by
  have hfull := @decimal_keepsValues_iff 38 9 (some 9) rfl (by decide) (by decide)
  have hwhole := @decimal_keepsValues_iff 38 0 none rfl (by decide) (by decide)
  refine ⟨hfull.2.1.2 ⟨by decide, by decide⟩, by decide, fun hall => ?_⟩
  exact absurd (hwhole.2.1.1 hall).2 (by decide)

/-- A value of an exact decimal that the target does not hold. -/
theorem exact_decimal_overflows :
    (choose (decimal (some 38) (some 0))).confidence = .exact
    ∧ (choose (decimal (some 38) (some 0))).target = .scalar .numeric
    ∧ HasDigits (38 - 0) 0 (10 ^ 37) ∧ ¬ IsNumeric (10 ^ 37) :=
  ⟨by decide, by decide, hasDigits_power.2 (by decide),
    fun h => absurd (hasDigits_power.1 ((isNumeric_iff _).1 h)) (by decide)⟩

end Decimals

end SchemaBridge.TypeMap
