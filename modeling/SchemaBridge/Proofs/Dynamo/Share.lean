/-
# Shares of a sample

Whether one type is found often enough is decided with floating-point numbers of 64 bits: a count is
divided by the total, and the rounded quotient is compared with the number next to nine tenths.  Both
counts are numbers exactly if they have 53 binary digits at most.  Their quotient is cut after 53 digits
and rounded to the nearer number, so the threshold is reached exactly from half way to the number before
it.  This is nine tenths of the total, unless there are more values than any memory holds.

A number is a mantissa of 53 digits times a power of two; it is unpacked, calculated with and packed
again, as the standard for floating-point arithmetic says.

## Key statements

* `exists_isNormal_div`: the quotient of two numbers.
* `isShare_iff`: the counts that are a share, in integers.
* `isShare_iff_nine_tenths`: nine tenths, without rounding.
-/
import Mathlib
import SchemaBridge.Dynamo.Inference

namespace SchemaBridge.Dynamo

open Float.Model (Format UnpackedFloat totalExponent)
open Float.Model.UnpackedFloat

/-! ## Numbers with a full mantissa -/

/-- A mantissa has 53 binary digits. -/
def IsMantissa (m : Nat) : Prop := 2 ^ 52 ≤ m ∧ m < 2 ^ 53

namespace IsMantissa

variable {m : Nat}

/-- A mantissa is not zero. -/
theorem pos (h : IsMantissa m) : 0 < m := Nat.lt_of_lt_of_le (Nat.two_pow_pos 52) h.1

/-- A mantissa has 53 binary digits. -/
theorem log2 (h : IsMantissa m) : m.log2 = 52 := (Nat.log2_eq_iff (Nat.ne_of_gt h.pos)).2 h

end IsMantissa

/-- A number is a full mantissa times a power of two. -/
structure IsNormal (x : Float.Model) (m : Nat) (e : Int) : Prop where
  mantissa : IsMantissa m
  unpack : x.unpack = .finite .positive m e mantissa.pos

/-- The sign of what is packed. -/
theorem sign_packComponents (exponent : BitVec 11) (mantissa : BitVec 52) :
    Sign.ofBitVec (unpackSign (packComponents .binary64 .positive exponent mantissa)) = .positive := by
  have hbit : unpackSign (packComponents .binary64 .positive exponent mantissa) = 0#1 := by
    simp only [unpackSign, packComponents, BitVec.extractLsb]
    rw [BitVec.extractLsb'_append_eq_of_le (by omega), BitVec.extractLsb'_append_eq_of_le (by omega)]
    rfl
  rw [hbit]
  rfl

/-- What is packed is the number that is unpacked, if the exponent is not too large or too small. -/
theorem isNormal_pack {m : Nat} {e : Int} (hm : IsMantissa m) (hlow : -1074 ≤ e) (hhigh : e ≤ 900) :
    IsNormal (Float.Model.pack (.finite .positive m e hm.pos)) m e := by
  obtain ⟨k, hk⟩ : ∃ k : Nat, (k : Int) = e + 1075 := ⟨(e + 1075).toNat, by omega⟩
  have hbias : (e + Format.binary64.exponentBias + Format.binary64.mantissaBitsWithoutImplicit).toNat
      = k := by
    show (e + (1023 : Nat) + (52 : Nat)).toNat = k
    omega
  have hexponent : (BitVec.ofNat 11 k).toNat = k := by
    rw [BitVec.toNat_ofNat, Nat.mod_eq_of_lt (by omega)]
  -- the exponent is neither that of infinities nor that of numbers without a leading digit
  have hinf : BitVec.ofNat 11 k ≠ -1#11 := fun h => by
    have hall : k = 2047 := hexponent.symm.trans (congrArg BitVec.toNat h)
    omega
  have hzero : BitVec.ofNat 11 k ≠ 0#11 := fun h => by
    have hnone : k = 0 := hexponent.symm.trans (congrArg BitVec.toNat h)
    omega
  -- the leading digit is not stored
  have hmantissa : (1#1 ++ BitVec.ofNat 52 m).toNat = m := by
    obtain ⟨hle, hlt⟩ := hm
    rw [BitVec.toNat_append, ← Nat.shiftLeft_add_eq_or_of_lt (BitVec.ofNat 52 m).isLt,
      BitVec.toNat_ofNat, BitVec.toNat_ofNat, Nat.shiftLeft_eq]
    omega
  have hpack : UnpackedFloat.pack .binary64 (.finite .positive m e hm.pos)
      = packComponents .binary64 .positive (BitVec.ofNat 11 k) (BitVec.ofNat 52 m) := by
    rw [UnpackedFloat.pack]
    simp only [hm.log2, hbias]
    rw [if_neg (by show ¬ 2 ^ 11 ≤ k + 1; omega),
      if_pos (show 52 + 1 = Format.binary64.mantissaBits from rfl)]
  refine ⟨hm, ?_⟩
  show UnpackedFloat.unpack .binary64 (UnpackedFloat.pack .binary64 _) = _
  rw [hpack, UnpackedFloat.unpack]
  simp only [unpackMantissa_packComponents, unpackExponent_packComponents, sign_packComponents]
  rw [if_neg hinf, if_neg hzero]
  congr 1
  rw [hexponent]
  show (k : Int) - ((1023 : Nat) + (52 : Nat) : Int) = e
  omega

/-! ## Fractions that are cut off -/

/-- A mantissa with the digits after it stands for a fraction: before the point of twice the fraction
stand the mantissa and one more digit, and `r` is what remains. -/
def StandsFor (em : ExtendedMantissa) (a b : Nat) : Prop :=
  ∃ r < b, 2 * a = (2 * em.mantissa + em.roundBit.toNat) * b + r ∧ (em.stickyBit = true ↔ r ≠ 0)

/-- What a division leaves: of the remainder only its place before, at or after the half is kept. -/
theorem standsFor_ofMantissaAndAccuracy {b : Nat} (hb : 0 < b) (a : Nat) :
    StandsFor (.ofMantissaAndAccuracy (a / b) (accuracyOfFraction (a % b) b)) a b := by
  have hlt := Nat.mod_lt a hb
  have hdiv := Nat.div_add_mod' a b
  unfold accuracyOfFraction
  split
  · refine ⟨0, hb, ?_, by simp [ExtendedMantissa.ofMantissaAndAccuracy]⟩
    simp only [ExtendedMantissa.ofMantissaAndAccuracy, Bool.toNat_false]
    grind
  -- twice the remainder is compared with the divisor
  cases hhalf : compare (2 * (a % b)) b with
  | lt =>
    have hless := Nat.compare_eq_lt.1 hhalf
    refine ⟨2 * (a % b), hless, ?_, by simp [ExtendedMantissa.ofMantissaAndAccuracy]; omega⟩
    simp only [ExtendedMantissa.ofMantissaAndAccuracy, Bool.toNat_false]
    grind
  | eq =>
    have hsame := Nat.compare_eq_eq.1 hhalf
    refine ⟨0, hb, ?_, by simp [ExtendedMantissa.ofMantissaAndAccuracy]⟩
    simp only [ExtendedMantissa.ofMantissaAndAccuracy, Bool.toNat_true]
    grind
  | gt =>
    have hmore := Nat.compare_eq_gt.1 hhalf
    refine ⟨2 * (a % b) - b, by omega, ?_, by simp [ExtendedMantissa.ofMantissaAndAccuracy]; omega⟩
    simp only [ExtendedMantissa.ofMantissaAndAccuracy, Bool.toNat_true]
    grind

namespace StandsFor

variable {em : ExtendedMantissa} {a b t : Nat}

/-- A digit is moved behind the point. -/
theorem shiftRightOne (h : StandsFor em a b) : StandsFor em.shiftRightOne a (2 * b) := by
  obtain ⟨r, hr, hdigits, hsticky⟩ := h
  have hparity : 2 * (em.mantissa / 2) + (em.mantissa % 2 != 0).toNat = em.mantissa := by
    rcases Nat.mod_two_eq_zero_or_one em.mantissa with h | h <;> simp [h] <;> omega
  refine ⟨em.roundBit.toNat * b + r, ?_, ?_, ?_⟩
  · have hbit := Bool.toNat_le em.roundBit
    have hle : em.roundBit.toNat * b ≤ 1 * b := Nat.mul_le_mul_right b hbit
    omega
  · show 2 * a = (2 * (em.mantissa / 2) + (em.mantissa % 2 != 0).toNat) * (2 * b) + _
    rw [hparity, hdigits]
    grind
  · show (em.roundBit || em.stickyBit) = true ↔ _
    rw [Bool.or_eq_true, hsticky]
    cases em.roundBit with
    | false => simp
    | true =>
      simp
      omega

/-- Digits are moved behind the point. -/
theorem shiftRight (h : StandsFor em a b) (k : Nat) : StandsFor (em >>> k) a (2 ^ k * b) := by
  induction k with
  | zero =>
    rw [Nat.pow_zero, Nat.one_mul]
    exact h
  | succ k ih =>
    rw [Nat.pow_succ', Nat.mul_assoc]
    exact ih.shiftRightOne

/-- What stands for a fraction of 53 digits before the point has them in its mantissa. -/
theorem isMantissa (h : StandsFor em a b) (hlow : 2 ^ 52 * b ≤ a) (hhigh : a < 2 ^ 53 * b) :
    IsMantissa em.mantissa := by
  -- one digit is cut off before the remainder, so both bounds are doubled
  obtain ⟨r, hr, hdigits, -⟩ := h
  have hbit := Bool.toNat_le em.roundBit
  constructor
  · refine Nat.le_of_not_lt fun hless => ?_
    have hstep : (2 * em.mantissa + em.roundBit.toNat + 1) * b ≤ 2 ^ 53 * b :=
      Nat.mul_le_mul_right b (by omega)
    grind
  · refine Nat.lt_of_not_le fun hmore => ?_
    have hstep : 2 ^ 54 * b ≤ (2 * em.mantissa + em.roundBit.toNat) * b :=
      Nat.mul_le_mul_right b (by omega)
    grind

/-- A fraction is rounded up to an odd number exactly if it is nearer to it than to the one before. -/
theorem le_roundedMantissa_iff (h : StandsFor em a b) (hodd : t % 2 = 1) :
    t ≤ em.roundedMantissa ↔ (2 * t - 1) * b < 2 * a := by
  obtain ⟨r, hr, hdigits, hsticky⟩ := h
  -- half way to an odd number a fraction is rounded down, to the even one
  have hcut : (2 * t - 1) * b < 2 * a ↔ 2 * t - 1 < 2 * em.mantissa + em.roundBit.toNat
      ∨ (2 * t - 1 = 2 * em.mantissa + em.roundBit.toNat ∧ em.stickyBit = true) := by
    rw [hdigits, hsticky]
    generalize 2 * t - 1 = k
    generalize 2 * em.mantissa + em.roundBit.toNat = l
    rcases Nat.lt_trichotomy k l with hkl | rfl | hkl
    · have hstep : (k + 1) * b ≤ l * b := Nat.mul_le_mul_right b hkl
      grind
    · omega
    · have hstep : (l + 1) * b ≤ k * b := Nat.mul_le_mul_right b hkl
      grind
  rw [hcut]
  obtain ⟨m, round, sticky⟩ := em
  cases round <;> cases sticky
  all_goals
    simp only [ExtendedMantissa.roundedMantissa, ExtendedMantissa.accuracy,
      Accuracy.roundToNearestEven, Bool.toNat_false, Bool.toNat_true]
    grind

end StandsFor

/-- Rounding adds one at most. -/
theorem roundedMantissa_le (em : ExtendedMantissa) :
    em.mantissa ≤ em.roundedMantissa ∧ em.roundedMantissa ≤ em.mantissa + 1 := by
  obtain ⟨m, round, sticky⟩ := em
  cases round <;> cases sticky
  all_goals
    simp only [ExtendedMantissa.roundedMantissa, ExtendedMantissa.accuracy,
      Accuracy.roundToNearestEven]
    omega

/-- A mantissa of some digits too many is cut to its length. -/
theorem shiftToTargetExponent_eq {q k : Nat} {e : Int} (accuracy : Accuracy) (hlow : 2 ^ (52 + k) ≤ q)
    (hhigh : q < 2 ^ (53 + k)) (he : -1074 ≤ e + k) :
    shiftToTargetExponent .binary64 q e accuracy
      = (ExtendedMantissa.ofMantissaAndAccuracy q accuracy >>> k, e + k) := by
  have hpos : q ≠ 0 := Nat.ne_of_gt (Nat.lt_of_lt_of_le (Nat.two_pow_pos _) hlow)
  have hlog : q.log2 = 52 + k := (Nat.log2_eq_iff hpos).2 ⟨hlow, by rwa [Nat.add_right_comm]⟩
  have htarget : Format.binary64.targetExponent (totalExponent q e) = e + k := by
    simp only [Format.targetExponent, totalExponent, hlog, Format.mantissaBits, Format.minExponent]
    omega
  have hshift : (e + k - e).toNat = k := by omega
  simp only [shiftToTargetExponent, shiftToExponent, htarget, hshift]

/-- Where a rounded mantissa has a digit too many, it is a power of two, and the exponent takes it. -/
inductive Carries (r : Nat) (e : Int) : Nat → Int → Prop
  | fits (h : IsMantissa r) : Carries r e r e
  | carried (h : r = 2 ^ 53) : Carries r e (2 ^ 52) (e + 1)

/-- What a rounding carries is a mantissa. -/
theorem Carries.isMantissa {r m : Nat} {e f : Int} (h : Carries r e m f) : IsMantissa m := by
  cases h with
  | fits h => exact h
  | carried => exact ⟨Nat.le_refl _, by decide⟩

/-- What is rounded has a full mantissa. -/
theorem exists_carries {r : Nat} {e : Int} (hr : IsMantissa r ∨ r = 2 ^ 53) (he : -1074 ≤ e) :
    ∃ m f, Carries r e m f
      ∧ shiftToTargetExponent .binary64 r e .exact = (⟨m, false, false⟩, f) := by
  -- a power of two is one digit too long, and loses a zero
  rcases hr with hr | rfl
  · refine ⟨r, e, .fits hr, ?_⟩
    rw [shiftToTargetExponent_eq (k := 0) .exact hr.1 hr.2 (by omega), Int.natCast_zero, Int.add_zero]
    rfl
  · refine ⟨2 ^ 52, e + 1, .carried rfl, ?_⟩
    rw [shiftToTargetExponent_eq (k := 1) .exact (by decide) (by decide) (by omega)]
    rfl

/-- A number of some digits too many is cut, rounded and carried. -/
theorem exists_roundWithAccuracy {q k : Nat} {e : Int} (accuracy : Accuracy) (hlow : 2 ^ (52 + k) ≤ q)
    (hhigh : q < 2 ^ (53 + k)) (he : -1074 ≤ e)
    (hm : IsMantissa (ExtendedMantissa.ofMantissaAndAccuracy q accuracy >>> k).mantissa) :
    ∃ m f, ∃ hpos : 0 < m,
      Carries (ExtendedMantissa.ofMantissaAndAccuracy q accuracy >>> k).roundedMantissa (e + k) m f
      ∧ roundWithAccuracy .binary64 .positive q e accuracy = .finite .positive m f hpos := by
  unfold roundWithAccuracy
  rw [shiftToTargetExponent_eq accuracy hlow hhigh (by omega)]
  generalize ExtendedMantissa.ofMantissaAndAccuracy q accuracy >>> k = em at hm ⊢
  have hrounded : IsMantissa em.roundedMantissa ∨ em.roundedMantissa = 2 ^ 53 := by
    obtain ⟨hfloor, hceil⟩ := roundedMantissa_le em
    unfold IsMantissa at hm ⊢
    omega
  obtain ⟨m, f, hcarries, hshift⟩ := exists_carries (e := e + k) hrounded (by omega)
  have hpos := hcarries.isMantissa.pos
  refine ⟨m, f, hpos, hcarries, ?_⟩
  dsimp only
  rw [hshift, dif_neg (Nat.ne_of_gt hpos)]

/-! ## Counts as numbers -/

/-- A full mantissa is not changed by rounding. -/
theorem roundWithAccuracy_exact {m : Nat} {e : Int} (hm : IsMantissa m) (he : -1074 ≤ e) :
    roundWithAccuracy .binary64 .positive m e .exact = .finite .positive m e hm.pos := by
  obtain ⟨m', f, hpos, hcarries, hround⟩ :=
    exists_roundWithAccuracy (k := 0) .exact hm.1 hm.2 he (show IsMantissa m from hm)
  rw [Int.natCast_zero, Int.add_zero] at hcarries
  rw [hround]
  cases hcarries with
  | fits => rfl
  | carried h => exact absurd (show m = 2 ^ 53 from h) (Nat.ne_of_lt hm.2)

/-- A count of 53 digits at most is a number, exactly. -/
theorem isNormal_toFloat {n k : Nat} (hk : k ≤ 52) (hlow : 2 ^ k ≤ n) (hhigh : n < 2 ^ (k + 1)) :
    IsNormal n.toUInt64.toFloat.toModel (n * 2 ^ (52 - k)) ((k : Int) - 52) := by
  have hpos : 0 < n := Nat.lt_of_lt_of_le (Nat.two_pow_pos k) hlow
  have hlog : n.log2 = k := (Nat.log2_eq_iff (Nat.ne_of_gt hpos)).2 ⟨hlow, hhigh⟩
  have hword : n.toUInt64.toNat = n := by
    have hle : 2 ^ (k + 1) ≤ 2 ^ 53 := Nat.pow_le_pow_right (by decide) (by omega)
    exact UInt64.toNat_ofNat_of_lt' (by show n < 2 ^ 64; omega)
  have hm : IsMantissa (n * 2 ^ (52 - k)) := by
    have hfull : 2 ^ k * 2 ^ (52 - k) = 2 ^ 52 := by rw [← Nat.pow_add, Nat.add_sub_cancel' hk]
    have hover : 2 ^ (k + 1) * 2 ^ (52 - k) = 2 ^ 53 := by
      rw [← Nat.pow_add, show k + 1 + (52 - k) = 53 by omega]
    exact ⟨hfull ▸ Nat.mul_le_mul_right _ hlow,
      hover ▸ Nat.mul_lt_mul_of_pos_right hhigh (Nat.two_pow_pos _)⟩
  -- the count is moved up until its leading digit is the first of 53
  have htarget : Format.binary64.targetExponent (totalExponent n 0) = k - 52 := by
    simp only [Format.targetExponent, totalExponent, hlog, Format.mantissaBits, Format.minExponent]
    omega
  have hround : UnpackedFloat.ofUInt64 .binary64 n.toUInt64
      = .finite .positive (n * 2 ^ (52 - k)) ((k : Int) - 52) hm.pos := by
    have hcompare : compare (n : Int) 0 = .gt := Int.compare_eq_gt.2 (by omega)
    have hshift : (0 - ((k : Int) - 52)).toNat = 52 - k := by omega
    simp only [ofUInt64, UnpackedFloat.ofNat, UnpackedFloat.ofInt, UnpackedFloat.normalize, hword,
      hcompare, Int.toNat_natCast, UnpackedFloat.round, htarget, decreaseExponent, hshift,
      Nat.shiftLeft_eq]
    rw [show (0 : Int) - (52 - k : Nat) = k - 52 by omega]
    exact roundWithAccuracy_exact hm (by omega)
  show IsNormal (Float.Model.pack (UnpackedFloat.ofUInt64 .binary64 n.toUInt64)) _ _
  rw [hround]
  exact isNormal_pack hm (by omega) (by omega)

/-- The threshold is the number next to nine tenths. -/
theorem isNormal_dominantShare : IsNormal dominantShare.toModel 8106479329266893 (-53) :=
  ⟨⟨by decide, by decide⟩, rfl⟩

/-- Numbers are compared by their exponents first. -/
theorem IsNormal.le_iff {x y : Float.Model} {m n : Nat} {e f : Int} (hx : IsNormal x m e)
    (hy : IsNormal y n f) : x ≤ y ↔ e < f ∨ (e = f ∧ m ≤ n) := by
  show x.le y = true ↔ _
  unfold Float.Model.le UnpackedFloat.le
  rw [hx.unpack, hy.unpack]
  show (some ((compare e f).then (compare m n))).any (·.isLE) = true ↔ _
  rw [Option.any_some]
  cases hef : compare e f with
  | lt => simp [Int.compare_eq_lt.1 hef]
  | eq =>
    have hsame := Int.compare_eq_eq.1 hef
    simp [hsame, Nat.isLE_compare]
  | gt =>
    have hmore := Int.compare_eq_gt.1 hef
    simp
    omega

/-! ## The quotient of two counts -/

/-- A quotient of two numbers is the quotient of their mantissas, cut after 53 digits and rounded. -/
theorem exists_isNormal_div {x y : Float.Model} {m n k : Nat} {e f : Int} (hx : IsNormal x m e)
    (hy : IsNormal y n f) (hexponent : -900 ≤ e - f ∧ e - f ≤ 900) (hk : k ≤ 1) (hless : m < 2 ^ k * n)
    (hmore : 2 ^ k * n ≤ 2 * m) :
    ∃ em q g, StandsFor em (m * 2 ^ 53) (2 ^ k * n) ∧ Carries em.roundedMantissa (e - f - 53 + k) q g
      ∧ IsNormal (x / y) q g := by
  have htarget : Format.binary64.targetExponent (totalExponent m e - totalExponent n f)
      = e - f - 53 := by
    simp only [Format.targetExponent, totalExponent, hx.mantissa.log2, hy.mantissa.log2,
      Format.mantissaBits, Format.minExponent]
    omega
  have hcore : divCore .binary64 m e n f
      = (m * 2 ^ 53 / n, e - f - 53, accuracyOfFraction (m * 2 ^ 53 % n) n) := by
    have hmin : min (e - f) (e - f - 53) = e - f - 53 := by omega
    have hshift : (e - f - (e - f - 53)).toNat = 53 := by omega
    simp only [divCore, htarget, hmin, hshift, Nat.shiftLeft_eq]
  have hn := hy.mantissa.pos
  have hstands := (standsFor_ofMantissaAndAccuracy hn (m * 2 ^ 53)).shiftRight k
  -- of two full mantissas the quotient has 53 or 54 digits before it is cut
  have hlow : 2 ^ (52 + k) ≤ m * 2 ^ 53 / n := by
    rw [Nat.le_div_iff_mul_le hn, Nat.pow_add, Nat.mul_assoc]
    omega
  have hhigh : m * 2 ^ 53 / n < 2 ^ (53 + k) := by
    rw [Nat.div_lt_iff_lt_mul hn, Nat.pow_add, Nat.mul_assoc]
    omega
  obtain ⟨q, g, hpos, hcarries, hround⟩ := exists_roundWithAccuracy (e := e - f - 53)
    (accuracyOfFraction (m * 2 ^ 53 % n) n) hlow hhigh (by omega)
    (hstands.isMantissa (by omega) (by omega))
  refine ⟨_, q, g, hstands, hcarries, ?_⟩
  have hquotient : x / y = Float.Model.pack (.finite .positive q g hpos) := by
    show Float.Model.pack (UnpackedFloat.div .binary64 x.unpack y.unpack) = _
    rw [hx.unpack, hy.unpack]
    show Float.Model.pack (roundWithAccuracy .binary64 .positive (divCore .binary64 m e n f).1
      (divCore .binary64 m e n f).2.1 (divCore .binary64 m e n f).2.2) = _
    rw [hcore, hround]
  -- rounding may carry, and the exponent is still far from the ends
  have hg : e - f - 53 + k ≤ g ∧ g ≤ e - f - 53 + k + 1 := by
    cases hcarries <;> omega
  rw [hquotient]
  exact isNormal_pack hcarries.isMantissa (by omega) (by omega)

/-- The threshold is reached by a quotient with its exponent and a mantissa that is rounded up to it,
or by one with a larger exponent. -/
theorem dominantShare_le_iff {x : Float.Model} {r q : Nat} {e g : Int} (hx : IsNormal x q g)
    (hcarries : Carries r e q g) :
    dominantShare.toModel ≤ x ↔ -53 < e ∨ (e = -53 ∧ 8106479329266893 ≤ r) := by
  rw [isNormal_dominantShare.le_iff hx]
  cases hcarries with
  | fits => omega
  | carried h => omega

/-- Whether a quotient reaches the threshold, when the total has `i` digits more than the count and its
quotient is shifted by `k`: with a smaller `i` the counts are equal, with a larger one the count is not
the half of the total. -/
theorem threshold_iff {count total i k p : Nat} (hpos : 0 < count) (hle : count ≤ total) (hp : 0 < p)
    (hk : k ≤ 1) (hless : count * (2 ^ i * p) < 2 ^ k * (total * p))
    (hmore : 2 ^ k * (total * p) ≤ 2 * (count * (2 ^ i * p))) :
    (i < k ∨ (i = k ∧ 16212958658533785 * (2 ^ k * (total * p)) < 2 * (count * (2 ^ i * p) * 2 ^ 53)))
      ↔ 16212958658533785 * total < 18014398509481984 * count := by
  -- only where the exponents are equal the mantissas decide
  rcases Nat.lt_trichotomy i k with hik | rfl | hik
  · obtain ⟨rfl, rfl⟩ : i = 0 ∧ k = 1 := by omega
    rw [Nat.pow_zero, Nat.one_mul] at hmore
    have hsame : total ≤ count := Nat.le_of_mul_le_mul_right (show total * p ≤ count * p by omega) hp
    omega
  · have hleft : 16212958658533785 * (2 ^ i * (total * p))
        = 16212958658533785 * total * (2 ^ i * p) := by ac_rfl
    have hright : 2 * (count * (2 ^ i * p) * 2 ^ 53) = 18014398509481984 * count * (2 ^ i * p) := by
      grind
    rw [hleft, hright, Nat.mul_lt_mul_right (Nat.mul_pos (Nat.two_pow_pos i) hp)]
    omega
  · obtain ⟨o, rfl⟩ : ∃ o, i = k + 1 + o := ⟨i - (k + 1), by omega⟩
    have hstep : 2 * count * (2 ^ k * p) < total * (2 ^ k * p) := by
      calc 2 * count * (2 ^ k * p)
          ≤ 2 * count * (2 ^ k * p) * 2 ^ o := Nat.le_mul_of_pos_right _ (Nat.two_pow_pos o)
        _ = count * (2 ^ (k + 1 + o) * p) := by grind
        _ < 2 ^ k * (total * p) := hless
        _ = total * (2 ^ k * p) := by ac_rfl
    have hhalf : 2 * count < total := Nat.lt_of_mul_lt_mul_right hstep
    omega

/-- **Shares in integers.**  A count is a share exactly if its quotient is more than half way to the
threshold from the number before it. -/
theorem isShare_iff {count total : Nat} (hpos : 0 < count) (hle : count ≤ total)
    (htotal : total < 2 ^ 53) :
    isShare count total = true ↔ 16212958658533785 * total < 18014398509481984 * count := by
  obtain ⟨j, hjlow, hjhigh⟩ : ∃ j, 2 ^ j ≤ count ∧ count < 2 ^ (j + 1) :=
    ⟨count.log2, Nat.log2_self_le (by omega), Nat.lt_log2_self⟩
  obtain ⟨l, hllow, hlhigh⟩ : ∃ l, 2 ^ l ≤ total ∧ total < 2 ^ (l + 1) :=
    ⟨total.log2, Nat.log2_self_le (by omega), Nat.lt_log2_self⟩
  have hl : l ≤ 52 := Nat.le_of_lt_succ
    ((Nat.pow_lt_pow_iff_right (by decide)).1 (Nat.lt_of_le_of_lt hllow htotal))
  have hjl : j ≤ l := Nat.le_of_lt_succ ((Nat.pow_lt_pow_iff_right (by decide)).1
    (Nat.lt_of_le_of_lt hjlow (Nat.lt_of_le_of_lt hle hlhigh)))
  have hx := isNormal_toFloat (by omega) hjlow hjhigh
  have hy := isNormal_toFloat hl hllow hlhigh
  obtain ⟨k, hk, hless, hmore⟩ : ∃ k ≤ 1, count * 2 ^ (52 - j) < 2 ^ k * (total * 2 ^ (52 - l))
      ∧ 2 ^ k * (total * 2 ^ (52 - l)) ≤ 2 * (count * 2 ^ (52 - j)) := by
    obtain ⟨hx₁, hx₂⟩ := hx.mantissa
    obtain ⟨hy₁, hy₂⟩ := hy.mantissa
    rcases Nat.lt_or_ge (count * 2 ^ (52 - j)) (total * 2 ^ (52 - l)) with h | h
    · exact ⟨0, by decide, by omega, by omega⟩
    · exact ⟨1, by decide, by omega, by omega⟩
  obtain ⟨em, q, g, hstands, hcarries, hquotient⟩ :=
    exists_isNormal_div hx hy (by omega) hk hless hmore
  have hshare : isShare count total = true ↔ dominantShare.toModel
      ≤ count.toUInt64.toFloat.toModel / total.toUInt64.toFloat.toModel := by
    unfold isShare
    rw [decide_eq_true_iff]
    exact decide_eq_true_iff
  rw [hshare, dominantShare_le_iff hquotient hcarries, hstands.le_roundedMantissa_iff (by decide)]
  -- the powers of two of both mantissas differ by those of both counts
  obtain ⟨i, rfl⟩ : ∃ i, l = j + i := ⟨l - j, by omega⟩
  have hscale : 2 ^ (52 - j) = 2 ^ i * 2 ^ (52 - (j + i)) := by
    rw [← Nat.pow_add, show i + (52 - (j + i)) = 52 - j by omega]
  rw [hscale] at hless hmore ⊢
  rw [← threshold_iff hpos hle (Nat.two_pow_pos (52 - (j + i))) hk hless hmore]
  omega

/-- The largest number of values whose shares are exact.  With 24 bytes for each it would fill an address
space of 56 bits. -/
def exactSample : Nat := 3002399751580330

/-- **Shares are nine tenths**, without rounding, of all totals up to that number. -/
theorem isShare_iff_nine_tenths {count total : Nat} (hpos : 0 < count) (hle : count ≤ total)
    (htotal : total ≤ exactSample) : isShare count total = true ↔ 9 * total ≤ 10 * count := by
  unfold exactSample at htotal
  rw [isShare_iff hpos hle (by omega)]
  omega

/-- With nine more values the quotient may be rounded up to the threshold. -/
example : isShare 2702159776422305 (exactSample + 9) = true
    ∧ ¬ 9 * (exactSample + 9) ≤ 10 * 2702159776422305 := by
  decide +kernel

end SchemaBridge.Dynamo
