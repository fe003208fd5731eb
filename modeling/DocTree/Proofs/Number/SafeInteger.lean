import Mathlib.Algebra.Group.Nat.Defs
import DocTree.Number.Basic

/- Safe integers as numbers. A number that is a safe integer is the number nearest to that
   integer, but for the sign of zero (`ofInt_of_toSafeInt?`). Off zero its significand is the
   integer shifted up to 53 bits, and by as much its exponent is below zero
   (`exists_shift_of_toSafeInt?`); rounding shifts the integer up to 53 bits as well and has
   nothing to round off (`nearest_of_shift`). -/
namespace DocTree.Number

/-- The number without the sign of a zero. -/
def unsignZero (x : Number) : Number := if x.magnitude = 0 then zero else x

theorem ofMagnitude_self (x : Number) : ofMagnitude x.isNegative x.magnitude = x := by
  have hlt := x.bits.toNat_lt
  have hbits : (if x.isNegative then Nat.pow 2 63 + x.magnitude else x.magnitude) =
      x.bits.toNat := by
    simp only [isNegative, magnitude, Nat.pow_eq, decide_eq_true_eq]
    split <;> omega
  rw [ofMagnitude, hbits, UInt64.ofNat_toNat]

/-! Normal numbers. Only zeros and subnormal numbers have the exponent field 0. -/

section
variable {x : Number} (h : x.magnitude / Nat.pow 2 52 ≠ 0)
include h

/-- The bits are the exponent field and the significand, the hidden bit counted once. -/
theorem magnitude_eq_of_normal :
    x.magnitude = (x.magnitude / Nat.pow 2 52 - 1) * Nat.pow 2 52 + x.significand := by
  rw [significand, if_neg h]
  simp only [Nat.pow_eq] at h ⊢
  omega

theorem le_significand_of_normal : 2 ^ 52 ≤ x.significand := by
  rw [significand, if_neg h]
  exact Nat.le_add_right _ _

theorem significand_lt_of_normal : x.significand < 2 ^ 53 := by
  rw [significand, if_neg h]
  simp only [Nat.pow_eq]
  omega

end

/-! From an integer. -/

/-- An integer that `k` places shift up to 53 bits is a number as it is. -/
theorem nearest_of_shift {m k : Nat} (negative : Bool) (hlow : 2 ^ 52 ≤ m * 2 ^ k)
    (hhigh : m * 2 ^ k < 2 ^ 53) :
    nearest negative m 0 = ofMagnitude negative ((1074 - k) * 2 ^ 52 + m * 2 ^ k) := by
  have hm : m ≠ 0 := by
    rintro rfl
    simp at hlow
  have hk : k < 53 := by
    refine (Nat.pow_lt_pow_iff_right (by decide : 1 < 2)).1 (Nat.lt_of_le_of_lt ?_ hhigh)
    exact Nat.le_mul_of_pos_left _ (Nat.pos_of_ne_zero hm)
  have hlog : m.log2 = 52 - k := by
    rw [Nat.log2_eq_iff hm]
    have hpos := Nat.two_pow_pos k
    constructor
    · refine Nat.le_of_mul_le_mul_right ?_ hpos
      rwa [← Nat.pow_add, Nat.sub_add_cancel (by omega)]
    · refine Nat.lt_of_mul_lt_mul_right (a := 2 ^ k) ?_
      rwa [← Nat.pow_add, show 52 - k + 1 + k = 53 by omega]
  have hunit : max ((m.log2 : Int) + 0 - 52) (-1074) = -(k : Int) := by omega
  have hexp : (-(k : Int) + 1074).toNat = 1074 - k := by omega
  have hshift : (0 - -(k : Int)).toNat = k := by omega
  -- no carry reaches the magnitude of an infinity
  have hfinite : (1074 - k) * 2 ^ 52 + m * 2 ^ k ≤ infinityMagnitude := by
    simp only [infinityMagnitude, Nat.pow_eq]
    omega
  simp only [nearest, if_neg hm, hunit, if_pos (show -(k : Int) ≤ 0 by omega), hexp, hshift,
    Nat.pow_eq, Nat.min_eq_right hfinite]

/-! To an integer. -/

theorem toInt?_eq_some {x : Number} {n : Int} (h : x.toInt? = some n) :
    ∃ m : Nat, n = (if x.isNegative then -1 else 1) * (m : Int) ∧
      (0 ≤ x.exponent ∧ m = x.significand * 2 ^ x.exponent.natAbs ∨
        x.exponent < 0 ∧ m * 2 ^ x.exponent.natAbs = x.significand) := by
  simp only [toInt?, Nat.pow_eq] at h
  split at h
  · split at h
    · next hup => exact ⟨_, (Option.some.inj h).symm, .inl ⟨hup, rfl⟩⟩
    · next hdown =>
      split at h
      · next hrest =>
        refine ⟨_, (Option.some.inj h).symm, .inr ⟨Int.not_le.1 hdown, ?_⟩⟩
        exact Nat.div_mul_cancel (Nat.dvd_of_mod_eq_zero hrest)
      · cases h
  · cases h

/-- No subnormal number is an integer: shifted down it has a rest. -/
theorem normal_of_shift {x : Number} {m : Nat} (hx : x.magnitude ≠ 0)
    (hm : m * 2 ^ x.exponent.natAbs = x.significand) : x.magnitude / Nat.pow 2 52 ≠ 0 := by
  intro hsub
  have hsig : x.significand = x.magnitude := by rw [significand, if_pos hsub]
  have hexp : x.exponent = -1074 := by simp [exponent, hsub]
  have hpos : 0 < m := by
    refine Nat.pos_of_ne_zero ?_
    rintro rfl
    omega
  have hle : 2 ^ x.exponent.natAbs ≤ x.magnitude := by
    rw [← hsig, ← hm]
    exact Nat.le_mul_of_pos_left _ hpos
  have hpow : 2 ^ 52 ≤ 2 ^ x.exponent.natAbs := Nat.pow_le_pow_right (by decide) (by omega)
  have hlt : x.magnitude < 2 ^ 52 := by
    rw [Nat.pow_eq] at hsub
    omega
  omega

/-- 53 bits that are shifted up are beyond the safe integers, if they are moved at all. -/
theorem exponent_eq_zero_of_safe {x : Number} (h : x.magnitude / Nat.pow 2 52 ≠ 0)
    (hup : 0 ≤ x.exponent) (hsafe : x.significand * 2 ^ x.exponent.natAbs ≤ maxSafeInteger) :
    x.exponent = 0 := by
  have hlow := le_significand_of_normal h
  have hzero : x.exponent.natAbs = 0 := by
    refine Nat.eq_zero_of_not_pos fun hpos => ?_
    have hpow : 2 ^ 1 ≤ 2 ^ x.exponent.natAbs := Nat.pow_le_pow_right (by decide) hpos
    have hle := Nat.mul_le_mul_left x.significand hpow
    simp only [maxSafeInteger, Nat.pow_eq] at hsafe
    omega
  omega

/-- A safe integer off zero is the significand of its number shifted down, as far as the
    exponent is below zero. -/
theorem exists_shift_of_toSafeInt? {x : Number} {n : Int} (h : x.toSafeInt? = some n)
    (hx : x.magnitude ≠ 0) :
    ∃ k : Nat, x.exponent = -k ∧ n.natAbs * 2 ^ k = x.significand ∧
      x.magnitude / Nat.pow 2 52 ≠ 0 ∧ decide (n < 0) = x.isNegative := by
  obtain ⟨hint, hsafe⟩ := Option.filter_eq_some_iff.1 h
  obtain ⟨m, rfl, hm⟩ := toInt?_eq_some hint
  have habs : ((if x.isNegative then -1 else 1) * (m : Int)).natAbs = m := by
    split <;> simp
  rw [habs] at hsafe ⊢
  have hnormal : x.magnitude / Nat.pow 2 52 ≠ 0 := by
    rcases hm with ⟨hup, -⟩ | ⟨-, hm⟩
    · intro hsub
      simp [exponent, hsub] at hup
    · exact normal_of_shift hx hm
  have hshift : ∃ k : Nat, x.exponent = -k ∧ m * 2 ^ k = x.significand := by
    rcases hm with ⟨hup, rfl⟩ | ⟨hdown, hm⟩
    · have hexp := exponent_eq_zero_of_safe hnormal hup (of_decide_eq_true hsafe)
      exact ⟨0, hexp, by simp [hexp]⟩
    · exact ⟨x.exponent.natAbs, by omega, hm⟩
  obtain ⟨k, hexp, hk⟩ := hshift
  refine ⟨k, hexp, hk, hnormal, ?_⟩
  have hlow := le_significand_of_normal hnormal
  have hpos : m ≠ 0 := by
    rintro rfl
    omega
  cases x.isNegative with
  | true => simp; omega
  | false => simp

theorem toSafeInt?_of_magnitude_eq_zero {x : Number} (hx : x.magnitude = 0) :
    x.toSafeInt? = some 0 := by
  have hfinite : x.isFinite = true := by
    simp [isFinite, hx, infinityMagnitude]
  have hsig : x.significand = 0 := by simp [significand, hx]
  have hexp : ¬ 0 ≤ x.exponent := by simp [exponent, hx]
  have hint : x.toInt? = some 0 := by
    simp only [toInt?, hfinite, hsig, hexp, if_true, if_false, Nat.zero_mod, Nat.zero_div,
      Int.natCast_zero, Int.mul_zero]
  simp [toSafeInt?, hint]

/-- **A safe integer comes back as a number**, but for the sign of zero. -/
theorem ofInt_of_toSafeInt? {x : Number} {n : Int} (h : x.toSafeInt? = some n) :
    ofInt n = x.unsignZero := by
  by_cases hx : x.magnitude = 0
  · rw [toSafeInt?_of_magnitude_eq_zero hx] at h
    obtain rfl := Option.some.inj h
    rw [unsignZero, if_pos hx]
    rfl
  · obtain ⟨k, hexp, hsig, hnormal, hsign⟩ := exists_shift_of_toSafeInt? h hx
    have hmag := magnitude_eq_of_normal hnormal
    have hlow := le_significand_of_normal hnormal
    have hhigh := significand_lt_of_normal hnormal
    have hfield : x.magnitude / Nat.pow 2 52 - 1 = 1074 - k := by
      simp only [exponent] at hexp
      omega
    rw [← hsig] at hlow hhigh
    rw [unsignZero, if_neg hx, ofInt, nearest_of_shift _ hlow hhigh, hsign, hsig, ← hfield]
    rw [Nat.pow_eq] at hmag
    rw [Nat.pow_eq, ← hmag, ofMagnitude_self]

end DocTree.Number
