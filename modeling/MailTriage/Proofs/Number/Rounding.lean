import Mathlib.Algebra.Order.Ring.Nat
import Mathlib.Tactic.Ring
import MailTriage.Number.Binary64

namespace MailTriage

namespace Binary64

variable {num den q q' c s : Nat} {negative : Bool}

/-- A whole number less than half a unit from a quotient, or an even one half a unit from it. -/
def IsNearest (num den q : Nat) : Prop :=
  (2 * (den * q) < 2 * num + den ∧ 2 * num < 2 * (den * q) + den) ∨
    (q % 2 = 0 ∧ (2 * (den * q) = 2 * num + den ∨ 2 * num = 2 * (den * q) + den))

theorem isNearest_roundDiv (num : Nat) (hden : 0 < den) : IsNearest num den (roundDiv num den) := by
  have hnum : den * (num / den) + num % den = num := Nat.div_add_mod num den
  have hmod : num % den < den := Nat.mod_lt _ hden
  have hsucc : den * (num / den + 1) = den * (num / den) + den := Nat.mul_succ _ _
  unfold roundDiv
  dsimp only
  split_ifs with hbelow habove heven
  · exact .inl (by omega)
  · exact .inl (by omega)
  · exact .inr ⟨by simpa using heven, by omega⟩
  · have hodd : num / den % 2 ≠ 0 := by simpa using heven
    exact .inr ⟨by omega, by omega⟩

theorem IsNearest.not_lt (hden : 0 < den) (h : IsNearest num den q) (h' : IsNearest num den q') :
    ¬ q < q' := by
  intro hlt
  have hle : den * (q + 1) ≤ den * q' := Nat.mul_le_mul_left _ hlt
  have hsucc : den * (q + 1) = den * q + den := Nat.mul_succ _ _
  unfold IsNearest at h h'
  -- Both are half a unit away, and of two neighbours only one is even.
  have hnext : den * q' = den * (q + 1) := by omega
  have hneighbours : q' = q + 1 := Nat.eq_of_mul_eq_mul_left hden hnext
  omega

theorem roundDiv_eq_iff (hden : 0 < den) : roundDiv num den = q ↔ IsNearest num den q := by
  have hrounded := isNearest_roundDiv num hden
  constructor
  · rintro rfl
    exact hrounded
  · intro h
    have hle := hrounded.not_lt hden h
    have hge := h.not_lt hden hrounded
    omega

theorem roundDiv_dist (num den : Nat) (hden : 0 < den) :
    2 * (den * roundDiv num den) ≤ 2 * num + den ∧
      2 * num ≤ 2 * (den * roundDiv num den) + den := by
  have hrounded := isNearest_roundDiv num hden
  unfold IsNearest at hrounded
  omega

theorem roundDiv_mul_mul_left (hc : 0 < c) (hden : 0 < den) :
    roundDiv (c * num) (c * den) = roundDiv num den := by
  have hrounded := isNearest_roundDiv num hden
  have hscale (a b : Nat) : c * a < c * b ↔ a < b := Nat.mul_lt_mul_left hc
  have hscale' (a b : Nat) : c * a = c * b ↔ a = b := Nat.mul_right_inj hc.ne'
  have hleft (a : Nat) : 2 * (c * den * a) = c * (2 * (den * a)) := by ring
  have hnum : 2 * (c * num) = c * (2 * num) := by ring
  rw [roundDiv_eq_iff (Nat.mul_pos hc hden), IsNearest]
  simp only [hleft, hnum, ← Nat.mul_add, hscale, hscale']
  exact hrounded

theorem ratio_neg (m s : Nat) : ratio m (-(s : Int)) = (m, 2 ^ s) := by
  unfold ratio
  split_ifs with h
  · have hs : s = 0 := by omega
    subst hs
    simp
  · simp

theorem mulNat_finite (negative : Bool) (m s k : Nat) :
    (finite negative m (-(s : Int))).mulNat k = ofRatio negative (m * k) (2 ^ s) := by
  simp only [mulNat, ratio_neg]

theorem truncate?_finite (m s : Nat) :
    (finite false m (-(s : Int))).truncate? = some ((m / 2 ^ s : Nat) : Int) := by
  simp only [truncate?, ratio_neg]
  rfl

theorem scaledDiv_neg (num den s : Nat) :
    scaledDiv num den (-(s : Int)) = roundDiv (num * 2 ^ s) den := by
  unfold scaledDiv
  split_ifs with h
  · have hs : s = 0 := by omega
    subst hs
    simp
  · simp

theorem fits_neg (num den s : Nat) :
    (if (0 : Int) ≤ -(s : Int) then
        decide (leastSignificand * (den * Nat.pow 2 (-(s : Int)).toNat) ≤ num)
      else decide (leastSignificand * den ≤ num * Nat.pow 2 (- -(s : Int)).toNat)) =
    decide (2 ^ 52 * den ≤ num * 2 ^ s) := by
  have hleast : leastSignificand = 2 ^ 52 := rfl
  split_ifs with h
  · have hs : s = 0 := by omega
    subst hs
    simp [hleast]
  · simp [hleast]

/-- The logarithms of a numerator and a denominator give the exponent of their quotient, up to one. -/
theorem log2_sub_log2 (hden : 0 < den) (hlow : 2 ^ 52 * den ≤ num * 2 ^ s)
    (hhigh : num * 2 ^ s < 2 ^ 53 * den) :
    52 + den.log2 ≤ num.log2 + s ∧ num.log2 + s ≤ 53 + den.log2 := by
  have hnum : num ≠ 0 := by
    rintro rfl
    omega
  have hden2 : 2 ^ den.log2 ≤ den := Nat.log2_self_le hden.ne'
  have hnum2 : 2 ^ num.log2 ≤ num := Nat.log2_self_le hnum
  constructor
  · have hlt : 2 ^ (52 + den.log2) < 2 ^ (num.log2 + 1 + s) := by
      calc 2 ^ (52 + den.log2) = 2 ^ 52 * 2 ^ den.log2 := Nat.pow_add ..
        _ ≤ 2 ^ 52 * den := Nat.mul_le_mul_left _ hden2
        _ ≤ num * 2 ^ s := hlow
        _ < 2 ^ (num.log2 + 1) * 2 ^ s :=
          Nat.mul_lt_mul_of_pos_right Nat.lt_log2_self (Nat.two_pow_pos s)
        _ = 2 ^ (num.log2 + 1 + s) := (Nat.pow_add ..).symm
    have := (Nat.pow_lt_pow_iff_right Nat.one_lt_two).1 hlt
    omega
  · have hlt : 2 ^ (num.log2 + s) < 2 ^ (53 + (den.log2 + 1)) := by
      calc 2 ^ (num.log2 + s) = 2 ^ num.log2 * 2 ^ s := Nat.pow_add ..
        _ ≤ num * 2 ^ s := Nat.mul_le_mul_right _ hnum2
        _ < 2 ^ 53 * den := hhigh
        _ ≤ 2 ^ 53 * 2 ^ (den.log2 + 1) := Nat.mul_le_mul_left _ Nat.lt_log2_self.le
        _ = 2 ^ (53 + (den.log2 + 1)) := (Nat.pow_add ..).symm
    have := (Nat.pow_lt_pow_iff_right Nat.one_lt_two).1 hlt
    omega

/-- A quotient whose last binary digit stands `s` places behind the point. -/
theorem ofRatio_eq_finite (hden : 0 < den) (hs : 1 ≤ s) (hs' : s ≤ 1074)
    (hlow : 2 ^ 52 * den ≤ num * 2 ^ s) (hhigh : num * 2 ^ s < 2 ^ 53 * den)
    (hm : roundDiv (num * 2 ^ s) den ≠ 2 ^ 53) :
    ofRatio negative num den = finite negative (roundDiv (num * 2 ^ s) den) (-(s : Int)) := by
  obtain ⟨hlog, hlog'⟩ := log2_sub_log2 hden hlow hhigh
  have hnum : num ≠ 0 := by
    rintro rfl
    omega
  have hguess : (num.log2 - den.log2 - 52 : Int) = -(s : Int) ∨
      (num.log2 - den.log2 - 52 : Int) = -((s - 1 : Nat) : Int) := by omega
  have hleast : max (-(s : Int)) minExponent = -(s : Int) := by
    unfold minExponent
    omega
  have hcarry : roundDiv (num * 2 ^ s) den ≠ 2 * leastSignificand := hm
  have hfinite : ¬ maxExponent < -(s : Int) := by
    unfold maxExponent
    omega
  unfold ofRatio
  rw [if_neg hnum]
  dsimp only
  -- The logarithms give the exponent, or one more, for which the quotient is too small.
  obtain hguess | hguess := hguess
  · rw [hguess]
    simp only [fits_neg, hlow, decide_true, if_true, hleast, scaledDiv_neg, hcarry, hfinite, if_false]
  · have hpow : 2 ^ s = 2 * 2 ^ (s - 1) := by
      rw [← Nat.pow_succ', Nat.succ_eq_add_one, Nat.sub_add_cancel hs]
    have hsmall : ¬ 2 ^ 52 * den ≤ num * 2 ^ (s - 1) := by
      rw [hpow, Nat.mul_left_comm] at hhigh
      omega
    have hnext : -((s - 1 : Nat) : Int) - 1 = -(s : Int) := by omega
    rw [hguess]
    simp only [fits_neg, hsmall, decide_false, Bool.false_eq_true, if_false, hnext, hleast,
      scaledDiv_neg, hcarry, hfinite]

end Binary64

end MailTriage
