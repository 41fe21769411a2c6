import MailTriage.Proofs.Number.Rounding
import MailTriage.Calendar.Iso
import MailTriage.Stats.Basic

/-!
The duration of a run is worked out in seconds, whose thousandfold is rounded once more before its
fraction is dropped. For runs that take a whole number of milliseconds `addRecord_of_whole` says which
of them are recorded with one millisecond less.
-/

namespace MailTriage

open Binary64

namespace Stats

def significand (n : Nat) : Nat :=
  n * 2 ^ (52 - n.log2)

/-- The numbers of milliseconds that come out one too small. They are large against their power of two, so
that the seconds have only nine binary digits more behind the point than the milliseconds; and rounding the
seconds takes more away than half of the last digit of the milliseconds. -/
def IsShort (n : Nat) : Prop :=
  125 * 2 ^ 52 ≤ 64 * significand n ∧ 32 < 64 * significand n % 125 ∧ 64 * significand n % 125 < 63

instance (n : Nat) : Decidable (IsShort n) :=
  inferInstanceAs (Decidable (_ ∧ _ ∧ _))

variable {n m x y j : Nat}

theorem significand_bounds (hn : 0 < n) (hlarge : n < 2 ^ 53) :
    2 ^ 52 ≤ significand n ∧ significand n < 2 ^ 53 := by
  have hlog : n.log2 ≤ 52 := Nat.le_of_lt_succ ((Nat.log2_lt hn.ne').2 hlarge)
  unfold significand
  constructor
  · calc 2 ^ 52 = 2 ^ n.log2 * 2 ^ (52 - n.log2) := by rw [← Nat.pow_add, Nat.add_sub_cancel' hlog]
      _ ≤ n * 2 ^ (52 - n.log2) := Nat.mul_le_mul_right _ (Nat.log2_self_le hn.ne')
  · calc n * 2 ^ (52 - n.log2)
        < 2 ^ (n.log2 + 1) * 2 ^ (52 - n.log2) :=
          Nat.mul_lt_mul_of_pos_right Nat.lt_log2_self (Nat.two_pow_pos _)
      _ = 2 ^ 53 := by rw [← Nat.pow_add, Nat.add_right_comm, Nat.add_sub_cancel' hlog]

theorem significand_mod (hlarge : n < 2 ^ 49) : significand n % 16 = 0 := by
  obtain rfl | hn := Nat.eq_zero_or_pos n
  · rfl
  · have hlog : n.log2 < 49 := (Nat.log2_lt hn.ne').2 hlarge
    have hdvd : 2 ^ 4 ∣ 2 ^ (52 - n.log2) := Nat.pow_dvd_pow 2 (by omega)
    exact Nat.mod_eq_zero_of_dvd (Nat.dvd_mul_left_of_dvd hdvd n)

/-- The seconds are `m` with `j` binary digits more behind the point than their thousandfold `y`. -/
theorem milliseconds_eq_div (hlog : n.log2 < 49) (hj : j ≤ 10)
    (hlow : 2 ^ 52 * 1000 ≤ significand n * 2 ^ j) (hhigh : significand n * 2 ^ j < 2 ^ 53 * 1000)
    (hm : roundDiv (significand n * 2 ^ j) 1000 = m) (hm53 : m ≠ 2 ^ 53)
    (hlow' : 2 ^ (52 + j) ≤ m * 1000) (hhigh' : m * 1000 < 2 ^ (53 + j))
    (hy : roundDiv (m * 1000) (2 ^ j) = y) (hy53 : y ≠ 2 ^ 53) :
    milliseconds (1000 * n) = (y / 2 ^ (52 - n.log2) : Nat) := by
  obtain ⟨t, ht⟩ : ∃ t, t = 52 - n.log2 := ⟨_, rfl⟩
  have hden : 1000000 = 1000 * 1000 := rfl
  have hsplit : 2 ^ (t + j) = 2 ^ t * 2 ^ j := Nat.pow_add ..
  have hdigits : 1000 * n * 2 ^ (t + j) = 1000 * (significand n * 2 ^ j) := by
    rw [significand, ← ht, hsplit]
    ring
  have hrounded : roundDiv (1000 * n * 2 ^ (t + j)) 1000000 = m := by
    rw [hdigits, hden, roundDiv_mul_mul_left (by decide) (by decide), hm]
  have hseconds : ofQuotient (1000 * n) 1000000 = finite false m (-((t + j : Nat) : Int)) := by
    have hsign : decide ((1000 * n : Int) < 0) = false := decide_eq_false (by omega)
    have habs : (1000 * n : Int).natAbs = 1000 * n := by omega
    rw [ofQuotient, hsign, habs, ofRatio_eq_finite (s := t + j) (by decide) (by omega) (by omega) _ _ _,
      hrounded]
    · omega
    · omega
    · rwa [hrounded]
  have hrounded' : roundDiv (m * 1000 * 2 ^ t) (2 ^ (t + j)) = y := by
    rw [hsplit, Nat.mul_comm (m * 1000),
      roundDiv_mul_mul_left (Nat.two_pow_pos t) (Nat.two_pow_pos j), hy]
  have hproduct : (finite false m (-((t + j : Nat) : Int))).mulNat 1000 = finite false y (-(t : Int)) := by
    rw [mulNat_finite, ofRatio_eq_finite (s := t) (Nat.two_pow_pos _) (by omega) (by omega) _ _ _,
      hrounded']
    · calc 2 ^ 52 * 2 ^ (t + j) = 2 ^ (52 + j) * 2 ^ t := by ring
        _ ≤ m * 1000 * 2 ^ t := Nat.mul_le_mul_right _ hlow'
    · calc m * 1000 * 2 ^ t < 2 ^ (53 + j) * 2 ^ t :=
            Nat.mul_lt_mul_of_pos_right hhigh' (Nat.two_pow_pos t)
        _ = 2 ^ 53 * 2 ^ (t + j) := by ring
    · rwa [hrounded']
  rw [milliseconds, hseconds, hproduct, truncate?_finite, ← ht]
  rfl

/-- The seconds of a number that is small against its power of two have one digit more behind the point,
and what rounding takes from them does not matter. -/
theorem milliseconds_of_small (hn : 0 < n) (hlarge : n < 2 ^ 49)
    (hsmall : 64 * significand n < 125 * 2 ^ 52) : milliseconds (1000 * n) = n := by
  have hlog : n.log2 < 49 := (Nat.log2_lt hn.ne').2 hlarge
  obtain ⟨hlow, hhigh⟩ := significand_bounds hn (by omega)
  have hmod := significand_mod hlarge
  obtain ⟨hbelow, habove⟩ := roundDiv_dist (significand n * 2 ^ 10) 1000 (by decide)
  have hexact : roundDiv (roundDiv (significand n * 2 ^ 10) 1000 * 1000) (2 ^ 10) = significand n :=
    (roundDiv_eq_iff (by decide)).2 (.inl (by omega))
  rw [milliseconds_eq_div hlog (Nat.le_refl _) (by omega) (by omega) rfl (by omega) (by omega)
    (by omega) hexact (by omega), significand, Nat.mul_div_cancel _ (Nat.two_pow_pos _)]

/-- The thousandfold of rounded seconds, where rounding takes more than half a digit away. -/
theorem isNearest_of_short (hx : 0 < x) (hbelow : 2 * (1000 * m) ≤ 2 * (x * 2 ^ 9) + 1000)
    (habove : 2 * (x * 2 ^ 9) ≤ 2 * (1000 * m) + 1000) (hlow : 32 < 64 * x % 125)
    (hhigh : 64 * x % 125 < 63) : IsNearest (m * 1000) (2 ^ 9) (x - 1) := by
  have hdown : m = 64 * x / 125 := by omega
  exact .inl (by omega)

/-- Otherwise rounding takes half a digit away at most, or adds less than a whole one. -/
theorem isNearest_of_not_short (hmod : x % 16 = 0) (hbelow : 2 * (1000 * m) ≤ 2 * (x * 2 ^ 9) + 1000)
    (habove : 2 * (x * 2 ^ 9) ≤ 2 * (1000 * m) + 1000)
    (h : ¬ (32 < 64 * x % 125 ∧ 64 * x % 125 < 63)) :
    IsNearest (m * 1000) (2 ^ 9) x ∨ IsNearest (m * 1000) (2 ^ 9) (x + 1) := by
  obtain hlow | hhigh : 64 * x % 125 ≤ 32 ∨ 63 ≤ 64 * x % 125 := by omega
  · have hdown : m = 64 * x / 125 := by omega
    left
    unfold IsNearest
    omega
  · have hup : m = 64 * x / 125 + 1 := by omega
    by_cases hhalf : 93 ≤ 64 * x % 125
    · left
      unfold IsNearest
      omega
    · exact .inr (.inl (by omega))

theorem milliseconds_of_large (hn : 0 < n) (hlarge : n < 2 ^ 49)
    (hbig : 125 * 2 ^ 52 ≤ 64 * significand n) :
    milliseconds (1000 * n) = (if IsShort n then n - 1 else n : Nat) := by
  have hlog : n.log2 < 49 := (Nat.log2_lt hn.ne').2 hlarge
  obtain ⟨hlow, hhigh⟩ := significand_bounds hn (by omega)
  have hmod := significand_mod hlarge
  obtain ⟨m, hm⟩ : ∃ m, roundDiv (significand n * 2 ^ 9) 1000 = m := ⟨_, rfl⟩
  obtain ⟨hbelow, habove⟩ := roundDiv_dist (significand n * 2 ^ 9) 1000 (by decide)
  rw [hm] at hbelow habove
  have hnearest {y : Nat} (hy : IsNearest (m * 1000) (2 ^ 9) y) (hy53 : y ≠ 2 ^ 53) :
      milliseconds (1000 * n) = (y / 2 ^ (52 - n.log2) : Nat) :=
    milliseconds_eq_div hlog (by decide) (by omega) (by omega) hm (by omega) (by omega) (by omega)
      ((roundDiv_eq_iff (by decide)).2 hy) hy53
  have hpow : 2 ^ 4 ≤ 2 ^ (52 - n.log2) := Nat.pow_le_pow_right (by decide) (by omega)
  have hexact : significand n = n * 2 ^ (52 - n.log2) := rfl
  have hnext : (n + 1) * 2 ^ (52 - n.log2) = significand n + 2 ^ (52 - n.log2) := Nat.succ_mul _ _
  have hprevious : (n - 1) * 2 ^ (52 - n.log2) = significand n - 2 ^ (52 - n.log2) := Nat.sub_one_mul _ _
  by_cases hshort : IsShort n
  · rw [if_pos hshort, hnearest (isNearest_of_short (by omega) hbelow habove hshort.2.1 hshort.2.2) (by omega)]
    congr 1
    exact Nat.div_eq_of_lt_le (by omega) (by rw [Nat.sub_add_cancel hn]; omega)
  · have hnot : ¬ (32 < 64 * significand n % 125 ∧ 64 * significand n % 125 < 63) :=
      fun h => hshort ⟨hbig, h⟩
    rw [if_neg hshort]
    obtain hy | hy := isNearest_of_not_short hmod hbelow habove hnot
    · rw [hnearest hy (by omega), hexact, Nat.mul_div_cancel _ (Nat.two_pow_pos _)]
    · rw [hnearest hy (by omega)]
      congr 1
      exact Nat.div_eq_of_lt_le (by omega) (by omega)

/-- Only such durations lose anything, and never more than one millisecond. -/
theorem milliseconds_of_whole (hlarge : n < 2 ^ 49) :
    milliseconds (1000 * n) = (if IsShort n then n - 1 else n : Nat) := by
  obtain rfl | hn := Nat.eq_zero_or_pos n
  · decide +kernel
  · obtain hsmall | hbig := Nat.lt_or_ge (64 * significand n) (125 * 2 ^ 52)
    · have hexact : ¬ IsShort n := fun hshort => Nat.not_le_of_lt hsmall hshort.1
      rw [milliseconds_of_small hn hlarge hsmall, if_neg hexact]
    · exact milliseconds_of_large hn hlarge hbig

example : (List.range 1010).filter (fun n => IsShort n) = [1001, 1003, 1005, 1007, 1009] := by
  decide +kernel

/-- Durations of whole eighths of a second are never short. -/
theorem not_isShort_of_dvd (h : 125 ∣ n) : ¬ IsShort n := by
  intro hshort
  have hmod : 64 * significand n % 125 = 0 :=
    Nat.mod_eq_zero_of_dvd (Nat.dvd_mul_left_of_dvd (Nat.dvd_mul_right_of_dvd h _) _)
  exact absurd hshort.2.1 (by omega)

variable {start finish : Moment} {threads messages : Int} {s : Stats}

theorem lt_of_isInRange (hstart : Moment.isInRange start.wall) (hfinish : Moment.isInRange finish.wall)
    (hwhole : finish.wall - start.wall = 1000 * n) : n < 2 ^ 49 := by
  have hlimit : Moment.limit < 1000 * 2 ^ 49 := by decide
  simp only [Moment.isInRange, Bool.and_eq_true, decide_eq_true_eq] at hstart hfinish
  omega

/-- A run of a whole number of milliseconds, between two moments of the calendar on one clock, is recorded
with this number, or with one less if the number is short. -/
theorem addRecord_of_whole (hstart : start.offset = none) (hfinish : finish.offset = none)
    (hinRange : Moment.isInRange start.wall) (hinRange' : Moment.isInRange finish.wall)
    (hwhole : finish.wall - start.wall = 1000 * n) (hthreads : isStorable threads)
    (hmessages : isStorable messages) :
    s.addRecord start finish threads messages = .ok { s with
      records := s.records ++
        [⟨s.nextRecord, start, threads, messages, (if IsShort n then n - 1 else n : Nat)⟩]
      nextRecord := s.nextRecord + 1 } := by
  have hinstants : finish.instant - start.instant = 1000 * n := by
    simp only [Moment.instant, hstart, hfinish, Option.getD_none, Int.sub_zero, hwhole]
  unfold addRecord
  rw [hstart, hfinish, if_neg (by decide), hthreads, hmessages, Bool.and_self, if_pos rfl, hinstants,
    milliseconds_of_whole (lt_of_isInRange hinRange hinRange' hwhole)]

def noonPlus (micros : Int) : Moment :=
  ⟨63844891200000000 + micros, none⟩

theorem addRecord_of_two_seconds :
    (noonPlus 2000000).wall - (noonPlus 0).wall = 1000 * (2000 : Nat) ∧
      ({} : Stats).addRecord (noonPlus 0) (noonPlus 2000000) 3 7 =
        .ok ⟨[⟨1, noonPlus 0, 3, 7, 2000⟩], 2, []⟩ := by
  refine ⟨rfl, ?_⟩
  rw [addRecord_of_whole (n := 2000) rfl rfl rfl rfl rfl rfl rfl, if_neg (not_isShort_of_dvd ⟨16, rfl⟩)]
  rfl

/-- One second and one millisecond are recorded as one second. -/
theorem addRecord_ne_of_noon : ∃ start finish : Moment,
    Calendar.readMoment? "2024-03-01T12:00:00" = some start ∧
      Calendar.readMoment? "2024-03-01T12:00:01.001" = some finish ∧
      start.offset = none ∧ finish.offset = none ∧ finish.wall - start.wall = 1000 * 1001 ∧
      (({} : Stats).addRecord start finish 1 1).map (fun s => s.records.map (·.duration)) =
        .ok [1000] :=
  ⟨noonPlus 0, noonPlus 1001000, by decide +kernel, by decide +kernel, rfl, rfl, rfl, by decide +kernel⟩

end Stats

end MailTriage
