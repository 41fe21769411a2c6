import MailTriage.Regex.CharTest

namespace MailTriage.Text

variable {table : Array CaseRun} {r : CaseRun} {code fuel lo hi : Nat}

theorem mem_of_findRun (h : findRun table code fuel lo hi = some r) : r ∈ table ∧ r.covers code = true := by
  induction fuel generalizing lo hi with
  | zero => cases h
  | succ fuel ih =>
    unfold findRun at h
    dsimp only at h
    split at h
    case h_1 => cases h
    case h_2 r' hr' =>
      split at h
      case isTrue =>
        split at h
        case isTrue hcovers =>
          cases h
          exact ⟨Array.mem_of_getElem? hr', hcovers⟩
        case isFalse => cases h
      case isFalse => split at h <;> exact ih h

theorem lowerRuns_above : ∀ r ∈ lowerRuns, 65 ≤ (r.first : Int) + r.shift := by
  decide +kernel

theorem lowerVariants_above : ∀ e ∈ lowerVariants, ∀ n ∈ e.2, 65 ≤ n := by
  decide +kernel

theorem lowerCode_of_lt (h : code < 65) : lowerCode code = code := by
  unfold lowerCode
  rw [if_pos (by omega), if_neg (by simp; omega)]

theorem eq_of_lowerCode_lt (h : lowerCode code < 65) : lowerCode code = code := by
  unfold lowerCode at h ⊢
  split at h
  case isTrue hascii =>
    rw [if_pos hascii]
    split at h
    case isTrue hletter =>
      rw [Bool.and_eq_true, decide_eq_true_eq] at hletter
      omega
    case isFalse hletter => exact if_neg hletter
  case isFalse hascii =>
    rw [if_neg hascii]
    split at h
    case isTrue => omega
    case isFalse hdot =>
      rw [if_neg hdot]
      split at h
      case h_2 => omega
      case h_1 r hrun =>
        obtain ⟨hr, hcovers⟩ := mem_of_findRun hrun
        have habove : 65 ≤ (r.first : Int) + r.shift := lowerRuns_above r hr
        have hfirst : r.first ≤ code := by
          simp only [CaseRun.covers, Bool.and_eq_true, decide_eq_true_eq] at hcovers
          exact hcovers.1.1
        simp only [CaseRun.apply, Int.ofNat_eq_natCast] at h
        omega

theorem not_mem_variants (h : code < 65) (n : Nat) : code ∉ variants n := by
  intro hmem
  unfold variants valueAt? at hmem
  cases hfind : lowerVariants.find? (·.1 == n) with
  | none => simp [hfind] at hmem
  | some e =>
    have hmem : code ∈ e.2 := by simpa [hfind] using hmem
    have habove := lowerVariants_above e (Array.mem_of_find?_eq_some hfind) code hmem
    omega

end MailTriage.Text

namespace MailTriage.Regex

variable {c d : Char}

/-- Only the character itself is the same as one without letter case. -/
theorem sameUnder_iff_of_caseless (h : Text.hasCase c.toNat = false) :
    sameUnder .full c.toNat d = true ↔ d = c := by
  have hcase : Folding.hasCase .full c.toNat = false := h
  rw [sameUnder, hcase, if_neg Bool.false_ne_true, beq_iff_eq]
  exact Char.toNat_inj

theorem eq_of_sameUnder (h : sameUnder .full c.toNat d = true) (hd : d.toNat < 65) : d = c := by
  by_cases hcase : Text.hasCase c.toNat = true
  case neg => exact (sameUnder_iff_of_caseless (by simpa using hcase)).1 h
  case pos =>
    have hlower : Folding.full.lower d.toNat = d.toNat := Text.lowerCode_of_lt hd
    have hcase : Folding.full.hasCase c.toNat = true := hcase
    rw [sameUnder, if_pos hcase, hlower, Bool.or_eq_true, beq_iff_eq, List.contains_iff_mem] at h
    rcases h with h | h
    · have h : Text.lowerCode c.toNat = d.toNat := h
      have hcode : Text.lowerCode c.toNat = c.toNat := Text.eq_of_lowerCode_lt (by omega)
      exact Char.toNat_inj.1 (h.symm.trans hcode)
    · exact absurd h (Text.not_mem_variants hd _)

end MailTriage.Regex
