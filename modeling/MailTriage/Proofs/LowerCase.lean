import MailTriage.Proofs.LetterCase
import MailTriage.Proofs.Words

/-!
The lower case of a capital sigma depends on the letters around it, across all characters that do not end a
word. Nothing is looked for beyond a character that does end one, so a text can be cut there before it is
written in small letters: `lower_append`.
-/

namespace MailTriage.Text

/-- A character without letter case that is not passed over either when letters are looked for. -/
structure EndsWord (c : Char) : Prop where
  not_ignorable : ¬ isCaseIgnorable c
  not_cased : ¬ isCased c

theorem endsWord_comma : EndsWord ',' where
  not_ignorable := by decide
  not_cased := by decide

variable {before before' after after' s : List Char} {c d : Char}

theorem meetsCased_cons :
    meetsCased (c :: s) = if isCaseIgnorable c then meetsCased s else isCased c := by
  by_cases h : isCaseIgnorable c
  · simp [meetsCased, h]
  · simp [meetsCased, h]

/-- The search for a letter comes to an end where a word does. -/
theorem meetsCased_append (h : EndsWord c) (s t : List Char) :
    meetsCased (s ++ c :: t) = meetsCased s := by
  induction s with
  | nil =>
    rw [List.nil_append, meetsCased_cons, if_neg h.not_ignorable]
    exact Bool.eq_false_iff.2 h.not_cased
  | cons d s ih => rw [List.cons_append, meetsCased_cons, meetsCased_cons, ih]

theorem lowerChar_congr (hbefore : meetsCased before = meetsCased before')
    (hafter : meetsCased after = meetsCased after') :
    lowerChar before c after = lowerChar before' c after' := by
  rw [lowerChar, lowerChar, hbefore, hafter]

theorem lowerChar_of_ne (hsigma : c ≠ 'Σ') (hdot : c ≠ 'İ') :
    lowerChar before c after = [Char.ofNat (lowerCode c.toNat)] := by
  rw [lowerChar, if_neg (by simpa using hsigma), if_neg (by simpa using hdot)]

theorem lowerChar_of_endsWord (h : EndsWord c) :
    lowerChar before c after = [Char.ofNat (lowerCode c.toNat)] := by
  apply lowerChar_of_ne
  case hsigma =>
    rintro rfl
    exact h.not_cased (by decide +kernel)
  case hdot =>
    rintro rfl
    exact h.not_cased (by decide +kernel)

/-- The lower case of a text that stands behind another one, which is given with its last character first. -/
def lowerAfter (before s : List Char) : List Char :=
  lowerOnto [] before s

theorem lowerOnto_eq (done before s : List Char) :
    lowerOnto done before s = done.reverse ++ lowerAfter before s := by
  induction s generalizing done before with
  | nil => simp [lowerAfter, lowerOnto]
  | cons c s ih =>
    rw [lowerAfter, lowerOnto, lowerOnto, ih, ih ((lowerChar before c s).reverse ++ [])]
    simp

theorem lowerAfter_cons :
    lowerAfter before (c :: s) = lowerChar before c s ++ lowerAfter (c :: before) s := by
  rw [lowerAfter, lowerOnto, lowerOnto_eq]
  simp

theorem lowerAfter_congr (h : meetsCased before = meetsCased before') :
    lowerAfter before s = lowerAfter before' s := by
  induction s generalizing before before' with
  | nil => rfl
  | cons c s ih =>
    have hnext : meetsCased (c :: before) = meetsCased (c :: before') := by
      rw [meetsCased_cons, meetsCased_cons, h]
    rw [lowerAfter_cons, lowerAfter_cons, lowerChar_congr h rfl, ih hnext]

theorem lowerAfter_append (h : EndsWord c) (before a b : List Char) :
    lowerAfter before (a ++ c :: b) =
      lowerAfter before a ++ Char.ofNat (lowerCode c.toNat) :: lower b := by
  induction a generalizing before with
  | nil =>
    have hbehind : lowerAfter (c :: before) b = lower b :=
      lowerAfter_congr (meetsCased_append h [] before)
    rw [List.nil_append, lowerAfter_cons, lowerChar_of_endsWord h, hbehind]
    rfl
  | cons d a ih =>
    have hchar : lowerChar before d (a ++ c :: b) = lowerChar before d a :=
      lowerChar_congr rfl (meetsCased_append h a b)
    rw [List.cons_append, lowerAfter_cons, lowerAfter_cons, hchar, ih, List.append_assoc]

/-- Where a word ends, the lower case of a text is that of its parts. -/
theorem lower_append (h : EndsWord c) (a b : List Char) :
    lower (a ++ c :: b) = lower a ++ Char.ofNat (lowerCode c.toNat) :: lower b :=
  lowerAfter_append h [] a b

theorem toNat_ofNat_of_pos {n : Nat} (h : 0 < (Char.ofNat n).toNat) : (Char.ofNat n).toNat = n := by
  by_cases hvalid : n.isValidChar
  · rw [Char.ofNat, dif_pos hvalid]
    rfl
  · rw [Char.ofNat, dif_neg hvalid] at h
    exact absurd h (by decide)

theorem eq_of_mem_lowerChar (h : d ∈ lowerChar before c after) (hpos : 0 < d.toNat)
    (hlt : d.toNat < 65) : d = c := by
  by_cases hsigma : c = 'Σ'
  · have hform : d = 'ς' ∨ d = 'σ' := by
      rw [hsigma, lowerChar, if_pos (beq_self_eq_true _)] at h
      split at h
      case isTrue => exact .inl (List.mem_singleton.1 h)
      case isFalse => exact .inr (List.mem_singleton.1 h)
    rcases hform with rfl | rfl
    · exact absurd hlt (by decide)
    · exact absurd hlt (by decide)
  by_cases hdot : c = 'İ'
  · obtain rfl | rfl : d = 'i' ∨ d = Char.ofNat 0x307 := by simpa [hdot, lowerChar] using h
    · exact absurd hlt (by decide)
    · exact absurd hlt (by decide)
  rw [lowerChar_of_ne hsigma hdot, List.mem_singleton] at h
  have hcode : d.toNat = lowerCode c.toNat := by
    rw [h] at hpos ⊢
    exact toNat_ofNat_of_pos hpos
  have hself : lowerCode c.toNat = c.toNat := eq_of_lowerCode_lt (by omega)
  exact Char.toNat_inj.1 (hcode.trans hself)

theorem mem_of_mem_lowerAfter (h : d ∈ lowerAfter before s) (hpos : 0 < d.toNat)
    (hlt : d.toNat < 65) : d ∈ s := by
  induction s generalizing before with
  | nil => exact h
  | cons c s ih =>
    rw [lowerAfter_cons, List.mem_append] at h
    rcases h with h | h
    · rw [eq_of_mem_lowerChar h hpos hlt]
      exact List.mem_cons_self
    · exact List.mem_cons_of_mem c (ih h)

theorem mem_of_mem_lower (h : d ∈ lower s) (hpos : 0 < d.toNat) (hlt : d.toNat < 65) : d ∈ s :=
  mem_of_mem_lowerAfter h hpos hlt

/-- A text can be cut at a sign that ends words before or after it is written in small letters. -/
theorem splitAtChar_lower (h : EndsWord c) (hpos : 0 < c.toNat) (hlt : c.toNat < 65) (s : List Char) :
    splitAtChar c (lower s) = (splitAtChar c s).map lower := by
  by_cases hmem : c ∈ s
  case neg =>
    have hlower : c ∉ lower s := fun hc => hmem (mem_of_mem_lower hc hpos hlt)
    rw [splitAtChar_of_not_mem hmem, splitAtChar_of_not_mem hlower, List.map_singleton]
  case pos =>
    obtain ⟨a, b, hs⟩ := List.append_of_mem hmem
    have hlength : a.length + b.length < s.length := by
      rw [hs, List.length_append, List.length_cons]
      omega
    have hlower : lower (a ++ c :: b) = lower a ++ c :: lower b := by
      rw [lower_append h, lowerCode_of_lt hlt, Char.ofNat_toNat]
    rw [hs, hlower, splitAtChar_append, splitAtChar_append, splitAtChar_lower h hpos hlt a,
      splitAtChar_lower h hpos hlt b, List.map_append]
termination_by s.length

end MailTriage.Text
