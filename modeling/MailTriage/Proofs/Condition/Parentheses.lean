import MailTriage.Condition.Parse
import MailTriage.Proofs.Trim

/-!
Reading a condition looks at parentheses twice: `unwrap` asks whether the outer ones belong together,
and `split` cuts the text under an operator into expressions. Both are said here by the number of open
parentheses, in `unwrap_eq_ok_iff` and `split_eq_ok_iff`.
-/

namespace MailTriage.Condition

open Text

/-- How many parentheses are open after a text before which `depth` were; none, if the text closes one
that was not open. -/
def depthAfter? (depth : Nat) : List Char → Option Nat
  | [] => some depth
  | c :: s =>
    if c = '(' then depthAfter? (depth + 1) s
    else if c = ')' then
      match depth with
      | 0 => none
      | depth + 1 => depthAfter? depth s
    else depthAfter? depth s

def Balanced (s : List Char) : Prop :=
  depthAfter? 0 s = some 0

instance (s : List Char) : Decidable (Balanced s) :=
  inferInstanceAs (Decidable (depthAfter? 0 s = some 0))

/-- A text in parentheses that belong together. -/
def Enclosed (s : List Char) : Prop :=
  ∃ inner, s = '(' :: (inner ++ [')']) ∧ Balanced inner

variable {s a b inner piece rest : List Char} {d e : Nat} {pieces : List (List Char)}

theorem depthAfter?_append (d : Nat) (a b : List Char) :
    depthAfter? d (a ++ b) = (depthAfter? d a).bind (depthAfter? · b) := by
  induction a generalizing d with
  | nil => rfl
  | cons c a ih =>
    by_cases ho : c = '('
    · simp [depthAfter?, ho, ih]
    by_cases hc : c = ')'
    · cases d <;> simp [depthAfter?, hc, ih]
    · simp [depthAfter?, ho, hc, ih]

theorem depthAfter?_add (k : Nat) (h : depthAfter? d s = some e) : depthAfter? (d + k) s = some (e + k) := by
  induction s generalizing d with
  | nil => simpa [depthAfter?] using h
  | cons c s ih =>
    by_cases ho : c = '('
    · simp only [depthAfter?, if_pos ho] at h ⊢
      rw [Nat.add_right_comm]
      exact ih h
    by_cases hc : c = ')'
    · cases d with
      | zero => simp [depthAfter?, hc] at h
      | succ d =>
        simp only [depthAfter?, if_neg ho, if_pos hc] at h
        simpa [depthAfter?, hc, Nat.add_right_comm] using ih h
    · simp only [depthAfter?, if_neg ho, if_neg hc] at h ⊢
      exact ih h

theorem depthAfter?_of_forall (d : Nat) (h : ∀ c ∈ s, c ≠ '(' ∧ c ≠ ')') : depthAfter? d s = some d := by
  induction s with
  | nil => rfl
  | cons c s ih =>
    rw [List.forall_mem_cons] at h
    simp [depthAfter?, h.1, ih h.2]

theorem depthAfter?_append_of_forall (d : Nat) (h : ∀ c ∈ a, c ≠ '(' ∧ c ≠ ')') :
    depthAfter? d (a ++ b) = depthAfter? d b := by
  rw [depthAfter?_append, depthAfter?_of_forall d h, Option.bind_some]

theorem ne_paren_of_isBlank {c : Char} (h : isBlank c) : c ≠ '(' ∧ c ≠ ')' := by
  constructor <;> rintro rfl <;> simp [isBlank] at h

theorem depthAfter?_blank_append (d : Nat) (h : Blank a) : depthAfter? d (a ++ b) = depthAfter? d b :=
  depthAfter?_append_of_forall d fun c hc => ne_paren_of_isBlank (h c hc)

theorem depthAfter?_trim (d : Nat) (s : List Char) : depthAfter? d (trim s) = depthAfter? d s := by
  obtain ⟨w, w', hw, hw', h⟩ := exists_blank_append_trim s
  have hend : depthAfter? d (trim s ++ w') = depthAfter? d (trim s) := by
    rw [depthAfter?_append]
    cases depthAfter? d (trim s) with
    | none => rfl
    | some e => exact depthAfter?_of_forall e fun c hc => ne_paren_of_isBlank (hw' c hc)
  conv_rhs => rw [h]
  rw [List.append_assoc, depthAfter?_blank_append d hw, hend]

theorem Balanced.append (ha : Balanced a) (hb : Balanced b) : Balanced (a ++ b) := by
  rw [Balanced, depthAfter?_append, ha]
  exact hb

theorem Enclosed.balanced (h : Enclosed s) : Balanced s := by
  obtain ⟨inner, rfl, hi⟩ := h
  have h1 : depthAfter? 1 inner = some 1 := depthAfter?_add 1 hi
  rw [Balanced, depthAfter?, if_pos rfl, depthAfter?_append, Nat.zero_add, h1]
  rfl

theorem afterClosing?_of_some (h : depthAfter? d inner = some e) :
    afterClosing? (d + 1) (inner ++ [')']) = if e = 0 then some [] else none := by
  induction inner generalizing d with
  | nil =>
    obtain rfl : d = e := by simpa [depthAfter?] using h
    cases d <;> simp [afterClosing?]
  | cons c inner ih =>
    rw [List.cons_append]
    by_cases ho : c = '('
    · simp only [depthAfter?, afterClosing?, if_pos ho] at h ⊢
      exact ih h
    by_cases hc : c = ')'
    · cases d with
      | zero => simp [depthAfter?, hc] at h
      | succ d =>
        simp only [depthAfter?, if_neg ho, if_pos hc] at h
        simpa [afterClosing?, hc] using ih h
    · simp only [depthAfter?, afterClosing?, if_neg ho, if_neg hc] at h ⊢
      exact ih h

theorem afterClosing?_of_none (h : depthAfter? d inner = none) :
    ∃ c s, afterClosing? (d + 1) (inner ++ [')']) = some (c :: s) := by
  induction inner generalizing d with
  | nil => simp [depthAfter?] at h
  | cons c inner ih =>
    rw [List.cons_append]
    by_cases ho : c = '('
    · simp only [depthAfter?, afterClosing?, if_pos ho] at h ⊢
      exact ih h
    by_cases hc : c = ')'
    · cases d with
      | zero => cases inner <;> simp [afterClosing?, hc]
      | succ d =>
        simp only [depthAfter?, if_neg ho, if_pos hc] at h
        simpa [afterClosing?, hc] using ih h
    · simp only [depthAfter?, afterClosing?, if_neg ho, if_neg hc] at h ⊢
      exact ih h

/-- What stands between the outer parentheses closes none that it did not open. It may leave some
open. -/
theorem unwrap_eq_ok_iff :
    unwrap s = .ok inner ↔ s = '(' :: (inner ++ [')']) ∧ (depthAfter? 0 inner).isSome := by
  constructor
  · intro h
    match s with
    | [] => simp [unwrap] at h
    | c :: t =>
      by_cases hc : c = '('
      · subst hc
        by_cases hlast : t.getLast? = some ')'
        · -- The first parenthesis is closed before the end just if `a` closes one too many.
          obtain ⟨a, rfl⟩ := List.getLast?_eq_some_iff.1 hlast
          cases ha : depthAfter? 0 a with
          | none =>
            obtain ⟨c, s, hs⟩ := afterClosing?_of_none ha
            simp [unwrap, afterClosing?, hs] at h
          | some e =>
            have hs := afterClosing?_of_some ha
            have hin : a = inner := by by_cases h0 : e = 0 <;> simpa [unwrap, afterClosing?, hs, h0] using h
            subst hin
            simp [ha]
        · simp [unwrap, hlast] at h
      · simp [unwrap, hc] at h
  · rintro ⟨rfl, h⟩
    obtain ⟨e, he⟩ := Option.isSome_iff_exists.1 h
    have hs := afterClosing?_of_some he
    by_cases h0 : e = 0 <;> simp [unwrap, afterClosing?, hs, h0]

/-- A text of some expressions in parentheses, with white space around them. -/
inductive Spaced : List (List Char) → List Char → Prop
  | nil {w : List Char} (hw : Blank w) : Spaced [] w
  | cons {w p s : List Char} {pieces : List (List Char)} (hw : Blank w) (hp : Enclosed p)
      (h : Spaced pieces s) : Spaced (p :: pieces) (w ++ p ++ s)

theorem Spaced.blank_cons {c : Char} (hc : isBlank c) (h : Spaced pieces s) : Spaced pieces (c :: s) := by
  cases h with
  | nil hw => exact .nil (List.forall_mem_cons.2 ⟨hc, hw⟩)
  | @cons w p s pieces hw hp h => exact .cons (w := c :: w) (List.forall_mem_cons.2 ⟨hc, hw⟩) hp h

theorem Spaced.enclosed (h : Spaced pieces s) : ∀ p ∈ pieces, Enclosed p := by
  induction h with
  | nil => simp
  | cons _ hp _ ih => exact List.forall_mem_cons.2 ⟨hp, ih⟩

theorem Spaced.length_le (h : Spaced pieces s) : ∀ p ∈ pieces, p.length ≤ s.length := by
  induction h with
  | nil => simp
  | cons _ _ _ ih =>
    refine List.forall_mem_cons.2 ⟨?_, fun p hp => ?_⟩
    · simp only [List.length_append]
      omega
    · have := ih p hp
      simp only [List.length_append]
      omega

theorem Spaced.balanced (h : Spaced pieces s) : Balanced s := by
  induction h with
  | nil hw => exact depthAfter?_of_forall 0 fun c hc => ne_paren_of_isBlank (hw c hc)
  | cons hw hp _ ih =>
    rw [List.append_assoc, Balanced, depthAfter?_blank_append 0 hw]
    exact hp.balanced.append ih

theorem Spaced.trimRight (h : Spaced pieces s) : Spaced pieces (trimRight s) := by
  induction h with
  | @nil w hw =>
    have hnil := trimRight_append (s := []) hw
    rw [List.nil_append] at hnil
    exact hnil ▸ .nil blank_nil
  | @cons w p s pieces hw hp h ih =>
    obtain ⟨inner, rfl, hi⟩ := hp
    have hsplit : Text.trimRight (w ++ '(' :: (inner ++ [')']) ++ s) =
        w ++ '(' :: (inner ++ [')']) ++ Text.trimRight s := by
      have hlast := trimRight_append_of_last (s := w ++ '(' :: inner) (w := s) (c := ')') (by simp [isBlank])
      simpa using hlast
    rw [hsplit]
    exact .cons hw ⟨inner, rfl, hi⟩ ih

theorem Spaced.trim (h : Spaced pieces s) : Spaced pieces (trim s) := by
  refine Spaced.trimRight ?_
  cases h with
  | nil hw => exact .nil fun c hc => hw c ((List.dropWhile_sublist isBlank).subset hc)
  | @cons w p s pieces hw hp h =>
    obtain ⟨inner, rfl, hi⟩ := hp
    rw [List.append_assoc, trimLeft_append hw,
      trimLeft_eq_self_iff.2 (by simp [isBlank])]
    exact .cons (w := []) blank_nil ⟨inner, rfl, hi⟩ h

theorem splitFrom_append (h : depthAfter? d inner = some e) (piece rest : List Char) :
    splitFrom (d + 1) piece (inner ++ rest) = splitFrom (e + 1) (inner.reverse ++ piece) rest := by
  induction inner generalizing d piece with
  | nil =>
    obtain rfl : d = e := by simpa [depthAfter?] using h
    rfl
  | cons c inner ih =>
    rw [List.cons_append, List.reverse_cons, List.append_assoc, List.singleton_append]
    by_cases ho : c = '('
    · simp only [depthAfter?, if_pos ho] at h
      rw [splitFrom, if_pos ho]
      exact ih h _
    by_cases hc : c = ')'
    · cases d with
      | zero => simp [depthAfter?, hc] at h
      | succ d =>
        simp only [depthAfter?, if_neg ho, if_pos hc] at h
        rw [splitFrom, if_neg ho, if_neg (by omega), if_pos hc, if_neg (by omega)]
        exact ih h _
    · simp only [depthAfter?, if_neg ho, if_neg hc] at h
      rw [splitFrom, if_neg ho, if_neg (by omega), if_neg hc]
      exact ih h _

theorem splitFrom_blank_append (h : Blank a) (piece rest : List Char) :
    splitFrom 0 piece (a ++ rest) = splitFrom 0 piece rest := by
  induction a with
  | nil => rfl
  | cons c a ih =>
    rw [Blank, List.forall_mem_cons] at h
    rw [List.cons_append, splitFrom, if_neg (ne_paren_of_isBlank h.1).1, if_pos rfl, if_pos h.1, ih h.2]

theorem splitFrom_enclosed (h : Balanced inner) (rest : List Char) :
    splitFrom 0 [] ('(' :: (inner ++ [')']) ++ rest) =
      (splitFrom 0 [] rest).map (('(' :: (inner ++ [')'])) :: ·) := by
  have hassoc : '(' :: (inner ++ [')']) ++ rest = '(' :: (inner ++ ')' :: rest) := by simp
  rw [hassoc, splitFrom, if_pos rfl, splitFrom_append h, splitFrom]
  cases splitFrom 0 [] rest <;> simp [bind, Except.bind, pure, Except.pure, Except.map]

theorem split_of_spaced (h : Spaced pieces s) : split s = .ok pieces := by
  induction h with
  | @nil w hw =>
    have hnil := splitFrom_blank_append hw [] []
    rw [List.append_nil] at hnil
    exact hnil
  | cons hw hp _ ih =>
    obtain ⟨inner, rfl, hi⟩ := hp
    rw [split] at ih
    rw [split, List.append_assoc, splitFrom_blank_append hw, splitFrom_enclosed hi, ih]
    rfl

/-- Where a row of expressions is read inside one of them, it is closed somewhere. -/
theorem exists_closing (h : splitFrom (d + 1) piece s = .ok pieces) :
    ∃ inner rest, s = inner ++ ')' :: rest ∧ depthAfter? d inner = some 0 := by
  induction s generalizing d piece with
  | nil => simp [splitFrom] at h
  | cons c s ih =>
    by_cases ho : c = '('
    · rw [splitFrom, if_pos ho] at h
      obtain ⟨inner, rest, rfl, hi⟩ := ih h
      exact ⟨c :: inner, rest, rfl, by simpa [depthAfter?, ho] using hi⟩
    rw [splitFrom, if_neg ho, if_neg (by omega)] at h
    by_cases hc : c = ')'
    · cases d with
      | zero => exact ⟨[], s, by rw [hc]; rfl, rfl⟩
      | succ d =>
        rw [if_pos hc, if_neg (by omega)] at h
        obtain ⟨inner, rest, rfl, hi⟩ := ih h
        exact ⟨c :: inner, rest, rfl, by simpa [depthAfter?, hc] using hi⟩
    · rw [if_neg hc] at h
      obtain ⟨inner, rest, rfl, hi⟩ := ih h
      exact ⟨c :: inner, rest, rfl, by simpa [depthAfter?, ho, hc] using hi⟩

theorem spaced_of_splitFrom (s : List Char) {pieces : List (List Char)}
    (h : splitFrom 0 [] s = .ok pieces) : Spaced pieces s := by
  match s with
  | [] =>
    obtain rfl : [] = pieces := by simpa [splitFrom] using h
    exact .nil blank_nil
  | c :: s =>
    by_cases ho : c = '('
    · -- An expression ends where its parenthesis is closed, and the row goes on behind it.
      have hin : splitFrom (0 + 1) [c] s = .ok pieces := by rwa [splitFrom, if_pos ho] at h
      obtain ⟨inner, rest, hs, hi⟩ := exists_closing hin
      have hassoc : c :: s = '(' :: (inner ++ [')']) ++ rest := by simp [ho, hs]
      rw [hassoc, splitFrom_enclosed hi] at h
      cases hrest : splitFrom 0 [] rest with
      | error e => simp [hrest, Except.map] at h
      | ok pieces' =>
        obtain rfl : ('(' :: (inner ++ [')'])) :: pieces' = pieces := by
          simpa [hrest, Except.map] using h
        rw [hassoc]
        exact .cons (w := []) blank_nil ⟨inner, rfl, hi⟩ (spaced_of_splitFrom rest hrest)
    · rw [splitFrom, if_neg ho, if_pos rfl] at h
      by_cases hb : isBlank c
      · rw [if_pos hb] at h
        exact (spaced_of_splitFrom s h).blank_cons hb
      · simp [hb] at h
termination_by s.length
decreasing_by
  · simp only [hs, List.length_cons, List.length_append]
    omega
  · simp

theorem split_eq_ok_iff : split s = .ok pieces ↔ Spaced pieces s :=
  ⟨spaced_of_splitFrom s, split_of_spaced⟩

end MailTriage.Condition
