import MailTriage.Proofs.Condition.Reading
import MailTriage.Proofs.Pattern.Expression
import MailTriage.Proofs.Regex.Causes

namespace MailTriage.Condition

open Text

/-- A part of a text, in slashes, whose expression is refused although nothing is wrong with its form. -/
def Excess (s : List Char) (e : Regex.Error) : Prop :=
  ∃ value body letters, value <:+: s ∧ Pattern.slashed? value = some (body, letters) ∧
    Regex.parse (Pattern.flagsOf letters) body = .error e ∧ e.IsDueTo body ∧
      ∀ p place, e ≠ .malformed p place

variable {s t rest value inner : List Char} {e : Regex.Error} {text text' : String} {isAddress : Bool}
  {fuel : Nat}

theorem Excess.of_isInfix (h : Excess s e) (hs : s <:+: t) : Excess t e := by
  obtain ⟨value, body, letters, hin, hrest⟩ := h
  exact ⟨value, body, letters, hin.trans hs, hrest⟩

theorem dropWhile_isInfix (p : Char → Bool) (s : List Char) : s.dropWhile p <:+: s :=
  (List.dropWhile_suffix p).isInfix

theorem splitKeyword_isInfix (inner : List Char) : (splitKeyword inner).2 <:+: inner :=
  (trim_isInfix _).trans ((dropWhile_isInfix _ _).trans (dropWhile_isInfix _ _))

theorem splitWord_isInfix (s : List Char) : (splitWord s).2 <:+: s :=
  (trim_isInfix _).trans ((dropWhile_isInfix _ _).trans (dropWhile_isInfix _ _))

theorem infix_of_unwrap (h : unwrap s = .ok inner) : inner <:+: s := by
  rw [(unwrap_eq_ok_iff.mp h).1]
  exact ⟨['('], [')'], rfl⟩

theorem Spaced.isInfix {pieces : List (List Char)} (h : Spaced pieces s) : ∀ p ∈ pieces, p <:+: s := by
  induction h with
  | nil => simp
  | @cons w p s pieces hw hp h ih =>
    refine List.forall_mem_cons.2 ⟨⟨w, s, rfl⟩, fun q hq => ?_⟩
    exact (ih q hq).trans (List.suffix_append _ _).isInfix

theorem excess_of_compile {source : String} (h : Pattern.compile isAddress source = .error (.regex e)) :
    Excess source.toList e := by
  have hne : source.toList ≠ [] := by
    intro hnil
    simp [Pattern.compile, hnil] at h
  cases hs : Pattern.slashed? source.toList with
  | none =>
    obtain ⟨r, hr⟩ : ∃ r, Pattern.compile isAddress source = .ok r := Pattern.exists_compile hne hs
    rw [hr] at h
    cases h
  | some p =>
    obtain ⟨body, letters⟩ := p
    simp only [Pattern.compile, Pattern.expression, hs, List.isEmpty_eq_false_iff.2 hne,
      Bool.false_eq_true, if_false] at h
    split at h
    case h_1 => cases h
    case h_2 => cases h
    case h_3 e' hne' hparse =>
      cases h
      have hdue : e.IsDueTo body := Regex.isDueTo_of_parse rfl rfl hparse
      exact ⟨source.toList, body, letters, List.infix_refl _, hs, hparse, hdue,
        fun p place hp => hne' p place hp⟩

theorem excess_of_readPattern (h : readPattern isAddress value s = .error (.pattern text (.regex e))) :
    Excess value e := by
  by_cases hne : value = []
  · simp [readPattern, hne] at h
  · cases hc : Pattern.compile isAddress (String.ofList value) with
    | ok r => simp [readPattern, Pattern.ofText, hne, hc, bind, Except.bind, pure, Except.pure] at h
    | error x =>
      obtain ⟨-, rfl⟩ : String.ofList s = text ∧ x = .regex e := by
        simpa [readPattern, Pattern.ofText, hne, hc, bind, Except.bind] using h
      have hexcess := excess_of_compile hc
      rwa [String.toList_ofList] at hexcess

theorem excess_of_readLeaf {k : Keyword} (h : readLeaf s k rest = .error (.pattern text (.regex e))) :
    Excess rest e := by
  unfold readLeaf at h
  cases k with
  | operator o => cases h
  | field f => exact excess_of_readPattern (error_of_bind_pure h)
  | header =>
    dsimp only at h
    split at h
    case isTrue => cases h
    case isFalse => exact (excess_of_readPattern (error_of_bind_pure h)).of_isInfix (splitWord_isInfix rest)
  | thread =>
    dsimp only at h
    split at h
    case h_1 => cases h
    case h_2 t _ => exact (excess_of_readPattern (error_of_bind_pure h)).of_isInfix (splitWord_isInfix rest)
    case h_3 => cases h

theorem unwrap_ne_pattern (s : List Char) (text : String) (x : PatternError) :
    unwrap s ≠ .error (.pattern text x) := by
  unfold unwrap
  split
  case h_1 inner =>
    split
    case isTrue => split <;> simp
    case isFalse => simp
  case h_2 => simp

theorem combine_ne_pattern (o : Operator) (keyword rest : List Char) (cs : List Condition) (text : String)
    (x : PatternError) : combine o keyword rest cs ≠ .error (.pattern text x) := by
  unfold combine
  split <;> simp

theorem excess_of_readWith (h : readWith fuel s = .error (.pattern text (.regex e))) : Excess s e := by
  induction fuel generalizing s with
  | zero => cases h
  | succ fuel ih =>
    simp only [readWith] at h
    cases hu : unwrap (trim s) with
    | error x =>
      obtain rfl : x = .pattern text (.regex e) := by simpa [hu] using h
      exact absurd hu (unwrap_ne_pattern _ _ _)
    | ok inner =>
      have hinner : (splitKeyword inner).2 <:+: s :=
        (splitKeyword_isInfix inner).trans ((infix_of_unwrap hu).trans (trim_isInfix s))
      simp only [hu] at h
      cases hk : named? Keyword.name Keyword.every (splitKeyword inner).1 with
      | none => simp [hk] at h
      | some k =>
        simp only [hk] at h
        cases k with
        | operator o =>
          cases hp : split (splitKeyword inner).2 with
          | error x => cases x <;> simp [hp] at h
          | ok pieces =>
            simp only [hp] at h
            cases hcs : pieces.mapM (readWith fuel) with
            | error x =>
              obtain rfl : x = .pattern text (.regex e) := by simpa [hcs, bind, Except.bind] using h
              obtain ⟨p, hpiece, hread⟩ := exists_of_mapM_eq_error hcs
              have hin : p <:+: s := ((split_eq_ok_iff.mp hp).isInfix p hpiece).trans hinner
              exact (ih hread).of_isInfix hin
            | ok cs =>
              rw [hcs] at h
              exact absurd h (combine_ne_pattern _ _ _ _ _ _)
        | field _ => exact (excess_of_readLeaf h).of_isInfix hinner
        | header => exact (excess_of_readLeaf h).of_isInfix hinner
        | thread => exact (excess_of_readLeaf h).of_isInfix hinner

theorem excess_of_parse (h : parse text = .error (.pattern text' (.regex e))) : Excess text.toList e :=
  excess_of_readWith h

/-- All other conditions that are refused are refused in words. -/
theorem message?_eq_none_iff {x : ConditionError} :
    x.message? = none ↔ ∃ text e, x = .pattern text (.regex e) := by
  cases x with
  | pattern text p => cases p <;> simp [ConditionError.message?, PatternError.message?]
  | _ => simp [ConditionError.message?]

end MailTriage.Condition
