import MailTriage.Mail.Address
import MailTriage.Proofs.Words

namespace MailTriage.Mail

variable {s e e' done part : List Char}

def IsLineEnd (e : List Char) : Prop :=
  e = ['\n'] ∨ e = ['\r', '\n']

/-- An empty line is made of two ends of lines, each of which may be short or long. -/
theorem startsBlankLine_iff :
    startsBlankLine s ↔ ∃ e e', IsLineEnd e ∧ IsLineEnd e' ∧ e ++ e' <+: s := by
  constructor
  · intro h
    unfold startsBlankLine at h
    split at h
    · exact ⟨_, _, .inr rfl, .inr rfl, List.prefix_append _ _⟩
    · exact ⟨_, _, .inr rfl, .inl rfl, List.prefix_append _ _⟩
    · exact ⟨_, _, .inl rfl, .inr rfl, List.prefix_append _ _⟩
    · exact ⟨_, _, .inl rfl, .inl rfl, List.prefix_append _ _⟩
    · cases h
  · rintro ⟨e, e', rfl | rfl, rfl | rfl, t, rfl⟩ <;> rfl

/-- What starts above an empty line ends with it at the latest. -/
theorem startsBlankLine_append (he : IsLineEnd e) (he' : IsLineEnd e') (c : Char) (s b : List Char) :
    startsBlankLine (c :: (s ++ (e ++ e')) ++ b) = startsBlankLine (c :: (s ++ (e ++ e'))) := by
  rw [Bool.eq_iff_iff, startsBlankLine_iff, startsBlankLine_iff]
  constructor
  · rintro ⟨d, d', hd, hd', hprefix⟩
    by_cases hlength : (d ++ d').length ≤ (c :: (s ++ (e ++ e'))).length
    · exact ⟨d, d', hd, hd', List.prefix_of_prefix_length_le hprefix (List.prefix_append _ b) hlength⟩
    · -- Two long ends of lines would go beyond two short ones, of which they do not hold the first.
      obtain ⟨rfl, rfl, rfl, rfl, rfl⟩ : d = ['\r', '\n'] ∧ d' = ['\r', '\n'] ∧ s = [] ∧
          e = ['\n'] ∧ e' = ['\n'] := by
        rcases hd with rfl | rfl <;> rcases hd' with rfl | rfl <;> rcases he with rfl | rfl <;>
          rcases he' with rfl | rfl <;> simp at hlength ⊢
        exact hlength
      simp at hprefix
  · rintro ⟨d, d', hd, hd', hprefix⟩
    exact ⟨d, d', hd, hd', hprefix.trans (List.prefix_append _ b)⟩

theorem headerSectionFrom_of_startsBlankLine (h : startsBlankLine s) :
    headerSectionFrom done s = done.reverse := by
  cases s with
  | nil => rfl
  | cons c s => rw [headerSectionFrom, if_pos h]

theorem headerSectionFrom_append (he : IsLineEnd e) (he' : IsLineEnd e') (s b : List Char) :
    headerSectionFrom done (s ++ (e ++ e') ++ b) = headerSectionFrom done (s ++ (e ++ e')) := by
  induction s generalizing done with
  | nil =>
    have hstarts (b : List Char) : startsBlankLine (e ++ e' ++ b) :=
      startsBlankLine_iff.2 ⟨e, e', he, he', List.prefix_append _ b⟩
    have hnone := hstarts []
    rw [List.append_nil] at hnone
    rw [List.nil_append, headerSectionFrom_of_startsBlankLine (hstarts b),
      headerSectionFrom_of_startsBlankLine hnone]
  | cons c s ih =>
    have hstarts : startsBlankLine (c :: (s ++ (e ++ e') ++ b)) = startsBlankLine (c :: (s ++ (e ++ e'))) :=
      startsBlankLine_append he he' c s b
    rw [List.cons_append, List.cons_append, headerSectionFrom, headerSectionFrom, hstarts, ih]

/-- The header section ends before the first empty line, whatever follows that line. -/
theorem headerSection_append (he : IsLineEnd e) (he' : IsLineEnd e') (s b : List Char) :
    headerSection (s ++ (e ++ e') ++ b) = headerSection (s ++ (e ++ e')) :=
  headerSectionFrom_append he he' s b

theorem listAddress_congr {raw raw' : String}
    (h : headerSection raw.toList = headerSection raw'.toList) : listAddress raw = listAddress raw' := by
  rw [listAddress, listAddress, h]

/-- One word, in which there is no semicolon. -/
structure IsToken (s : List Char) : Prop where
  word : Text.words s = [s]
  not_blank : ∀ c ∈ s, ¬ Text.isBlank c
  not_semicolon : ';' ∉ s

theorem mem_words_of_listWord? (h : listWord? part = some s) : s ∈ Text.words part := by
  unfold listWord? at h
  split at h
  · next first second rest hwords =>
    split at h
    · rw [hwords, ← Option.some.inj h]
      simp
    · cases h
  · cases h

theorem isToken_of_listWord? (hpart : ';' ∉ part) (h : listWord? part = some s) (hne : s ≠ []) :
    IsToken s := by
  have hword := Text.of_mem_words (mem_words_of_listWord? h)
  have hblank : ∀ c ∈ s, ¬ Text.isBlank c := fun c hc => (hword c hc).1
  exact ⟨Text.words_of_forall hne hblank, hblank, fun hc => hpart (hword ';' hc).2⟩

theorem isToken_listAddress {raw : String} (h : listAddress raw ≠ "") :
    IsToken (listAddress raw).toList := by
  unfold listAddress at h ⊢
  split at h
  · next value hvalue =>
    cases hfound : (Text.splitAtChar ';' (Text.trim value)).findSome? listWord? with
    | none => simp [hfound] at h
    | some word =>
      obtain ⟨part, hmem, hpart⟩ := List.exists_of_findSome?_eq_some hfound
      have hne : word ≠ [] := by
        rintro rfl
        simp [hfound] at h
      simpa [hfound] using isToken_of_listWord? (Text.not_mem_of_mem_splitAtChar hmem) hpart hne
  · exact absurd rfl h

/-- The body of a message has no part in the address of its list, whatever the header section ends with and
whatever the body claims to be. An address that is found is a single token. -/
theorem listAddress_of_headers (h b₁ b₂ : String) {sep : String}
    (hsep : sep = "\n\n" ∨ sep = "\r\n\r\n") :
    listAddress (h ++ sep ++ b₁) = listAddress (h ++ sep ++ b₂) ∧
      ∀ raw, listAddress raw ≠ "" → IsToken (listAddress raw).toList := by
  obtain ⟨e, he, hline⟩ : ∃ e, IsLineEnd e ∧ sep.toList = e ++ e := by
    rcases hsep with rfl | rfl
    · exact ⟨_, .inl rfl, rfl⟩
    · exact ⟨_, .inr rfl, rfl⟩
  refine ⟨?_, fun raw => isToken_listAddress⟩
  apply listAddress_congr
  simp only [String.toList_append, hline]
  rw [headerSection_append he he, headerSection_append he he]

/-- Headers that end in the middle of an end of line, which the empty line behind them takes in. -/
def cutHeaders : String :=
  "Subject: x\r\nMAILING-LIST: list a@x.com; contact b@x.com\r\n\r"

def forgedBody : String :=
  "Mailing-list: list evil@x.com;\n\n"

theorem listAddress_of_headers_forged :
    listAddress (cutHeaders ++ "\n\n" ++ forgedBody) = listAddress (cutHeaders ++ "\n\n" ++ "") ∧
      listAddress (cutHeaders ++ "\n\n" ++ forgedBody) = "a@x.com" ∧
      IsToken (listAddress (cutHeaders ++ "\n\n" ++ forgedBody)).toList := by
  obtain ⟨hsame, htoken⟩ := listAddress_of_headers cutHeaders forgedBody "" (.inl rfl)
  have hlist : listAddress (cutHeaders ++ "\n\n" ++ forgedBody) = "a@x.com" := by decide +kernel
  exact ⟨hsame, hlist, htoken _ (by rw [hlist]; decide)⟩

end MailTriage.Mail
