import MailTriage.Proofs.Pattern.Enclosed

namespace MailTriage.Pattern

open Regex

variable {s rest body letters value v m : List Char} {pattern : String} {r : Regex} {isAddress : Bool}

/-- An expression between slashes with flags behind it. As at the end of any expression, one last newline
may follow. -/
def IsSlashed (s : List Char) : Prop :=
  ∃ body letters, (∀ c ∈ letters, isFlagLetter c = true) ∧
    (s = '/' :: (body ++ '/' :: letters) ∨ s = '/' :: (body ++ '/' :: (letters ++ ['\n'])))

def IsQuoted (s : List Char) : Prop :=
  ∃ value, s = '"' :: (value ++ ['"'])

theorem not_isSlashed_of_head {c : Char} (hc : c ≠ '/') : ¬ IsSlashed (c :: s) := by
  rintro ⟨body, letters, -, h | h⟩ <;> exact hc (List.cons.inj h).1

theorem not_isQuoted_of_head {c : Char} (hc : c ≠ '"') : ¬ IsQuoted (c :: s) := by
  rintro ⟨value, h⟩
  exact hc (List.cons.inj h).1

theorem splitLastSlash?_append (h : '/' ∉ rest) :
    splitLastSlash? (body ++ '/' :: rest) = some (body, rest) := by
  have hkept : ∀ c ∈ rest.reverse, (c != '/') = true := by
    intro c hc
    rw [bne_iff_ne]
    rintro rfl
    exact h (List.mem_reverse.1 hc)
  have hreverse : (body ++ '/' :: rest).reverse = rest.reverse ++ '/' :: body.reverse := by simp
  simp only [splitLastSlash?, hreverse, List.dropWhile_append_of_pos hkept, List.takeWhile_append_of_pos hkept]
  simp

theorem eq_of_splitLastSlash? (h : splitLastSlash? s = some (body, rest)) : s = body ++ '/' :: rest := by
  have hsplit : s.reverse.takeWhile (· != '/') ++ s.reverse.dropWhile (· != '/') = s.reverse :=
    List.takeWhile_append_dropWhile
  unfold splitLastSlash? at h
  dsimp only at h
  cases hdrop : s.reverse.dropWhile (· != '/') with
  | nil => simp [hdrop] at h
  | cons c read =>
    obtain ⟨rfl, rfl⟩ : read.reverse = body ∧ (s.reverse.takeWhile (· != '/')).reverse = rest := by
      simpa [hdrop] using h
    have hc : c = '/' := by
      have hhead := List.head?_dropWhile_not (· != '/') s.reverse
      rw [hdrop] at hhead
      simpa using hhead
    rw [hdrop, hc] at hsplit
    have hreverse := congrArg List.reverse hsplit
    simpa [eq_comm] using hreverse

theorem dropFinalNewline_of_flags (h : ∀ c ∈ letters, isFlagLetter c = true) :
    dropFinalNewline letters = letters := by
  refine if_neg fun hlast => ?_
  exact absurd (h '\n' (List.mem_of_getLast? hlast)) (by decide)

theorem dropFinalNewline_append : dropFinalNewline (letters ++ ['\n']) = letters := by
  simp [dropFinalNewline]

theorem eq_of_dropFinalNewline (h : dropFinalNewline rest = letters) :
    rest = letters ∨ rest = letters ++ ['\n'] := by
  unfold dropFinalNewline at h
  split at h
  case isTrue hlast => exact .inr (h ▸ (List.dropLast_append_getLast? _ hlast).symm)
  case isFalse => exact .inl h

/-- A pattern between slashes is read in one way only: its flags hold no slash, so that the expression ends
at the last one. -/
theorem slashed?_eq_some_iff : slashed? s = some (body, letters) ↔
    (∀ c ∈ letters, isFlagLetter c = true) ∧
      (s = '/' :: (body ++ '/' :: letters) ∨ s = '/' :: (body ++ '/' :: (letters ++ ['\n']))) := by
  constructor
  · intro h
    unfold slashed? at h
    split at h
    case h_2 => cases h
    case h_1 s =>
      split at h
      case h_2 => cases h
      case h_1 body' rest hsplit =>
        dsimp only at h
        split at h
        case isFalse => cases h
        case isTrue hall =>
          cases h
          refine ⟨List.all_eq_true.1 hall, ?_⟩
          rw [eq_of_splitLastSlash? hsplit]
          have hcases : rest = dropFinalNewline rest ∨ rest = dropFinalNewline rest ++ ['\n'] :=
            eq_of_dropFinalNewline rfl
          rcases hcases with hrest | hrest
          · exact .inl (by rw [← hrest])
          · exact .inr (by rw [← hrest])
  · rintro ⟨hflags, hs⟩
    have hslash : '/' ∉ letters := fun hmem => absurd (hflags '/' hmem) (by decide)
    have hall : letters.all isFlagLetter = true := List.all_eq_true.2 hflags
    rcases hs with rfl | rfl
    · simp only [slashed?, splitLastSlash?_append hslash, dropFinalNewline_of_flags hflags, hall, if_true]
    · have hslash' : '/' ∉ letters ++ ['\n'] := by simpa using hslash
      simp only [slashed?, splitLastSlash?_append hslash', dropFinalNewline_append, hall, if_true]

theorem slashed?_eq_none_iff : slashed? s = none ↔ ¬ IsSlashed s := by
  simp only [Option.eq_none_iff_forall_ne_some, ne_eq, Prod.forall, slashed?_eq_some_iff, IsSlashed, not_exists]

theorem quoted?_quote (value : List Char) : quoted? ('"' :: (value ++ ['"'])) = some value := by
  simp [quoted?]

theorem eq_of_quoted? (h : quoted? s = some value) : s = '"' :: (value ++ ['"']) := by
  unfold quoted? at h
  split at h
  case h_2 => cases h
  case h_1 s =>
    split at h
    case isFalse => cases h
    case isTrue hlast =>
      cases h
      rw [List.dropLast_append_getLast? _ hlast]

theorem bare_of (hne : pattern ≠ "") (hslashed : ¬ IsSlashed pattern.toList)
    (hquoted : ¬ IsQuoted pattern.toList) : Bare pattern.toList where
  ne_nil := by simpa using hne
  slashed? := slashed?_eq_none_iff.2 hslashed
  quoted? := Option.eq_none_iff_forall_ne_some.2 fun _ hsome => hquoted ⟨_, eq_of_quoted? hsome⟩

theorem ofText_eq (h : compile isAddress pattern = .ok r) : ofText isAddress pattern = .ok ⟨pattern, r⟩ := by
  rw [ofText, h]
  rfl

theorem isRegular_literal (v : List Char) : (literal .none v).IsRegular := by
  refine isRegular_seqAll fun r hr => ?_
  obtain ⟨c, -, rfl⟩ := List.mem_map.1 hr
  trivial

theorem search_literal_iff {text : List Char} : (literal .none v).search text = true ↔ v <:+: text := by
  rw [search_iff_matches (isRegular_literal v)]
  simp only [matches_literal]
  constructor
  · rintro ⟨x, w, z, rfl, rfl⟩
    exact ⟨x, z, rfl⟩
  · rintro ⟨x, z, rfl⟩
    exact ⟨x, v, z, rfl, rfl⟩

/-- The text spells the value, with a label before the first at sign of the value. -/
def SpellsLabelled (v m : List Char) : Prop :=
  ∃ a b m₁ l m₂, v = a ++ '@' :: b ∧ '@' ∉ a ∧
    m = m₁ ++ (l ++ m₂) ∧ Spells a m₁ ∧ IsLabel l ∧ Spells ('@' :: b) m₂

theorem eq_of_append_at {a a' b b' : List Char} (ha : '@' ∉ a) (ha' : '@' ∉ a')
    (h : a ++ '@' :: b = a' ++ '@' :: b') : a = a' ∧ b = b' := by
  induction a generalizing a' with
  | nil =>
    cases a' with
    | nil => exact ⟨rfl, (List.cons.inj h).2⟩
    | cons c a' => exact absurd (List.cons.inj h).1 (List.ne_of_not_mem_cons ha')
  | cons c a ih =>
    cases a' with
    | nil => exact absurd (List.cons.inj h).1.symm (List.ne_of_not_mem_cons ha)
    | cons c' a' =>
      obtain ⟨rfl, htail⟩ := List.cons.inj h
      obtain ⟨rfl, rfl⟩ := ih (List.not_mem_of_not_mem_cons ha) (List.not_mem_of_not_mem_cons ha') htail
      exact ⟨rfl, rfl⟩

theorem spells_or_labelled_iff {a b : List Char} (ha : '@' ∉ a) :
    SpellsAround a ('@' :: b) m ↔ Spells (a ++ '@' :: b) m ∨ SpellsLabelled (a ++ '@' :: b) m := by
  constructor
  · rintro ⟨m₁, l, m₂, rfl, h₁, rfl | hl, h₂⟩
    · exact .inl (List.rel_append h₁ h₂)
    · exact .inr ⟨a, b, m₁, l, m₂, rfl, ha, rfl, h₁, hl, h₂⟩
  · rintro (h | ⟨a', b', m₁, l, m₂, hsplit, ha', rfl, h₁, hl, h₂⟩)
    · obtain ⟨m₁, m₂, rfl, h₁, h₂⟩ := spells_append_iff.1 h
      exact ⟨m₁, [], m₂, rfl, h₁, .inl rfl, h₂⟩
    · obtain ⟨rfl, rfl⟩ := eq_of_append_at ha ha' hsplit
      exact ⟨m₁, l, m₂, rfl, h₁, .inr hl, h₂⟩

theorem search_bare_iff (h : Bare pattern.toList) :
    ∃ r, compile true pattern = .ok r ∧ ∀ text, r.search text = true ↔
      ∃ x m z, text = x ++ m ++ z ∧ Opens x ∧ Closes z ∧
        (Spells pattern.toList m ∨ SpellsLabelled pattern.toList m) := by
  by_cases hat : '@' ∈ pattern.toList
  · obtain ⟨a, b, hpattern, ha⟩ := List.eq_append_cons_of_mem hat
    refine ⟨_, compile_address h hpattern ha, fun text => ?_⟩
    simp only [search_enclosed_label_iff, spells_or_labelled_iff ha, hpattern]
  · refine ⟨_, compile_word h hat, fun text => ?_⟩
    have hnone {m : List Char} : ¬ SpellsLabelled pattern.toList m := by
      rintro ⟨a, b, -, -, -, hsplit, -⟩
      exact hat (by simp [hsplit])
    simp only [search_enclosed_letters_iff, hnone, or_false]

/-- A bare pattern among addresses is found where a whole value spells it, with or without a label. -/
theorem ofText_address (hne : pattern ≠ "") (hslashed : ¬ IsSlashed pattern.toList)
    (hquoted : ¬ IsQuoted pattern.toList) :
    ∃ p, ofText true pattern = .ok p ∧ ∀ text : String, p.found text = true ↔
      ∃ x m z, text.toList = x ++ m ++ z ∧ Opens x ∧ Closes z ∧
        (Spells pattern.toList m ∨ SpellsLabelled pattern.toList m) := by
  obtain ⟨r, hr, hsearch⟩ := search_bare_iff (bare_of hne hslashed hquoted)
  exact ⟨⟨pattern, r⟩, ofText_eq hr, fun text => hsearch text.toList⟩

theorem ofText_address_of_signs :
    ("a.b+@c*" ≠ "" ∧ ¬ IsSlashed "a.b+@c*".toList ∧ ¬ IsQuoted "a.b+@c*".toList) ∧
      ∃ p, ofText true "a.b+@c*" = .ok p ∧ ∀ text : String, p.found text = true ↔
        ∃ x m z, text.toList = x ++ m ++ z ∧ Opens x ∧ Closes z ∧
          (Spells "a.b+@c*".toList m ∨ SpellsLabelled "a.b+@c*".toList m) := by
  have hslashed : ¬ IsSlashed "a.b+@c*".toList := not_isSlashed_of_head (by decide)
  have hquoted : ¬ IsQuoted "a.b+@c*".toList := not_isQuoted_of_head (by decide)
  exact ⟨⟨by decide, hslashed, hquoted⟩, ofText_address (by decide) hslashed hquoted⟩

/-- A bare pattern in a text is found where it is a part of the text, and a value in double quotes where a
whole value spells it. -/
theorem ofText_literal :
    (∀ v : String, v ≠ "" → ¬ IsSlashed v.toList → ¬ IsQuoted v.toList →
      ∃ p, ofText false v = .ok p ∧ ∀ text : String, p.found text = true ↔ v.toList <:+: text.toList) ∧
    (∀ (isAddress : Bool) (w : String),
      ∃ p, ofText isAddress ("\"" ++ w ++ "\"") = .ok p ∧ ∀ text : String, p.found text = true ↔
        ∃ x m z, text.toList = x ++ m ++ z ∧ Opens x ∧ Closes z ∧ Spells w.toList m) := by
  constructor
  · intro v hne hslashed hquoted
    exact ⟨⟨v, _⟩, ofText_eq (compile_text (bare_of hne hslashed hquoted)),
      fun text => search_literal_iff⟩
  · intro isAddress w
    have htext : ("\"" ++ w ++ "\"").toList = '"' :: (w.toList ++ ['"']) := by simp
    have hquoted : quoted? ("\"" ++ w ++ "\"").toList = some w.toList := by
      rw [htext, quoted?_quote]
    exact ⟨⟨_, _⟩, ofText_eq (compile_quoted hquoted), fun text => search_enclosed_letters_iff⟩

theorem ofText_literal_of_signs :
    ("1+1 (=2?" ≠ "" ∧ ¬ IsSlashed "1+1 (=2?".toList ∧ ¬ IsQuoted "1+1 (=2?".toList) ∧
      (∃ p, ofText false "1+1 (=2?" = .ok p ∧
        ∀ text : String, p.found text = true ↔ "1+1 (=2?".toList <:+: text.toList) ∧
      ∃ p, ofText false ("\"" ++ "1+1 (=2?" ++ "\"") = .ok p ∧ ∀ text : String, p.found text = true ↔
        ∃ x m z, text.toList = x ++ m ++ z ∧ Opens x ∧ Closes z ∧ Spells "1+1 (=2?".toList m := by
  have hslashed : ¬ IsSlashed "1+1 (=2?".toList := not_isSlashed_of_head (by decide)
  have hquoted : ¬ IsQuoted "1+1 (=2?".toList := not_isQuoted_of_head (by decide)
  exact ⟨⟨by decide, hslashed, hquoted⟩, ofText_literal.1 _ (by decide) hslashed hquoted,
    ofText_literal.2 false _⟩

end MailTriage.Pattern
