import MailTriage.Text.Split

namespace MailTriage.Text

variable {sep : Char} {piece s w v : List Char}

theorem not_mem_of_mem_splitAtCharFrom (hw : sep ∉ w) (h : piece ∈ splitAtCharFrom sep w s) :
    sep ∉ piece := by
  fun_induction splitAtCharFrom sep w s with
  | case1 w => rwa [List.mem_singleton.1 h, List.mem_reverse]
  | case2 w s ih =>
    rcases List.mem_cons.1 h with rfl | h
    · rwa [List.mem_reverse]
    · exact ih List.not_mem_nil h
  | case3 w c s hc ih =>
    exact ih (List.not_mem_cons_of_ne_of_not_mem (Ne.symm hc) hw) h

theorem not_mem_of_mem_splitAtChar (h : piece ∈ splitAtChar sep s) : sep ∉ piece :=
  not_mem_of_mem_splitAtCharFrom List.not_mem_nil h

theorem splitAtCharFrom_of_not_mem (h : sep ∉ s) : splitAtCharFrom sep w s = [w.reverse ++ s] := by
  induction s generalizing w with
  | nil => rw [splitAtCharFrom, List.append_nil]
  | cons c s ih =>
    rw [List.mem_cons, not_or] at h
    rw [splitAtCharFrom, if_neg (Ne.symm h.1), ih h.2, List.reverse_cons, List.append_assoc]
    rfl

theorem splitAtChar_of_not_mem (h : sep ∉ s) : splitAtChar sep s = [s] :=
  splitAtCharFrom_of_not_mem h

theorem trimmedPieces_append (ps qs : List (List Char)) :
    trimmedPieces (ps ++ qs) = trimmedPieces ps ++ trimmedPieces qs := by
  simp [trimmedPieces]

theorem mem_trimmedPieces {ps : List (List Char)} :
    s ∈ trimmedPieces ps ↔ s ≠ [] ∧ ∃ p ∈ ps, trim p = s := by
  simp [trimmedPieces, and_comm]

theorem of_mem_wordsFrom (hw : ∀ c ∈ w, ¬ isBlank c) (h : v ∈ wordsFrom w s) :
    ∀ c ∈ v, ¬ isBlank c ∧ c ∈ w ++ s := by
  fun_induction wordsFrom w s with
  | case1 w => cases h
  | case2 w =>
    intro c hc
    rw [List.mem_singleton.1 h, List.mem_reverse] at hc
    exact ⟨hw c hc, List.mem_append_left [] hc⟩
  | case3 w d s hd hempty ih =>
    intro c hc
    obtain ⟨hblank, hmem⟩ := ih (by simp) h c hc
    exact ⟨hblank, List.mem_append_right w (List.mem_cons_of_mem d hmem)⟩
  | case4 w d s hd hempty ih =>
    intro c hc
    rcases List.mem_cons.1 h with rfl | h
    · rw [List.mem_reverse] at hc
      exact ⟨hw c hc, List.mem_append_left _ hc⟩
    · obtain ⟨hblank, hmem⟩ := ih (by simp) h c hc
      exact ⟨hblank, List.mem_append_right w (List.mem_cons_of_mem d hmem)⟩
  | case5 w d s hd ih =>
    intro c hc
    obtain ⟨hblank, hmem⟩ := ih (List.forall_mem_cons.2 ⟨hd, hw⟩) h c hc
    exact ⟨hblank, by simpa [or_left_comm] using hmem⟩

theorem of_mem_words (h : v ∈ words s) : ∀ c ∈ v, ¬ isBlank c ∧ c ∈ s :=
  of_mem_wordsFrom (by simp) h

theorem wordsFrom_append (h : ∀ c ∈ s, ¬ isBlank c) (t : List Char) :
    wordsFrom w (s ++ t) = wordsFrom (s.reverse ++ w) t := by
  induction s generalizing w with
  | nil => rfl
  | cons c s ih =>
    rw [List.forall_mem_cons] at h
    rw [List.cons_append, wordsFrom, if_neg h.1, ih h.2, List.reverse_cons, List.append_assoc]
    rfl

theorem words_of_forall (hne : s ≠ []) (h : ∀ c ∈ s, ¬ isBlank c) : words s = [s] := by
  have hwords : wordsFrom [] (s ++ []) = wordsFrom (s.reverse ++ []) [] := wordsFrom_append h []
  rw [List.append_nil, List.append_nil] at hwords
  rw [words, hwords, wordsFrom, if_neg (by simpa using hne), List.reverse_reverse]

end MailTriage.Text
