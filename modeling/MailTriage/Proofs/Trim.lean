import Mathlib.Data.List.DropRight
import MailTriage.Text.Blank

namespace MailTriage.Text

def Blank (s : List Char) : Prop :=
  ∀ c ∈ s, isBlank c

theorem blank_nil : Blank [] := by simp [Blank]

theorem blank_space : Blank [' '] := by simp [Blank, isBlank]

variable {s w w' : List Char} {c : Char}

theorem trimLeft_append (hw : Blank w) : trimLeft (w ++ s) = trimLeft s :=
  List.dropWhile_append_of_pos hw

theorem trimRight_append (hw : Blank w) : trimRight (s ++ w) = trimRight s := by
  rw [trimRight, List.reverse_append,
    List.dropWhile_append_of_pos fun c h => hw c (List.mem_reverse.1 h)]
  rfl

theorem trimRight_append_of_last (h : ¬ isBlank c) :
    trimRight (s ++ c :: w) = s ++ c :: trimRight w := by
  have hr : (w.reverse ++ c :: s.reverse).dropWhile isBlank =
      w.reverse.dropWhile isBlank ++ c :: s.reverse := by
    rw [List.dropWhile_append]
    split_ifs with he
    · rw [List.dropWhile_cons_of_neg h, List.isEmpty_iff.1 he, List.nil_append]
    · rfl
  simp [trimRight, hr]

theorem trim_append (hw : Blank w) (hw' : Blank w') : trim (w ++ s ++ w') = trim s := by
  rw [trim, trim, List.append_assoc, trimLeft_append hw]
  have hsplit : (s ++ w').dropWhile isBlank =
      if (s.dropWhile isBlank).isEmpty then w'.dropWhile isBlank else s.dropWhile isBlank ++ w' :=
    List.dropWhile_append
  rw [trimLeft, hsplit]
  split_ifs with he
  · have hnil : w'.dropWhile isBlank = [] := List.dropWhile_eq_nil_iff.2 hw'
    rw [hnil, trimLeft, List.isEmpty_iff.1 he]
  · exact trimRight_append hw'

theorem exists_blank_append_trim (s : List Char) :
    ∃ w w', Blank w ∧ Blank w' ∧ s = w ++ trim s ++ w' := by
  refine ⟨s.takeWhile isBlank, (trimLeft s).rtakeWhile isBlank, fun c hc => ?_, fun c hc => ?_, ?_⟩
  · exact List.mem_takeWhile_imp hc
  · exact List.mem_rtakeWhile_imp hc
  · have hright : trim s ++ (trimLeft s).rtakeWhile isBlank = trimLeft s :=
      List.rdropWhile_append_rtakeWhile
    rw [List.append_assoc, hright]
    exact List.takeWhile_append_dropWhile.symm

theorem trim_isInfix (s : List Char) : trim s <:+: s := by
  obtain ⟨w, w', -, -, hs⟩ := exists_blank_append_trim s
  exact ⟨w, w', hs.symm⟩

theorem trim_trim (s : List Char) : trim (trim s) = trim s := by
  obtain ⟨w, w', hw, hw', h⟩ := exists_blank_append_trim s
  have ht := trim_append (s := trim s) hw hw'
  rw [← h] at ht
  exact ht.symm

theorem trimLeft_eq_self_iff : trimLeft s = s ↔ ∀ c ∈ s.head?, ¬ isBlank c := by
  rw [trimLeft, List.dropWhile_eq_self_iff]
  cases s <;> simp

theorem trimRight_eq_self_iff : trimRight s = s ↔ ∀ c ∈ s.getLast?, ¬ isBlank c := by
  have h : trimRight s = s ↔ ∀ hs : s ≠ [], ¬ isBlank (s.getLast hs) := List.rdropWhile_eq_self_iff
  rw [h]
  by_cases hs : s = []
  · simp [hs]
  · simp [hs, List.getLast?_eq_some_getLast hs]

/-- A text is trimmed if it starts and ends with no white space. -/
theorem trim_eq_self_iff :
    trim s = s ↔ (∀ c ∈ s.head?, ¬ isBlank c) ∧ ∀ c ∈ s.getLast?, ¬ isBlank c := by
  rw [← trimLeft_eq_self_iff, ← trimRight_eq_self_iff]
  constructor
  · intro h
    have hlen := congrArg List.length h
    have hright := length_trimRight_le (trimLeft s)
    have hl : trimLeft s = s :=
      (List.dropWhile_sublist isBlank).eq_of_length_le (by rw [trim] at hlen; exact hlen ▸ hright)
    refine ⟨hl, ?_⟩
    rwa [trim, hl] at h
  · rintro ⟨hl, hr⟩
    rw [trim, hl, hr]

end MailTriage.Text

namespace MailTriage

theorem trimmed_trimmed (s : String) : trimmed (trimmed s) = trimmed s := by
  simp only [trimmed, String.toList_ofList, Text.trim_trim]

end MailTriage
