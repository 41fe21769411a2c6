import MailTriage.Label.Basic
import MailTriage.Proofs.Trim

namespace MailTriage

namespace Text

variable {s t u par : List Char} {sep c : Char}

theorem beforeLast_append (h : sep ∈ s) : ∃ u, sep ∉ u ∧ s = beforeLast sep s ++ sep :: u := by
  have hsplit := List.takeWhile_append_dropWhile (p := (· != sep)) (l := s.reverse)
  have hmem : sep ∈ s.reverse := List.mem_reverse.2 h
  obtain ⟨c, rest, hdrop⟩ : ∃ c rest, s.reverse.dropWhile (· != sep) = c :: rest := by
    refine List.exists_cons_of_ne_nil fun hnil => ?_
    rw [List.dropWhile_eq_nil_iff] at hnil
    simpa using hnil sep hmem
  have hc : c = sep := by
    have hhead := List.head?_dropWhile_not (· != sep) s.reverse
    simpa [hdrop] using hhead
  subst hc
  refine ⟨(s.reverse.takeWhile (· != c)).reverse, fun hu => ?_, ?_⟩
  · simpa using List.mem_takeWhile_imp (List.mem_reverse.1 hu)
  · have hs : s = (s.reverse.takeWhile (· != c) ++ c :: rest).reverse := by
      rw [← hdrop, hsplit, List.reverse_reverse]
    exact hs.trans (by simp [beforeLast, hdrop])

theorem beforeLast_of_not_mem (h : sep ∉ s) : beforeLast sep s = [] := by
  have hdrop : s.reverse.dropWhile (· != sep) = [] := by
    rw [List.dropWhile_eq_nil_iff]
    intro c hc
    simpa using ne_of_mem_of_not_mem (List.mem_reverse.1 hc) h
  rw [beforeLast, hdrop]
  rfl

theorem before_append_iff (hu : sep ∉ u) :
    (∃ v, par ++ sep :: u = t ++ sep :: v) ↔ t = par ∨ ∃ v, par = t ++ sep :: v := by
  constructor
  · rintro ⟨v, h⟩
    obtain ⟨a, rfl, ha⟩ | ⟨a, rfl, ha⟩ := List.append_eq_append_iff.1 h
    · cases a with
      | nil => exact .inl (by simp)
      | cons x a =>
        rw [List.cons_append, List.cons.injEq] at ha
        exact absurd (by simp [ha.2]) hu
    · cases a with
      | nil => exact .inl (by simp)
      | cons x a =>
        rw [List.cons_append, List.cons.injEq] at ha
        exact .inr ⟨a, by rw [ha.1]⟩
  · rintro (rfl | ⟨v, rfl⟩)
    · exact ⟨u, rfl⟩
    · exact ⟨v ++ sep :: u, by simp⟩

theorem before_append_blank_iff {w : List Char} (hw : Blank w) (hsep : ¬ isBlank sep) :
    (∃ v, s ++ w = t ++ sep :: v) ↔ ∃ v, s = t ++ sep :: v := by
  have hnot (v a : List Char) (h : w = a ++ sep :: v) : False := hsep (hw sep (by simp [h]))
  constructor
  · rintro ⟨v, h⟩
    obtain ⟨a, rfl, ha⟩ | ⟨a, rfl, ha⟩ := List.append_eq_append_iff.1 h
    · exact (hnot v a ha).elim
    · cases a with
      | nil => exact (hnot v [] ha.symm).elim
      | cons x a =>
        rw [List.cons_append, List.cons.injEq] at ha
        exact ⟨a, by rw [ha.1]⟩
  · rintro ⟨v, rfl⟩
    exact ⟨v ++ w, by simp⟩

theorem trim_eq_trimRight (h : trimLeft s = s) : trim s = trimRight s := by
  rw [trim, h]

theorem head?_trimRight (h : trimLeft s = s) : (trimRight s).head? = s.head? := by
  cases s with
  | nil => rfl
  | cons c s =>
    have hc : ¬ isBlank c := trimLeft_eq_self_iff.1 h c rfl
    have hcons : trimRight (c :: s) = c :: trimRight s := trimRight_append_of_last (s := []) hc
    rw [hcons]
    rfl

theorem exists_trimRight_append (s : List Char) : ∃ w, Blank w ∧ s = trimRight s ++ w := by
  refine ⟨s.rtakeWhile isBlank, fun c hc => List.mem_rtakeWhile_imp hc, ?_⟩
  exact List.rdropWhile_append_rtakeWhile.symm

end Text

namespace Label

variable {s t done : List Char} {name n x y : String}

theorem mem_parentsFrom : t ∈ parentsFrom done s ↔
    t ≠ [] ∧ ∃ a u, s = a ++ '/' :: u ∧ t = done.reverse ++ a := by
  induction s generalizing done with
  | nil => simp [parentsFrom]
  | cons c s ih =>
    have hstep : (∃ a u, c :: s = a ++ '/' :: u ∧ t = done.reverse ++ a) ↔
        (c = '/' ∧ t = done.reverse) ∨
          ∃ a u, s = a ++ '/' :: u ∧ t = (c :: done).reverse ++ a := by
      constructor
      · rintro ⟨_ | ⟨x, a⟩, u, hs, ht⟩
        · cases hs
          exact .inl ⟨rfl, by simpa using ht⟩
        · cases hs
          exact .inr ⟨a, u, rfl, by simpa using ht⟩
      · rintro (⟨rfl, rfl⟩ | ⟨a, u, rfl, rfl⟩)
        · exact ⟨[], s, rfl, by simp⟩
        · exact ⟨c :: a, u, rfl, by simp⟩
    rw [hstep, parentsFrom]
    split_ifs with h
    · simp only [Bool.and_eq_true, decide_eq_true_eq, Bool.not_eq_true'] at h
      rw [List.mem_cons, ih]
      have hdone : done ≠ [] := by simpa using h.2
      constructor
      · rintro (rfl | ⟨hne, hex⟩)
        · exact ⟨by simpa using hdone, .inl ⟨h.1, rfl⟩⟩
        · exact ⟨hne, .inr hex⟩
      · rintro ⟨hne, ⟨-, rfl⟩ | hex⟩
        · exact .inl rfl
        · exact .inr ⟨hne, hex⟩
    · rw [ih]
      refine and_congr_right fun hne => ⟨.inr, ?_⟩
      rintro (⟨rfl, rfl⟩ | hex)
      · exact absurd (by simpa using hne) h
      · exact hex

/-- Whether a text is another one or stands before a slash of it. -/
def IsLevel (s t : List Char) : Prop :=
  t ≠ [] ∧ (t = s ∨ ∃ v, s = t ++ '/' :: v)

/-- The levels of a text are the text itself and the levels of what stands before its last slash. -/
theorem isLevel_iff (hs : s ≠ []) : IsLevel s t ↔ t = s ∨ IsLevel (Text.beforeLast '/' s) t := by
  by_cases hslash : '/' ∈ s
  · obtain ⟨u, hu, heq⟩ := Text.beforeLast_append hslash
    have hbefore : (∃ v, s = t ++ '/' :: v) ↔ _ :=
      (congrArg (fun s => ∃ v, s = t ++ '/' :: v) heq).to_iff.trans (Text.before_append_iff hu)
    simp only [IsLevel, hbefore]
    constructor
    · rintro ⟨ht, h | h⟩
      · exact .inl h
      · exact .inr ⟨ht, h⟩
    · rintro (rfl | ⟨ht, h⟩)
      · exact ⟨hs, .inl rfl⟩
      · exact ⟨ht, .inr h⟩
  · have hnot (v : List Char) : s ≠ t ++ '/' :: v := fun heq => hslash (by simp [heq])
    rw [Text.beforeLast_of_not_mem hslash]
    simp only [IsLevel, hnot, exists_false, or_false, List.nil_eq, List.append_eq_nil_iff, reduceCtorEq,
      and_false]
    constructor
    · rintro ⟨-, h⟩
      exact .inl h
    · rintro (rfl | ⟨ht, h⟩)
      · exact ⟨hs, rfl⟩
      · exact absurd h ht

theorem head?_of_isLevel (h : IsLevel s t) : t.head? = s.head? := by
  obtain ⟨hne, rfl | ⟨v, rfl⟩⟩ := h
  · rfl
  · exact (List.head?_append_of_ne_nil _ hne).symm

theorem mem_withParents : n ∈ withParents name ↔ IsLevel name.toList n.toList := by
  have hinj (t : List Char) : String.ofList t = n ↔ t = n.toList := by
    constructor
    · rintro rfl
      simp
    · rintro rfl
      simp
  unfold withParents
  split_ifs with he
  · have hnil : name.toList = [] := by simpa using he
    simp [IsLevel, hnil]
  · have hnil : name.toList ≠ [] := by simpa using he
    simp only [List.mem_cons, List.mem_map, mem_parentsFrom, hinj, List.reverse_nil, List.nil_append]
    constructor
    · rintro (rfl | ⟨_, ⟨hne, a, u, hs, rfl⟩, rfl⟩)
      · exact ⟨hnil, .inl rfl⟩
      · exact ⟨hne, .inr ⟨u, hs⟩⟩
    · rintro ⟨hne, h | ⟨u, hs⟩⟩
      · exact .inl (String.toList_inj.1 h)
      · exact .inr ⟨_, ⟨hne, _, u, hs, rfl⟩, rfl⟩

/-- The trimmed name of a label and its parents, each of them trimmed. -/
def levels (name : String) : List String :=
  (withParents (trimmed name)).map trimmed

theorem mem_levels : x ∈ levels name ↔
    ∃ t, IsLevel (Text.trim name.toList) t ∧ x = String.ofList (Text.trim t) := by
  simp only [levels, List.mem_map, mem_withParents, trimmed, String.toList_ofList]
  constructor
  · rintro ⟨n, hn, rfl⟩
    exact ⟨n.toList, hn, rfl⟩
  · rintro ⟨t, ht, rfl⟩
    exact ⟨String.ofList t, by simpa using ht, by simp⟩

theorem trimLeft_trim (s : List Char) : Text.trimLeft (Text.trim s) = Text.trim s :=
  Text.trimLeft_eq_self_iff.2 (Text.trim_eq_self_iff.1 (Text.trim_trim s)).1

theorem trimLeft_of_isLevel (h : IsLevel s t) (hs : Text.trimLeft s = s) : Text.trimLeft t = t := by
  rw [Text.trimLeft_eq_self_iff, head?_of_isLevel h]
  exact Text.trimLeft_eq_self_iff.1 hs

theorem isLevel_trimRight (h : IsLevel (Text.trimRight s) t) : t = Text.trimRight s ∨ IsLevel s t := by
  obtain ⟨hne, rfl | hv⟩ := h
  · exact .inl rfl
  · obtain ⟨w, hw, hs⟩ := Text.exists_trimRight_append s
    refine .inr ⟨hne, .inr ?_⟩
    rw [hs, Text.before_append_blank_iff hw (by decide)]
    exact hv

theorem IsLevel.trans {u : List Char} (h : IsLevel t u) (h' : IsLevel s t) : IsLevel s u := by
  obtain ⟨hne, rfl | ⟨v, rfl⟩⟩ := h
  · exact h'
  · obtain ⟨-, rfl | ⟨v', rfl⟩⟩ := h'
    · exact ⟨hne, .inr ⟨v, rfl⟩⟩
    · exact ⟨hne, .inr ⟨v ++ '/' :: v', by simp⟩⟩

theorem mem_levels_trans (hy : y ∈ levels x) (hx : x ∈ levels name) : y ∈ levels name := by
  obtain ⟨t, ht, rfl⟩ := mem_levels.1 hx
  obtain ⟨u, hu, rfl⟩ := mem_levels.1 hy
  have hleft := trimLeft_of_isLevel ht (trimLeft_trim _)
  rw [String.toList_ofList, Text.trim_trim, Text.trim_eq_trimRight hleft] at hu
  obtain rfl | hu := isLevel_trimRight hu
  · rwa [← Text.trim_eq_trimRight hleft, Text.trim_trim]
  · exact mem_levels.2 ⟨u, hu.trans ht, rfl⟩

theorem exists_isLevel_trim_iff (hs : Text.trimLeft s = s) :
    (∃ t, IsLevel (Text.trim s) t ∧ x = String.ofList (Text.trim t)) ↔
      ∃ t, IsLevel s t ∧ x = String.ofList (Text.trim t) := by
  have hright := Text.trim_eq_trimRight hs
  rw [hright]
  constructor
  · rintro ⟨t, ht, rfl⟩
    obtain rfl | ht := isLevel_trimRight ht
    · have hne : s ≠ [] := by
        rintro rfl
        exact ht.1 rfl
      exact ⟨s, ⟨hne, .inl rfl⟩, by rw [← hright, Text.trim_trim]⟩
    · exact ⟨t, ht, rfl⟩
  · rintro ⟨t, ⟨hne, rfl | hv⟩, rfl⟩
    · have hne' : Text.trimRight t ≠ [] := by
        intro hnil
        have hhead := Text.head?_trimRight hs
        rw [hnil] at hhead
        exact hne (List.head?_eq_none_iff.1 hhead.symm)
      exact ⟨_, ⟨hne', .inl rfl⟩, by rw [← hright, Text.trim_trim]⟩
    · obtain ⟨w, hw, hsw⟩ := Text.exists_trimRight_append s
      rw [hsw, Text.before_append_blank_iff hw (by decide)] at hv
      exact ⟨t, ⟨hne, .inr hv⟩, rfl⟩

theorem mem_levels_iff_of_slash (hslash : '/' ∈ Text.trim s) : x ∈ levels (String.ofList s) ↔
    x = String.ofList (Text.trim s) ∨
      x ∈ levels (String.ofList (Text.beforeLast '/' (Text.trim s))) := by
  obtain ⟨u, -, hs⟩ := Text.beforeLast_append hslash
  have hne : Text.trim s ≠ [] := List.ne_nil_of_mem hslash
  -- White space is left only at the end of what stands before the slash.
  have hleft : Text.trimLeft (Text.beforeLast '/' (Text.trim s)) =
      Text.beforeLast '/' (Text.trim s) := by
    by_cases hpar : Text.beforeLast '/' (Text.trim s) = []
    · rw [hpar]
      rfl
    · exact trimLeft_of_isLevel ⟨hpar, .inr ⟨u, hs⟩⟩ (trimLeft_trim s)
  rw [mem_levels, mem_levels, String.toList_ofList, String.toList_ofList,
    exists_isLevel_trim_iff hleft]
  simp only [isLevel_iff hne, or_and_right, exists_or, exists_eq_left, Text.trim_trim]

theorem self_mem_levels (h : trimmed name ≠ "") : trimmed name ∈ levels name := by
  refine mem_levels.2 ⟨Text.trim name.toList, ⟨fun hnil => h ?_, .inl rfl⟩, ?_⟩
  · rw [trimmed, hnil]
  · rw [Text.trim_trim, trimmed]

end Label

end MailTriage
