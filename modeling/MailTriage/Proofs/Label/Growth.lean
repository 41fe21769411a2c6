import Mathlib.Data.List.Sort
import MailTriage.Proofs.Label.Creation

namespace MailTriage

theorem LabelSet.ext {s t : LabelSet} (h : ∀ x, x ∈ s ↔ x ∈ t) : s = t := by
  have hnodup (u : LabelSet) : u.names.Nodup := u.sorted.imp String.ne_of_lt
  have hperm : s.names.Perm t.names := (List.perm_ext_iff_of_nodup (hnodup s) (hnodup t)).2 h
  have hnames : s.names = t.names := by
    apply hperm.eq_of_pairwise _ s.sorted t.sorted
    intro a b _ _ hab hba
    exact absurd (String.lt_trans hab hba) (String.lt_irrefl a)
  cases s
  cases t
  simpa using hnames

namespace Label

variable {known known' : LabelSet} {s : List Char} {name n x y z : String} {names names' : List String}

theorem levels_total (hy : y ∈ levels name) (hz : z ∈ levels name) :
    y ∈ levels z ∨ z ∈ levels y := by
  obtain ⟨t, ht, rfl⟩ := mem_levels.1 hy
  obtain ⟨u, hu, rfl⟩ := mem_levels.1 hz
  -- Both stand at the beginning of the trimmed name, so the shorter one begins the longer one.
  have hlevel {t u : List Char} (ht : IsLevel (Text.trim name.toList) t) (h : IsLevel t u) :
      String.ofList (Text.trim u) ∈ levels (String.ofList (Text.trim t)) := by
    have hleft := trimLeft_of_isLevel ht (trimLeft_trim _)
    rw [mem_levels, String.toList_ofList, Text.trim_trim, exists_isLevel_trim_iff hleft]
    exact ⟨u, h, rfl⟩
  have htotal : IsLevel t u ∨ IsLevel u t := by
    obtain ⟨hne, htop⟩ := ht
    obtain ⟨hne', htop'⟩ := hu
    rcases htop with rfl | ⟨v, hv⟩
    · exact .inl ⟨hne', htop'⟩
    · rcases htop' with rfl | ⟨v', hv'⟩
      · exact .inr ⟨hne, .inr ⟨v, hv⟩⟩
      · rcases List.append_eq_append_iff.1 (hv.symm.trans hv') with ⟨a, rfl, ha⟩ | ⟨a, rfl, ha⟩
        · cases a with
          | nil => exact .inl ⟨hne', .inl (by simp)⟩
          | cons c a =>
            rw [List.cons_append, List.cons.injEq] at ha
            exact .inr ⟨hne, .inr ⟨a, by rw [ha.1]⟩⟩
        · cases a with
          | nil => exact .inl ⟨hne', .inl (by simp)⟩
          | cons c a =>
            rw [List.cons_append, List.cons.injEq] at ha
            exact .inl ⟨hne', .inr ⟨a, by rw [ha.1]⟩⟩
  rcases htotal with h | h
  · exact .inr (hlevel ht h)
  · exact .inl (hlevel hu h)

theorem length_le_of_mem_levels (h : x ∈ levels (String.ofList s)) : x.length ≤ s.length := by
  obtain ⟨t, ⟨-, htop⟩, rfl⟩ := mem_levels.1 h
  rw [String.toList_ofList] at htop
  have htrim := Text.length_trim_le t
  have hs := Text.length_trim_le s
  have ht : t.length ≤ (Text.trim s).length := by
    rcases htop with rfl | ⟨v, hv⟩
    · exact le_refl _
    · rw [hv, List.length_append]
      omega
  rw [String.length_ofList]
  omega

/-- Whether a label is created for a name where some are known: it is a level of the name, and nothing
from there on down to the name is known. -/
def IsMissing (known : LabelSet) (name x : String) : Prop :=
  x ∈ levels name ∧ ∀ y ∈ levels name, x ∈ levels y → y ∉ known

theorem mem_levels_iff_of_no_slash (hne : Text.trim s ≠ []) (hslash : '/' ∉ Text.trim s) :
    x ∈ levels (String.ofList s) ↔ x = String.ofList (Text.trim s) := by
  rw [mem_levels, String.toList_ofList]
  constructor
  · rintro ⟨t, ⟨-, rfl | ⟨v, hv⟩⟩, rfl⟩
    · rw [Text.trim_trim]
    · exact absurd (by simp [hv]) hslash
  · rintro rfl
    exact ⟨_, ⟨hne, .inl rfl⟩, by rw [Text.trim_trim]⟩

theorem isMissing_iff_of_no_slash (hne : Text.trim s ≠ []) (hslash : '/' ∉ Text.trim s)
    (hknown : String.ofList (Text.trim s) ∉ known) :
    IsMissing known (String.ofList s) x ↔ x = String.ofList (Text.trim s) := by
  simp only [IsMissing, mem_levels_iff_of_no_slash hne hslash]
  constructor
  · exact And.left
  · intro hx
    exact ⟨hx, fun y hy _ => hy ▸ hknown⟩

theorem isMissing_iff_of_slash (hslash : '/' ∈ Text.trim s)
    (hknown : String.ofList (Text.trim s) ∉ known) :
    IsMissing known (String.ofList s) x ↔
      x = String.ofList (Text.trim s) ∨
        IsMissing known (String.ofList (Text.beforeLast '/' (Text.trim s))) x := by
  have hlevels (y : String) := mem_levels_iff_of_slash (x := y) hslash
  constructor
  · rintro ⟨hx, hbelow⟩
    rcases (hlevels x).1 hx with rfl | hx
    · exact .inl rfl
    · exact .inr ⟨hx, fun y hy => hbelow y ((hlevels y).2 (.inr hy))⟩
  · rintro (rfl | ⟨hx, hbelow⟩)
    · refine ⟨(hlevels _).2 (.inl rfl), fun y hy hxy => ?_⟩
      rcases (hlevels y).1 hy with rfl | hy
      · exact hknown
      · -- The whole name is longer than what stands before its last slash.
        have hle := length_le_of_mem_levels (mem_levels_trans hxy hy)
        have hlt := Text.length_beforeLast_lt hslash
        rw [String.length_ofList] at hle
        omega
    · refine ⟨(hlevels x).2 (.inr hx), fun y hy hxy => ?_⟩
      rcases (hlevels y).1 hy with rfl | hy
      · exact hknown
      · exact hbelow y hy hxy

theorem mem_missing?_iff : ∀ names, missing? known s = some names →
    (x ∈ names ↔ IsMissing known (String.ofList s) x) := by
  fun_induction missing? known s with
  | case1 => simp
  | case2 s t ht hknown =>
    intro names h
    cases h
    have hne : trimmed (String.ofList s) ≠ "" := by
      rw [trimmed_ofList]
      simpa using ht
    have hlevels : levels (trimmed (String.ofList s)) = levels (String.ofList s) := by
      rw [levels, trimmed_trimmed, levels]
    refine iff_of_false List.not_mem_nil ?_
    rintro ⟨hx, hbelow⟩
    rw [← hlevels] at hx
    apply hbelow _ (self_mem_levels hne) hx
    rwa [trimmed_ofList]
  | case3 s t ht hknown hslash ih =>
    intro names h
    obtain ⟨above, habove, rfl⟩ := Option.map_eq_some_iff.1 h
    rw [List.mem_append, List.mem_singleton, ih above habove, isMissing_iff_of_slash hslash hknown,
      or_comm]
  | case4 s t ht hknown hslash =>
    intro names h
    cases h
    rw [List.mem_singleton, isMissing_iff_of_no_slash (by simpa using ht) hslash hknown]

/-- Where labels were created for some names, others lack what they lacked before, but for the labels
created. -/
theorem exists_isMissing_iff (hknown : ∀ y, y ∈ known' ↔ y ∈ known ∨ ∃ m ∈ names, IsMissing known m y) :
    ((∃ m ∈ names, IsMissing known m x) ∨ ∃ n ∈ names', IsMissing known' n x) ↔
      ∃ n ∈ names ++ names', IsMissing known n x := by
  simp only [List.mem_append, or_and_right, exists_or]
  constructor
  · rintro (h | ⟨n, hn, hx, hbelow⟩)
    · exact .inl h
    · refine .inr ⟨n, hn, hx, fun y hy hxy hk => ?_⟩
      exact hbelow y hy hxy ((hknown y).2 (.inl hk))
  · rintro (h | ⟨n, hn, hx, hbelow⟩)
    · exact .inl h
    by_cases hnew : ∃ y ∈ levels n, x ∈ levels y ∧ y ∈ known'
    · obtain ⟨y, hy, hxy, hk⟩ := hnew
      rcases (hknown y).1 hk with hk | ⟨m, hm, hym, hbelow'⟩
      · exact absurd hk (hbelow y hy hxy)
      · -- What is above a created label was created with it, up to the first that was known.
        refine .inl ⟨m, hm, mem_levels_trans hxy hym, fun z hz hxz => ?_⟩
        rcases levels_total hym hz with hyz | hzy
        · exact hbelow' z hz hyz
        · exact hbelow z (mem_levels_trans hzy hy) hxz
    · refine .inr ⟨n, hn, hx, fun y hy hxy hk => ?_⟩
      exact hnew ⟨y, hy, hxy, hk⟩

end Label

end MailTriage
