import MailTriage.Proofs.Label.Levels
import MailTriage.Proofs.Settings.Config
import MailTriage.Store.Mailbox

namespace MailTriage.Label

/-- A name that is empty, or starts with a slash where it is not known and nothing above it is. -/
structure Rootless (known : LabelSet) (name : String) : Prop where
  start : ∀ c ∈ (Text.trim name.toList).head?, c = '/'
  unknown : ∀ x ∈ levels name, x ∉ known

variable {known : LabelSet} {s : List Char} {name x : String} {names : List String}

theorem head?_beforeLast (hslash : '/' ∈ Text.trim s) :
    (∀ c ∈ (Text.trim (Text.beforeLast '/' (Text.trim s))).head?, c = '/') ↔
      ∀ c ∈ (Text.trim s).head?, c = '/' := by
  obtain ⟨u, -, hs⟩ := Text.beforeLast_append hslash
  by_cases hpar : Text.beforeLast '/' (Text.trim s) = []
  · rw [hpar, List.nil_append] at hs
    rw [hpar, hs]
    simp [Text.trim_nil]
  · have hlevel : IsLevel (Text.trim s) (Text.beforeLast '/' (Text.trim s)) := ⟨hpar, .inr ⟨u, hs⟩⟩
    have hleft := trimLeft_of_isLevel hlevel (trimLeft_trim s)
    rw [Text.trim_eq_trimRight hleft, Text.head?_trimRight hleft, head?_of_isLevel hlevel]

theorem rootless_iff_of_slash (hslash : '/' ∈ Text.trim s) (hknown : String.ofList (Text.trim s) ∉ known) :
    Rootless known (String.ofList s) ↔
      Rootless known (String.ofList (Text.beforeLast '/' (Text.trim s))) := by
  have hstart := head?_beforeLast hslash
  constructor
  · rintro ⟨h, hunknown⟩
    rw [String.toList_ofList] at h
    refine ⟨by rwa [String.toList_ofList, hstart], fun x hx => hunknown x ?_⟩
    exact (mem_levels_iff_of_slash hslash).2 (.inr hx)
  · rintro ⟨h, hunknown⟩
    rw [String.toList_ofList, hstart] at h
    refine ⟨by rwa [String.toList_ofList], fun x hx => ?_⟩
    obtain rfl | hx := (mem_levels_iff_of_slash hslash).1 hx
    · exact hknown
    · exact hunknown x hx

theorem trimmed_ofList (s : List Char) : trimmed (String.ofList s) = String.ofList (Text.trim s) := by
  rw [trimmed, String.toList_ofList]

theorem slash_mem_of_rootless (hne : Text.trim s ≠ []) (h : Rootless known (String.ofList s)) :
    '/' ∈ Text.trim s := by
  have hstart := h.start
  rw [String.toList_ofList] at hstart
  obtain ⟨c, u, hu⟩ := List.exists_cons_of_ne_nil hne
  rw [hu] at hstart ⊢
  exact List.mem_cons.2 (.inl (hstart c rfl).symm)

/-- The label for a name cannot be created just where the name has no root. -/
theorem missing?_eq_none_iff : missing? known s = none ↔ Rootless known (String.ofList s) := by
  fun_induction missing? known s with
  | case1 s t ht =>
    have hnil : Text.trim s = [] := List.isEmpty_iff.1 ht
    refine iff_of_true rfl ⟨by simp [hnil], fun x hx => ?_⟩
    obtain ⟨u, ⟨hne, h⟩, -⟩ := mem_levels.1 hx
    rw [String.toList_ofList, hnil] at h
    obtain rfl | ⟨v, hv⟩ := h
    · exact absurd rfl hne
    · exact absurd hv.symm (by simp)
  | case2 s t ht hknown =>
    have hne : trimmed (String.ofList s) ≠ "" := by
      rw [trimmed_ofList]
      simpa using ht
    refine iff_of_false (by simp) fun h => h.unknown _ (self_mem_levels hne) ?_
    rwa [trimmed_ofList]
  | case3 s t ht hknown hslash ih =>
    rw [Option.map_eq_none_iff, ih, rootless_iff_of_slash hslash hknown]
  | case4 s t ht hknown hslash =>
    exact iff_of_false (by simp) fun h => hslash (slash_mem_of_rootless (by simpa using ht) h)

theorem rootless_trimmed : Rootless known (trimmed name) ↔ Rootless known name := by
  have hlevels : levels (trimmed name) = levels name := by rw [levels, trimmed_trimmed, levels]
  have htrim : Text.trim (trimmed name).toList = Text.trim name.toList := by
    rw [trimmed, String.toList_ofList, Text.trim_trim]
  constructor
  · rintro ⟨h, hunknown⟩
    exact ⟨htrim ▸ h, hlevels ▸ hunknown⟩
  · rintro ⟨h, hunknown⟩
    exact ⟨htrim.symm ▸ h, hlevels.symm ▸ hunknown⟩

theorem not_rootless_of_mem_missing? :
    ∀ names, missing? known s = some names → ∀ x ∈ names, ¬ Rootless known x := by
  fun_induction missing? known s with
  | case1 => simp
  | case2 => simp
  | case3 s t ht hknown hslash ih =>
    intro names h x hx
    obtain ⟨above, habove, rfl⟩ := Option.map_eq_some_iff.1 h
    obtain hx | hx := List.mem_append.1 hx
    · exact ih above habove x hx
    · rw [List.mem_singleton.1 hx, ← trimmed_ofList, rootless_trimmed,
        rootless_iff_of_slash hslash hknown, ← missing?_eq_none_iff, habove]
      simp
  | case4 s t ht hknown hslash =>
    intro names h x hx
    cases h
    rw [List.mem_singleton.1 hx, ← trimmed_ofList, rootless_trimmed]
    exact fun h => hslash (slash_mem_of_rootless (by simpa using ht) h)

theorem Rootless.of_mem_levels (h : Rootless known name) (hx : x ∈ levels name) : Rootless known x := by
  refine ⟨?_, fun y hy => h.unknown y (mem_levels_trans hy hx)⟩
  obtain ⟨t, ht, rfl⟩ := mem_levels.1 hx
  have hleft := trimLeft_of_isLevel ht (trimLeft_trim _)
  rw [String.toList_ofList, Text.trim_trim, Text.trim_eq_trimRight hleft, Text.head?_trimRight hleft,
    head?_of_isLevel ht]
  exact h.start

/-- New labels that have a root change nothing for the other names. -/
theorem rootless_insertAll (h : ∀ x ∈ names, ¬ Rootless known x) :
    Rootless (known.insertAll names) name ↔ Rootless known name := by
  constructor
  · rintro ⟨hstart, hunknown⟩
    exact ⟨hstart, fun x hx hk => hunknown x hx (LabelSet.mem_insertAll.2 (.inl hk))⟩
  · intro hr
    refine ⟨hr.start, fun x hx hk => ?_⟩
    obtain hk | hk := LabelSet.mem_insertAll.1 hk
    · exact hr.unknown x hx hk
    · -- A new label above a name without a root would have no root either.
      exact h x hk (hr.of_mem_levels hx)

theorem not_rootless_of_isName (h : IsName name) (hslash : '/' ∉ name.toList) :
    ¬ Rootless known name := by
  have htrim : Text.trim name.toList = name.toList := by
    have ht := congrArg String.toList h.trimmed
    rwa [trimmed, String.toList_ofList] at ht
  intro hr
  have hne : Text.trim name.toList ≠ [] := by
    rw [htrim]
    simpa using h.ne_empty
  have hmem := slash_mem_of_rootless (s := name.toList) hne (by rwa [String.ofList_toList])
  exact hslash (htrim ▸ hmem)

end MailTriage.Label

namespace MailTriage

variable {b b' : Mailbox} {name s : String}

theorem Mailbox.known_foldl_create (names : List String) :
    (names.foldl create b).known = b.known.insertAll names := by
  induction names generalizing b with
  | nil => rfl
  | cons name names ih => exact ih

theorem Mailbox.labels_foldl_create (names : List String) :
    (names.foldl create b).store.labels = b.store.labels.insertAll names := by
  induction names generalizing b with
  | nil => rfl
  | cons name names ih => exact ih

theorem Mailbox.threads_foldl_create (names : List String) :
    (names.foldl create b).store.threads = b.store.threads := by
  induction names generalizing b with
  | nil => rfl
  | cons name names ih => exact ih

theorem Mailbox.log_foldl_create (names : List String) : (names.foldl create b).store.log =
    b.store.log ++ names.map fun n => ⟨.createLabel n, []⟩ := by
  induction names generalizing b with
  | nil => simp
  | cons name names ih =>
    rw [List.foldl_cons, ih]
    simp [create, Store.perform, Store.namesAt]

theorem Mailbox.ensureLabel_eq_error_iff :
    (∃ e, b.ensureLabel name = .error e) ↔ Label.Rootless b.known name := by
  have hnone : Label.missing? b.known name.toList = none ↔ Label.Rootless b.known name := by
    rw [Label.missing?_eq_none_iff, String.ofList_toList]
  rw [← hnone, ensureLabel]
  cases Label.missing? b.known name.toList with
  | none => exact iff_of_true ⟨_, rfl⟩ rfl
  | some names => simp

/-- Creating the labels for one name leaves it to the others whether they have a root. -/
theorem Mailbox.rootless_ensureLabel (h : b.ensureLabel name = .ok (s, b')) (n : String) :
    Label.Rootless b'.known n ↔ Label.Rootless b.known n := by
  unfold ensureLabel at h
  split at h
  · next names hnames =>
    cases h
    rw [known_foldl_create]
    exact Label.rootless_insertAll (Label.not_rootless_of_mem_missing? names hnames)
  · cases h

end MailTriage
