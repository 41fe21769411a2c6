import MailTriage.Proofs.Label.Growth

namespace MailTriage

namespace Label

/-- The trimmed text before the last slash of a name. -/
def parent (name : String) : String :=
  String.ofList (Text.trim (Text.beforeLast '/' name.toList))

/-- The names looked up for a label: the trimmed name, then the trimmed text before its last slash and so
on, up to the first that is known or has no slash. -/
def chain (known : LabelSet) (name : List Char) : List String :=
  let s := Text.trim name
  if String.ofList s ∉ known ∧ '/' ∈ s then
    String.ofList s :: chain known (Text.beforeLast '/' s)
  else [String.ofList s]
termination_by name.length
decreasing_by
  rename_i h
  exact Nat.lt_of_lt_of_le (Text.length_beforeLast_lt h.2) (Text.length_trim_le name)

/-- Whether each label with a slash has what stands before the slash, trimmed, beside it. -/
def HasParents (known : LabelSet) : Prop :=
  ∀ name ∈ known, '/' ∈ name.toList → parent name ∈ known

variable {known : LabelSet} {s : List Char} {x : String}

theorem chain_of_slash (hknown : String.ofList (Text.trim s) ∉ known) (hslash : '/' ∈ Text.trim s) :
    chain known s =
      String.ofList (Text.trim s) :: chain known (Text.beforeLast '/' (Text.trim s)) := by
  rw [chain]
  exact if_pos ⟨hknown, hslash⟩

theorem chain_of_last (h : ¬ (String.ofList (Text.trim s) ∉ known ∧ '/' ∈ Text.trim s)) :
    chain known s = [String.ofList (Text.trim s)] := by
  rw [chain]
  exact if_neg h

theorem trimmed_mem_chain : String.ofList (Text.trim s) ∈ chain known s := by
  rw [chain]
  split_ifs <;> simp

theorem length_le_of_mem_chain (h : x ∈ chain known s) : x.length ≤ s.length := by
  induction s using chain.induct known with
  | case1 s t ht ih =>
    rw [chain_of_slash ht.1 ht.2, List.mem_cons] at h
    have hs : (Text.trim s).length ≤ s.length := Text.length_trim_le s
    have hlt : (Text.beforeLast '/' (Text.trim s)).length < (Text.trim s).length :=
      Text.length_beforeLast_lt ht.2
    obtain rfl | h := h
    · rwa [String.length_ofList]
    · exact (ih h).trans (hlt.le.trans hs)
  | case2 s t ht =>
    rw [chain_of_last ht, List.mem_singleton] at h
    rw [h, String.length_ofList]
    exact Text.length_trim_le s

theorem nodup_chain (known : LabelSet) (s : List Char) : (chain known s).Nodup := by
  induction s using chain.induct known with
  | case1 s t ht ih =>
    rw [chain_of_slash ht.1 ht.2, List.nodup_cons]
    refine ⟨fun hmem => ?_, ih⟩
    have hlt : (Text.beforeLast '/' (Text.trim s)).length < (Text.trim s).length :=
      Text.length_beforeLast_lt ht.2
    have hle := length_le_of_mem_chain hmem
    rw [String.length_ofList] at hle
    omega
  | case2 s t ht =>
    rw [chain_of_last ht]
    exact List.nodup_singleton _

theorem parent_mem_chain (h : x ∈ chain known s) (hknown : x ∉ known) (hslash : '/' ∈ x.toList) :
    parent x ∈ chain known s := by
  induction s using chain.induct known with
  | case1 s t ht ih =>
    rw [chain_of_slash ht.1 ht.2, List.mem_cons] at h ⊢
    obtain rfl | h := h
    · rw [parent, String.toList_ofList]
      exact .inr trimmed_mem_chain
    · exact .inr (ih h)
  | case2 s t ht =>
    rw [chain_of_last ht, List.mem_singleton] at h
    subst h
    rw [String.toList_ofList] at hslash
    exact absurd ⟨hknown, hslash⟩ ht

/-- What is missing for a name are the unknown names looked up for it, in the opposite order; an empty
one among them leaves it without an answer. -/
theorem missing?_eq (known : LabelSet) (s : List Char) : missing? known s =
    if "" ∈ chain known s then none else some ((chain known s).filter (· ∉ known)).reverse := by
  have hne {t : List Char} (ht : ¬ t.isEmpty) : "" ≠ String.ofList t := by
    rintro heq
    exact ht (by simpa using heq.symm)
  fun_induction missing? known s with
  | case1 s t ht =>
    have hmem : String.ofList t ∈ chain known s := trimmed_mem_chain
    rw [List.isEmpty_iff.1 ht] at hmem
    exact (if_pos hmem).symm
  | case2 s t ht hknown =>
    have hchain : chain known s = [String.ofList t] := chain_of_last fun h => h.1 hknown
    simp [hchain, hne ht, hknown]
  | case3 s t ht hknown hslash ih =>
    have hchain : chain known s = String.ofList t :: chain known (Text.beforeLast '/' t) :=
      chain_of_slash hknown hslash
    rw [ih]
    by_cases hempty : "" ∈ chain known (Text.beforeLast '/' t)
    · simp [hchain, hempty]
    · simp [hchain, hempty, hne ht, hknown]
  | case4 s t ht hknown hslash =>
    have hchain : chain known s = [String.ofList t] := chain_of_last fun h => hslash h.2
    simp [hchain, hne ht, hknown]

theorem missing?_of_known {name : String} (hne : trimmed name ≠ "") (hknown : trimmed name ∈ known) :
    missing? known name.toList = some [] := by
  have hempty : ¬ (Text.trim name.toList).isEmpty := by
    intro hnil
    exact hne (by rw [trimmed, List.isEmpty_iff.1 hnil])
  rw [missing?, if_neg hempty]
  exact if_pos hknown

end Label

namespace Mailbox

open Label

/-- Makes a label known level by level: what is above it by the same rule, and then itself. What was
created is not taken back where a name turns out to be empty. -/
def ensureLevels (name : List Char) (b : Mailbox) : Mailbox × Except LabelError String :=
  let s := Text.trim name
  if s.isEmpty then (b, .error .empty)
  else if String.ofList s ∈ b.known then (b, .ok (String.ofList s))
  else if '/' ∈ s then
    match ensureLevels (Text.beforeLast '/' s) b with
    | (b, .error e) => (b, .error e)
    | (b, .ok _) => (b.create (String.ofList s), .ok (String.ofList s))
  else (b.create (String.ofList s), .ok (String.ofList s))
termination_by name.length
decreasing_by exact Nat.lt_of_lt_of_le (Text.length_beforeLast_lt ‹_›) (Text.length_trim_le name)

/-- A mailbox in which labels were created one after another, and nothing else was done. -/
structure Gained (names : List String) (b b' : Mailbox) : Prop where
  log : b'.store.log = b.store.log ++ names.map fun n => ⟨.createLabel n, []⟩
  labels : ∀ x, x ∈ b'.store.labels ↔ x ∈ b.store.labels ∨ x ∈ names
  known : ∀ x, x ∈ b'.known ↔ x ∈ b.known ∨ x ∈ names
  threads : b'.store.threads = b.store.threads

variable {b b' : Mailbox} {names : List String} {name : String} {s : List Char}

theorem gained_foldl_create (names : List String) (b : Mailbox) : Gained names b (names.foldl create b) where
  log := log_foldl_create names
  labels x := by rw [labels_foldl_create, LabelSet.mem_insertAll]
  known x := by rw [known_foldl_create, LabelSet.mem_insertAll]
  threads := threads_foldl_create names

/-- An empty name is met before anything has been created, so that there is nothing to be taken back. -/
theorem ensureLevels_eq (b : Mailbox) (s : List Char) : b.ensureLevels s =
    match missing? b.known s with
    | none => (b, .error .empty)
    | some names => (names.foldl create b, .ok (String.ofList (Text.trim s))) := by
  fun_induction missing? b.known s with
  | case1 s t ht => rw [ensureLevels, if_pos ht]
  | case2 s t ht hknown =>
    rw [ensureLevels, if_neg ht, if_pos hknown]
    rfl
  | case3 s t ht hknown hslash ih =>
    rw [ensureLevels, if_neg ht, if_neg hknown, if_pos hslash, ih]
    cases missing? b.known (Text.beforeLast '/' t) with
    | none => rfl
    | some above => simp [t]
  | case4 s t ht hknown hslash =>
    rw [ensureLevels, if_neg ht, if_neg hknown, if_neg hslash]
    rfl

theorem hasParents_of_gained (h : HasParents b.known)
    (hgained : Gained ((chain b.known s).filter (· ∉ b.known)).reverse b b') : HasParents b'.known := by
  intro x hx hslash
  have hlookup (y : String) : y ∈ ((chain b.known s).filter (· ∉ b.known)).reverse ↔
      y ∈ chain b.known s ∧ y ∉ b.known := by simp
  rw [hgained.known, hlookup] at hx ⊢
  obtain hx | ⟨hchain, hnew⟩ := hx
  · exact .inl (h x hx hslash)
  · have hparent := parent_mem_chain hchain hnew hslash
    by_cases hknown : parent x ∈ b.known
    · exact .inl hknown
    · exact .inr ⟨hparent, hknown⟩

/-- Asking for a label is refused, without any change, if one of the names looked up for it is empty.
Otherwise those that are not known are created, each once and the upper ones first, and nothing is left to be
done if the label is asked for again. Level by level it comes to the same. -/
theorem ensureLabel_chain (b : Mailbox) (name : String) :
    let names := chain b.known name.toList
    let missing := (names.filter (· ∉ b.known)).reverse
    if "" ∈ names then
      b.ensureLabel name = .error .empty ∧ b.ensureLevels name.toList = (b, .error .empty)
    else ∃ b',
      b.ensureLabel name = .ok (trimmed name, b') ∧
      b.ensureLevels name.toList = (b', .ok (trimmed name)) ∧
      missing.Nodup ∧ Gained missing b b' ∧
      b'.ensureLabel name = .ok (trimmed name, b') ∧
      (HasParents b.known → HasParents b'.known) := by
  intro names missing
  have hmissing : missing? b.known name.toList = if "" ∈ names then none else some missing :=
    missing?_eq b.known name.toList
  have hlevels := ensureLevels_eq b name.toList
  split_ifs with hempty
  · rw [if_pos hempty] at hmissing
    rw [hmissing] at hlevels
    exact ⟨by rw [ensureLabel, hmissing], hlevels⟩
  · rw [if_neg hempty] at hmissing
    rw [hmissing] at hlevels
    have hgained := gained_foldl_create missing b
    have hnodup : missing.Nodup := List.nodup_reverse.2 ((nodup_chain _ _).filter _)
    have hmem : trimmed name ∈ names := trimmed_mem_chain
    have hne : trimmed name ≠ "" := ne_of_mem_of_not_mem hmem hempty
    have hknown : trimmed name ∈ (missing.foldl create b).known := by
      rw [hgained.known]
      by_cases hold : trimmed name ∈ b.known
      · exact .inl hold
      · exact .inr (by simp [missing, hmem, hold])
    refine ⟨missing.foldl create b, by rw [ensureLabel, hmissing], hlevels, hnodup, hgained, ?_,
      fun h => hasParents_of_gained h hgained⟩
    rw [ensureLabel, missing?_of_known hne hknown]
    rfl

example : chain (.ofList ["a"]) " a/ /c".toList = ["a/ /c", "a/", "a"] := by decide +kernel

end Mailbox

end MailTriage
