import MailTriage.Proofs.Batch.Operations
import MailTriage.Proofs.Label.Growth

namespace MailTriage

open Label

/-- What asking for some names makes of the labels of a mailbox: those that it knows and those of its
store. -/
structure Mailbox.Grown (names : List String) (b b' : Mailbox) : Prop where
  known : ∀ x, x ∈ b'.known ↔ x ∈ b.known ∨ ∃ n ∈ names, IsMissing b.known n x
  labels : ∀ x, x ∈ b'.store.labels ↔ x ∈ b.store.labels ∨ ∃ n ∈ names, IsMissing b.known n x

namespace Mailbox

variable {b b' b'' : Mailbox} {names names' : List String} {name s : String} {op : Operation}
  {places : List Nat}

theorem Grown.refl (b : Mailbox) : Grown [] b b := ⟨by simp, by simp⟩

theorem Grown.trans (h : Grown names b b') (h' : Grown names' b' b'') :
    Grown (names ++ names') b b'' := by
  constructor
  · intro x
    rw [h'.known, h.known, or_assoc, exists_isMissing_iff h.known]
  · intro x
    rw [h'.labels, h.labels, or_assoc, exists_isMissing_iff h.known]

theorem Grown.congr (h : Grown names b b') (hnames : ∀ n, n ∈ names ↔ n ∈ names') :
    Grown names' b b' := by
  have hex (x : String) : (∃ n ∈ names, IsMissing b.known n x) ↔ ∃ n ∈ names', IsMissing b.known n x :=
    exists_congr fun n => and_congr_left fun _ => hnames n
  constructor
  · intro x
    rw [h.known, hex]
  · intro x
    rw [h.labels, hex]

/-- The names that are asked for settle what is known in the end. -/
theorem Grown.unique (h : Grown names b b') (h' : Grown names b b'') :
    b'.known = b''.known ∧ b'.store.labels = b''.store.labels := by
  constructor
  · apply LabelSet.ext
    intro x
    rw [h.known, h'.known]
  · apply LabelSet.ext
    intro x
    rw [h.labels, h'.labels]

theorem grown_ensureLabel (h : b.ensureLabel name = .ok (s, b')) : Grown [name] b b' := by
  unfold ensureLabel at h
  split at h
  · next names hnames =>
    cases h
    have hmissing (x : String) : x ∈ names ↔ ∃ n ∈ [name], IsMissing b.known n x := by
      rw [mem_missing?_iff names hnames, String.ofList_toList]
      simp
    constructor
    · intro x
      rw [known_foldl_create, LabelSet.mem_insertAll, hmissing]
    · intro x
      rw [labels_foldl_create, LabelSet.mem_insertAll, hmissing]
  · cases h

theorem grown_perform (hop : ∀ n, op ≠ .createLabel n) : Grown [] b (b.perform op places) := by
  have hlabels : (b.perform op places).store.labels = b.store.labels := by
    cases op with
    | createLabel n => exact absurd rfl (hop n)
    | _ => rfl
  constructor
  · intro x
    simp [perform]
  · intro x
    simp [hlabels]

end Mailbox

namespace Batch

open Mailbox

variable {c : Config} {items : List (Nat × Action)} {groups : List (String × List Nat)}
  {ops : List (Operation × List Nat)} {places : List Nat} {b b' : Mailbox}

theorem grown_addLabels (h : addLabels groups b = (b', none)) :
    Grown (groups.map (·.1)) b b' := by
  induction groups generalizing b with
  | nil =>
    cases h
    exact .refl _
  | cons g groups ih =>
    unfold addLabels at h
    split at h
    · next s b₁ hb =>
      have hadd : Grown [] b₁ (b₁.perform (.addLabel s) g.2) := grown_perform (by simp)
      have hstep : Grown [g.1] b (b₁.perform (.addLabel s) g.2) := (grown_ensureLabel hb).trans hadd
      exact hstep.trans (ih h)
    · cases h

theorem grown_performAll (hops : ∀ o ∈ ops, ∀ n, o.1 ≠ .createLabel n) :
    Grown [] b (performAll ops b) := by
  induction ops generalizing b with
  | nil => exact .refl b
  | cons o ops ih =>
    rw [List.forall_mem_cons] at hops
    have hstep : Grown [] b (b.perform o.1 o.2) := grown_perform hops.1
    exact hstep.trans (ih hops.2)

theorem grown_markDone (h : markDone c places b = (b', none)) : Grown [c.processedLabel] b b' := by
  unfold markDone at h
  split at h
  · next s b₁ hb =>
    cases h
    have hadd : Grown [] b₁ (b₁.perform (.addLabel s) places) := grown_perform (by simp)
    have hremove : Grown [] (b₁.perform (.addLabel s) places)
        ((b₁.perform (.addLabel s) places).perform (.removeLabel c.unprocessedLabel) places) :=
      grown_perform (by simp)
    exact (grown_ensureLabel hb).trans (hadd.trans hremove)
  · cases h

/-- The names of labels that a batch asks for: those of its actions and, if it has any threads, that of
threads that are done. -/
def requested (c : Config) (items : List (Nat × Action)) : List String :=
  items.flatMap fun i => i.2.labels.names ++ [c.processedLabel]

theorem mem_requested {n : String} : n ∈ requested c items ↔
    (∃ i ∈ items, n ∈ i.2.labels) ∨ items ≠ [] ∧ n = c.processedLabel := by
  simp only [requested, List.mem_flatMap, List.mem_append, List.mem_singleton, LabelSet.mem_names]
  constructor
  · rintro ⟨i, hi, hn | hn⟩
    · exact .inl ⟨i, hi, hn⟩
    · exact .inr ⟨List.ne_nil_of_mem hi, hn⟩
  · rintro (⟨i, hi, hn⟩ | ⟨hne, hn⟩)
    · exact ⟨i, hi, .inl hn⟩
    · obtain ⟨i, hi⟩ := List.exists_mem_of_ne_nil items hne
      exact ⟨i, hi, .inr hn⟩

theorem grown_apply (h : apply c items b = (b', none)) : Grown (requested c items) b b' := by
  obtain ⟨b₁, e, -, happly⟩ | ⟨b₁, hb, hrest⟩ := apply_cases c items b
  · rw [happly] at h
    cases h
  · have hkeys (n : String) :
        n ∈ (Plan.ofActions items).labels.map (·.1) ↔ ∃ i ∈ items, n ∈ i.2.labels := by
      constructor
      · intro hn
        obtain ⟨g, hg, rfl⟩ := List.mem_map.1 hn
        exact (Plan.mem_labels_ofActions.1 hg).1
      · intro hex
        exact List.mem_map.2 ⟨_, Plan.mem_labels_ofActions.2 ⟨hex, rfl⟩, rfl⟩
    have hops : Grown [] b₁ (performAll (Plan.ofActions items).operations b₁) := by
      apply grown_performAll
      intro o ho n hn
      have hlabel := Plan.label?_of_mem_operations o ho
      rw [hn] at hlabel
      cases hlabel
    have hgrown := (grown_addLabels hb).trans hops
    obtain ⟨hnil, happly⟩ | ⟨hne, happly⟩ := hrest
    · rw [happly] at h
      cases h
      apply hgrown.congr
      intro n
      rw [List.append_nil, hkeys, mem_requested]
      simp [hnil]
    · rw [happly] at h
      apply (hgrown.trans (grown_markDone h)).congr
      intro n
      rw [List.append_nil, List.mem_append, hkeys, mem_requested, List.mem_singleton]
      simp [hne]

end Batch

end MailTriage
