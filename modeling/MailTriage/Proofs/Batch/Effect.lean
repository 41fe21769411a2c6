import Mathlib.Data.List.Count
import MailTriage.Proofs.Batch.Operations
import MailTriage.Proofs.Settings.Config

namespace MailTriage

namespace Operation

theorem foldl_onThread (ops : List Operation) (t : Thread) :
    ops.foldl (fun t op => op.onThread t) t =
      { t with
        labels := ops.foldl (fun ls op => op.onLabels ls) t.labels
        state := ops.foldl (fun s op => op.onState s) t.state } := by
  induction ops generalizing t with
  | nil => rfl
  | cons op ops ih => exact ih (op.onThread t)

variable {names ls : List String} {name l : String}

theorem mem_addLabel : l ∈ (addLabel name).onLabels ls ↔ l ∈ ls ∨ l = name := by
  simp only [onLabels, List.contains_iff_mem]
  split_ifs with h
  · exact ⟨.inl, fun hl => hl.elim id fun hl => hl ▸ h⟩
  · simp

theorem count_addLabel_le (h : ls.count l ≤ 1) : ((addLabel name).onLabels ls).count l ≤ 1 := by
  simp only [onLabels, List.contains_iff_mem]
  split_ifs with hn
  · exact h
  · by_cases hl : l = name
    · subst hl
      simp [List.count_eq_zero.2 hn]
    · simpa [Ne.symm hl] using h

theorem mem_erase_of_count_le (h : ls.count name ≤ 1) : l ∈ ls.erase name ↔ l ∈ ls ∧ l ≠ name := by
  by_cases hl : l = name
  · subst hl
    have hzero : (ls.erase l).count l = 0 := by
      rw [List.count_erase_self]
      omega
    simp [List.count_eq_zero.1 hzero]
  · simp [List.mem_erase_of_ne hl, hl]

theorem mem_foldl_addLabel :
    l ∈ (names.map addLabel).foldl (fun ls op => op.onLabels ls) ls ↔ l ∈ ls ∨ l ∈ names := by
  induction names generalizing ls with
  | nil => simp
  | cons name names ih =>
    rw [List.map_cons, List.foldl_cons, ih, mem_addLabel, List.mem_cons, or_assoc]

theorem count_foldl_addLabel_le (h : ls.count l ≤ 1) :
    ((names.map addLabel).foldl (fun ls op => op.onLabels ls) ls).count l ≤ 1 := by
  induction names generalizing ls with
  | nil => exact h
  | cons name names ih => exact ih (count_addLabel_le h)

theorem foldl_addLabel_onState (s : ThreadState) :
    (names.map addLabel).foldl (fun s op => op.onState s) s = s := by
  induction names with
  | nil => rfl
  | cons name names ih => exact ih

end Operation

namespace Action

def onState (a : Action) (s : ThreadState) : ThreadState :=
  { s with
    inInbox :=
      match a.moveTo with
      | .inbox => true
      | .archive | .trash => false
      | .unset | .nothing => s.inInbox
    inTrash :=
      match a.moveTo with
      | .inbox => false
      | .trash => true
      | .unset | .archive | .nothing => s.inTrash
    important :=
      match a.important with
      | .enable => true
      | .disable => false
      | .unset => s.important
    unread :=
      match a.read with
      | .enable => false
      | .disable => true
      | .unset => s.unread }

def operations (a : Action) : List Operation :=
  (match a.moveTo with
    | .inbox => [.moveToInbox]
    | .archive => [.moveToArchive]
    | .trash => [.moveToTrash]
    | .unset | .nothing => []) ++
  (match a.important with
    | .enable => [.markImportant]
    | .disable => [.markUnimportant]
    | .unset => []) ++
  match a.read with
    | .enable => [.markRead]
    | .disable => [.markUnread]
    | .unset => []

variable {a : Action}

theorem foldl_operations_onState (a : Action) (s : ThreadState) :
    a.operations.foldl (fun s op => op.onState s) s = a.onState s := by
  unfold operations onState
  cases a.moveTo <;> cases a.important <;> cases a.read <;> rfl

theorem foldl_operations_onLabels (a : Action) (ls : List String) :
    a.operations.foldl (fun ls op => op.onLabels ls) ls = ls := by
  unfold operations
  cases a.moveTo <;> cases a.important <;> cases a.read <;> rfl

end Action

namespace Batch

open Store

variable {c : Config} {items : List (Nat × Action)} {a : Action} {p : Nat} {b b' : Mailbox}

theorem sublist_of_mem_allOperations :
    ∀ o ∈ allOperations c items, o.2.Sublist (items.map (·.1)) := by
  have hplaces (q : Action → Bool) : (Plan.placesOf items q).Sublist (items.map (·.1)) :=
    Plan.placesOf_sublist
  intro o ho
  simp only [allOperations, List.mem_append, labelOperations, List.mem_map] at ho
  obtain (⟨g, hg, rfl⟩ | ho) | ho := ho
  · rw [(Plan.mem_labels_ofActions.1 hg).2]
    exact hplaces _
  · replace ho := (List.mem_filter.1 ho).1
    simp only [Plan.moves_ofActions, Plan.important_ofActions, Plan.read_ofActions, List.mem_cons,
      List.not_mem_nil, or_false] at ho
    obtain rfl | rfl | rfl | rfl | rfl | rfl | rfl := ho <;> dsimp only <;> exact hplaces _
  · simp only [doneOperations, List.mem_cons, List.not_mem_nil, or_false] at ho
    obtain rfl | rfl := ho <;> exact List.Sublist.refl _

theorem opsAt_of_not_mem (hp : p ∉ items.map (·.1)) : opsAt p (allOperations c items) = [] := by
  rw [opsAt, List.map_eq_nil_iff, List.filter_eq_nil_iff]
  intro o ho
  have hsub := (sublist_of_mem_allOperations o ho).subset
  simpa using fun h => hp (hsub h)

theorem opsAt_filter_nonempty (ops : List (Operation × List Nat)) :
    opsAt p (ops.filter fun o => !o.2.isEmpty) = opsAt p ops := by
  rw [opsAt, opsAt, List.filter_filter]
  congr 2
  funext o
  cases o.2 <;> simp

theorem opsAt_operations (hd : (items.map (·.1)).Nodup) (hp : (p, a) ∈ items) :
    opsAt p (Plan.ofActions items).operations = a.operations := by
  -- The thread is in the group of a setting just if its own action has it.
  have hmem (q : Action → Bool) : p ∈ Plan.placesOf items q ↔ q a := Plan.mem_placesOf hd hp
  rw [Plan.operations, opsAt_filter_nonempty]
  simp only [opsAt, Plan.moves_ofActions, Plan.important_ofActions, Plan.read_ofActions,
    List.filter_cons, hmem, List.filter_nil]
  unfold Action.operations
  cases a.moveTo <;> cases a.important <;> cases a.read <;> rfl

/-- The labels that a batch adds to a thread, before that of threads that are done. -/
def addedAt (p : Nat) (items : List (Nat × Action)) : List String :=
  ((Plan.ofActions items).labels.filter (p ∈ ·.2)).map fun g => trimmed g.1

theorem mem_addedAt (hd : (items.map (·.1)).Nodup) (hp : (p, a) ∈ items) {l : String} :
    l ∈ addedAt p items ↔ ∃ name ∈ a.labels, trimmed name = l := by
  simp only [addedAt, List.mem_map, List.mem_filter, decide_eq_true_eq]
  constructor
  · rintro ⟨⟨name, places⟩, ⟨hg, hmem⟩, rfl⟩
    rw [(Plan.mem_labels_ofActions.1 hg).2, Plan.mem_placesOf hd hp, decide_eq_true_eq] at hmem
    exact ⟨name, hmem, rfl⟩
  · rintro ⟨name, hname, rfl⟩
    refine ⟨(name, Plan.placesOf items (name ∈ ·.labels)), ⟨?_, ?_⟩, rfl⟩
    · exact Plan.mem_labels_ofActions.2 ⟨⟨(p, a), hp, hname⟩, rfl⟩
    · rw [Plan.mem_placesOf hd hp]
      exact decide_eq_true hname

theorem opsAt_allOperations (hd : (items.map (·.1)).Nodup) (hp : (p, a) ∈ items) :
    opsAt p (allOperations c items) = (addedAt p items).map .addLabel ++ a.operations ++
      [.addLabel (trimmed c.processedLabel), .removeLabel c.unprocessedLabel] := by
  have hlabels : opsAt p (labelOperations (Plan.ofActions items).labels) =
      (addedAt p items).map .addLabel := by
    simp [opsAt, labelOperations, addedAt, List.filter_map, Function.comp_def]
  have hplace : p ∈ items.map (·.1) := List.mem_map.2 ⟨_, hp, rfl⟩
  have hdone : opsAt p (doneOperations c (items.map (·.1))) =
      [.addLabel (trimmed c.processedLabel), .removeLabel c.unprocessedLabel] := by
    simp only [opsAt, doneOperations, List.filter_cons, hplace, decide_true, if_true, List.filter_nil]
    rfl
  rw [allOperations, opsAt_append, opsAt_append, hlabels, opsAt_operations hd hp, hdone]

/-- The labels of a thread of a batch, before it loses that of threads that wait. -/
def labelsAt (c : Config) (items : List (Nat × Action)) (p : Nat) (ls : List String) : List String :=
  (Operation.addLabel (trimmed c.processedLabel)).onLabels
    (((addedAt p items).map Operation.addLabel).foldl (fun ls op => op.onLabels ls) ls)

theorem mem_labelsAt (hd : (items.map (·.1)).Nodup) (hp : (p, a) ∈ items) {l : String}
    {ls : List String} : l ∈ labelsAt c items p ls ↔
      l ∈ ls ∨ (∃ name ∈ a.labels, trimmed name = l) ∨ l = trimmed c.processedLabel := by
  rw [labelsAt, Operation.mem_addLabel, Operation.mem_foldl_addLabel, mem_addedAt hd hp, or_assoc]

theorem count_labelsAt_le {l : String} {ls : List String} (h : ls.count l ≤ 1) :
    (labelsAt c items p ls).count l ≤ 1 :=
  Operation.count_addLabel_le (Operation.count_foldl_addLabel_le h)

theorem foldl_opsAt (hd : (items.map (·.1)).Nodup) (hp : (p, a) ∈ items) (t : Thread) :
    (opsAt p (allOperations c items)).foldl (fun t op => op.onThread t) t =
      { t with
        labels := (labelsAt c items p t.labels).erase c.unprocessedLabel
        state := a.onState t.state } := by
  rw [Operation.foldl_onThread, opsAt_allOperations hd hp]
  simp only [List.foldl_append, Operation.foldl_addLabel_onState, Action.foldl_operations_onState,
    Action.foldl_operations_onLabels]
  rfl

theorem getElem?_apply (hd : (items.map (·.1)).Nodup) (h : apply c items b = (b', none)) :
    (p ∉ items.map (·.1) → b'.store.threads[p]? = b.store.threads[p]?) ∧
      ∀ a, (p, a) ∈ items → b'.store.threads[p]? = (b.store.threads[p]?).map fun t =>
        { t with
          labels := (labelsAt c items p t.labels).erase c.unprocessedLabel
          state := a.onState t.state } := by
  have hnodup : ∀ o ∈ allOperations c items, o.2.Nodup := fun o ho =>
    hd.sublist (sublist_of_mem_allOperations o ho)
  rw [threads_apply h, getElem?_afterOperations hnodup]
  constructor
  · intro hp
    rw [opsAt_of_not_mem hp]
    simp
  · intro a hp
    simp only [foldl_opsAt hd hp]

theorem length_threads_apply (h : apply c items b = (b', none)) :
    b'.store.threads.length = b.store.threads.length := by
  rw [threads_apply h, length_afterOperations]

/-- A thread of a batch in the end, given what it was and the action collected for it. -/
structure Treated (c : Config) (a : Action) (t u : Thread) : Prop where
  id : u.id = t.id
  messages : u.messages = t.messages
  state : u.state = a.onState t.state
  labels : ∀ l, l ∈ u.labels ↔
    (l ∈ t.labels ∨ (∃ name ∈ a.labels, trimmed name = l) ∨ l = c.processedLabel) ∧
      l ≠ c.unprocessedLabel

variable {entries : List (String × Document)}

/-- A batch of different threads that gets through treats each of them as its own action asks for, and
no other thread. -/
theorem threads_after_apply (hc : Config.ofEntries entries = .ok c) (hd : (items.map (·.1)).Nodup)
    (hone : ∀ t ∈ b.store.threads, t.labels.count c.unprocessedLabel ≤ 1)
    (h : apply c items b = (b', none)) :
    b'.store.threads.length = b.store.threads.length ∧
      ∀ p t, b.store.threads[p]? = some t → ∃ u, b'.store.threads[p]? = some u ∧
        (p ∉ items.map (·.1) → u = t) ∧ ∀ a, (p, a) ∈ items → Treated c a t u := by
  have hprocessed : trimmed c.processedLabel = c.processedLabel :=
    (Config.sound_of_ofEntries hc).processedLabel.trimmed
  refine ⟨length_threads_apply h, fun p t ht => ?_⟩
  obtain ⟨hother, hown⟩ := getElem?_apply (p := p) hd h
  by_cases hp : p ∈ items.map (·.1)
  · obtain ⟨⟨p, a⟩, hi, rfl⟩ := List.mem_map.1 hp
    refine ⟨_, by rw [hown a hi, ht]; rfl, fun hn => absurd hp hn, fun a' ha' => ?_⟩
    -- No thread comes twice, so `a` is the only action for it.
    have haa : a = a' := congrArg Prod.snd (List.inj_on_of_nodup_map hd hi ha' rfl)
    subst haa
    refine ⟨rfl, rfl, rfl, fun l => ?_⟩
    have hcount : (labelsAt c items p t.labels).count c.unprocessedLabel ≤ 1 :=
      count_labelsAt_le (hone t (List.mem_of_getElem? ht))
    rw [Operation.mem_erase_of_count_le hcount, mem_labelsAt hd hi, hprocessed]
  · refine ⟨t, by rw [hother hp, ht], fun _ => rfl, fun a ha => ?_⟩
    exact absurd (List.mem_map.2 ⟨_, ha, rfl⟩) hp

/-- The third and the first of some threads. One label asked for is, but for white space, that of threads
that wait. -/
def mixedItems : List (Nat × Action) :=
  [(2, { labels := .ofList ["work/a", " unprocessed "], moveTo := .trash }),
    (0, { labels := .ofList ["work/a"], important := .disable, read := .enable })]

def mixedMailbox : Mailbox :=
  .ofStore (.ofThreads [⟨"1", [], ["unprocessed", "x"], {}⟩, ⟨"2", [], ["unprocessed"], {}⟩,
    ⟨"3", [], ["y"], { inTrash := true }⟩] [])

theorem threads_after_apply_mixed :
    ∃ b', apply {} mixedItems mixedMailbox = (b', none) ∧
      ∀ p t, mixedMailbox.store.threads[p]? = some t → ∃ u, b'.store.threads[p]? = some u ∧
        (p ∉ mixedItems.map (·.1) → u = t) ∧ ∀ a, (p, a) ∈ mixedItems → Treated {} a t u := by
  have h : (apply {} mixedItems mixedMailbox).2 = none := by decide +kernel
  have hc : Config.ofEntries [] = .ok {} := by decide +kernel
  exact ⟨_, Prod.ext rfl h,
    (threads_after_apply hc (by decide) (by decide +kernel) (Prod.ext rfl h)).2⟩

end Batch

end MailTriage
