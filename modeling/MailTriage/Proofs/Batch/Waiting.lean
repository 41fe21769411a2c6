import MailTriage.Proofs.Batch.Turns

namespace MailTriage

namespace Operation

variable {names ls : List String} {name l : String}

theorem count_addLabel_of_mem (h : l ∈ ls) : ((addLabel name).onLabels ls).count l = ls.count l := by
  simp only [onLabels, List.contains_iff_mem]
  split_ifs with hn
  · rfl
  · have hne : name ≠ l := by
      rintro rfl
      exact hn h
    simp [hne]

theorem count_foldl_addLabel_of_mem (h : l ∈ ls) :
    ((names.map addLabel).foldl (fun ls op => op.onLabels ls) ls).count l = ls.count l := by
  induction names generalizing ls with
  | nil => rfl
  | cons name names ih =>
    have hmem : l ∈ (addLabel name).onLabels ls := mem_addLabel.2 (.inl h)
    rw [List.map_cons, List.foldl_cons, ih hmem, count_addLabel_of_mem h]

end Operation

namespace Batch

/-- A run as it is seen afterwards: the threads that it fetched, and the state that it left. -/
structure Turn where
  fetched : List Nat
  after : State

/-- Runs one after another, all of which carried out what there was to do and got to their end. -/
inductive History (s : Session) : State → List Turn → Prop
  | nil {state : State} : History s state []
  | cons {start stop : Moment} {o : Options} {state : State} {turns : List Turn}
      (hdry : o.dryRun = false) (h : gotThrough (run s start stop o state).2)
      (hs : History s (run s start stop o state).1 turns) :
      History s state (⟨fetched s state, (run s start stop o state).1⟩ :: turns)

/-- Runs after which no thread waits that was fetched, so that none is fetched twice. -/
structure Cleared (s : Session) (turns : List Turn) : Prop where
  lost : ∀ x ∈ turns, ∀ p ∈ x.fetched, ∃ u, x.after.mailbox.store.threads[p]? = some u ∧
    s.config.unprocessedLabel ∉ u.labels
  once : turns.Pairwise fun x y => ∀ p ∈ x.fetched, p ∉ y.fetched

variable {c : Config} {s : Session} {start stop : Moment} {o : Options} {state : State}
  {items : List (Nat × Action)} {p : Nat} {t : Thread} {turns : List Turn} {x : Turn}

theorem count_labelsAt_of_mem {l : String} {ls : List String} (h : l ∈ ls) :
    (labelsAt c items p ls).count l = ls.count l := by
  have hmem : l ∈ ((addedAt p items).map Operation.addLabel).foldl (fun ls op => op.onLabels ls) ls :=
    Operation.mem_foldl_addLabel.2 (.inl h)
  rw [labelsAt, Operation.count_addLabel_of_mem hmem, Operation.count_foldl_addLabel_of_mem h]

/-- A fetched thread has carried the label of threads that wait, and loses it once. -/
theorem count_run_of_fetched (hdry : o.dryRun = false) (h : gotThrough (run s start stop o state).2)
    (hp : p ∈ fetched s state) :
    ∃ t u, state.mailbox.store.threads[p]? = some t ∧
      (run s start stop o state).1.mailbox.store.threads[p]? = some u ∧
        u.labels.count s.config.unprocessedLabel + 1 = t.labels.count s.config.unprocessedLabel := by
  obtain ⟨ps, hps, happly, -⟩ := exists_pending_of_gotThrough hdry h
  obtain ⟨t, y, ht, -, hu, -⟩ := exists_settled hps happly hp
  have hmem : s.config.unprocessedLabel ∈ t.labels := Store.mem_labels_of_mem_search hp ht
  have hpos : 0 < t.labels.count s.config.unprocessedLabel := List.count_pos_iff.2 hmem
  refine ⟨t, _, ht, hu, ?_⟩
  rw [List.count_erase_self, count_labelsAt_of_mem hmem]
  omega

theorem getElem?_run_of_not_fetched (hdry : o.dryRun = false)
    (h : gotThrough (run s start stop o state).2) (hp : p ∉ fetched s state) :
    (run s start stop o state).1.mailbox.store.threads[p]? = state.mailbox.store.threads[p]? := by
  obtain ⟨ps, hps, happly, -⟩ := exists_pending_of_gotThrough hdry h
  have hplaces : (itemsOf s ps).map (·.1) = fetched s state := map_fst_itemsOf hps
  apply (getElem?_apply _ happly).1
  · rw [hplaces]
    exact hp
  · rw [hplaces]
    exact Store.nodup_search

/-- A thread that is fetched at some time has waited from the beginning. -/
theorem History.mem_labels (h : History s state turns) (hx : x ∈ turns) (hp : p ∈ x.fetched)
    (ht : state.mailbox.store.threads[p]? = some t) : s.config.unprocessedLabel ∈ t.labels := by
  induction h with
  | nil => cases hx
  | @cons start stop o state turns hdry hthrough _ ih =>
    by_cases hfetched : p ∈ fetched s state
    · exact Store.mem_labels_of_mem_search hfetched ht
    · rcases List.mem_cons.1 hx with rfl | hx
      · exact absurd hp hfetched
      · apply ih hx
        rw [getElem?_run_of_not_fetched hdry hthrough hfetched, ht]

/-- Runs clear all threads that they fetch just where each of these has carried the label of threads that
wait once. -/
theorem cleared_iff_count_eq_one (h : History s state turns) :
    Cleared s turns ↔ ∀ x ∈ turns, ∀ p ∈ x.fetched, ∃ t, state.mailbox.store.threads[p]? = some t ∧
      t.labels.count s.config.unprocessedLabel = 1 := by
  induction h with
  | nil => exact iff_of_true ⟨by simp, .nil⟩ (by simp)
  | @cons start stop o state turns hdry hthrough hs ih =>
    constructor
    · rintro ⟨hlost, honce⟩ x hx p hp
      rw [List.forall_mem_cons] at hlost
      rw [List.pairwise_cons] at honce
      by_cases hfetched : p ∈ fetched s state
      · obtain ⟨t, u, ht, hu, hcount⟩ := count_run_of_fetched hdry hthrough hfetched
        obtain ⟨u', hu', hnot⟩ := hlost.1 p hfetched
        cases hu.symm.trans hu'
        rw [List.count_eq_zero.2 hnot] at hcount
        exact ⟨t, ht, hcount.symm⟩
      · rcases List.mem_cons.1 hx with rfl | hx
        · exact absurd hp hfetched
        · rw [← getElem?_run_of_not_fetched hdry hthrough hfetched]
          exact ih.1 ⟨hlost.2, honce.2⟩ x hx p hp
    · intro hone
      rw [List.forall_mem_cons] at hone
      -- After the first run its threads do not wait, so that no later run has fetched them.
      have hfirst : ∀ p ∈ fetched s state, ∃ u,
          (run s start stop o state).1.mailbox.store.threads[p]? = some u ∧
            s.config.unprocessedLabel ∉ u.labels := by
        intro p hp
        obtain ⟨t, u, ht, hu, hcount⟩ := count_run_of_fetched hdry hthrough hp
        obtain ⟨t', ht', hone'⟩ := hone.1 p hp
        cases ht.symm.trans ht'
        refine ⟨u, hu, List.count_eq_zero.1 ?_⟩
        omega
      have hlater : ∀ x ∈ turns, ∀ p ∈ fetched s state, p ∉ x.fetched := by
        intro x hx p hp hp'
        obtain ⟨u, hu, hnot⟩ := hfirst p hp
        exact hnot (hs.mem_labels hx hp' hu)
      have hrest : Cleared s turns := by
        apply ih.2
        intro x hx p hp
        have hfetched : p ∉ fetched s state := fun hp' => hlater x hx p hp' hp
        rw [getElem?_run_of_not_fetched hdry hthrough hfetched]
        exact hone.2 x hx p hp
      exact ⟨List.forall_mem_cons.2 ⟨hfirst, hrest.lost⟩, List.pairwise_cons.2 ⟨hlater, hrest.once⟩⟩

def labelledEntries (labels : List (List String)) : List (String × Document) :=
  [("threads", .list (labels.map fun ls =>
    .map [("labels", .list (ls.map .text)), ("messages", .list [.map [("subject", .text "a")]])]))]

def labelledState (labels : List (List String)) : State where
  mailbox := .ofStore (.ofThreads ((Mail.threadsOf (labelledEntries labels)).toOption.getD []) [])

def singleSession : Session :=
  (labelSession "work").fetching 1

/-- Two threads that carry the label once, and one that carries it twice. -/
def markedState : State :=
  labelledState [["a", "unprocessed"], ["unprocessed", "b"], ["unprocessed", "unprocessed"]]

/-- In two runs over one thread each the thread that carries the label twice is not fetched. -/
theorem cleared_of_two_runs : ∃ turns, History singleSession markedState turns ∧
    turns.map (·.fetched) = [[0], [1]] ∧ Cleared singleSession turns := by
  have h₁ : gotThrough (run singleSession ⟨0, none⟩ ⟨0, none⟩ {} markedState).2 := by decide +kernel
  have h₂ : gotThrough (run singleSession ⟨0, none⟩ ⟨0, none⟩ {}
      (run singleSession ⟨0, none⟩ ⟨0, none⟩ {} markedState).1).2 := by decide +kernel
  have h := History.cons rfl h₁ (.cons rfl h₂ .nil)
  refine ⟨_, h, by decide +kernel, (cleared_iff_count_eq_one h).2 ?_⟩
  have hfetched₁ : fetched singleSession markedState = [0] := by decide +kernel
  have hfetched₂ : fetched singleSession
      (run singleSession ⟨0, none⟩ ⟨0, none⟩ {} markedState).1 = [1] := by decide +kernel
  rw [hfetched₁, hfetched₂]
  simp only [List.forall_mem_cons, List.not_mem_nil, false_implies, implies_true, and_true]
  exact ⟨⟨_, rfl, by decide +kernel⟩, _, rfl, by decide +kernel⟩

/-- A thread whose document lists the label twice is accepted, and a second run fetches it again. -/
theorem not_cleared_of_repeated_label :
    Rule.ofTable true (labelRules "work") = .ok (labelSession "work").rules ∧
      Config.ofEntries [] = .ok (labelSession "work").config ∧
      ∃ threads, Mail.threadsOf (labelledEntries [["unprocessed", "unprocessed"]]) = .ok threads ∧
        ∃ turns, History (labelSession "work") ⟨.ofStore (.ofThreads threads []), none⟩ turns ∧
          ¬ Cleared (labelSession "work") turns := by
  have hthreads : Mail.threadsOf (labelledEntries [["unprocessed", "unprocessed"]]) = .ok _ :=
    eq_ok_of_isSome (by decide +kernel)
  have h₁ : gotThrough (run (labelSession "work") ⟨0, none⟩ ⟨0, none⟩ {}
      (labelledState [["unprocessed", "unprocessed"]])).2 := by decide +kernel
  have h₂ : gotThrough (run (labelSession "work") ⟨0, none⟩ ⟨0, none⟩ {}
      (run (labelSession "work") ⟨0, none⟩ ⟨0, none⟩ {}
        (labelledState [["unprocessed", "unprocessed"]])).1).2 := by decide +kernel
  refine ⟨eq_ok_of_isSome (by decide +kernel), by decide +kernel, _, hthreads, _,
    .cons rfl h₁ (.cons rfl h₂ .nil), fun h => ?_⟩
  have honce := List.rel_of_pairwise_cons h.once List.mem_cons_self 0 (by decide +kernel)
  exact honce (by decide +kernel)

end Batch

end MailTriage
