import Mathlib.Data.List.Forall2
import MailTriage.Proofs.Batch.Labels
import MailTriage.Proofs.Batch.Preview

/-!
A run over some threads and as many runs over one thread each come to the same: each thread is looked
at as it was in the beginning, and what is done to it has no part in what is done to the others.
-/

namespace MailTriage

/-- The same thread, but for the order of its labels. -/
structure Thread.Alike (t u : Thread) : Prop where
  id : t.id = u.id
  messages : t.messages = u.messages
  state : t.state = u.state
  labels : ∀ l, l ∈ t.labels ↔ l ∈ u.labels

/-- The same threads, and the same labels in the store and among those known. -/
structure Mailbox.Alike (b b' : Mailbox) : Prop where
  threads : List.Forall₂ Thread.Alike b.store.threads b'.store.threads
  labels : b.store.labels = b'.store.labels
  known : b.known = b'.known

/-- A session that fetches up to `k` threads in a run. -/
def Session.fetching (s : Session) (k : Nat) : Session :=
  { s with config := { s.config with maxThreads := k } }

namespace Thread

variable {t u v : Thread}

theorem Alike.refl (t : Thread) : t.Alike t := ⟨rfl, rfl, rfl, fun _ => Iff.rfl⟩

theorem Alike.symm (h : t.Alike u) : u.Alike t :=
  ⟨h.id.symm, h.messages.symm, h.state.symm, fun l => (h.labels l).symm⟩

theorem Alike.trans (h : t.Alike u) (h' : u.Alike v) : t.Alike v :=
  ⟨h.id.trans h'.id, h.messages.trans h'.messages, h.state.trans h'.state,
    fun l => (h.labels l).trans (h'.labels l)⟩

end Thread

namespace Batch

/-- So many runs one after another that all get to their end, with the results of all threads. -/
inductive CompletedRuns (s : Session) : Nat → State → List ThreadResult → State → Prop
  | zero {state : State} : CompletedRuns s 0 state [] state
  | succ {k : Nat} {start stop : Moment} {state state' state'' : State} {r : RunResult}
      {results : List ThreadResult} (h : run s start stop {} state = (state', .ok r))
      (hs : CompletedRuns s k state' results state'') :
      CompletedRuns s (k + 1) state (r.threads ++ results) state''

variable {c : Config} {s : Session} {start stop : Moment} {state state' state'' : State}
  {r : RunResult} {items items' : List (Nat × Action)} {b b' b'' : Mailbox} {p k m n : Nat}
  {a : Action} {places : List Nat} {store : Store} {ps : List (Nat × PendingThread)} {t u : Thread}
  {results results' : List ThreadResult}

def afterAction (c : Config) (a : Action) (t : Thread) : Thread :=
  { t with
    labels := (t.labels ++ a.labels.names.map trimmed ++ [trimmed c.processedLabel]).filter
      (· ≠ c.unprocessedLabel)
    state := a.onState t.state }

/-- A mailbox after the actions for some threads, whatever the order in which they were done. -/
structure Outcome (c : Config) (items : List (Nat × Action)) (b b' : Mailbox) : Prop where
  length : b'.store.threads.length = b.store.threads.length
  others : ∀ p ∉ items.map (·.1), b'.store.threads[p]? = b.store.threads[p]?
  own : ∀ p a t, (p, a) ∈ items → b.store.threads[p]? = some t →
    ∃ u, b'.store.threads[p]? = some u ∧ (afterAction c a t).Alike u
  grown : Mailbox.Grown (requested c items) b b'

theorem outcome_apply (hd : (items.map (·.1)).Nodup)
    (hone : ∀ t ∈ b.store.threads, t.labels.count c.unprocessedLabel ≤ 1)
    (h : apply c items b = (b', none)) : Outcome c items b b' where
  length := length_threads_apply h
  others _ hp := (getElem?_apply hd h).1 hp
  own p a t hi ht := by
    refine ⟨{ t with
        labels := (labelsAt c items p t.labels).erase c.unprocessedLabel
        state := a.onState t.state }, ?_, rfl, rfl, rfl, fun l => ?_⟩
    · rw [(getElem?_apply hd h).2 a hi, ht, Option.map_some]
    have hcount : (labelsAt c items p t.labels).count c.unprocessedLabel ≤ 1 :=
      count_labelsAt_le (hone t (List.mem_of_getElem? ht))
    rw [Operation.mem_erase_of_count_le hcount, mem_labelsAt hd hi]
    simp only [afterAction, List.mem_filter, List.mem_append, List.mem_map, List.mem_singleton,
      LabelSet.mem_names, decide_eq_true_eq, or_assoc, ne_eq]
  grown := grown_apply h

theorem Outcome.append (h : Outcome c items b b') (h' : Outcome c items' b' b'')
    (hd : ∀ p ∈ items.map (·.1), p ∉ items'.map (·.1)) : Outcome c (items ++ items') b b'' where
  length := h'.length.trans h.length
  others p hp := by
    rw [List.map_append, List.mem_append, not_or] at hp
    rw [h'.others p hp.2, h.others p hp.1]
  own p a t hi ht := by
    rcases List.mem_append.1 hi with hi | hi
    · -- The later actions are for other threads.
      obtain ⟨u, hu, halike⟩ := h.own p a t hi ht
      refine ⟨u, ?_, halike⟩
      rw [h'.others p (hd p (List.mem_map_of_mem hi)), hu]
    · apply h'.own p a t hi
      rw [h.others p fun hp => hd p hp (List.mem_map_of_mem hi), ht]
  grown := by
    apply (h.grown.trans h'.grown).congr
    intro n
    rw [requested, requested, requested, List.flatMap_append]

/-- What was to be done settles what a mailbox is like in the end. -/
theorem Outcome.alike (h : Outcome c items b b') (h' : Outcome c items b b'') : b'.Alike b'' := by
  obtain ⟨hknown, hlabels⟩ := h.grown.unique h'.grown
  refine ⟨List.forall₂_iff_get.2 ⟨h.length.trans h'.length.symm, ?_⟩, hlabels, hknown⟩
  intro p hp hp'
  have hget : b'.store.threads[p]? = some (b'.store.threads.get ⟨p, hp⟩) := List.getElem?_eq_getElem hp
  have hget' : b''.store.threads[p]? = some (b''.store.threads.get ⟨p, hp'⟩) :=
    List.getElem?_eq_getElem hp'
  by_cases hplace : p ∈ items.map (·.1)
  · obtain ⟨⟨p, a⟩, hi, rfl⟩ := List.mem_map.1 hplace
    have ht : b.store.threads[p]? = some _ := List.getElem?_eq_getElem (h.length ▸ hp)
    obtain ⟨u, hu, halike⟩ := h.own p a _ hi ht
    obtain ⟨u', hu', halike'⟩ := h'.own p a _ hi ht
    rw [Option.some.inj (hget.symm.trans hu), Option.some.inj (hget'.symm.trans hu')]
    exact halike.symm.trans halike'
  · rw [h.others p hplace, ← h'.others p hplace, hget'] at hget
    rw [← Option.some.inj hget]
    exact .refl _

theorem Outcome.not_mem_labels (h : Outcome c items b b') (hp : p ∈ items.map (·.1))
    (hu : b'.store.threads[p]? = some u) : c.unprocessedLabel ∉ u.labels := by
  obtain ⟨⟨p, a⟩, hi, rfl⟩ := List.mem_map.1 hp
  have hlength : p < b.store.threads.length := by
    rw [← h.length]
    exact (List.getElem?_eq_some_iff.1 hu).1
  obtain ⟨u', hu', halike⟩ := h.own p a _ hi (List.getElem?_eq_getElem hlength)
  cases hu.symm.trans hu'
  rw [← halike.labels]
  simp [afterAction]

theorem Outcome.count_le (h : Outcome c items b b')
    (hone : ∀ t ∈ b.store.threads, t.labels.count c.unprocessedLabel ≤ 1) :
    ∀ u ∈ b'.store.threads, u.labels.count c.unprocessedLabel ≤ 1 := by
  intro u hu
  obtain ⟨p, hp⟩ := List.mem_iff_getElem?.1 hu
  by_cases hi : p ∈ items.map (·.1)
  · rw [List.count_eq_zero.2 (h.not_mem_labels hi hp)]
    exact Nat.zero_le 1
  · rw [h.others p hi] at hp
    exact hone u (List.mem_of_getElem? hp)

theorem pendingAt_fetching : pendingAt (s.fetching k) store places = pendingAt s store places := by
  induction places with
  | nil => rfl
  | cons p places ih =>
    rw [pendingAt, pendingAt, ih]
    rfl

theorem exists_pending_of_run (h : run s start stop {} state = (state', .ok r)) :
    ∃ ps, pendingAt s state.mailbox.store (fetched s state) = .ok ps ∧
      r.threads = ps.map (fun x => (settle s x.2).2) ∧
        apply s.config (itemsOf s ps) state.mailbox = (state'.mailbox, none) := by
  have hthrough : gotThrough (run s start stop {} state).2 := by rw [h]; rfl
  obtain ⟨ps, hps, happly, hend⟩ := exists_pending_of_gotThrough rfl hthrough
  rw [h] at happly hend
  refine ⟨ps, hps, ?_, happly⟩
  rw [Except.ok.inj hend, threads_resultOf]
  rfl

/-- What runs come to that get through the first `n` threads that wait. -/
def Completes (s : Session) (n : Nat) (state : State) (results : List ThreadResult) (state' : State) :
    Prop :=
  ∃ ps, pendingAt s state.mailbox.store
      (state.mailbox.store.search s.config.unprocessedLabel n) = .ok ps ∧
    results = ps.map (fun x => (settle s x.2).2) ∧
      Outcome s.config (itemsOf s ps) state.mailbox state'.mailbox

theorem completes_zero : Completes s 0 state [] state := by
  refine ⟨[], ?_, rfl, rfl, fun _ _ => rfl, fun _ _ _ hi => absurd hi List.not_mem_nil, .refl _⟩
  rw [Store.search_natCast, List.take_zero]
  rfl

theorem completes_of_run
    (hone : ∀ t ∈ state.mailbox.store.threads, t.labels.count s.config.unprocessedLabel ≤ 1)
    (h : run (s.fetching m) start stop {} state = (state', .ok r)) :
    Completes s m state r.threads state' := by
  obtain ⟨ps, hps, hthreads, happly⟩ := exists_pending_of_run h
  have hnodup : ((itemsOf (s.fetching m) ps).map (·.1)).Nodup := by
    rw [map_fst_itemsOf hps]
    exact Store.nodup_search
  rw [pendingAt_fetching] at hps
  exact ⟨ps, hps, hthreads, outcome_apply hnodup hone happly⟩

theorem Completes.append (h : Completes s m state results state')
    (h' : Completes s n state' results' state'') :
    Completes s (m + n) state (results ++ results') state'' := by
  obtain ⟨ps, hps, rfl, houtcome⟩ := h
  obtain ⟨ps', hps', rfl, houtcome'⟩ := h'
  have hplaces : (itemsOf s ps).map (·.1) = state.mailbox.store.search s.config.unprocessedLabel m :=
    map_fst_itemsOf (s := s.fetching m) (pendingAt_fetching.trans hps)
  have hplaces' : (itemsOf s ps').map (·.1) =
      state'.mailbox.store.search s.config.unprocessedLabel n :=
    map_fst_itemsOf (s := s.fetching n) (pendingAt_fetching.trans hps')
  have hsearch := Store.search_of_lost (n := n) houtcome.length (hplaces ▸ houtcome.others)
    fun p hp t ht => houtcome.not_mem_labels (hplaces ▸ hp) ht
  have hdisjoint := List.disjoint_of_nodup_append (hsearch ▸ Store.nodup_search)
  -- The later threads are as they were before the earlier ones were worked on.
  have hsame : pendingAt s state.mailbox.store
      (state'.mailbox.store.search s.config.unprocessedLabel n) = .ok ps' := by
    rw [← hps']
    apply pendingAt_congr
    intro p hp
    exact (houtcome.others p fun hp' => hdisjoint (hplaces ▸ hp') hp).symm
  refine ⟨ps ++ ps', ?_, List.map_append.symm, ?_⟩
  · rw [hsearch]
    exact pendingAt_append hps hsame
  · rw [itemsOf, List.map_append]
    apply houtcome.append houtcome'
    intro p hp hp'
    exact hdisjoint (hplaces ▸ hp) (hplaces' ▸ hp')

theorem Completes.count_le (h : Completes s n state results state')
    (hone : ∀ t ∈ state.mailbox.store.threads, t.labels.count s.config.unprocessedLabel ≤ 1) :
    ∀ t ∈ state'.mailbox.store.threads, t.labels.count s.config.unprocessedLabel ≤ 1 := by
  obtain ⟨ps, -, -, houtcome⟩ := h
  exact houtcome.count_le hone

/-- What runs come to does not depend on how the threads are spread over them. -/
theorem Completes.unique (h : Completes s n state results state')
    (h' : Completes s n state results' state'') :
    results = results' ∧ state'.mailbox.Alike state''.mailbox := by
  obtain ⟨ps, hps, rfl, houtcome⟩ := h
  obtain ⟨ps', hps', rfl, houtcome'⟩ := h'
  cases hps.symm.trans hps'
  exact ⟨rfl, houtcome.alike houtcome'⟩

theorem completes_of_completedRuns
    (hone : ∀ t ∈ state.mailbox.store.threads, t.labels.count s.config.unprocessedLabel ≤ 1)
    (h : CompletedRuns (s.fetching m) k state results state') :
    Completes s (k * m) state results state' := by
  induction h with
  | zero =>
    rw [Nat.zero_mul]
    exact completes_zero
  | succ h _ ih =>
    have hfirst := completes_of_run hone h
    rw [Nat.succ_mul, Nat.add_comm]
    exact hfirst.append (ih (hfirst.count_le hone))

/-- One run over up to `k` threads and `k` runs over up to one thread, all of which get to their end, have
the same results in the same order, and leave mailboxes with the same threads and labels. -/
theorem alike_of_completedRuns
    (hone : ∀ t ∈ state.mailbox.store.threads, t.labels.count s.config.unprocessedLabel ≤ 1)
    (hbatch : run (s.fetching k) start stop {} state = (state', .ok r))
    (hsingle : CompletedRuns (s.fetching 1) k state results state'') :
    r.threads = results ∧ state'.mailbox.Alike state''.mailbox := by
  have hall : Completes s k state r.threads state' := completes_of_run hone hbatch
  have heach : Completes s (k * 1) state results state'' := completes_of_completedRuns hone hsingle
  rw [Nat.mul_one] at heach
  exact hall.unique heach

theorem exists_run_eq (s : Session) (start stop : Moment) (state : State)
    (h : (run s start stop {} state).2.toOption.isSome) :
    ∃ r, run s start stop {} state = ((run s start stop {} state).1, .ok r) := by
  generalize run s start stop {} state = done at h ⊢
  obtain ⟨state', e⟩ := done
  cases e with
  | error e => cases h
  | ok r => exact ⟨r, rfl⟩

def threeWaiting : State :=
  waitingState ["", "2024-02-29", ""] []

/-- Two of three threads get a label, whose parent is not known before. -/
theorem alike_of_completedRuns_two : ∃ state' r results state'',
    run ((labelSession "work/a").fetching 2) ⟨0, none⟩ ⟨0, none⟩ {} threeWaiting = (state', .ok r) ∧
      CompletedRuns ((labelSession "work/a").fetching 1) 2 threeWaiting results state'' ∧
      r.threads = results ∧ state'.mailbox.Alike state''.mailbox := by
  obtain ⟨r, hr⟩ := exists_run_eq ((labelSession "work/a").fetching 2) ⟨0, none⟩ ⟨0, none⟩
    threeWaiting (by decide +kernel)
  obtain ⟨r₁, hr₁⟩ := exists_run_eq ((labelSession "work/a").fetching 1) ⟨0, none⟩ ⟨0, none⟩
    threeWaiting (by decide +kernel)
  obtain ⟨r₂, hr₂⟩ := exists_run_eq ((labelSession "work/a").fetching 1) ⟨0, none⟩ ⟨0, none⟩
    (run ((labelSession "work/a").fetching 1) ⟨0, none⟩ ⟨0, none⟩ {} threeWaiting).1 (by decide +kernel)
  have hsingle := CompletedRuns.succ hr₁ (.succ hr₂ .zero)
  exact ⟨_, r, _, _, hr, hsingle, alike_of_completedRuns (by decide +kernel) hr hsingle⟩

end Batch

end MailTriage
