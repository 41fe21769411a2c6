import MailTriage.Proofs.Batch.Completion
import MailTriage.Proofs.Batch.Effect
import MailTriage.Mail.Document
import MailTriage.Proofs.Batch.Fetch
import MailTriage.Proofs.Except
import MailTriage.Rule.Table

/-!
A thread that no rule has an action for is no harm to the others. A date that cannot be compared is, and
so is a label without a root: with these the whole run stops.
-/

namespace MailTriage.Batch

def fetched (s : Session) (state : State) : List Nat :=
  state.mailbox.store.search s.config.unprocessedLabel s.config.maxThreads

def collected (s : Session) (x : PendingThread) : Action :=
  (x.collect s.rules (some s.config)).action

/-- A thread to which an action was done; whether it still waits is left open. -/
structure Carried (c : Config) (a : Action) (t u : Thread) : Prop where
  id : u.id = t.id
  messages : u.messages = t.messages
  state : u.state = a.onState t.state
  labels : ∀ l ≠ c.unprocessedLabel, l ∈ u.labels ↔
    l ∈ t.labels ∨ (∃ name ∈ a.labels, trimmed name = l) ∨ l = c.processedLabel

/-- A run that is stopped by nothing: it ends in no error but that some threads failed, all of its threads
are marked as done, and what the rules ask for is done to each of them. -/
structure Isolates (s : Session) (start stop : Moment) (o : Options) (state : State) : Prop where
  raises : ∀ e, (run s start stop o state).2 = .error e → ∃ failures, e = .failed failures
  marked : ∀ p ∈ fetched s state, ∃ u,
    (run s start stop o state).1.mailbox.store.threads[p]? = some u ∧
      s.config.processedLabel ∈ u.labels
  carried : ∀ p ∈ fetched s state, ∀ t x, state.mailbox.store.threads[p]? = some t →
    s.pending t = .ok x → (collected s x).hasEffect → ∃ u,
      (run s start stop o state).1.mailbox.store.threads[p]? = some u ∧
        Carried s.config (collected s x) t u

/-- The messages that were looked at in threads that did not fail. -/
def processedViews (s : Session) (ps : List (Nat × PendingThread)) : List MessageView :=
  (ps.filter fun x => (collected s x.2).hasEffect).flatMap (·.2.views)

/-- What a run needs of its threads, and of the record of it if there are statistics. -/
structure Unhindered (s : Session) (start stop : Moment) (state : State) : Prop where
  dates : ∀ p ∈ fetched s state, ∀ t, state.mailbox.store.threads[p]? = some t →
    ∀ m ∈ t.messages, ∀ d, m.date = some d → ¬ Incomparable s.oldest d
  labels : ∀ p ∈ fetched s state, ∀ t x, state.mailbox.store.threads[p]? = some t →
    s.pending t = .ok x → ∀ name ∈ (collected s x).labels,
      ¬ Label.Rootless state.mailbox.known name
  record : state.stats.isSome → fetched s state ≠ [] → start.offset.isSome = stop.offset.isSome ∧
    ∀ ps, pendingAt s state.mailbox.store (fetched s state) = .ok ps →
      Stats.isStorable (processedViews s ps).length

variable {s : Session} {start stop : Moment} {o : Options} {state : State}
  {ps : List (Nat × PendingThread)} {x : PendingThread}

theorem settle_action : (settle s x).1 =
    if (collected s x).hasEffect then collected s x
    else (collected s x).failed s.config.failedLabel := by
  unfold settle PendingThread.problem? collected
  split_ifs with h
  · simp [h]
  · simp [h, PendingThread.failed]

theorem settle_error : (settle s x).2.error.isSome = !(collected s x).hasEffect := by
  unfold settle PendingThread.problem? collected
  dsimp only
  split_ifs with h
  · simp [h]
  · simp [h]

theorem settle_messages : (settle s x).2.messages = x.views.length := by
  unfold settle
  dsimp only
  split_ifs <;> rfl

theorem settle_thread : (settle s x).2.id = x.thread.id ∧ (settle s x).2.subject = x.thread.subject := by
  unfold settle
  dsimp only
  split_ifs <;> exact ⟨rfl, rfl⟩

def itemsOf (s : Session) (ps : List (Nat × PendingThread)) : List (Nat × Action) :=
  ps.map fun x => (x.1, (settle s x.2).1)

def resultOf (s : Session) (ps : List (Nat × PendingThread)) (r : RunResult) : RunResult :=
  ps.foldl (fun r x => r.add (settle s x.2).2) r

theorem run_of_nil (h : fetched s state = []) :
    run s start stop o state = (state, .ok { fetched := 0 }) := by
  have hempty : (fetched s state).isEmpty = true := by simpa using h
  unfold fetched at hempty
  simp only [run, hempty, if_true]

theorem run_of_error {e : CalendarError} (hne : fetched s state ≠ [])
    (h : pendingAt s state.mailbox.store (fetched s state) = .error e) :
    run s start stop o state = (state, .error (.calendar e)) := by
  have hempty : (fetched s state).isEmpty = false := by simpa using hne
  unfold fetched at h hempty
  simp only [run, h, hempty]
  rfl

theorem run_of_ok (hne : fetched s state ≠ []) (hdry : o.dryRun = false)
    (h : pendingAt s state.mailbox.store (fetched s state) = .ok ps) :
    let r := resultOf s ps { fetched := (fetched s state).length }
    let done := finish s start stop (itemsOf s ps) r state
    run s start stop o state = (done.1, done.2.elim (verdict o r) .error) := by
  have hempty : (fetched s state).isEmpty = false := by simpa using hne
  unfold fetched at h hempty
  simp only [run, h, hempty, hdry, List.foldl_map, List.map_map]
  generalize hdone : finish s start stop _ _ state = done
  have hsame : finish s start stop (itemsOf s ps)
      (resultOf s ps { fetched := (fetched s state).length }) state = done := hdone
  rw [hsame]
  obtain ⟨state', e⟩ := done
  cases e <;> rfl

/-- The end of a run: the mailbox is as the batch leaves it, and an error is one of a label or of the
statistics. -/
theorem finish_spec (s : Session) (start stop : Moment) (items : List (Nat × Action)) (r : RunResult)
    (state : State) :
    let done := finish s start stop items r state
    done.1.mailbox = (apply s.config items state.mailbox).1 ∧
      (done.2 = none ↔ (apply s.config items state.mailbox).2 = none ∧
        ∀ stats, state.stats = some stats →
          ∃ stats', stats.addRecord start stop r.processed r.messages = .ok stats') ∧
      ∀ failures, done.2 ≠ some (.failed failures) := by
  obtain ⟨b, e, hb⟩ : ∃ b e, apply s.config items state.mailbox = (b, e) := ⟨_, _, rfl⟩
  simp only [finish, hb]
  cases e with
  | some e => simp
  | none =>
    cases state.stats with
    | none => simp
    | some stats =>
      dsimp only
      cases h : stats.addRecord start stop r.processed r.messages <;> simp [h]

theorem resultOf_counts (s : Session) (ps : List (Nat × PendingThread)) (r : RunResult) :
    (resultOf s ps r).processed =
        r.processed + (ps.filter fun x => (collected s x.2).hasEffect).length ∧
      (resultOf s ps r).messages = r.messages + (processedViews s ps).length := by
  induction ps generalizing r with
  | nil => simp [resultOf, processedViews]
  | cons x ps ih =>
    have hstep : resultOf s (x :: ps) r = resultOf s ps (r.add (settle s x.2).2) := rfl
    rw [hstep, (ih _).1, (ih _).2]
    by_cases h : (collected s x.2).hasEffect
    · have herror : (settle s x.2).2.error.isSome = false := by rw [settle_error, h]; rfl
      simp [RunResult.add, herror, processedViews, h, settle_messages]
      omega
    · have herror : (settle s x.2).2.error.isSome = true := by simpa [settle_error] using h
      simp [RunResult.add, herror, processedViews, h]

theorem threads_resultOf {r : RunResult} : (resultOf s ps r).threads =
    r.threads ++ ps.map fun x => (settle s x.2).2 := by
  induction ps generalizing r with
  | nil => simp [resultOf]
  | cons x ps ih =>
    have hadd : (r.add (settle s x.2).2).threads = r.threads ++ [(settle s x.2).2] := by
      unfold RunResult.add
      split_ifs <;> rfl
    have hstep : resultOf s (x :: ps) r = resultOf s ps (r.add (settle s x.2).2) := rfl
    rw [hstep, ih, hadd, List.map_cons, List.append_assoc, List.singleton_append]

theorem pendingAt_fetched (h : pendingAt s state.mailbox.store (fetched s state) = .ok ps) :
    ps.map (·.1) = fetched s state ∧
      ∀ x ∈ ps, ∃ t, state.mailbox.store.threads[x.1]? = some t ∧ s.pending t = .ok x.2 :=
  pendingAt_eq_ok (fun _ hp => Store.exists_of_mem_search hp) h

theorem map_fst_itemsOf (h : pendingAt s state.mailbox.store (fetched s state) = .ok ps) :
    (itemsOf s ps).map (·.1) = fetched s state := by
  rw [itemsOf, List.map_map]
  exact (pendingAt_fetched h).1

/-- A label of a thread that failed can always be created, so only what the rules ask for counts. -/
theorem itemsOf_labels_iff (hfailed : ∀ known, ¬ Label.Rootless known s.config.failedLabel)
    {known : LabelSet} :
    (∀ i ∈ itemsOf s ps, ∀ name ∈ i.2.labels, ¬ Label.Rootless known name) ↔
      ∀ x ∈ ps, ∀ name ∈ (collected s x.2).labels, ¬ Label.Rootless known name := by
  rw [itemsOf, List.forall_mem_map]
  refine forall₂_congr fun x _ => ?_
  rw [settle_action]
  split_ifs with h
  · rfl
  · have hnone : ∀ name, name ∉ (collected s x.2).labels := by
      intro name hname
      simp only [Action.hasEffect, LabelSet.isEmpty, Bool.or_eq_true, Bool.not_eq_true', not_or,
        Bool.not_eq_false, List.isEmpty_iff] at h
      rw [← LabelSet.mem_names, h.1.1.1] at hname
      exact absurd hname List.not_mem_nil
    refine iff_of_true (fun name hname => ?_) fun name hname => absurd hname (hnone name)
    have : name = s.config.failedLabel := by simpa [Action.failed] using hname
    exact this ▸ hfailed known

theorem addRecord_eq_ok_iff {stats : Stats} {threads messages : Nat} (hthreads : threads ≤ 100) :
    (∃ stats', stats.addRecord start stop threads messages = .ok stats') ↔
      start.offset.isSome = stop.offset.isSome ∧ Stats.isStorable messages := by
  have hstorable : Stats.isStorable threads = true := by
    simp only [Stats.isStorable, Bool.and_eq_true, decide_eq_true_eq]
    omega
  rw [Stats.addRecord, hstorable, Bool.true_and]
  by_cases hclocks : start.offset.isSome = stop.offset.isSome
  · by_cases hm : Stats.isStorable messages = true <;> simp [hclocks, hm]
  · simp [hclocks]

variable {entries : List (String × Document)}

theorem unhindered_iff_finish (hc : Config.ofEntries entries = .ok s.config)
    (hfailed : ∀ known, ¬ Label.Rootless known s.config.failedLabel)
    (hdone : ∀ known, ¬ Label.Rootless known s.config.processedLabel)
    (hne : fetched s state ≠ [])
    (h : pendingAt s state.mailbox.store (fetched s state) = .ok ps) :
    Unhindered s start stop state ↔ (finish s start stop (itemsOf s ps)
      (resultOf s ps { fetched := (fetched s state).length }) state).2 = none := by
  obtain ⟨hmap, hps⟩ := pendingAt_fetched h
  obtain ⟨hprocessed, hmessages⟩ := resultOf_counts s ps { fetched := (fetched s state).length }
  -- The number of threads fits a record whatever they are, that of messages need not.
  have hfew : (ps.filter fun x => (collected s x.2).hasEffect).length ≤ 100 := by
    have h₁ := List.length_filter_le (fun x => (collected s x.2).hasEffect) ps
    have h₂ : ps.length = (fetched s state).length := by rw [← hmap, List.length_map]
    have h₃ : (fetched s state).length ≤ s.config.maxThreads := Store.length_search_le
    have h₄ := (Config.sound_of_ofEntries hc).maxThreads
    omega
  rw [(finish_spec ..).2.1, apply_eq_none_iff hdone, itemsOf_labels_iff hfailed, hprocessed, hmessages]
  simp only [Nat.zero_add, addRecord_eq_ok_iff hfew]
  have hmem : ∀ p ∈ fetched s state, ∃ x ∈ ps, x.1 = p := fun p hp =>
    List.mem_map.1 (hmap.symm ▸ hp)
  constructor
  · intro hu
    refine ⟨fun x hx => ?_, fun stats hstats => ?_⟩
    · obtain ⟨t, ht, hpending⟩ := hps x hx
      exact hu.labels x.1 (hmap ▸ List.mem_map_of_mem hx) t x.2 ht hpending
    · obtain ⟨hclocks, hcount⟩ := hu.record (by simp [hstats]) hne
      exact ⟨hclocks, hcount ps h⟩
  · rintro ⟨hlabels, hrecord⟩
    refine ⟨fun p hp t ht m hm d hd hinc => ?_, fun p hp t x ht hx => ?_, fun hsome _ => ?_⟩
    · obtain ⟨x, hxs, rfl⟩ := hmem p hp
      obtain ⟨t', ht', hpending⟩ := hps x hxs
      cases ht.symm.trans ht'
      rw [pending_eq_error_iff.2 ⟨m, hm, d, hd, hinc⟩] at hpending
      cases hpending
    · obtain ⟨y, hys, rfl⟩ := hmem p hp
      obtain ⟨t', ht', hpending⟩ := hps y hys
      cases ht.symm.trans ht'
      cases hx.symm.trans hpending
      exact hlabels y hys
    · obtain ⟨stats, hstats⟩ := Option.isSome_iff_exists.1 hsome
      obtain ⟨hclocks, hcount⟩ := hrecord stats hstats
      refine ⟨hclocks, fun ps' h' => ?_⟩
      cases h.symm.trans h'
      exact hcount

theorem exists_settled {b : Mailbox} {p : Nat}
    (h : pendingAt s state.mailbox.store (fetched s state) = .ok ps)
    (happly : apply s.config (itemsOf s ps) state.mailbox = (b, none)) (hp : p ∈ fetched s state) :
    ∃ t x, state.mailbox.store.threads[p]? = some t ∧ s.pending t = .ok x ∧
      b.store.threads[p]? = some
        { t with
          labels := (labelsAt s.config (itemsOf s ps) p t.labels).erase s.config.unprocessedLabel
          state := (settle s x).1.onState t.state } ∧
      ∀ l, l ∈ labelsAt s.config (itemsOf s ps) p t.labels ↔ l ∈ t.labels ∨
        (∃ name ∈ (settle s x).1.labels, trimmed name = l) ∨ l = trimmed s.config.processedLabel := by
  have hd : ((itemsOf s ps).map (·.1)).Nodup := by
    rw [map_fst_itemsOf h]
    exact Store.nodup_search
  obtain ⟨hmap, hps⟩ := pendingAt_fetched h
  obtain ⟨⟨p, x⟩, hx, rfl⟩ := List.mem_map.1 (hmap.symm ▸ hp)
  obtain ⟨t, ht, hpending⟩ := hps _ hx
  have hi : (p, (settle s x).1) ∈ itemsOf s ps := List.mem_map.2 ⟨_, hx, rfl⟩
  refine ⟨t, x, ht, hpending, ?_, fun l => mem_labelsAt hd hi⟩
  rw [(getElem?_apply hd happly).2 _ hi, ht]
  rfl

theorem isolates_of_finish (htrim : trimmed s.config.processedLabel = s.config.processedLabel)
    (hdistinct : s.config.processedLabel ≠ s.config.unprocessedLabel)
    (hne : fetched s state ≠ []) (hdry : o.dryRun = false)
    (h : pendingAt s state.mailbox.store (fetched s state) = .ok ps)
    (hfinish : (finish s start stop (itemsOf s ps)
      (resultOf s ps { fetched := (fetched s state).length }) state).2 = none) :
    Isolates s start stop o state := by
  obtain ⟨hmailbox, hnone, -⟩ := finish_spec s start stop (itemsOf s ps)
    (resultOf s ps { fetched := (fetched s state).length }) state
  have hrun : run s start stop o state = _ := run_of_ok hne hdry h
  simp only [hfinish, Option.elim_none] at hrun
  have happly : apply s.config (itemsOf s ps) state.mailbox = (_, none) :=
    Prod.ext rfl (hnone.1 hfinish).1
  refine ⟨fun e he => ?_, fun p hp => ?_, fun p hp t x ht hx heffect => ?_⟩
  · rw [hrun] at he
    dsimp only [verdict] at he
    split_ifs at he
    · exact ⟨_, (Except.error.inj he).symm⟩
  · obtain ⟨t, x, -, -, hu, hl⟩ := exists_settled h happly hp
    rw [hrun, hmailbox]
    refine ⟨_, hu, ?_⟩
    exact (List.mem_erase_of_ne hdistinct).2 ((hl _).2 (.inr (.inr htrim.symm)))
  · obtain ⟨t', x', ht', hx', hu, hl⟩ := exists_settled h happly hp
    cases ht.symm.trans ht'
    cases hx.symm.trans hx'
    rw [settle_action, if_pos heffect] at hu hl
    rw [hrun, hmailbox]
    refine ⟨_, hu, rfl, rfl, rfl, fun l hne => ?_⟩
    rw [List.mem_erase_of_ne hne, hl, htrim]

/-- A run handles all of its threads, each of them whatever the others are, just where it is
unhindered. -/
theorem isolates_iff (hc : Config.ofEntries entries = .ok s.config)
    (hprocessed : '/' ∉ s.config.processedLabel.toList) (hfailed : '/' ∉ s.config.failedLabel.toList)
    (hdistinct : s.config.processedLabel ≠ s.config.unprocessedLabel) (hdry : o.dryRun = false) :
    Isolates s start stop o state ↔ Unhindered s start stop state := by
  obtain ⟨-, hpname, hfname, -⟩ := Config.sound_of_ofEntries hc
  have hdone (known : LabelSet) : ¬ Label.Rootless known s.config.processedLabel :=
    Label.not_rootless_of_isName hpname hprocessed
  have hfail (known : LabelSet) : ¬ Label.Rootless known s.config.failedLabel :=
    Label.not_rootless_of_isName hfname hfailed
  by_cases hne : fetched s state = []
  · have hrun : run s start stop o state = (state, .ok { fetched := 0 }) := run_of_nil hne
    refine iff_of_true ⟨by simp [hrun], by simp [hne], by simp [hne]⟩ ⟨by simp [hne], by simp [hne], ?_⟩
    exact fun _ hne' => absurd hne hne'
  cases h : pendingAt s state.mailbox.store (fetched s state) with
  | error e =>
    -- Threads are made ready before any of them is worked on, outside of what is guarded.
    refine iff_of_false (fun hi => ?_) fun hu => ?_
    · obtain ⟨failures, hf⟩ := hi.raises (.calendar e) (by rw [run_of_error hne h])
      cases hf
    · cases e
      obtain ⟨p, hp, t, ht, herror⟩ := pendingAt_eq_error_iff.1 h
      obtain ⟨m, hm, d, hd, hinc⟩ := pending_eq_error_iff.1 herror
      exact hu.dates p hp t ht m hm d hd hinc
  | ok ps =>
    rw [unhindered_iff_finish hc hfail hdone hne h]
    obtain ⟨hmailbox, hnone, hnever⟩ := finish_spec s start stop (itemsOf s ps)
      (resultOf s ps { fetched := (fetched s state).length }) state
    have hrun : run s start stop o state = _ := run_of_ok hne hdry h
    constructor
    · intro hi
      by_contra hsome
      obtain ⟨e, he⟩ := Option.ne_none_iff_exists'.1 hsome
      obtain ⟨failures, rfl⟩ := hi.raises e (by simp only [hrun, he, Option.elim_some])
      exact hnever failures he
    · exact isolates_of_finish hpname.trimmed hdistinct hne hdry h

theorem not_isolates_of_error {e : RunError} (he : ∀ failures, e ≠ .failed failures)
    (h : (run s start stop o state).2 = .error e) : ¬ Isolates s start stop o state := fun hi => by
  obtain ⟨failures, hf⟩ := hi.raises e h
  exact he failures hf

def labelRules (label : String) : List (List String) :=
  [Rule.Column.every.map (·.name), ["(and)", label]]

def labelSession (label : String) : Session where
  config := {}
  rules := (Rule.ofTable true (labelRules label)).toOption.getD []
  oldest := ⟨63000000000000000, none⟩

/-- Threads that wait, one for each date of a message. -/
def waitingEntries (dates : List String) : List (String × Document) :=
  [("threads", .list (dates.map fun date => .map [("messages", .list [.map [("date", .text date)]]),
    ("labels", .list [.text "unprocessed"])]))]

def waitingState (dates labels : List String) : State where
  mailbox := .ofStore (.ofThreads ((Mail.threadsOf (waitingEntries dates)).toOption.getD []) labels)

/-- A label that starts with a slash is no harm where it is known. -/
theorem isolates_of_known_label : Isolates (labelSession "/x") ⟨0, none⟩ ⟨0, none⟩ {}
    (waitingState ["", "2024-02-29"] ["/x"]) := by
  have hc : Config.ofEntries [] = .ok (labelSession "/x").config := by decide +kernel
  obtain ⟨-, hprocessed, hfailed, -⟩ := Config.sound_of_ofEntries hc
  have hpending : pendingAt (labelSession "/x") (waitingState ["", "2024-02-29"] ["/x"]).mailbox.store
      (fetched (labelSession "/x") (waitingState ["", "2024-02-29"] ["/x"])) = _ :=
    eq_ok_of_isSome (by decide +kernel)
  refine (isolates_iff hc (by decide) (by decide) (by decide) rfl).2 ?_
  exact (unhindered_iff_finish hc (fun _ => Label.not_rootless_of_isName hfailed (by decide))
    (fun _ => Label.not_rootless_of_isName hprocessed (by decide)) (by decide +kernel) hpending).2
    (by decide +kernel)

/-- A date of the first hours of the calendar stops a run, and so does a label that starts with a slash;
both are accepted where threads, rules and options are read. -/
theorem not_isolates_of_early_date_or_slash :
    (∃ threads, Mail.threadsOf (waitingEntries ["0001-01-01T00:00:00+05:00", ""]) = .ok threads ∧
      Rule.ofTable true (labelRules "work") = .ok (labelSession "work").rules ∧
      Config.ofEntries [] = .ok (labelSession "work").config ∧
      ¬ Isolates (labelSession "work") ⟨0, none⟩ ⟨0, none⟩ {} ⟨.ofStore (.ofThreads threads []), none⟩) ∧
    ∃ threads, Mail.threadsOf (waitingEntries ["", ""]) = .ok threads ∧
      Rule.ofTable true (labelRules "/x") = .ok (labelSession "/x").rules ∧
      ¬ Isolates (labelSession "/x") ⟨0, none⟩ ⟨0, none⟩ {} ⟨.ofStore (.ofThreads threads []), none⟩ := by
  constructor
  · refine ⟨_, eq_ok_of_isSome (by decide +kernel), eq_ok_of_isSome (by decide +kernel),
      by decide +kernel, not_isolates_of_error (e := .calendar .outOfRange) (by simp) ?_⟩
    decide +kernel
  · refine ⟨_, eq_ok_of_isSome (by decide +kernel), eq_ok_of_isSome (by decide +kernel),
      not_isolates_of_error (e := .label .empty) (by simp) ?_⟩
    decide +kernel

end MailTriage.Batch
