import Mathlib.Algebra.BigOperators.Group.List.Basic
import Mathlib.Algebra.Ring.Int.Defs
import Mathlib.Data.List.Forall2
import Mathlib.Order.Bounds.Basic
import MailTriage.Stats.Basic

namespace MailTriage

inductive StatsCall where
  | add (start finish : Moment) (threads messages : Int)
  | collapse (now : Moment)
  deriving DecidableEq, Repr

/-- What a call that succeeds writes under a number, if it is about a run. -/
def StatsCall.record? (number : Nat) : StatsCall → Option RunRecord
  | add start finish threads messages =>
    some ⟨number, start, threads, messages, Stats.milliseconds (finish.instant - start.instant)⟩
  | collapse _ => none

namespace Stats

def call (c : StatsCall) (s : Stats) : Except StatsError (Option Summary × Stats) :=
  match c with
  | .add start finish threads messages => (s.addRecord start finish threads messages).map (none, ·)
  | .collapse now => s.collapse now

/-- The statistics after a call. What a call that fails has begun is undone. -/
def after (c : StatsCall) (s : Stats) : Stats :=
  match s.call c with
  | .ok (_, s') => s'
  | .error _ => s

def afterAll (calls : List StatsCall) (s : Stats) : Stats :=
  calls.foldl (fun s c => s.after c) s

/-- The run that a call records under a number: none, unless it is about a run and succeeds. -/
def recordedBy (number : Nat) (c : StatsCall) (s : Stats) : List RunRecord :=
  match s.call c with
  | .ok _ => (c.record? number).toList
  | .error _ => []

/-- The runs that calls record one after another, numbered from `number` on. -/
def recorded (number : Nat) : List StatsCall → Stats → List RunRecord
  | [], _ => []
  | c :: calls, s =>
    let new := s.recordedBy number c
    new ++ (s.after c).recorded (number + new.length) calls

/-- The total, the least and the greatest of some numbers. -/
structure IsFigures (ns : List Int) (f : Figures) : Prop where
  total : f.total = ns.sum
  least : IsLeast {n | n ∈ ns} f.least
  greatest : IsGreatest {n | n ∈ ns} f.greatest

/-- What a summary says of the runs that it counts, of which there is one at least. -/
structure Counts (block : List RunRecord) (d : Summary) : Prop where
  ne_nil : block ≠ []
  runs : d.runs = block.length
  threads : IsFigures (block.map (·.threads)) d.threads
  messages : IsFigures (block.map (·.messages)) d.messages
  duration : IsFigures (block.map (·.duration)) d.duration

/-- Statistics that account for some runs: a block of them for each summary, in order, and after these
blocks the records. The next record takes the next number. -/
structure Accounts (runs : List RunRecord) (s : Stats) : Prop where
  blocks : ∃ blocks, runs = blocks.flatten ++ s.records ∧ List.Forall₂ Counts blocks s.summaries
  next : s.nextRecord = runs.length + 1

variable {s s' : Stats} {runs : List RunRecord} {calls : List StatsCall} {c : StatsCall}
  {d : Option Summary} {r : RunRecord} {rs : List RunRecord} {n : Int} {ns : List Int}

theorem isFigures_figures (n : Int) (ns : List Int) : IsFigures (n :: ns) (figures n ns) where
  total := by
    rw [List.sum_eq_foldl, List.foldl_cons, Int.zero_add]
    rfl
  least := List.min?_eq_some_iff.1 List.min?_cons'
  greatest := List.max?_eq_some_iff.1 List.max?_cons'

theorem counts_summarize (day : Calendar.Date) (r : RunRecord) (rs : List RunRecord) :
    Counts (r :: rs) (summarize day r rs) where
  ne_nil := List.cons_ne_nil r rs
  runs := rfl
  threads := isFigures_figures _ _
  messages := isFigures_figures _ _
  duration := isFigures_figures _ _

theorem addRecord_eq_ok {start finish : Moment} {threads messages : Int}
    (h : s.addRecord start finish threads messages = .ok s') :
    s' = { s with
      records := s.records ++
        [⟨s.nextRecord, start, threads, messages, milliseconds (finish.instant - start.instant)⟩]
      nextRecord := s.nextRecord + 1 } := by
  unfold addRecord at h
  split_ifs at h
  · exact (Except.ok.inj h).symm

/-- A collapse finds no records and changes nothing, or puts their summary behind the others. -/
theorem collapse_eq_ok {now : Moment} (h : s.collapse now = .ok (d, s')) :
    (s.records = [] ∧ d = none ∧ s' = s) ∨
      ∃ r rs, s.records = r :: rs ∧ d = some (summarize now.date r rs) ∧
        s' = { s with records := [], summaries := s.summaries ++ [summarize now.date r rs] } := by
  unfold collapse at h
  cases hrecords : s.records with
  | nil =>
    rw [hrecords] at h
    cases h
    exact .inl ⟨rfl, rfl, rfl⟩
  | cons r rs =>
    rw [hrecords] at h
    dsimp only at h
    split_ifs at h
    · cases h
      exact .inr ⟨r, rs, rfl, rfl, rfl⟩

theorem Accounts.addRecord {start finish : Moment} {threads messages : Int} (h : Accounts runs s)
    (hadd : s.addRecord start finish threads messages = .ok s') :
    Accounts (runs ++ [⟨runs.length + 1, start, threads, messages,
      milliseconds (finish.instant - start.instant)⟩]) s' := by
  obtain ⟨blocks, hruns, hcounts⟩ := h.blocks
  rw [addRecord_eq_ok hadd]
  constructor
  · refine ⟨blocks, ?_, hcounts⟩
    rw [← h.next, ← List.append_assoc, ← hruns]
  · rw [List.length_append, List.length_singleton, ← h.next]

theorem Accounts.collapse {now : Moment} (h : Accounts runs s)
    (hcollapse : s.collapse now = .ok (d, s')) : Accounts runs s' := by
  obtain ⟨blocks, hruns, hcounts⟩ := h.blocks
  obtain ⟨-, -, rfl⟩ | ⟨r, rs, hrecords, -, rfl⟩ := collapse_eq_ok hcollapse
  · exact h
  · refine ⟨⟨blocks ++ [r :: rs], ?_, ?_⟩, h.next⟩
    · rw [hruns, hrecords]
      simp
    · exact List.rel_append hcounts (.cons (counts_summarize now.date r rs) .nil)

theorem Accounts.after (h : Accounts runs s) (c : StatsCall) :
    Accounts (runs ++ s.recordedBy (runs.length + 1) c) (s.after c) := by
  unfold recordedBy Stats.after
  cases hcall : s.call c with
  | error e => simpa using h
  | ok answer =>
    obtain ⟨d, s'⟩ := answer
    cases c with
    | add start finish threads messages =>
      unfold call at hcall
      cases hadd : s.addRecord start finish threads messages with
      | error e => simp [hadd, Except.map] at hcall
      | ok s'' =>
        obtain ⟨-, rfl⟩ : none = d ∧ s'' = s' := by simpa [hadd, Except.map] using hcall
        exact h.addRecord hadd
    | collapse now =>
      have hnone : (StatsCall.collapse now).record? (runs.length + 1) = none := rfl
      rw [hnone, Option.toList_none, List.append_nil]
      exact h.collapse hcall

theorem Accounts.afterAll (h : Accounts runs s) (calls : List StatsCall) :
    Accounts (runs ++ s.recorded (runs.length + 1) calls) (s.afterAll calls) := by
  induction calls generalizing runs s with
  | nil => simpa [recorded, Stats.afterAll] using h
  | cons c calls ih =>
    have hrest := ih (h.after c)
    rw [List.length_append, Nat.add_right_comm, List.append_assoc] at hrest
    exact hrest

/-- Statistics that were empty account for all runs that calls have recorded since. A collapse without
records changes nothing, and neither does a call that fails. -/
theorem accounts_afterAll (calls : List StatsCall) :
    let s := afterAll calls {}
    (∃ blocks, recorded 1 calls {} = blocks.flatten ++ s.records ∧
        List.Forall₂ Counts blocks s.summaries) ∧
      (s.records = [] → ∀ now, s.collapse now = .ok (none, s)) ∧
      ∀ c e, s.call c = .error e → s.after c = s := by
  intro s
  have hstart : Accounts [] {} := ⟨⟨[], rfl, .nil⟩, rfl⟩
  have hend := hstart.afterAll calls
  refine ⟨hend.blocks, fun hnil now => ?_, fun c e hfails => ?_⟩
  · unfold Stats.collapse
    rw [hnil]
  · unfold Stats.after
    rw [hfails]

/-- The first run is collapsed. The total of the next two cannot be kept, and neither can a count that is
too large by one: both calls fail, and the two runs stay. -/
example :
    let noon : Moment := ⟨0, none⟩
    let most : StatsCall := .add noon noon 0x7fffffffffffffff 1
    let s := afterAll [most, .collapse noon, most, .add noon noon 1 1, .collapse noon,
      .add noon noon 0x8000000000000000 1] {}
    s.records.map (·.id) = [2, 3] ∧ s.summaries.map (·.threads.total) = [0x7fffffffffffffff] := by
  decide +kernel

end Stats

end MailTriage
