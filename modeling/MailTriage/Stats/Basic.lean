import MailTriage.Calendar.Moment
import MailTriage.Number.Binary64

/-!
Statistics: a record of every run, and a summary of all records each time they are collapsed. Numbers
have 64 bits; what would need more of them is refused and changes nothing.
-/

namespace MailTriage

structure RunRecord where
  id : Nat
  start : Moment
  threads : Int
  messages : Int
  /-- How long the run took, in milliseconds. -/
  duration : Int
  deriving DecidableEq, Repr

/-- Total, least and greatest of some numbers, and what they come to on average. -/
structure Figures where
  total : Int
  least : Int
  greatest : Int
  average : Binary64
  deriving DecidableEq, Repr

/-- All runs since the last summary. -/
structure Summary where
  day : Calendar.Date
  runs : Nat
  threads : Figures
  messages : Figures
  duration : Figures
  perThread : Option Binary64
  perMessage : Option Binary64
  deriving DecidableEq, Repr

structure Stats where
  records : List RunRecord := []
  /-- The number of the next record; numbers of collapsed records are not given again. -/
  nextRecord : Nat := 1
  /-- The summaries, the oldest first. -/
  summaries : List Summary := []
  deriving DecidableEq, Repr

inductive StatsError where
  /-- Of two moments only one is tied to universal time. -/
  | mixedClocks
  | tooLarge
  deriving DecidableEq, Repr

namespace Stats

def isStorable (n : Int) : Bool :=
  -0x8000000000000000 ≤ n && n < 0x8000000000000000

/-- The milliseconds in some microseconds, worked out in seconds: both the seconds and the thousandfold
of them are rounded before the fraction is dropped. -/
def milliseconds (micros : Int) : Int :=
  (((Binary64.ofQuotient micros 1000000).mulNat 1000).truncate?).getD 0

def addRecord (start finish : Moment) (threads messages : Int) (s : Stats) : Except StatsError Stats :=
  if start.offset.isSome != finish.offset.isSome then .error .mixedClocks
  else if isStorable threads && isStorable messages then
    let duration := milliseconds (finish.instant - start.instant)
    .ok { s with
      records := s.records ++ [⟨s.nextRecord, start, threads, messages, duration⟩]
      nextRecord := s.nextRecord + 1 }
  else .error .tooLarge

def quotient (n d : Int) : Binary64 :=
  .ofRatio ((n < 0) != (d < 0)) n.natAbs d.natAbs

def quotient? (n d : Int) : Option Binary64 :=
  if d = 0 then none else some (quotient n d)

def figures (n : Int) (ns : List Int) : Figures where
  total := ns.foldl (· + ·) n
  least := ns.foldl min n
  greatest := ns.foldl max n
  average := quotient (ns.foldl (· + ·) n) (n :: ns).length

def summarize (day : Calendar.Date) (r : RunRecord) (rs : List RunRecord) : Summary :=
  let threads := figures r.threads (rs.map (·.threads))
  let messages := figures r.messages (rs.map (·.messages))
  let duration := figures r.duration (rs.map (·.duration))
  { day := day
    runs := (r :: rs).length
    threads := threads
    messages := messages
    duration := duration
    perThread := quotient? duration.total threads.total
    perMessage := quotient? duration.total messages.total }

def isStorableSummary (s : Summary) : Bool :=
  isStorable s.threads.total && isStorable s.messages.total && isStorable s.duration.total

/-- Puts a summary in the place of all records, if there are any. -/
def collapse (now : Moment) (s : Stats) : Except StatsError (Option Summary × Stats) :=
  match s.records with
  | [] => .ok (none, s)
  | r :: rs =>
    let summary := summarize now.date r rs
    if isStorableSummary summary then
      .ok (some summary, { s with records := [], summaries := s.summaries ++ [summary] })
    else .error .tooLarge

end Stats

/-- A number as it is kept: zero has no sign. -/
def Binary64.kept : Binary64 → Binary64
  | .finite _ 0 e => .finite false 0 e
  | x => x

def Figures.kept (f : Figures) : Figures :=
  { f with average := f.average.kept }

def Summary.figures (s : Summary) : List (String × Option Binary64) :=
  let group (name : String) (f : Figures) : List (String × Option Binary64) :=
    [(name ++ "_total", some (.ofInt f.total)), (name ++ "_min", some (.ofInt f.least)),
      (name ++ "_max", some (.ofInt f.greatest))]
  [("execution_count", some (.ofInt s.runs))] ++ group "thread" s.threads ++
    [("thread_avg", some s.threads.average)] ++ group "message" s.messages ++
    [("message_avg", some s.messages.average)] ++ group "duration" s.duration ++
    [("duration_avg_per_execution", some s.duration.average),
      ("duration_avg_per_thread", s.perThread), ("duration_avg_per_message", s.perMessage)]

def Summary.kept (s : Summary) : Summary :=
  { s with
    threads := s.threads.kept
    messages := s.messages.kept
    duration := s.duration.kept
    perThread := s.perThread.map (·.kept)
    perMessage := s.perMessage.map (·.kept) }

namespace Stats

/-- The latest `limit` summaries with their numbers, the newest first; all, if the limit is negative. -/
def latest (limit : Int) (s : Stats) : Except StatsError (List (Nat × Summary)) :=
  if isStorable limit then
    let kept := (s.summaries.zipIdx.map fun (d, i) => (i + 1, d.kept)).reverse
    .ok (if limit < 0 then kept else kept.take limit.toNat)
  else .error .tooLarge

end Stats

end MailTriage
