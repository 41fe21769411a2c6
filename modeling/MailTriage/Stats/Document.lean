import MailTriage.Calendar.Iso
import MailTriage.Document.Basic
import MailTriage.Stats.Basic

namespace MailTriage

namespace Document

def entries? : Document → Option (List (String × Document))
  | map es => some es
  | _ => none

def field? (key : String) (d : Document) : Option Document :=
  d.entries?.bind (lookup? key)

def int? : Document → Option Int
  | int n => some n
  | _ => none

def float? : Document → Option Binary64
  | float x => some x
  | int n => some (.ofInt n)
  | _ => none

def items? : Document → Option (List Document)
  | list ds => some ds
  | _ => none

def moment? : Document → Option Moment
  | moment m => some m
  | text s => Calendar.readMoment? s
  | _ => none

end Document

namespace RunRecord

def toDocument (r : RunRecord) : Document :=
  .map [("id", .int r.id), ("start", .moment r.start), ("threads", .int r.threads),
    ("messages", .int r.messages), ("duration", .int r.duration)]

def ofDocument? (d : Document) : Option RunRecord := do
  let id ← (← d.field? "id").int?
  let start ← (← d.field? "start").moment?
  let threads ← (← d.field? "threads").int?
  let messages ← (← d.field? "messages").int?
  let duration ← (← d.field? "duration").int?
  return ⟨id.toNat, start, threads, messages, duration⟩

end RunRecord

namespace Figures

def toDocument (f : Figures) : Document :=
  .map [("total", .int f.total), ("min", .int f.least), ("max", .int f.greatest),
    ("avg", .float f.average)]

def ofDocument? (d : Document) : Option Figures := do
  let total ← (← d.field? "total").int?
  let least ← (← d.field? "min").int?
  let greatest ← (← d.field? "max").int?
  let average ← (← d.field? "avg").float?
  return ⟨total, least, greatest, average⟩

end Figures

namespace Summary

def optional (x : Option Binary64) : Document :=
  (x.map Document.float).getD .null

def toDocument (s : Summary) : Document :=
  .map [("day", .date s.day), ("runs", .int s.runs), ("threads", s.threads.toDocument),
    ("messages", s.messages.toDocument), ("duration", s.duration.toDocument),
    ("per_thread", optional s.perThread), ("per_message", optional s.perMessage)]

def ofDocument? (d : Document) : Option Summary := do
  let day ← (← d.field? "day").moment?
  let runs ← (← d.field? "runs").int?
  let threads ← Figures.ofDocument? (← d.field? "threads")
  let messages ← Figures.ofDocument? (← d.field? "messages")
  let duration ← Figures.ofDocument? (← d.field? "duration")
  return ⟨day.date, runs.toNat, threads, messages, duration,
    (← d.field? "per_thread").float?, (← d.field? "per_message").float?⟩

end Summary

namespace Stats

def toDocument (s : Stats) : Document :=
  .map [("records", .list (s.records.map RunRecord.toDocument)), ("next", .int s.nextRecord),
    ("days", .list (s.summaries.map Summary.toDocument))]

def ofDocument? (d : Document) : Option Stats := do
  let records ← (← (← d.field? "records").items?).mapM RunRecord.ofDocument?
  let next ← (← d.field? "next").int?
  let summaries ← (← (← d.field? "days").items?).mapM Summary.ofDocument?
  return ⟨records, next.toNat, summaries⟩

end Stats

end MailTriage
