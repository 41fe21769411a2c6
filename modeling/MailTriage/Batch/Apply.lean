import MailTriage.Batch.Plan
import MailTriage.Settings.Config
import MailTriage.Store.Mailbox

/-!
Carrying out the actions of a batch: labels first, then moves and marks, and in the end the labels that
tell which threads are done. A label without a name ends the work; what was done before stays.
-/

namespace MailTriage.Batch

def addLabels : List (String × List Nat) → Mailbox → Mailbox × Option LabelError
  | [], b => (b, none)
  | (name, threads) :: groups, b =>
    match b.ensureLabel name with
    | .ok (name, b) => addLabels groups (b.perform (.addLabel name) threads)
    | .error e => (b, some e)

def performAll (operations : List (Operation × List Nat)) (b : Mailbox) : Mailbox :=
  operations.foldl (fun b o => b.perform o.1 o.2) b

def markDone (c : Config) (threads : List Nat) (b : Mailbox) : Mailbox × Option LabelError :=
  match b.ensureLabel c.processedLabel with
  | .ok (name, b) =>
    ((b.perform (.addLabel name) threads).perform (.removeLabel c.unprocessedLabel) threads, none)
  | .error e => (b, some e)

/-- Carries out the actions of some threads, given by their places in the store. -/
def apply (c : Config) (items : List (Nat × Action)) (b : Mailbox) : Mailbox × Option LabelError :=
  let plan := Plan.ofActions items
  match addLabels plan.labels b with
  | (b, some e) => (b, some e)
  | (b, none) =>
    let b := performAll plan.operations b
    if items.isEmpty then (b, none) else markDone c (items.map (·.1)) b

end MailTriage.Batch
