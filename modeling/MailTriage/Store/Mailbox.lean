import MailTriage.Store.Basic
import MailTriage.Text.Split

/-!
Mailboxes: a store, and the labels that are known to be in it. A label that is asked for and not known
is created, its parents before it; either all of them are created or, if one of them has no name, none.
-/

namespace MailTriage

namespace Label

/-- The labels to create for a name where some are known: the trimmed name, unless it is known, after
those for the text before its last slash. There is no answer, if a name among them is empty. -/
def missing? (known : LabelSet) (name : List Char) : Option (List String) :=
  let s := Text.trim name
  if s.isEmpty then none
  else if String.ofList s ∈ known then some []
  else if '/' ∈ s then
    (missing? known (Text.beforeLast '/' s)).map (· ++ [String.ofList s])
  else some [String.ofList s]
termination_by name.length
decreasing_by exact Nat.lt_of_lt_of_le (Text.length_beforeLast_lt ‹_›) (Text.length_trim_le name)

end Label

inductive LabelError where
  | empty
  deriving DecidableEq, Repr

def LabelError.message : LabelError → String
  | empty => "Can't get empty label!"

structure Mailbox where
  store : Store
  known : LabelSet
  deriving DecidableEq, Repr

namespace Mailbox

def ofStore (s : Store) : Mailbox :=
  ⟨s, s.labels⟩

def perform (op : Operation) (places : List Nat) (b : Mailbox) : Mailbox :=
  { b with store := b.store.perform op places }

/-- Creates a label, which is known from then on. -/
def create (b : Mailbox) (name : String) : Mailbox :=
  ⟨b.store.perform (.createLabel name) [], b.known.insert name⟩

/-- The trimmed name of a label, and the mailbox in which the label is known. -/
def ensureLabel (name : String) (b : Mailbox) : Except LabelError (String × Mailbox) :=
  match Label.missing? b.known name.toList with
  | some names => .ok (trimmed name, names.foldl create b)
  | none => .error .empty

end Mailbox

end MailTriage
