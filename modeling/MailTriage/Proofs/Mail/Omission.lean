import Mathlib.Data.List.Forall2
import MailTriage.Mail.Document
import MailTriage.Proofs.Except
import MailTriage.Proofs.Mail.Dates

namespace MailTriage

namespace Document

def isNull : Document → Bool
  | null => true
  | _ => false

def NullAt (key : String) (entries : List (String × Document)) : Prop :=
  lookup? key entries = some null

/-- A mapping without those of some keys that have no value. -/
def withoutNull (keys : List String) (entries : List (String × Document)) : List (String × Document) :=
  entries.filter fun e => !(keys.contains e.1 && (lookup? e.1 entries).any isNull)

def onKey (key : String) (f : Document → Document) (entries : List (String × Document)) :
    List (String × Document) :=
  entries.map fun e => if e.1 = key then (e.1, f e.2) else e

def onEntries (f : List (String × Document) → List (String × Document)) : Document → Document
  | map entries => map (f entries)
  | d => d

def onItems (f : Nat → Document → Document) : Document → Document
  | list items => list (items.mapIdx f)
  | d => d

variable {α : Type} {key key' : String} {keys : List String} {entries : List (String × Document)}
  {f : Document → Document} {F : Option Document → α}

theorem any_isNull_iff : (lookup? key entries).any isNull = true ↔ NullAt key entries := by
  unfold NullAt
  cases lookup? key entries with
  | none => simp
  | some d => cases d <;> simp [isNull]

instance : Decidable (NullAt key entries) :=
  decidable_of_iff _ any_isNull_iff

theorem lookup?_withoutNull :
    lookup? key (withoutNull keys entries) =
      if key ∈ keys ∧ NullAt key entries then none else lookup? key entries := by
  unfold withoutNull
  generalize hdrop : (fun k => keys.contains k && (lookup? k entries).any isNull) = drop
  have hiff : drop key = true ↔ key ∈ keys ∧ NullAt key entries := by
    rw [← hdrop, Bool.and_eq_true, List.contains_iff_mem, any_isNull_iff]
  have hsame (x : String × Document) :
      decide ((!drop x.1) = true ∧ (x.1 == key) = true) = (!drop key && x.1 == key) := by
    by_cases hx : x.1 = key <;> simp [hx]
  have hfind : (entries.filter fun e => !drop e.1).find? (·.1 == key) =
      entries.find? fun x => !drop key && x.1 == key := by
    rw [List.find?_filter]
    simp only [hsame]
  have hlookup : lookup? key (entries.filter fun e => !drop e.1) =
      if drop key = true then none else lookup? key entries := by
    unfold lookup?
    rw [hfind]
    cases drop key <;> simp
  rw [← hdrop] at hlookup hiff
  simp only [hiff] at hlookup
  exact hlookup

/-- What reads null like a missing value reads the same without null. -/
theorem apply_lookup?_withoutNull (hF : F none = F (some null)) :
    F (lookup? key (withoutNull keys entries)) = F (lookup? key entries) := by
  rw [lookup?_withoutNull]
  split
  case isTrue h => rw [h.2, hF]
  case isFalse => rfl

/-- What reads null unlike a missing value reads the same only if there is no null. -/
theorem apply_lookup?_withoutNull_iff (hkey : key ∈ keys) (hF : F none ≠ F (some null)) :
    F (lookup? key (withoutNull keys entries)) = F (lookup? key entries) ↔ ¬ NullAt key entries := by
  rw [lookup?_withoutNull]
  by_cases hnull : NullAt key entries
  · have hvalue : lookup? key entries = some null := hnull
    simp only [hkey, hnull, and_self, if_true, hvalue, hF, not_true]
  · simp only [hnull, and_false, if_false, not_false_eq_true]

theorem find?_onKey : (onKey key f entries).find? (·.1 == key') =
    (entries.find? (·.1 == key')).map fun e => if e.1 = key then (e.1, f e.2) else e := by
  have hkeys : ((fun x : String × Document => x.1 == key') ∘ fun e => if e.1 = key then (e.1, f e.2) else e) =
      (·.1 == key') := by
    funext e
    by_cases he : e.1 = key <;> simp [he]
  rw [onKey, List.find?_map, hkeys]

theorem lookup?_onKey : lookup? key (onKey key f entries) = (lookup? key entries).map f := by
  unfold lookup?
  rw [find?_onKey]
  cases hfind : entries.find? (·.1 == key) with
  | none => rfl
  | some e =>
    have he : e.1 = key := by simpa using List.find?_some hfind
    simp [he]

theorem lookup?_onKey_of_ne (h : key' ≠ key) : lookup? key' (onKey key f entries) = lookup? key' entries := by
  unfold lookup?
  rw [find?_onKey]
  cases hfind : entries.find? (·.1 == key') with
  | none => rfl
  | some e =>
    have he : e.1 = key' := by simpa using List.find?_some hfind
    simp [he, h]

end Document

namespace Mail

open Document

/-- The place of a mapping in a document: a thread, or a message of a thread. -/
inductive Place where
  | thread (i : Nat)
  | message (i j : Nat)
  deriving DecidableEq, Repr

def threadKeys : List String :=
  ["id", "messages", "labels", "important", "in_inbox", "in_priority_inbox", "in_spam", "in_trash", "starred",
    "unread"]

def messageKeys : List String :=
  ["from", "to", "cc", "bcc", "reply_to", "subject", "body", "date", "headers", "raw"]

/-- The keys of threads that do not read like missing ones where they have no value: a name is the text of
null then, and flags that are set otherwise are not. -/
def exactKeys : List String :=
  ["id", "in_inbox", "unread"]

def omitMessage (chosen : Place → Bool) (i j : Nat) (d : Document) : Document :=
  if chosen (.message i j) then d.onEntries (withoutNull messageKeys) else d

def omitThread (chosen : Place → Bool) (i : Nat) (d : Document) : Document :=
  (if chosen (.thread i) then d.onEntries (withoutNull threadKeys) else d).onEntries
    (onKey "messages" (onItems (omitMessage chosen i)))

/-- A document of threads where the known keys without a value are left out of the chosen mappings. -/
def omitNulls (chosen : Place → Bool) (entries : List (String × Document)) : List (String × Document) :=
  onKey "threads" (onItems (omitThread chosen)) entries

def ThreadAt (i : Nat) (entries e : List (String × Document)) : Prop :=
  ∃ ds, lookup? "threads" entries = some (.list ds) ∧ ds[i]? = some (.map e)

/-- The same thread, save for what is read of the keys that do not read like missing ones. -/
def Resembles (t t' : Thread) : Prop :=
  t' = { t with
    id := t'.id
    state := { t.state with inInbox := t'.state.inInbox, unread := t'.state.unread } }

variable {α : Type} {chosen : Place → Bool} {entries e : List (String × Document)} {d : Document}
  {ds items labels : List Document} {messages : List Message} {threads : List Thread} {t : Thread}
  {position i : Nat} {f g : Nat → Document → Document} {keys : List String}

theorem messageOf_withoutNull (keys : List String) (d : Document) :
    messageOf (d.onEntries (withoutNull keys)) = messageOf d := by
  cases d with
  | map e =>
    have htext (key : String) : textOf (lookup? key (withoutNull keys e)) = textOf (lookup? key e) :=
      apply_lookup?_withoutNull rfl
    have hdate : momentOf (lookup? "date" (withoutNull keys e)) = momentOf (lookup? "date" e) :=
      apply_lookup?_withoutNull rfl
    have hheaders : headersOf (lookup? "headers" (withoutNull keys e)) = headersOf (lookup? "headers" e) :=
      apply_lookup?_withoutNull rfl
    simp only [messageOf, onEntries, entriesOf, htext, hdate, hheaders, bind, Except.bind]
  | _ => rfl

theorem messageOf_omitMessage (chosen : Place → Bool) (i j : Nat) (d : Document) :
    messageOf (omitMessage chosen i j d) = messageOf d := by
  unfold omitMessage
  split
  · exact messageOf_withoutNull messageKeys d
  · rfl

theorem mapM_mapIdx_messageOf (h : ∀ j d, messageOf (g j d) = messageOf d) (items : List Document) :
    (items.mapIdx g).mapM messageOf = items.mapM messageOf := by
  induction items generalizing g with
  | nil => rfl
  | cons d items ih => rw [List.mapIdx_cons, List.mapM_cons, List.mapM_cons, h, ih fun j => h (j + 1)]

theorem itemsOf_onItems (h : itemsOf (some d) = .ok items) :
    (d = .list items ∧ itemsOf (some (d.onItems g)) = .ok (items.mapIdx g)) ∨
      ((∀ ds, d ≠ .list ds) ∧ itemsOf (some (d.onItems g)) = .ok items) := by
  cases d with
  | list ds =>
    left
    obtain rfl : ds = items := by
      cases ds with
      | nil => exact Except.ok.inj h
      | cons d ds => exact Except.ok.inj h
    refine ⟨rfl, ?_⟩
    cases hmapped : ds.mapIdx g <;> simp only [onItems, itemsOf, hmapped] <;> rfl
  | _ => exact .inr ⟨by simp, h⟩

def threadWith (position : Nat) (e : List (String × Document)) (messages : List Message)
    (labels : List Document) : Thread where
  id := (lookup? "id" e).elim (toString position) shown
  messages := messages
  labels := labels.map (·.shown)
  state := {
    important := flagOf e "important" false
    inInbox := flagOf e "in_inbox" true
    inPriorityInbox := flagOf e "in_priority_inbox" false
    inSpam := flagOf e "in_spam" false
    inTrash := flagOf e "in_trash" false
    starred := flagOf e "starred" false
    unread := flagOf e "unread" true }

theorem threadOf_map_eq_ok_iff : threadOf position (.map e) = .ok t ↔
    ∃ items messages labels, itemsOf (lookup? "messages" e) = .ok items ∧ items.mapM messageOf = .ok messages ∧
      messages ≠ [] ∧ itemsOf (lookup? "labels" e) = .ok labels ∧
      t = threadWith position e messages labels := by
  constructor
  · intro h
    obtain ⟨e, ⟨⟩, h⟩ := exists_of_bind h
    obtain ⟨items, hitems, h⟩ := exists_of_bind h
    obtain ⟨messages, hmessages, h⟩ := exists_of_bind h
    dsimp only at h
    split at h
    · cases h
    · next hne =>
      obtain ⟨labels, hlabels, h⟩ := exists_of_bind h
      cases h
      refine ⟨items, messages, labels, hitems, hmessages, by simpa using hne, hlabels, ?_⟩
      unfold threadWith
      cases lookup? "id" e <;> rfl
  · rintro ⟨items, messages, labels, hitems, hmessages, hne, hlabels, rfl⟩
    have hempty : messages.isEmpty = false := by simpa using hne
    simp only [threadOf, entriesOf, bind, Except.bind, hitems, hmessages, hlabels, hempty, threadWith]
    cases lookup? "id" e <;> rfl

theorem flagOf_eq_elim (e : List (String × Document)) (key : String) (default : Bool) :
    flagOf e key default = (lookup? key e).elim default isPresent := by
  unfold flagOf
  cases lookup? key e <;> rfl

theorem flagOf_withoutNull (key : String) : flagOf (withoutNull keys e) key false = flagOf e key false := by
  rw [flagOf_eq_elim, flagOf_eq_elim]
  exact apply_lookup?_withoutNull (F := fun o => o.elim false isPresent) rfl

theorem flagOf_withoutNull_iff {key : String} (hkey : key ∈ keys) :
    flagOf (withoutNull keys e) key true = flagOf e key true ↔ ¬ NullAt key e := by
  rw [flagOf_eq_elim, flagOf_eq_elim]
  exact apply_lookup?_withoutNull_iff (F := fun o => o.elim true isPresent) hkey (by decide)

theorem toString_ne_shown_null (n : Nat) : toString n ≠ Document.null.shown := by
  intro h
  have hdigits : Nat.toDigits 10 n = ['N', 'o', 'n', 'e'] := by
    rw [← Nat.toList_repr]
    exact congrArg String.toList h
  have hdigit : 'N'.isDigit = true :=
    Nat.isDigit_of_mem_toDigits (b := 10) (n := n) (by decide) (by decide)
      (by rw [hdigits]; exact List.mem_cons_self)
  revert hdigit
  decide

theorem resembles_threadWith : Resembles (threadWith position e messages labels)
    (threadWith position (withoutNull keys e) messages labels) := by
  simp only [Resembles, threadWith, flagOf_withoutNull]

theorem threadWith_withoutNull_iff :
    threadWith position (withoutNull threadKeys e) messages labels = threadWith position e messages labels ↔
      ∀ key ∈ exactKeys, ¬ NullAt key e := by
  have hid : (lookup? "id" (withoutNull threadKeys e)).elim (toString position) shown =
      (lookup? "id" e).elim (toString position) shown ↔ ¬ NullAt "id" e :=
    apply_lookup?_withoutNull_iff (F := fun o => o.elim (toString position) shown) (by decide)
      (toString_ne_shown_null position)
  have hinInbox : flagOf (withoutNull threadKeys e) "in_inbox" true = flagOf e "in_inbox" true ↔
      ¬ NullAt "in_inbox" e := flagOf_withoutNull_iff (by decide)
  have hunread : flagOf (withoutNull threadKeys e) "unread" true = flagOf e "unread" true ↔
      ¬ NullAt "unread" e := flagOf_withoutNull_iff (by decide)
  simp only [threadWith, Thread.mk.injEq, ThreadState.mk.injEq, flagOf_withoutNull, hid, hinInbox, hunread,
    true_and, and_true, exactKeys, List.forall_mem_cons, List.not_mem_nil, false_imp_iff, implies_true]

/-- Messages are read one by one, so that a thread is the same if each message is read the same. -/
theorem threadOf_onKey_messages (hg : ∀ j d, messageOf (g j d) = messageOf d)
    (h : threadOf position d = .ok t) :
    threadOf position (d.onEntries (onKey "messages" (onItems g))) = .ok t := by
  obtain ⟨e, he, -⟩ := exists_of_bind h
  obtain rfl := eq_map_of_entriesOf he
  obtain ⟨items, messages, labels, hitems, hmessages, hne, hlabels, rfl⟩ := threadOf_map_eq_ok_iff.1 h
  have hother {key : String} (hkey : key ≠ "messages") :
      lookup? key (onKey "messages" (onItems g) e) = lookup? key e := lookup?_onKey_of_ne hkey
  have hread : ∃ items', itemsOf (lookup? "messages" (onKey "messages" (onItems g) e)) = .ok items' ∧
      items'.mapM messageOf = .ok messages := by
    rw [lookup?_onKey]
    cases hvalue : lookup? "messages" e with
    | none => exact ⟨items, by rwa [hvalue] at hitems, hmessages⟩
    | some d =>
      rw [hvalue] at hitems
      obtain ⟨-, hmapped⟩ | ⟨-, hsame⟩ := itemsOf_onItems (g := g) hitems
      · exact ⟨_, hmapped, (mapM_mapIdx_messageOf hg items).trans hmessages⟩
      · exact ⟨_, hsame, hmessages⟩
  obtain ⟨items', hitems', hmessages'⟩ := hread
  refine threadOf_map_eq_ok_iff.2 ⟨items', messages, labels, hitems', hmessages', hne, ?_, ?_⟩
  · rwa [hother (by decide)]
  · simp only [threadWith, flagOf, hother, ne_eq, String.reduceEq, not_false_eq_true]

theorem exists_threadOf_omitThread (chosen : Place → Bool) (i : Nat) (h : threadOf position d = .ok t) :
    ∃ t', threadOf position (omitThread chosen i d) = .ok t' ∧ Resembles t t' ∧
      (t' = t ↔ (chosen (.thread i) = true → ∀ e, d = .map e → ∀ key ∈ exactKeys, ¬ NullAt key e)) := by
  have hmessages {d : Document} {t : Thread} (hd : threadOf position d = .ok t) :=
    threadOf_onKey_messages (messageOf_omitMessage chosen i) hd
  unfold omitThread
  by_cases hchosen : chosen (.thread i) = true
  · obtain ⟨e, he, -⟩ := exists_of_bind h
    obtain rfl := eq_map_of_entriesOf he
    obtain ⟨items, messages, labels, hitems, hread, hne, hlabels, rfl⟩ := threadOf_map_eq_ok_iff.1 h
    have hsame {key : String} :
        itemsOf (lookup? key (withoutNull threadKeys e)) = itemsOf (lookup? key e) :=
      apply_lookup?_withoutNull rfl
    have hwithout : threadOf position (.map (withoutNull threadKeys e)) =
        .ok (threadWith position (withoutNull threadKeys e) messages labels) :=
      threadOf_map_eq_ok_iff.2 ⟨items, messages, labels, by rwa [hsame], hread, hne, by rwa [hsame], rfl⟩
    rw [if_pos hchosen]
    refine ⟨_, hmessages hwithout, resembles_threadWith, ?_⟩
    rw [threadWith_withoutNull_iff]
    exact ⟨fun hnone _ e' he' => Document.map.inj he' ▸ hnone, fun hall => hall hchosen e rfl⟩
  · rw [if_neg hchosen]
    exact ⟨t, hmessages h, rfl, iff_of_true rfl fun h => absurd h hchosen⟩

theorem exists_threadsFrom_mapIdx (chosen : Place → Bool) (h : threadsFrom position ds = .ok threads)
    (i : Nat) :
    ∃ threads', threadsFrom position (ds.mapIdx fun j => omitThread chosen (i + j)) = .ok threads' ∧
      List.Forall₂ Resembles threads threads' ∧
      (threads' = threads ↔ ∀ j e, chosen (.thread (i + j)) = true → ds[j]? = some (.map e) →
        ∀ key ∈ exactKeys, ¬ NullAt key e) := by
  induction ds generalizing position threads i with
  | nil =>
    cases h
    exact ⟨[], rfl, .nil, by simp⟩
  | cons d ds ih =>
    obtain ⟨t, ht, h⟩ := exists_of_bind h
    obtain ⟨rest, hrest, h⟩ := exists_of_bind h
    cases h
    obtain ⟨t', ht', hresembles, hiff⟩ := exists_threadOf_omitThread chosen i ht
    obtain ⟨rest', hrest', hall, hrestIff⟩ := ih hrest (i + 1)
    refine ⟨t' :: rest', ?_, .cons hresembles hall, ?_⟩
    · have hshift : (fun j => omitThread chosen (i + (j + 1))) = fun j => omitThread chosen (i + 1 + j) := by
        funext j
        rw [Nat.add_assoc, Nat.add_comm 1]
      rw [List.mapIdx_cons, hshift]
      simp only [threadsFrom, Nat.add_zero, ht', hrest', bind, Except.bind]
      rfl
    · rw [List.cons_eq_cons, hiff, hrestIff]
      constructor
      · rintro ⟨hfirst, hothers⟩ j e hchosen hj
        cases j with
        | zero => exact hfirst hchosen e (Option.some.inj hj)
        | succ j => exact hothers j e (by rwa [Nat.add_assoc, Nat.add_comm 1]) hj
      · intro hevery
        refine ⟨fun hchosen e hd => hevery 0 e hchosen (congrArg some hd), fun j e hchosen hj => ?_⟩
        exact hevery (j + 1) e (by rwa [Nat.add_comm j, ← Nat.add_assoc]) hj

/-- A document that is read is still read when the known keys without a value are left out of some of its
mappings. Messages and labels stay as they are, as do all flags but two; the threads are the same if and only
if no thread among these mappings leaves its name, or a flag that is set otherwise, without a value. -/
theorem threadsOf_omitNulls_iff (chosen : Place → Bool) (h : threadsOf entries = .ok threads) :
    ∃ threads', threadsOf (omitNulls chosen entries) = .ok threads' ∧
      List.Forall₂ Resembles threads threads' ∧
      (threads' = threads ↔ ∀ i e, chosen (.thread i) = true → ThreadAt i entries e →
        ∀ key ∈ exactKeys, ¬ NullAt key e) := by
  obtain ⟨ds, hitems, hread⟩ := exists_of_bind h
  have hsame : List.Forall₂ Resembles threads threads := List.forall₂_same.2 fun _ _ => rfl
  have hrun {ds' : List Document} {threads' : List Thread}
      (hitems' : itemsOf ((lookup? "threads" entries).map (onItems (omitThread chosen))) = .ok ds')
      (hread' : threadsFrom 1 ds' = .ok threads') : threadsOf (omitNulls chosen entries) = .ok threads' := by
    rw [threadsOf, omitNulls, lookup?_onKey, hitems']
    exact hread'
  unfold ThreadAt
  cases hvalue : lookup? "threads" entries with
  | none =>
    rw [hvalue] at hitems
    refine ⟨threads, hrun ?_ hread, hsame, iff_of_true rfl ?_⟩
    · rw [hvalue]
      exact hitems
    · simp
  | some d =>
    rw [hvalue] at hitems
    obtain ⟨rfl, hmapped⟩ | ⟨hother, hkept⟩ := itemsOf_onItems (g := omitThread chosen) hitems
    · obtain ⟨threads', hread', hall, hiff⟩ := exists_threadsFrom_mapIdx chosen hread 0
      simp only [Nat.zero_add] at hread' hiff
      refine ⟨threads', hrun ?_ hread', hall, hiff.trans ?_⟩
      · rw [hvalue]
        exact hmapped
      · simp
    · refine ⟨threads, hrun ?_ hread, hsame, iff_of_true rfl ?_⟩
      · rw [hvalue]
        exact hkept
      · rintro i e - ⟨ds', hds', -⟩
        exact absurd (Option.some.inj hds') (hother ds')

/-- A thread with some keys, and one message that leaves its copies, its date and its headers open. -/
def sparseThread (e : List (String × Document)) : Document :=
  .map (("messages", .list [.map [("from", .text "a@corp.com"), ("cc", .null), ("date", .null),
    ("headers", .null)]]) :: e)

def sparseEntries (threads : List (List (String × Document))) : List (String × Document) :=
  [("threads", .list (threads.map sparseThread))]

/-- The first thread leaves its labels and a flag open, the second one its name. -/
theorem threadsOf_omitNulls_iff_sparse :
    let entries := sparseEntries [[("labels", .null), ("starred", .null)], [("id", .null)]]
    ∃ threads, threadsOf entries = .ok threads ∧
      threadsOf (omitNulls (fun p => p ≠ .thread 1) entries) = .ok threads ∧
      ∃ threads', threadsOf (omitNulls (fun _ => true) entries) = .ok threads' ∧ threads' ≠ threads := by
  intro entries
  have hthreads : threadsOf entries = .ok _ := eq_ok_of_isSome (by decide +kernel)
  obtain ⟨threads, hsome, -, hsomeIff⟩ := threadsOf_omitNulls_iff (fun p => p ≠ .thread 1) hthreads
  obtain ⟨threads', hall, -, hallIff⟩ := threadsOf_omitNulls_iff (fun _ => true) hthreads
  refine ⟨_, hthreads, ?_, threads', hall, fun hsame => ?_⟩
  · rw [hsome, hsomeIff.2]
    rintro i e hi ⟨ds, hds, he⟩
    cases hds
    match i, he with
    | 0, he =>
      cases he
      decide
    | 1, _ => exact absurd hi (by decide)
  · exact hallIff.1 hsame 1 _ rfl ⟨_, rfl, rfl⟩ "id" (by decide) rfl

/-- A thread whose name has no value is called after null, and one that leaves open whether it is unread or in
the inbox is neither. -/
theorem threadsOf_omitNulls_ne_of_null :
    let entries := sparseEntries [[("id", .null), ("in_inbox", .null), ("unread", .null)]]
    ∃ threads threads', threadsOf entries = .ok threads ∧
      threadsOf (omitNulls (fun p => p = .thread 0) entries) = .ok threads' ∧ threads' ≠ threads ∧
      threads.map (fun t => (t.id, t.state.inInbox, t.state.unread)) = [("None", false, false)] ∧
      threads'.map (fun t => (t.id, t.state.inInbox, t.state.unread)) = [("1", true, true)] := by
  intro entries
  exact ⟨_, _, eq_ok_of_isSome (by decide +kernel), eq_ok_of_isSome (by decide +kernel), by decide +kernel,
    by decide +kernel, by decide +kernel⟩

end Mail

end MailTriage
