import MailTriage.Proofs.Collection
import MailTriage.Proofs.Label.Growth
import MailTriage.Proofs.Mail.Window

/-!
Actions are merged in any grouping, and what is merged twice counts only where it is merged last. So a
message that is looked at twice in succession does no more than the first time, although the label of its
mailing list depends on what was collected before. `collected_repeated` states this of the laws, of one
message, and of whole threads.
-/

namespace MailTriage

namespace Action

variable {a b c : Action}

theorem ext_of_settings (hlabels : ∀ name, name ∈ a.labels ↔ name ∈ b.labels)
    (hsettings : ∀ {α : Type} [DecidableEq α] {unset : α} {get : Action → α}, IsSetting unset get →
      get a = get b) : a = b := by
  have hset : a.labels = b.labels := LabelSet.ext hlabels
  have hmove : a.moveTo = b.moveTo := hsettings isSetting_moveTo
  have himportant : a.important = b.important := hsettings isSetting_important
  have hread : a.read = b.read := hsettings isSetting_read
  have hauto : a.autoLabel = b.autoLabel := hsettings isSetting_autoLabel
  have hfollow : a.followUp = b.followUp := hsettings isSetting_followUp
  cases a
  cases b
  simp_all

theorem mem_labels_merge {name : String} : name ∈ (a.merge b).labels ↔ name ∈ a.labels ∨ name ∈ b.labels :=
  LabelSet.mem_union

theorem merge_assoc (a b c : Action) : (a.merge b).merge c = a.merge (b.merge c) := by
  apply ext_of_settings
  · intro name
    simp only [mem_labels_merge, or_assoc]
  · intro α _ unset get h
    simp only [h.merge]
    split_ifs <;> rfl

theorem none_merge (a : Action) : Action.none.merge a = a := by
  apply ext_of_settings
  · intro name
    simp [mem_labels_merge, Action.none]
  · intro α _ unset get h
    rw [h.merge, h.none]
    split_ifs with hunset
    · exact hunset.symm
    · rfl

theorem merge_none (a : Action) : a.merge .none = a := by
  apply ext_of_settings
  · intro name
    simp [mem_labels_merge, Action.none]
  · intro α _ unset get h
    rw [h.merge, if_pos h.none]

/-- Of an action that is merged twice only the later time counts. -/
theorem merge_merge_self (a b : Action) : (a.merge b).merge a = b.merge a := by
  apply ext_of_settings
  · intro name
    rw [mem_labels_merge, mem_labels_merge, mem_labels_merge, or_right_comm, or_self, or_comm]
  · intro α _ unset get h
    simp only [h.merge]
    split_ifs <;> simp_all

theorem merge_self (a : Action) : a.merge a = a := by
  have h := merge_merge_self a .none
  rwa [merge_none, none_merge] at h

/-- To add labels is to merge an action that has these labels and says nothing else. -/
theorem addLabels_eq_merge (a : Action) (names : List String) (parents : Bool) :
    a.addLabels names parents = a.merge (Action.none.addLabels names parents) := by
  apply ext_of_settings
  · intro name
    simp [mem_labels_merge, mem_labels_addLabels, Action.none]
  · intro α _ unset get h
    rw [h.addLabels, h.merge, h.addLabels, if_pos h.none]

end Action

/-- Two lists, where elements that stand once in the first may stand several times in succession in the
second. -/
inductive Repeats {α : Type} : List α → List α → Prop
  | nil : Repeats [] []
  | cons (a : α) {l l' : List α} (h : Repeats l l') : Repeats (a :: l) (a :: l')
  | again {a : α} {l l' : List α} (h : Repeats l (a :: l')) : Repeats l (a :: a :: l')

namespace Repeats

variable {α β : Type} {l l' : List α}

theorem refl (l : List α) : Repeats l l := by
  induction l with
  | nil => exact .nil
  | cons a l ih => exact .cons a ih

theorem mem_iff (h : Repeats l l') (a : α) : a ∈ l' ↔ a ∈ l := by
  induction h with
  | nil => rfl
  | cons b h ih => simp only [List.mem_cons, ih]
  | again h ih => simpa using ih

theorem eq_nil_iff (h : Repeats l l') : l' = [] ↔ l = [] := by
  simp only [List.eq_nil_iff_forall_not_mem, h.mem_iff]

theorem map (h : Repeats l l') (f : α → β) : Repeats (l.map f) (l'.map f) := by
  induction h with
  | nil => exact .nil
  | cons a h ih => exact .cons (f a) ih
  | again h ih => exact .again ih

theorem filter (h : Repeats l l') (p : α → Bool) : Repeats (l.filter p) (l'.filter p) := by
  induction h with
  | nil => exact .nil
  | cons a h ih =>
    simp only [List.filter_cons]
    split_ifs
    · exact .cons a ih
    · exact ih
  | again h ih =>
    simp only [List.filter_cons] at ih ⊢
    split_ifs at ih ⊢
    · exact .again ih
    · exact ih

theorem head?_eq (h : Repeats l l') : l'.head? = l.head? := by
  induction h with
  | nil => rfl
  | cons a h ih => rfl
  | again h ih => exact ih

theorem getLast?_eq (h : Repeats l l') : l'.getLast? = l.getLast? := by
  induction h with
  | nil => rfl
  | cons a h ih => rw [List.getLast?_cons, List.getLast?_cons, ih]
  | again h ih => rw [← ih, List.getLast?_cons_cons]

/-- A pass over a list does not see repetitions, if each of its steps made twice is as good as made once. -/
theorem foldl_eq {f : β → α → β} (hf : ∀ b a, f (f b a) a = f b a) (h : Repeats l l') (b : β) :
    l'.foldl f b = l.foldl f b := by
  induction h generalizing b with
  | nil => rfl
  | cons a h ih => exact ih (f b a)
  | again h ih =>
    rw [List.foldl_cons, List.foldl_cons, hf]
    exact ih b

end Repeats

namespace Rule

variable {rules : List Rule} {config : Option Config} {m : MessageView} {a : Action}
  {views views' : List MessageView}

theorem mergeActions_eq_merge (a : Action) (rules : List Rule) :
    mergeActions a rules = a.merge (mergeActions .none rules) := by
  induction rules generalizing a with
  | nil => exact (Action.merge_none a).symm
  | cons r rules ih =>
    have hstep (a : Action) : mergeActions a (r :: rules) = mergeActions (a.merge r.action) rules := rfl
    rw [hstep, hstep, ih, ih (Action.none.merge r.action), Action.none_merge, Action.merge_assoc]

def ruleAction (rules : List Rule) (m : MessageView) : Action :=
  mergeActions .none (matched rules m)

/-- What a message from a mailing list asks for where such labels are switched on. -/
def listAction (config : Option Config) (m : MessageView) : Action :=
  Action.none.addLabels [(listLabel config m.list).1] (listLabel config m.list).2

theorem autoLabel_listAction (config : Option Config) (m : MessageView) :
    (listAction config m).autoLabel = .unset := rfl

theorem addListLabel_eq_ite (config : Option Config) (m : MessageView) (a : Action) :
    addListLabel config m a =
      if a.autoLabel = .enable ∧ m.list ≠ "" then a.merge (listAction config m) else a := by
  have hlist : (decide (a.autoLabel = .enable) && !m.list.isEmpty) = true ↔
      a.autoLabel = .enable ∧ m.list ≠ "" := by simp
  simp only [addListLabel, hlist, listAction]
  split_ifs
  · exact Action.addLabels_eq_merge a _ _
  · rfl

theorem afterMessage_eq_ite (rules : List Rule) (config : Option Config) (a : Action) (m : MessageView) :
    afterMessage rules config a m =
      if (a.merge (ruleAction rules m)).autoLabel = .enable ∧ m.list ≠ ""
      then (a.merge (ruleAction rules m)).merge (listAction config m)
      else a.merge (ruleAction rules m) := by
  rw [afterMessage_eq, mergeActions_eq_merge]
  exact addListLabel_eq_ite config m _

/-- The second time nothing is merged that is not there already, and labels of mailing lists are switched as
they were the first time. -/
theorem afterMessage_afterMessage (rules : List Rule) (config : Option Config) (a : Action)
    (m : MessageView) :
    afterMessage rules config (afterMessage rules config a m) m = afterMessage rules config a m := by
  have hafter (a : Action) := afterMessage_eq_ite rules config a m
  generalize ruleAction rules m = x at hafter
  by_cases hon : (a.merge x).autoLabel = .enable ∧ m.list ≠ ""
  · have hfirst : afterMessage rules config a m = (a.merge x).merge (listAction config m) := by
      rw [hafter, if_pos hon]
    have hauto : (((a.merge x).merge (listAction config m)).merge x).autoLabel =
        (a.merge x).autoLabel := by
      simp only [Action.isSetting_autoLabel.merge, autoLabel_listAction]
      split_ifs <;> rfl
    rw [hfirst, hafter, hauto, if_pos hon]
    calc (((a.merge x).merge (listAction config m)).merge x).merge (listAction config m)
      _ = (a.merge x).merge (((listAction config m).merge x).merge (listAction config m)) := by
        simp only [Action.merge_assoc]
      _ = (a.merge x).merge (x.merge (listAction config m)) := by rw [Action.merge_merge_self]
      _ = (a.merge (x.merge x)).merge (listAction config m) := by simp only [Action.merge_assoc]
      _ = (a.merge x).merge (listAction config m) := by rw [Action.merge_self]
  · have hfirst : afterMessage rules config a m = a.merge x := by rw [hafter, if_neg hon]
    have hagain : (a.merge x).merge x = a.merge x := by rw [Action.merge_assoc, Action.merge_self]
    rw [hfirst, hafter, hagain, if_neg hon]

theorem afterMessages_repeated (h : Repeats views views') (a : Action) :
    afterMessages rules config a views' = afterMessages rules config a views :=
  h.foldl_eq (fun a m => afterMessage_afterMessage rules config a m) a

end Rule

namespace PendingThread

open Rule

variable {oldest : Moment} {requested : Option (List String)} {ms ms' : List Message} {t : Thread}

/-- Messages that come again are looked at again, unless the first time was too early already. -/
theorem messagesToShow_repeated (oldest : Moment) (h : Repeats ms ms') :
    (messagesToShow oldest ms = .error .outOfRange ∧ messagesToShow oldest ms' = .error .outOfRange) ∨
      ∃ shown shown', messagesToShow oldest ms = .ok shown ∧ messagesToShow oldest ms' = .ok shown' ∧
        Repeats shown shown' := by
  by_cases hdates : ∀ m ∈ ms, ∀ d, m.date = some d → ¬ Incomparable oldest d
  · have hdates' : ∀ m ∈ ms', ∀ d, m.date = some d → ¬ Incomparable oldest d :=
      fun m hm => hdates m ((h.mem_iff m).1 hm)
    refine .inr ⟨_, _, messagesToShow_eq_ok hdates, messagesToShow_eq_ok hdates', ?_⟩
    have hsince := h.filter (·.isSince oldest)
    simp only [hsince.eq_nil_iff, h.getLast?_eq]
    split_ifs
    · exact .refl _
    · exact hsince
  · have herror : ∃ m ∈ ms, ∃ d, m.date = some d ∧ Incomparable oldest d := by
      push Not at hdates
      exact hdates
    obtain ⟨m, hm, hd⟩ := herror
    exact .inl ⟨messagesToShow_eq_error_iff.2 ⟨m, hm, hd⟩,
      messagesToShow_eq_error_iff.2 ⟨m, (h.mem_iff m).2 hm, hd⟩⟩

/-- The action that is collected for a thread and what is wrong with it, if the thread can be looked at. -/
def collected (rules : List Rule) (config : Option Config) (oldest : Moment)
    (requested : Option (List String)) (t : Thread) : Except CalendarError (Action × Option Unmatched) :=
  (ofThread oldest requested t).map fun p =>
    ((p.collect rules config).action, (p.collect rules config).problem?)

theorem collected_eq_ok {rules : List Rule} {config : Option Config} {shown : List Message}
    (h : messagesToShow oldest t.messages = .ok shown) :
    let a := afterMessages rules config .none (shown.map (MessageView.ofMessage requested t))
    collected rules config oldest requested t = .ok (a, if a.hasEffect then none else some {
      subject := t.subject
      sender := (t.messages.getLast?.map (·.author)).getD ""
      receiver := (t.messages.getLast?.map (·.recipient)).getD ""
      action := a }) := by
  rw [collected, ofThread, h]
  rfl

theorem collected_eq_error {rules : List Rule} {config : Option Config} {e : CalendarError}
    (h : messagesToShow oldest t.messages = .error e) :
    collected rules config oldest requested t = .error e := by
  rw [collected, ofThread, h]
  rfl

theorem subject_repeated (h : Repeats t.messages ms') :
    Thread.subject { t with messages := ms' } = t.subject := by
  rw [Thread.subject, Thread.subject, h.head?_eq]

theorem ofMessage_repeated (h : Repeats t.messages ms') :
    MessageView.ofMessage requested { t with messages := ms' } = MessageView.ofMessage requested t := by
  funext m
  rw [MessageView.ofMessage, subject_repeated h]
  rfl

theorem collected_of_repeats {rules : List Rule} {config : Option Config} (h : Repeats t.messages ms') :
    collected rules config oldest requested { t with messages := ms' } =
      collected rules config oldest requested t := by
  obtain ⟨herror, herror'⟩ | ⟨shown, shown', hshown, hshown', hrepeats⟩ :=
    messagesToShow_repeated oldest h
  · rw [collected_eq_error herror, collected_eq_error herror']
  · rw [collected_eq_ok hshown, collected_eq_ok hshown', ofMessage_repeated h, subject_repeated h,
      afterMessages_repeated (hrepeats.map _), h.getLast?_eq]

/-- Merging actions is associative, an action that says nothing makes no difference, and an action merged
again might as well be merged the second time only. Therefore a message that is looked at again adds nothing
to what was collected, and a thread comes to the same if its messages come several times in succession. -/
theorem collected_repeated :
    (∀ a b c : Action, (a.merge b).merge c = a.merge (b.merge c)) ∧
    (∀ a : Action, Action.none.merge a = a ∧ a.merge .none = a) ∧
    (∀ a x y : Action, ((a.merge x).merge y).merge x = (a.merge y).merge x) ∧
    (∀ rules config a m, afterMessage rules config (afterMessage rules config a m) m =
      afterMessage rules config a m) ∧
    ∀ rules config oldest requested (t : Thread) messages, Repeats t.messages messages →
      collected rules config oldest requested { t with messages := messages } =
        collected rules config oldest requested t := by
  refine ⟨Action.merge_assoc, fun a => ⟨Action.none_merge a, Action.merge_none a⟩, fun a x y => ?_,
    afterMessage_afterMessage, fun rules config oldest requested t messages h => ?_⟩
  · calc ((a.merge x).merge y).merge x
      _ = a.merge ((x.merge y).merge x) := by simp only [Action.merge_assoc]
      _ = a.merge (y.merge x) := by rw [Action.merge_merge_self]
      _ = (a.merge y).merge x := (Action.merge_assoc a y x).symm
  · exact collected_of_repeats h

/-- The message that switches labels of mailing lists on comes three times. -/
def echoedMessages : List Message :=
  listThread.messages.flatMap fun m => if m.subject = "news" then [m, m, m] else [m]

theorem collected_repeated_of_echo : Repeats listThread.messages echoedMessages ∧
    collected listRules (some { listParent := "/lists/" }) ⟨0, none⟩ none
        { listThread with messages := echoedMessages } =
      collected listRules (some { listParent := "/lists/" }) ⟨0, none⟩ none listThread ∧
    (collected listRules (some { listParent := "/lists/" }) ⟨0, none⟩ none listThread).map
      (·.1.labels.names) = .ok ["in", "in/new", "lists", "lists/dev@x.org"] := by
  have h : Repeats listThread.messages echoedMessages :=
    .cons _ (.again (.again (.cons _ (.cons _ .nil))))
  exact ⟨h, collected_repeated.2.2.2.2 _ _ _ _ _ _ h, by decide +kernel⟩

end PendingThread

end MailTriage
