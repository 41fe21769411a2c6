import MailTriage.Mail.Pending
import MailTriage.Rule.Table
import MailTriage.Proofs.Label.Levels

namespace MailTriage

section LastSet

variable {α : Type} [DecidableEq α]

/-- The last of some settings that says something; `unset`, if none of them does. -/
def lastSet (unset : α) (settings : List α) : α :=
  (settings.filter (· ≠ unset)).getLast?.getD unset

variable {unset a b : α} {l l' : List α}

theorem lastSet_unset_cons : lastSet unset (unset :: l) = lastSet unset l := by
  simp [lastSet]

theorem lastSet_singleton : lastSet unset [a] = a := by
  by_cases h : a = unset <;> simp [lastSet, h]

theorem lastSet_cons_cons :
    lastSet unset (a :: b :: l) = lastSet unset ((if b = unset then a else b) :: l) := by
  by_cases hb : b = unset
  · simp [lastSet, hb, List.filter_cons]
  · by_cases ha : a = unset
    · simp [lastSet, ha, hb]
    · simp [lastSet, ha, hb, List.getLast?_cons]

theorem lastSet_append : lastSet unset (lastSet unset l :: l') = lastSet unset (l ++ l') := by
  unfold lastSet
  cases h : (l.filter (· ≠ unset)).getLast? with
  | none =>
    have hnil : l.filter (· ≠ unset) = [] := List.getLast?_eq_none_iff.1 h
    simp only [Option.getD_none, List.filter_append, hnil, List.nil_append]
    rw [List.filter_cons_of_neg (by simp)]
  | some a =>
    have ha : a ≠ unset := by
      have hmem := List.mem_of_getLast? h
      simpa using (List.mem_filter.1 hmem).2
    have hcons : (a :: l').filter (· ≠ unset) = a :: l'.filter (· ≠ unset) :=
      List.filter_cons_of_pos (by simpa using ha)
    rw [Option.getD_some, hcons, List.filter_append, List.getLast?_cons, List.getLast?_append, h]
    cases (l'.filter (· ≠ unset)).getLast? <;> rfl

end LastSet

namespace Action

/-- A part of actions of which the later value counts when two are merged, unless it is unset. Labels do
not touch it. -/
structure IsSetting {α : Type} [DecidableEq α] (unset : α) (get : Action → α) : Prop where
  none : get .none = unset
  merge : ∀ a b, get (a.merge b) = if get b = unset then get a else get b
  addLabels : ∀ a names parents, get (a.addLabels names parents) = get a

theorem isSetting_moveTo : IsSetting .unset (·.moveTo) where
  none := rfl
  merge a b := by cases h : b.moveTo <;> simp [Action.merge, Destination.merge, h]
  addLabels _ _ _ := rfl

theorem merge_eq_ite (a b : Switch) : a.merge b = if b = .unset then a else b := by
  cases b <;> rfl

theorem isSetting_important : IsSetting .unset (·.important) where
  none := rfl
  merge a b := merge_eq_ite a.important b.important
  addLabels _ _ _ := rfl

theorem isSetting_read : IsSetting .unset (·.read) where
  none := rfl
  merge a b := merge_eq_ite a.read b.read
  addLabels _ _ _ := rfl

theorem isSetting_autoLabel : IsSetting .unset (·.autoLabel) where
  none := rfl
  merge a b := merge_eq_ite a.autoLabel b.autoLabel
  addLabels _ _ _ := rfl

theorem isSetting_followUp : IsSetting .unset (·.followUp) where
  none := rfl
  merge a b := by cases h : b.followUp <;> simp [Action.merge, FollowUp.merge, h]
  addLabels _ _ _ := rfl

theorem mem_labels_addLabels {a : Action} {names : List String} {parents : Bool} {name : String} :
    name ∈ (a.addLabels names parents).labels ↔ name ∈ a.labels ∨
      ∃ n ∈ names, if parents then Label.IsLevel n.toList name.toList else name = n := by
  unfold addLabels
  rw [LabelSet.mem_insertAll]
  apply or_congr_right
  cases parents with
  | true => simp [List.mem_flatMap, Label.mem_withParents]
  | false => simp

end Action

namespace Rule

/-- Where the label of a mailing list stands: under the parent label of the configuration, if there is
one. -/
def listPath (config : Option Config) (list : String) : List Char :=
  match config.elim [] fun c => Text.strip '/' c.listParent.toList with
  | [] => list.toList
  | parent => parent ++ '/' :: list.toList

/-- Whether a name is the label of a mailing list or, where these are asked for, one of its parents.
Without a configuration they are. -/
def IsListLabel (config : Option Config) (list name : String) : Prop :=
  if config.all (·.parentLabels) then Label.IsLevel (listPath config list) name.toList
  else name.toList = listPath config list

/-- What the rules that a message meets and the mailing lists make of some messages in turn. -/
structure IsCollected (rules : List Rule) (config : Option Config) (views : List MessageView)
    (a : Action) : Prop where
  moveTo : a.moveTo = lastSet .unset ((views.flatMap (matched rules)).map (·.action.moveTo))
  important : a.important = lastSet .unset ((views.flatMap (matched rules)).map (·.action.important))
  read : a.read = lastSet .unset ((views.flatMap (matched rules)).map (·.action.read))
  autoLabel : a.autoLabel = lastSet .unset ((views.flatMap (matched rules)).map (·.action.autoLabel))
  followUp : a.followUp = lastSet .unset ((views.flatMap (matched rules)).map (·.action.followUp))
  labels : ∀ name, name ∈ a.labels ↔
    (∃ r ∈ views.flatMap (matched rules), name ∈ r.action.labels) ∨
      ∃ before m after, views = before ++ m :: after ∧ m.list ≠ "" ∧
        lastSet .unset (((before ++ [m]).flatMap (matched rules)).map (·.action.autoLabel)) = .enable ∧
        IsListLabel config m.list name

variable {rules : List Rule} {config : Option Config} {a : Action} {m : MessageView}
  {views : List MessageView} {name : String}

section Setting

variable {α : Type} [DecidableEq α] {unset : α} {get : Action → α}

theorem get_mergeActions (h : Action.IsSetting unset get) :
    get (mergeActions a rules) = lastSet unset (get a :: rules.map (get ·.action)) := by
  induction rules generalizing a with
  | nil => exact lastSet_singleton.symm
  | cons r rules ih =>
    have hstep : mergeActions a (r :: rules) = mergeActions (a.merge r.action) rules := rfl
    rw [hstep, ih, h.merge, List.map_cons, lastSet_cons_cons]

theorem get_addListLabel (h : Action.IsSetting unset get) :
    get (addListLabel config m a) = get a := by
  unfold addListLabel
  split_ifs
  · exact h.addLabels _ _ _
  · rfl

theorem get_afterMessages (h : Action.IsSetting unset get) :
    get (afterMessages rules config a views) =
      lastSet unset (get a :: (views.flatMap (matched rules)).map (get ·.action)) := by
  induction views generalizing a with
  | nil => exact lastSet_singleton.symm
  | cons m views ih =>
    have hstep : afterMessages rules config a (m :: views) =
        afterMessages rules config (afterMessage rules config a m) views := rfl
    rw [hstep, ih, afterMessage_eq, get_addListLabel h, get_mergeActions h, lastSet_append,
      List.flatMap_cons, List.map_append, List.cons_append]

theorem get_afterMessages_none (h : Action.IsSetting unset get) :
    get (afterMessages rules config .none views) =
      lastSet unset ((views.flatMap (matched rules)).map (get ·.action)) := by
  rw [get_afterMessages h, h.none, lastSet_unset_cons]

end Setting

theorem mem_labels_mergeActions : name ∈ (mergeActions a rules).labels ↔
    name ∈ a.labels ∨ ∃ r ∈ rules, name ∈ r.action.labels := by
  induction rules generalizing a with
  | nil => simp [mergeActions]
  | cons r rules ih =>
    have hstep : mergeActions a (r :: rules) = mergeActions (a.merge r.action) rules := rfl
    have hmerge : name ∈ (a.merge r.action).labels ↔ name ∈ a.labels ∨ name ∈ r.action.labels :=
      LabelSet.mem_union
    rw [hstep, ih, hmerge, List.exists_mem_cons_iff, or_assoc]

theorem listLabel_eq (config : Option Config) (list : String) :
    listLabel config list = (String.ofList (listPath config list), config.all (·.parentLabels)) := by
  cases config with
  | none => simp [listLabel, listPath]
  | some c =>
    simp only [listLabel, listPath, Option.elim_some]
    cases h : Text.strip '/' c.listParent.toList with
    | nil => simp
    | cons x s =>
      have hne : String.ofList (x :: s) ≠ "" := by simp
      simp [String.ext_iff]

theorem mem_labels_addListLabel : name ∈ (addListLabel config m a).labels ↔
    name ∈ a.labels ∨ a.autoLabel = .enable ∧ m.list ≠ "" ∧ IsListLabel config m.list name := by
  have hname : name.toList = listPath config m.list ↔ name = String.ofList (listPath config m.list) := by
    rw [← String.toList_inj, String.toList_ofList]
  unfold addListLabel
  by_cases h : a.autoLabel = .enable ∧ m.list ≠ ""
  · have hb : (decide (a.autoLabel = .enable) && !m.list.isEmpty) = true := by simpa using h
    rw [if_pos hb, listLabel_eq, Action.mem_labels_addLabels, IsListLabel, hname]
    simp [h]
  · have hb : ¬ (decide (a.autoLabel = .enable) && !m.list.isEmpty) = true := by simpa using h
    rw [if_neg hb, ← and_assoc]
    simp [h]

theorem mem_labels_afterMessages : name ∈ (afterMessages rules config a views).labels ↔
    name ∈ a.labels ∨ (∃ r ∈ views.flatMap (matched rules), name ∈ r.action.labels) ∨
      ∃ before m after, views = before ++ m :: after ∧ m.list ≠ "" ∧
        (afterMessages rules config a (before ++ [m])).autoLabel = .enable ∧
        IsListLabel config m.list name := by
  induction views generalizing a with
  | nil => simp [afterMessages]
  | cons m views ih =>
    have hstep (l : List MessageView) : afterMessages rules config a (m :: l) =
        afterMessages rules config (afterMessage rules config a m) l := rfl
    have hauto : (afterMessages rules config a ([] ++ [m])).autoLabel =
        (mergeActions a (matched rules m)).autoLabel := by
      show (afterMessage rules config a m).autoLabel = _
      rw [afterMessage_eq]
      exact get_addListLabel Action.isSetting_autoLabel
    -- A message with a label of its own is the first one, or one of those after it.
    have hsplit : (∃ before x after, m :: views = before ++ x :: after ∧ x.list ≠ "" ∧
          (afterMessages rules config a (before ++ [x])).autoLabel = .enable ∧
          IsListLabel config x.list name) ↔
        ((mergeActions a (matched rules m)).autoLabel = .enable ∧ m.list ≠ "" ∧
          IsListLabel config m.list name) ∨
        ∃ before x after, views = before ++ x :: after ∧ x.list ≠ "" ∧
          (afterMessages rules config (afterMessage rules config a m) (before ++ [x])).autoLabel =
            .enable ∧ IsListLabel config x.list name := by
      constructor
      · rintro ⟨_ | ⟨y, before⟩, x, after, hviews, hlist, hon, hname⟩
        · cases hviews
          exact .inl ⟨hauto ▸ hon, hlist, hname⟩
        · cases hviews
          exact .inr ⟨before, x, after, rfl, hlist, hon, hname⟩
      · rintro (⟨hon, hlist, hname⟩ | ⟨before, x, after, rfl, hlist, hon, hname⟩)
        · exact ⟨[], m, views, rfl, hlist, hauto.trans hon, hname⟩
        · exact ⟨m :: before, x, after, rfl, hlist, hon, hname⟩
    rw [hstep, ih, hsplit, afterMessage_eq, mem_labels_addListLabel, mem_labels_mergeActions,
      List.flatMap_cons]
    simp only [List.mem_append, or_and_right, exists_or, or_assoc]
    exact or_congr_right (or_congr_right or_left_comm)

theorem isCollected_afterMessages :
    IsCollected rules config views (afterMessages rules config .none views) where
  moveTo := get_afterMessages_none Action.isSetting_moveTo
  important := get_afterMessages_none Action.isSetting_important
  read := get_afterMessages_none Action.isSetting_read
  autoLabel := get_afterMessages_none Action.isSetting_autoLabel
  followUp := get_afterMessages_none Action.isSetting_followUp
  labels name := by
    have hauto (l : List MessageView) : (afterMessages rules config .none l).autoLabel =
        lastSet .unset ((l.flatMap (matched rules)).map (·.action.autoLabel)) :=
      get_afterMessages_none Action.isSetting_autoLabel
    rw [mem_labels_afterMessages]
    simp only [hauto]
    simp [Action.none]

theorem action_of_ofThread {oldest : Moment} {requested : Option (List String)} {t : Thread}
    {p : PendingThread} (h : PendingThread.ofThread oldest requested t = .ok p) : p.action = .none := by
  unfold PendingThread.ofThread at h
  cases hshown : messagesToShow oldest t.messages with
  | error e =>
    rw [hshown] at h
    cases h
  | ok shown =>
    rw [hshown] at h
    cases h
    rfl

/-- What a thread collects for the messages that are looked at, whether it has an effect or not. -/
theorem isCollected_of_ofThread {oldest : Moment} {requested : Option (List String)} {t : Thread}
    {p : PendingThread} (h : PendingThread.ofThread oldest requested t = .ok p) :
    IsCollected rules config p.views (p.collect rules config).action := by
  have hnone := action_of_ofThread h
  unfold PendingThread.collect
  rw [hnone]
  exact isCollected_afterMessages

/-- One rule, which turns the labels of mailing lists on. -/
def listRules : List Rule :=
  (ofTable true [Column.every.map (·.name),
    ["(subject news)", "in/new", "archive", "", "", "", "yes"]]).toOption.getD []

def listThread : Thread where
  id := "1"
  messages :=
    [{ author := "a@x.org", subject := "first", raw := "Mailing-list: list ops@x.org" },
      { author := "b@x.org", subject := "news" },
      { author := "c@x.org", subject := "last", raw := "Mailing-list: list dev@x.org" }]

/-- The rule is met by the second message alone. The third, which comes after it, gets the label of its
list, the first does not. -/
theorem isCollected_of_ofThread_lists :
    ∃ p, PendingThread.ofThread ⟨0, none⟩ none listThread = .ok p ∧
      IsCollected listRules (some { listParent := "/lists/" }) p.views
        (p.collect listRules (some { listParent := "/lists/" })).action ∧
      (p.collect listRules (some { listParent := "/lists/" })).action.labels.names =
        ["in", "in/new", "lists", "lists/dev@x.org"] := by
  have h : PendingThread.ofThread ⟨0, none⟩ none listThread = .ok _ := rfl
  exact ⟨_, h, isCollected_of_ofThread h, by decide +kernel⟩

end Rule

end MailTriage
