import MailTriage.Proofs.Collection

/-!
Whether something is to be done to a thread is asked once, when all its messages have been looked at. By
`problem?_collect_iff` the answer is the same as if it were asked of each rule and each mailing list: what
one of them asks for is never taken back by those that follow.
-/

namespace MailTriage

section LastSet

variable {α : Type} [DecidableEq α] {unset : α} {l : List α}

theorem lastSet_eq_unset_iff : lastSet unset l = unset ↔ ∀ a ∈ l, a = unset := by
  unfold lastSet
  cases h : (l.filter (· ≠ unset)).getLast? with
  | none =>
    have hnil : l.filter (· ≠ unset) = [] := List.getLast?_eq_none_iff.1 h
    refine iff_of_true rfl fun a ha => ?_
    by_contra hne
    have hmem : a ∈ l.filter (· ≠ unset) := List.mem_filter.2 ⟨ha, by simpa using hne⟩
    rw [hnil] at hmem
    cases hmem
  | some a =>
    obtain ⟨ha, hne⟩ := List.mem_filter.1 (List.mem_of_getLast? h)
    have hne : a ≠ unset := by simpa using hne
    exact iff_of_false hne fun hall => hne (hall a ha)

end LastSet

namespace Action

/-- An action that asks for nothing that could be seen of a thread. It may still say whether mailing lists
get labels, and what follows when its rule has matched. -/
structure IsIdle (a : Action) : Prop where
  labels : a.labels = .empty
  moveTo : a.moveTo = .unset
  important : a.important = .unset
  read : a.read = .unset

variable {a : Action}

theorem labels_eq_empty_iff : a.labels = .empty ↔ ∀ name, name ∉ a.labels := by
  constructor
  · intro h name
    rw [h]
    exact LabelSet.not_mem_empty
  · intro h
    cases hl : a.labels with
    | mk names sorted =>
      obtain rfl : names = [] := by
        apply List.eq_nil_iff_forall_not_mem.2
        intro name hname
        exact h name (hl ▸ hname)
      rfl

theorem hasEffect_iff : a.hasEffect ↔ ¬ a.IsIdle := by
  have hlabels : a.labels.isEmpty ↔ a.labels = .empty := by
    cases a.labels
    simp [LabelSet.isEmpty, LabelSet.empty]
  rw [← not_iff_not, not_not]
  simp only [hasEffect, Bool.or_eq_true, Bool.not_eq_true', bne_iff_ne, not_or, not_not,
    Bool.not_eq_false, hlabels]
  constructor
  · rintro ⟨⟨⟨hlabels, hmove⟩, himportant⟩, hread⟩
    exact ⟨hlabels, hmove, himportant, hread⟩
  · rintro ⟨hlabels, hmove, himportant, hread⟩
    exact ⟨⟨⟨hlabels, hmove⟩, himportant⟩, hread⟩

end Action

namespace Rule

/-- Whether some message gets a label of its mailing list: it comes from one, and by then the rules have
turned such labels on. -/
def LabelsList (rules : List Rule) (views : List MessageView) : Prop :=
  ∃ before m after, views = before ++ m :: after ∧ m.list ≠ "" ∧
    lastSet .unset (((before ++ [m]).flatMap (matched rules)).map (·.action.autoLabel)) = .enable

variable {rules : List Rule} {config : Option Config} {views : List MessageView} {a : Action}

theorem exists_isListLabel (config : Option Config) {list : String} (h : list ≠ "") :
    ∃ name, IsListLabel config list name := by
  have hpath : listPath config list ≠ [] := by
    have hlist : list.toList ≠ [] := by simpa using h
    unfold listPath
    split <;> simp [hlist]
  refine ⟨String.ofList (listPath config list), ?_⟩
  unfold IsListLabel
  rw [String.toList_ofList]
  split_ifs
  · exact ⟨hpath, .inl rfl⟩
  · rfl

/-- What is collected shows nothing just where no rule that was met asks for anything and no mailing list
has given a label. -/
theorem IsCollected.isIdle_iff (h : IsCollected rules config views a) :
    a.IsIdle ↔ (∀ m ∈ views, ∀ r ∈ matched rules m, r.action.IsIdle) ∧ ¬ LabelsList rules views := by
  have hlabels : a.labels = .empty ↔
      (∀ r ∈ views.flatMap (matched rules), r.action.labels = .empty) ∧ ¬ LabelsList rules views := by
    simp only [Action.labels_eq_empty_iff, h.labels, not_or, forall_and]
    apply and_congr
    · constructor
      · intro hnone r hr name hname
        exact hnone name ⟨r, hr, hname⟩
      · rintro hnone name ⟨r, hr, hname⟩
        exact hnone r hr name hname
    · constructor
      · rintro hnone ⟨before, m, after, hviews, hlist, hon⟩
        obtain ⟨name, hname⟩ := exists_isListLabel config hlist
        exact hnone name ⟨before, m, after, hviews, hlist, hon, hname⟩
      · rintro hnone name ⟨before, m, after, hviews, hlist, hon, -⟩
        exact hnone ⟨before, m, after, hviews, hlist, hon⟩
  have hmove : a.moveTo = .unset ↔
      ∀ r ∈ views.flatMap (matched rules), r.action.moveTo = .unset := by
    rw [h.moveTo, lastSet_eq_unset_iff, List.forall_mem_map]
  have himportant : a.important = .unset ↔
      ∀ r ∈ views.flatMap (matched rules), r.action.important = .unset := by
    rw [h.important, lastSet_eq_unset_iff, List.forall_mem_map]
  have hread : a.read = .unset ↔
      ∀ r ∈ views.flatMap (matched rules), r.action.read = .unset := by
    rw [h.read, lastSet_eq_unset_iff, List.forall_mem_map]
  have hrules : (∀ m ∈ views, ∀ r ∈ matched rules m, r.action.IsIdle) ↔
      ∀ r ∈ views.flatMap (matched rules), r.action.IsIdle := by
    simp only [List.mem_flatMap, forall_exists_index, and_imp]
    exact ⟨fun h r m hm hr => h m hm r hr, fun h m hm r hr => h r m hm hr⟩
  rw [hrules]
  constructor
  · rintro ⟨hl, hm, hi, hr⟩
    obtain ⟨hl, hlist⟩ := hlabels.1 hl
    exact ⟨fun r hmem => ⟨hl r hmem, hmove.1 hm r hmem, himportant.1 hi r hmem, hread.1 hr r hmem⟩, hlist⟩
  · rintro ⟨hall, hlist⟩
    exact ⟨hlabels.2 ⟨fun r hmem => (hall r hmem).labels, hlist⟩, hmove.2 fun r hmem => (hall r hmem).moveTo,
      himportant.2 fun r hmem => (hall r hmem).important, hread.2 fun r hmem => (hall r hmem).read⟩

end Rule

namespace PendingThread

open Rule

variable {rules : List Rule} {config : Option Config} {oldest : Moment}
  {requested : Option (List String)} {t : Thread} {p : PendingThread}

/-- A thread is refused just where the rules that its messages meet ask for nothing and no mailing list has
given a label, and then there is nothing in its action. -/
theorem problem?_collect_iff (h : ofThread oldest requested t = .ok p) :
    let q := p.collect rules config
    (q.problem? = some q.unmatched ↔
        (∀ m ∈ p.views, ∀ r ∈ matched rules m, r.action.IsIdle) ∧ ¬ LabelsList rules p.views) ∧
      (q.problem? = none ∨ q.problem? = some q.unmatched) ∧
      ∀ u, q.problem? = some u → u.action = q.action ∧ q.action.IsIdle := by
  intro q
  have hcollected : IsCollected rules config p.views q.action := by
    have hnone := action_of_ofThread h
    have haction : q.action = afterMessages rules config p.action p.views := rfl
    rw [haction, hnone]
    exact isCollected_afterMessages
  have hproblem : q.problem? = some q.unmatched ↔ q.action.IsIdle := by
    unfold problem?
    split_ifs with heffect
    · exact iff_of_false (by simp) (Action.hasEffect_iff.1 heffect)
    · exact iff_of_true rfl (by simpa [Action.hasEffect_iff] using heffect)
  have hcases : q.problem? = none ∨ q.problem? = some q.unmatched := by
    unfold problem?
    split_ifs
    · exact .inl rfl
    · exact .inr rfl
  refine ⟨hproblem.trans hcollected.isIdle_iff, hcases, fun u hu => ?_⟩
  obtain hnone | hsome := hcases
  · rw [hnone] at hu
    cases hu
  · obtain rfl : q.unmatched = u := Option.some.inj (hsome.symm.trans hu)
    exact ⟨rfl, hproblem.1 hsome⟩

/-- One rule, which asks for labels of mailing lists alone. -/
def switchRules : List Rule :=
  (ofTable true [Column.every.map (·.name),
    ["(subject news)", "", "", "", "", "", "yes", "", "done"]]).toOption.getD []

/-- The message from a mailing list comes before the one that meets the rule. -/
def earlyListThread : Thread where
  id := "1"
  messages :=
    [{ author := "a@x.org", subject := "first", raw := "Mailing-list: list ops@x.org" },
      { author := "b@x.org", subject := "news" }]

theorem problem?_collect_of_switch :
    ∃ p, ofThread ⟨0, none⟩ none earlyListThread = .ok p ∧
      p.views.map (fun m => (matched switchRules m).length) = [0, 1] ∧
      ((p.collect switchRules (some {})).problem? = some (p.collect switchRules (some {})).unmatched ↔
        (∀ m ∈ p.views, ∀ r ∈ matched switchRules m, r.action.IsIdle) ∧
          ¬ LabelsList switchRules p.views) ∧
      (p.collect switchRules (some {})).problem?.isSome := by
  have h : ofThread ⟨0, none⟩ none earlyListThread = .ok _ := rfl
  exact ⟨_, h, by decide +kernel, (problem?_collect_iff h).1, by decide +kernel⟩

end PendingThread

end MailTriage
