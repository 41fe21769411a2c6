import MailTriage.Proofs.Collection
import MailTriage.Proofs.Label.Growth
import MailTriage.Proofs.Rule.Rows

namespace MailTriage

namespace Label

variable {s t : List Char} {labels labels' : LabelSet}

theorem length_beforeLast_lt (hs : s ≠ []) : (Text.beforeLast '/' s).length < s.length := by
  by_cases hslash : '/' ∈ s
  · exact Text.length_beforeLast_lt hslash
  · rw [Text.beforeLast_of_not_mem hslash]
    exact List.length_pos_iff.2 hs

/-- A text, the text before its last slash, the one before the last slash of that, and so on as long as
something is left. -/
def cuts (s : List Char) : List (List Char) :=
  if s = [] then [] else s :: cuts (Text.beforeLast '/' s)
termination_by s.length
decreasing_by exact length_beforeLast_lt ‹_›

/-- The last slash is the first to be cut at; none is left out, however they follow one another. -/
theorem mem_cuts : t ∈ cuts s ↔ IsLevel s t := by
  induction s using cuts.induct with
  | case1 =>
    rw [cuts, if_pos rfl]
    simp [IsLevel]
  | case2 s hs ih => rw [cuts, if_neg hs, List.mem_cons, ih, isLevel_iff hs]

/-- A set of labels that holds with every label the texts before its slashes, unless they are empty. -/
def Closed (labels : LabelSet) : Prop :=
  ∀ name ∈ labels, ∀ before after, name.toList = before ++ '/' :: after → before ≠ [] →
    String.ofList before ∈ labels

theorem closed_empty : Closed .empty :=
  fun _ hname => absurd hname LabelSet.not_mem_empty

theorem Closed.union (h : Closed labels) (h' : Closed labels') : Closed (labels.union labels') := by
  intro name hname before after hslash hne
  rw [LabelSet.mem_union] at hname ⊢
  exact hname.imp (fun hl => h name hl before after hslash hne) fun hl => h' name hl before after hslash hne

end Label

open Label

namespace Action

theorem mem_labels_addLabels_true {a : Action} {names : List String} {name : String} :
    name ∈ (a.addLabels names true).labels ↔ name ∈ a.labels ∨
      ∃ n ∈ names, IsLevel n.toList name.toList :=
  mem_labels_addLabels

theorem labels_addLabels_true (a : Action) (names : List String) : (a.addLabels names true).labels =
    a.labels.insertAll (names.flatMap fun n => (cuts n.toList).map String.ofList) := by
  apply LabelSet.ext
  intro name
  have hcut (n : String) : name ∈ (cuts n.toList).map String.ofList ↔ IsLevel n.toList name.toList := by
    rw [← mem_cuts, List.mem_map]
    constructor
    · rintro ⟨t, ht, rfl⟩
      rwa [String.toList_ofList]
    · intro ht
      exact ⟨name.toList, ht, String.ofList_toList⟩
  simp only [mem_labels_addLabels_true, LabelSet.mem_insertAll, List.mem_flatMap, hcut]

theorem closed_addLabels {a : Action} (h : Closed a.labels) (names : List String) :
    Closed (a.addLabels names true).labels := by
  intro name hname before after hslash hne
  rw [mem_labels_addLabels_true] at hname ⊢
  obtain hold | ⟨n, hn, hlevel⟩ := hname
  · exact .inl (h name hold before after hslash hne)
  · have hbefore : IsLevel name.toList before := ⟨hne, .inr ⟨after, hslash⟩⟩
    refine .inr ⟨n, hn, ?_⟩
    rw [String.toList_ofList]
    exact hbefore.trans hlevel

end Action

namespace Rule

variable {rules engine : List Rule} {rows : List (List String)} {parents : Bool} {l : Layout}
  {row : List String} {r : Rule} {c : Config} {a : Action} {m : MessageView} {views : List MessageView}

theorem action_of_ofRow (h : ofRow l parents row = .ok r) : ∃ a : Action, a.labels = .empty ∧
    r.action = a.addLabels (readLabels (cell l row .addLabels)) parents := by
  obtain ⟨moveTo, -, h⟩ := exists_of_bind h
  obtain ⟨followUp, -, h⟩ := exists_of_bind h
  obtain ⟨stage, -, h⟩ := exists_of_bind h
  obtain ⟨condition, -, h⟩ := exists_of_bind h
  cases h
  exact ⟨_, rfl, rfl⟩

theorem exists_ofRow_of_ofTable (h : ofTable parents rows = .ok rules) (hr : r ∈ rules) :
    ∃ l row, ofRow l parents row = .ok r := by
  cases rows with
  | nil =>
    cases h
    rw [mem_sortByStage] at hr
    cases hr
  | cons header rows =>
    cases hl : layout header with
    | error e => simp [ofTable, numberedRules, hl, bind, Except.bind] at h
    | ok l =>
      obtain ⟨-, hsorted⟩ := (ofTable_eq_ok_iff hl).1 h
      obtain ⟨row, -, -, hrow⟩ := mem_rulesOf.1 (hsorted.mem_iff.1 hr)
      exact ⟨l, row, hrow⟩

theorem closed_of_ofTable (h : ofTable true rows = .ok rules) (hr : r ∈ rules) :
    Closed r.action.labels := by
  obtain ⟨l, row, hrow⟩ := exists_ofRow_of_ofTable h hr
  obtain ⟨a, hempty, haction⟩ := action_of_ofRow hrow
  rw [haction]
  exact Action.closed_addLabels (hempty ▸ closed_empty) _

theorem closed_mergeActions (h : Closed a.labels) (hrules : ∀ r ∈ rules, Closed r.action.labels) :
    Closed (mergeActions a rules).labels := by
  induction rules generalizing a with
  | nil => exact h
  | cons r rules ih =>
    obtain ⟨hr, hrest⟩ := List.forall_mem_cons.1 hrules
    exact ih (Closed.union h hr) hrest

theorem closed_addListLabel (hc : c.parentLabels) (h : Closed a.labels) :
    Closed (addListLabel (some c) m a).labels := by
  have hparents : (some c).all (·.parentLabels) = true := hc
  simp only [addListLabel, listLabel_eq, hparents]
  split_ifs
  · exact Action.closed_addLabels h _
  · exact h

theorem sublist_evaluateFrom (m : MessageView) (first : Int) (last : Option Int) (rules : List Rule) :
    (evaluateFrom m first last none rules).1.Sublist rules := by
  induction rules generalizing first last with
  | nil => exact .slnil
  | cons r rules ih =>
    rw [evaluateFrom]
    split_ifs
    · exact (ih first last).cons r
    · exact List.nil_sublist _
    · cases r.action.followUp with
      | done => exact (List.nil_sublist rules).cons_cons r
      | nextStage => exact (ih _ _).cons_cons r
      | finishStage | unset => exact (ih _ _).cons_cons r
    · exact (ih first last).cons r

theorem mem_of_mem_matched (hr : r ∈ matched rules m) : r ∈ rules :=
  mem_sortByStage.1 ((sublist_evaluateFrom m 0 none _).mem hr)

theorem closed_afterMessage (hc : c.parentLabels) (hrules : ∀ r ∈ rules, Closed r.action.labels)
    (h : Closed a.labels) : Closed (afterMessage rules (some c) a m).labels := by
  rw [afterMessage_eq]
  exact closed_addListLabel hc (closed_mergeActions h fun r hr => hrules r (mem_of_mem_matched hr))

theorem closed_afterMessages (hc : c.parentLabels) (hrules : ∀ r ∈ rules, Closed r.action.labels)
    (h : Closed a.labels) : Closed (afterMessages rules (some c) a views).labels := by
  induction views generalizing a with
  | nil => exact h
  | cons m views ih => exact ih (closed_afterMessage hc hrules h)

end Rule

namespace PendingThread

open Rule

/-- Where a configuration asks for the parents of labels, whatever rules of a table make of a thread, and
whatever mailing lists do, there is no label without its parents. Labels are added with their parents by cutting
at the last slash again and again. What is added are the names themselves and the texts before slashes of
them, unless they are empty. -/
theorem closed_collect :
    (∀ {c : Config} {rows : List (List String)} {rules engine : List Rule} {oldest : Moment}
        {requested : Option (List String)} {t : Thread} {p : PendingThread},
      c.parentLabels = true → ofTable c.parentLabels rows = .ok rules → engine ⊆ rules →
      ofThread oldest requested t = .ok p → Closed (p.collect engine (some c)).action.labels) ∧
    ∀ (a : Action) (names : List String),
      (a.addLabels names true).labels =
        a.labels.insertAll (names.flatMap fun n => (cuts n.toList).map String.ofList) ∧
      ∀ name, name ∈ (a.addLabels names true).labels ↔ name ∈ a.labels ∨
        name ≠ "" ∧ ∃ n ∈ names, name = n ∨ ∃ rest, n.toList = name.toList ++ '/' :: rest := by
  refine ⟨fun {c rows rules engine oldest requested t p} hc htable hengine hp => ?_,
    fun a names => ⟨Action.labels_addLabels_true a names, fun name => ?_⟩⟩
  · rw [hc] at htable
    have hrules : ∀ r ∈ engine, Closed r.action.labels :=
      fun r hr => closed_of_ofTable htable (hengine hr)
    have hnone : Closed p.action.labels := by
      rw [action_of_ofThread hp]
      exact closed_empty
    exact closed_afterMessages hc hrules hnone
  · rw [Action.mem_labels_addLabels_true]
    simp [IsLevel, String.toList_inj, and_left_comm]

/-- Labels with slashes in all places, and labels of mailing lists switched on. -/
def slashRows : List (List String) :=
  [Column.every.map (·.name), ["(and)", "in//new, /ops/", "", "", "", "", "yes"]]

def slashRules : List Rule :=
  (ofTable true slashRows).toOption.getD []

/-- A message from a mailing list with a slash in its address. -/
def slashThread : Thread where
  id := "1"
  messages := [{ author := "a@x.org", raw := "Mailing-list: list dev/ops@x.org" }]

theorem closed_collect_of_slashes : ofTable true slashRows = .ok slashRules ∧
    ∃ p, ofThread ⟨0, none⟩ none slashThread = .ok p ∧
      Closed (p.collect slashRules (some { listParent := "/lists/" })).action.labels ∧
      (p.collect slashRules (some { listParent := "/lists/" })).action.labels.names =
        ["/ops", "/ops/", "in", "in/", "in//new", "lists", "lists/dev", "lists/dev/ops@x.org"] := by
  have htable : ofTable true slashRows = .ok slashRules := eq_ok_of_isSome (by decide +kernel)
  have hp : ofThread ⟨0, none⟩ none slashThread = .ok _ := rfl
  exact ⟨htable, _, hp, closed_collect.1 rfl htable (List.Subset.refl slashRules) hp, by decide +kernel⟩

end PendingThread

end MailTriage
