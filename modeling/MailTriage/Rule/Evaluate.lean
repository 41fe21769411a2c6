import MailTriage.Mail.View
import MailTriage.Rule.Basic
import MailTriage.Settings.Config

/-!
Which rules a message meets, and what they add up to. Rules run stage by stage from stage 0 on; the
action of a rule that matches says how far the rest of them is run.
-/

namespace MailTriage.Rule

def isMet (r : Rule) (m : MessageView) : Bool :=
  r.condition.holds m

/-- One pass over rules in the order in which they run, of which those before stage `first` are passed
over and those after stage `last` end it: the rules met, and the action into which each of them is
merged when it is met, if there is one. -/
def evaluateFrom (m : MessageView) (first : Int) (last : Option Int) (a : Option Action) :
    List Rule → List Rule × Option Action
  | [] => ([], a)
  | r :: rules =>
    if r.stage < first then evaluateFrom m first last a rules
    else if last.any (· < r.stage) then ([], a)
    else if r.isMet m then
      let a := a.map (·.merge r.action)
      let rest :=
        match r.action.followUp with
        | .done => ([], a)
        -- A bound that an earlier match of the stage has set is lifted.
        | .nextStage => evaluateFrom m (r.stage + 1) none a rules
        | .finishStage | .unset => evaluateFrom m first (some r.stage) a rules
      (r :: rest.1, rest.2)
    else evaluateFrom m first last a rules

/-- The rules that a message meets, in the order in which they are run, and what an action becomes by
them. -/
def evaluate (rules : List Rule) (m : MessageView) (a : Option Action) : List Rule × Option Action :=
  evaluateFrom m 0 none a (sortByStage rules)

def matched (rules : List Rule) (m : MessageView) : List Rule :=
  (evaluate rules m none).1

def mergeActions (a : Action) (rules : List Rule) : Action :=
  rules.foldl (fun a r => a.merge r.action) a

/-- The label for a mailing list, and whether its parents go with it. Without a configuration the
label is the address of the list. -/
def listLabel (config : Option Config) (list : String) : String × Bool :=
  match config with
  | none => (list, true)
  | some c =>
    let parent := String.ofList (Text.strip '/' c.listParent.toList)
    (if parent.isEmpty then list else parent ++ "/" ++ list, c.parentLabels)

/-- Labels a message from a mailing list, where the action so far asks for it. -/
def addListLabel (config : Option Config) (m : MessageView) (a : Action) : Action :=
  if a.autoLabel = .enable && !m.list.isEmpty then
    let (name, parents) := listLabel config m.list
    a.addLabels [name] parents
  else a

def afterMessage (rules : List Rule) (config : Option Config) (a : Action) (m : MessageView) : Action :=
  addListLabel config m ((evaluate rules m (some a)).2.getD a)

def afterMessages (rules : List Rule) (config : Option Config) (a : Action)
    (messages : List MessageView) : Action :=
  messages.foldl (afterMessage rules config) a

theorem evaluateFrom_eq (m : MessageView) (first : Int) (last : Option Int) (a : Option Action)
    (rules : List Rule) :
    evaluateFrom m first last a rules =
      ((evaluateFrom m first last none rules).1,
        a.map (mergeActions · (evaluateFrom m first last none rules).1)) := by
  induction rules generalizing first last a with
  | nil => simp [evaluateFrom, mergeActions]
  | cons r rules ih =>
    rw [evaluateFrom, evaluateFrom]
    by_cases hf : r.stage < first
    · simpa only [if_pos hf] using ih first last a
    by_cases hl : last.any (· < r.stage)
    · simp [hf, hl, mergeActions]
    by_cases hm : r.isMet m
    · simp only [if_neg hf, if_neg hl, if_pos hm, Option.map_none]
      cases h : r.action.followUp with
      | done => simp [mergeActions]
      | nextStage => rw [ih _ none (a.map _)]; simp [mergeActions, Function.comp_def]
      | finishStage => rw [ih _ (some r.stage) (a.map _)]; simp [mergeActions, Function.comp_def]
      | unset => rw [ih _ (some r.stage) (a.map _)]; simp [mergeActions, Function.comp_def]
    · simpa only [if_neg hf, if_neg hl, if_neg hm] using ih first last a

/-- The action passed along has no part in which rules are met, and gains their actions in turn. -/
theorem evaluate_eq (rules : List Rule) (m : MessageView) (a : Option Action) :
    evaluate rules m a = (matched rules m, a.map (mergeActions · (matched rules m))) :=
  evaluateFrom_eq m 0 none a (sortByStage rules)

theorem afterMessage_eq (rules : List Rule) (config : Option Config) (a : Action) (m : MessageView) :
    afterMessage rules config a m = addListLabel config m (mergeActions a (matched rules m)) := by
  simp [afterMessage, evaluate_eq]

end MailTriage.Rule
