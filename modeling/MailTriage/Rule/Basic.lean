import MailTriage.Action
import MailTriage.Condition.Parse

namespace MailTriage

structure Rule where
  condition : Condition
  action : Action
  stage : Int
  deriving Repr

namespace Rule

/-- The stage of rules that name none; it comes after all stages in use. -/
def lastStage : Int := 0x7fffffffffffffff

def summary (r : Rule) : String :=
  "[" ++ toString r.stage ++ "] " ++ r.condition.toExpression ++ " => " ++ r.action.summary

/-- The rules in ascending order of their stages; rules of one stage keep their order. -/
def sortByStage (rules : List Rule) : List Rule :=
  rules.mergeSort fun a b => a.stage ≤ b.stage

/-- The headers that the rules look at, each once, in the order of their first occurrence. -/
def requestedHeaders (rules : List Rule) : List String :=
  (rules.flatMap (·.condition.headers)).foldl
    (fun names name => if names.contains name then names else names ++ [name]) []

end Rule

end MailTriage
