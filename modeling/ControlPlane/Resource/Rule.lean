import ControlPlane.Schema.Reader

/-!
# Access rules

A rule of a frontend admits or refuses the clients of a list of subnets. Rules apply in the order of
their indices. `RuleSpec` is what a rule says; `Rule` is a rule that a frontend has.
-/

namespace ControlPlane

/-- Whether a rule admits or refuses. -/
inductive RuleAction
  | allow
  | deny
  deriving DecidableEq, Repr

/-- The actions with their words. -/
def RuleAction.words : List (String × RuleAction) := [("allow", allow), ("deny", deny)]

/-- The word for an action. -/
def RuleAction.word : RuleAction → String
  | allow => "allow"
  | deny => "deny"

/-- What a rule says. -/
structure RuleSpec where
  name : String
  index : Int
  action : RuleAction
  subnets : List String := []
  description : String := ""
  deriving DecidableEq, Repr

/-- A rule of a frontend. -/
structure Rule extends RuleSpec where
  id : String
  frontendId : String
  deriving DecidableEq, Repr

namespace RuleSpec

/-- The highest index of a rule. -/
def maxIndex : Int := 2147483647

/-- An index within the bounds. -/
def checkIndex (index : Int) : Schema.Checked Int := Schema.between 0 maxIndex index

/-- Reads the fields of a rule specification. -/
def ofEntries (entries : Schema.Entries) : Schema.Checked RuleSpec :=
  mk <$> Schema.required "name" Schema.text entries
    <*> Schema.required "index" (fun v => (Schema.whole v).refine checkIndex) entries
    <*> Schema.required "action" (Schema.member RuleAction.words) entries
    <*> Schema.withDefault "ip_subnet" (Schema.listOf Schema.text) [] entries
    <*> Schema.withDefault "description" Schema.text "" entries

/-- Reads a rule specification. -/
def ofValue : Schema.Reader RuleSpec := Schema.table ofEntries

/-- The fields of a rule specification as plain data. -/
def fields (s : RuleSpec) : List (String × Value) :=
  [("name", .text s.name), ("index", .int s.index), ("action", .text s.action.word),
    ("ip_subnet", .texts s.subnets), ("description", .text s.description)]

/-- A rule specification as plain data. -/
def toValue (s : RuleSpec) : Value := .record s.fields

/-- A specification without a description, if the index is within the bounds. -/
def checked (name : String) (index : Int) (action : RuleAction) (subnets : List String) :
    Schema.Checked RuleSpec :=
  (fun index => { name, index, action, subnets }) <$>
    (checkIndex index).under (.key (.text "index"))

end RuleSpec

namespace Rule

/-- Reads a rule. -/
def ofValue : Schema.Reader Rule := Schema.table fun entries =>
  mk <$> RuleSpec.ofEntries entries
    <*> Schema.required "id" Schema.text entries
    <*> Schema.required "frontend_id" Schema.text entries

/-- A rule as plain data. -/
def toValue (r : Rule) : Value :=
  .record (r.toRuleSpec.fields ++ [("id", .text r.id), ("frontend_id", .text r.frontendId)])

end Rule

end ControlPlane
