import ControlPlane.Schema.Reader
import ControlPlane.Settings.EnvFile
import ControlPlane.Text.Lower
import ControlPlane.Zone

/-!
# The provider account

Where a cluster is to live at the provider, and the keys to the account. Every field is resolved by
itself from four sources: the document, unless it says null; the variable of the field's name in the
environment, even an empty one; the same name in the environment file; and last a variable whose
name only differs in letter case.
-/

namespace ControlPlane

/-- A provider account. -/
structure Account where
  region : String
  projectId : String
  accessKey : Option String := none
  secretKey : Option String := none
  deriving DecidableEq, Repr

/-- Where the fields of an account come from. -/
structure AccountSources where
  document : Schema.Entries := []
  environment : EnvFile.Environment := []
  envFile : List EnvFile.Binding := []

namespace AccountSources

/-- What the document says about a field, other than null. -/
def stated? (s : AccountSources) (field : String) : Option Value :=
  match Value.find? (.text field) s.document with
  | some .null => none
  | v? => v?

/-- The variable of a name, in any letter case. Of several spellings the last one counts. -/
def spelled? (s : AccountSources) (name : String) : Option String :=
  (s.environment.reverse.find? fun e => Text.lower e.1 = Text.lower name).map (·.2)

/-- The value of a field with the name of its variable: from the first source that has one. -/
def value? (s : AccountSources) (field name : String) : Option Value :=
  s.stated? field <|>
    (s.environment.lookup name <|> EnvFile.get? s.envFile name <|> s.spelled? name).map .text

/-- The fields of an account, with their variables. -/
def variableNames : List (String × String) :=
  [("region", "SCW_REGION"), ("project_id", "SCW_PROJECT_ID"), ("access_key", "SCW_ACCESS_KEY"),
   ("secret_key", "SCW_SECRET_KEY")]

/-- The fields that some source has a value for. -/
def entries (s : AccountSources) : Schema.Entries :=
  variableNames.filterMap fun (field, name) =>
    (s.value? field name).map fun v => (.text field, v)

end AccountSources

namespace Account

/-- Checks that a region is named by two letters, a dash and three letters. -/
def checkRegion (name : String) : Schema.Checked String :=
  if Zone.isRegionShape name.toList then .valid name else .problem .patternMismatch

/-- Reads the fields of an account. -/
def ofEntries (entries : Schema.Entries) : Schema.Checked Account :=
  mk <$> Schema.required "region" (fun v => (Schema.text v).refine checkRegion) entries
    <*> Schema.required "project_id" Schema.text entries
    <*> Schema.withDefault "access_key" (Schema.optional Schema.text) none entries
    <*> Schema.withDefault "secret_key" (Schema.optional Schema.text) none entries

/-- Reads an account from its sources. -/
def ofSources (s : AccountSources) : Schema.Checked Account := ofEntries s.entries

/-- An account as plain data, the secret included. -/
def toValue (a : Account) : Value :=
  .record [("region", .text a.region), ("project_id", .text a.projectId),
    ("access_key", .ofText? a.accessKey), ("secret_key", .ofText? a.secretKey)]

end Account

end ControlPlane
