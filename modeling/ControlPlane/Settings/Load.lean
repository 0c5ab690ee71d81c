import ControlPlane.ControlLoop
import ControlPlane.Provider.Session
import ControlPlane.Settings.Account
import ControlPlane.Settings.Pins
import ControlPlane.Yaml.Document

/-!
# Settings

Settings bring together a provider account, a declared cluster and the time that one turn of the
control loop may take. They are read from a document and the sources around it, and a turn can be
run by them.
-/

namespace ControlPlane

/-- The settings of a cluster. -/
structure Settings where
  account : Account
  cluster : Cluster
  timeout : Seconds
  deriving DecidableEq, Repr

/-- Why settings cannot be used. -/
inductive SettingsError
  | unreadable
  | notTable
  | accountNotTable (found : Value)
  | invalid (issues : List Schema.Issue)
  | pinnedTwice (clashes : List Clash)
  | otherRegion (site configured : String)
  deriving Repr

namespace Value

/-- The word for the sort of a value. -/
def sort : Value → String
  | null => "NoneType"
  | bool _ => "bool"
  | int _ => "int"
  | real _ => "float"
  | text _ => "str"
  | date written => if written.length = 10 then "datetime.date" else "datetime.datetime"
  | list _ => "list"
  | table _ => "dict"

/-- Whether there is nothing to a value: null, false, zero, and what is empty. -/
def isNothing : Value → Bool
  | null => true
  | bool b => !b
  | int n => n = 0
  | real x => x = .finite 0
  | text s => s = ""
  | date _ => false
  | list items => items.isEmpty
  | table entries => entries.isEmpty

end Value

namespace SettingsError

/-- The wording of an error. Settings that are invalid are reported by their issues instead. -/
def message (path : String) : SettingsError → String
  | unreadable => "Failed to read " ++ path
  | notTable => path ++ ": expected a mapping at the top level"
  | accountNotTable found => "'" ++ found.sort ++ "' object has no attribute 'get'"
  | invalid issues => (Detail.malformed issues.length).message
  | pinnedTwice clashes => String.intercalate "\n" (clashes.map Clash.message)
  | otherRegion site configured =>
    "client region " ++ site ++ " does not match provider.region " ++ configured

end SettingsError

namespace Settings

/-- The time for a turn that none is set for. -/
def defaultTimeout : Seconds := 120

/-- Checks that a time is above zero. -/
def checkTimeout (t : Seconds) : Schema.Checked Seconds :=
  if 0 < t then .valid t else .problem .notAbove

/-- A path, which is only looked at for its form. -/
def path : Schema.Reader Unit
  | .text _ => .valid ()
  | _ => .problem .notPath

/-- The section of the account, which may be left empty. -/
def accountSection (entries : Schema.Entries) : Except SettingsError Schema.Entries :=
  match Value.find? (.text "provider") entries with
  | none => .ok []
  | some (.table own) => .ok own
  | some v => if v.isNothing then .ok [] else .error (.accountNotTable v)

/-- Reads settings from the entries of a document and the account's sources. -/
def ofEntries (sources : AccountSources) (entries : Schema.Entries) : Schema.Checked Settings :=
  (fun account cluster timeout _ => mk account cluster timeout)
    <$> (Account.ofSources sources).under (.key (.text "provider"))
    <*> Schema.required "cluster" Cluster.ofValue entries
    <*> Schema.withDefault "timeout" (fun v => (Schema.real v).refine checkTimeout) defaultTimeout
      entries
    <*> Schema.withDefault "config_dir" path () entries

/-- Reads settings from a document. -/
def ofDocument (environment : EnvFile.Environment) (envFile : List EnvFile.Binding)
    (document : Value) : Except SettingsError Settings :=
  match document with
  | .table entries => do
    let own ← accountSection entries
    match ofEntries ⟨own, environment, envFile⟩ entries with
    | .invalid issues => .error (.invalid issues)
    | .valid settings =>
      if settings.cluster.network.clashes = [] then return settings
      else .error (.pinnedTwice settings.cluster.network.clashes)
  | _ => .error .notTable

/-- Reads settings from the text of a document, which may be missing. -/
def ofText? (environment : EnvFile.Environment) (envFile : List EnvFile.Binding)
    (text : Option String) : Except SettingsError Settings :=
  match text.bind Yaml.read with
  | some document => ofDocument environment envFile document
  | none => .error .unreadable

/-- Runs one turn of the control loop at a site, which must be in the region of the account. The
turn is not canceled beforehand, and the time set is its limit. -/
def run {σ : Type} (s : Settings) (site : Site) (p : Provider σ) (action : Action)
    (start : Session σ) : Except SettingsError (Except Failure Outcome × Session σ) :=
  if site.region.name = s.account.region then
    let deadline := start.world.now + s.timeout
    let start := { start with world := { start.world with canceled := false } }
    .ok ((Scope.turn ⟨site, s.cluster⟩ action).run p (some deadline) start)
  else .error (.otherRegion site.region.name s.account.region)

end Settings

end ControlPlane
