import Mathlib.Data.List.Nodup
import ControlPlane.Proofs.Schema.Readers
import ControlPlane.Settings.Load

/-!
# Which source an account's fields come from

A field of an account may be said by four sources. They have an order (`AccountSource.above`), and
the first source that says anything about a field provides it (`AccountSources.Provides`), whatever
the sources further down say, and whatever any source says about other fields.

Sources are put together before the account is read from them, so the account that is read is
compared with what is put together (`find?_entries`), and that with the sources one by one
(`value?_eq_first?`). `Account.ofSources_eq_valid_iff` says of which sources an account is read at
all. `Settings.account_precedence` is the statement about settings as they are loaded.
-/

namespace ControlPlane

/-! ## Fields and their sources -/

/-- A field of an account. -/
inductive AccountField
  | region
  | projectId
  | accessKey
  | secretKey
  deriving DecidableEq, Repr

namespace AccountField

/-- All fields, in the order that they are read. -/
def all : List AccountField := [region, projectId, accessKey, secretKey]

/-- The key of a field in a document. -/
def key : AccountField → String
  | region => "region"
  | projectId => "project_id"
  | accessKey => "access_key"
  | secretKey => "secret_key"

/-- The name of the variable of a field. -/
def variableName : AccountField → String
  | region => "SCW_REGION"
  | projectId => "SCW_PROJECT_ID"
  | accessKey => "SCW_ACCESS_KEY"
  | secretKey => "SCW_SECRET_KEY"

/-- Whether an account can do without a field. -/
def isOptional : AccountField → Bool
  | region | projectId => false
  | accessKey | secretKey => true

/-- What an account has in a field. -/
def value? (a : Account) : AccountField → Option String
  | region => some a.region
  | projectId => some a.projectId
  | accessKey => a.accessKey
  | secretKey => a.secretKey

/-- Every field is among all of them. -/
theorem mem_all (f : AccountField) : f ∈ all := by
  cases f <;> decide

/-- The table of variable names has the fields in their order. -/
theorem variableNames_eq :
    AccountSources.variableNames = all.map fun f => (f.key, f.variableName) := rfl

/-- Fields have different keys, and variables that differ in more than letter case. -/
theorem names_ne {f g : AccountField} (h : f ≠ g) :
    f.key ≠ g.key ∧ Text.lower f.variableName ≠ Text.lower g.variableName := by
  cases f <;> cases g <;> first
    | exact absurd rfl h
    | decide +kernel

end AccountField

/-- A place that a field of an account may come from: the document, the variable of its name, the
environment file, or a variable of the name in any letter case. -/
inductive AccountSource
  | document
  | environment
  | envFile
  | otherCase
  deriving DecidableEq, Repr

namespace AccountSource

/-- The sources from the first to the last. -/
def all : List AccountSource := [document, environment, envFile, otherCase]

/-- The sources that come before one. -/
def above : AccountSource → List AccountSource
  | document => []
  | environment => [document]
  | envFile => [document, environment]
  | otherCase => [document, environment, envFile]

/-- A source that comes before another comes before all behind that one. -/
theorem above_trans {x y z : AccountSource} (hxy : x ∈ y.above) (hyz : y ∈ z.above) :
    x ∈ z.above := by
  cases x <;> cases y <;> cases z <;> simp_all [above]

variable {β : Type} {g : AccountSource → Option β} {b : β}

/-- A search through the sources ends with the first one that has a result. -/
theorem findSome?_all_eq_some_iff : all.findSome? g = some b ↔
    ∃ source, g source = some b ∧ ∀ other ∈ source.above, g other = none := by
  rw [List.findSome?_eq_some_iff]
  constructor
  · rintro ⟨before, source, after, hall, hsource, hbefore⟩
    -- There are four sources, so no more than three come before one of them.
    have habove : source.above = before := by
      match before, hall with
      | [], hall => cases hall; rfl
      | [_], hall => cases hall; rfl
      | [_, _], hall => cases hall; rfl
      | [_, _, _], hall => cases hall; rfl
      | _ :: _ :: _ :: _ :: _, hall => simp [all] at hall
    rw [← habove] at hbefore
    exact ⟨source, hsource, hbefore⟩
  · rintro ⟨source, hsource, habove⟩
    have hall : ∃ after, all = source.above ++ source :: after := by
      cases source with
      | document => exact ⟨[environment, envFile, otherCase], rfl⟩
      | environment => exact ⟨[envFile, otherCase], rfl⟩
      | envFile => exact ⟨[otherCase], rfl⟩
      | otherCase => exact ⟨[], rfl⟩
    obtain ⟨after, hall⟩ := hall
    exact ⟨source.above, source, after, hall, hsource, habove⟩

/-- Nothing is found in all sources if none has anything. -/
theorem findSome?_all_eq_none_iff : all.findSome? g = none ↔ ∀ source, g source = none := by
  rw [List.findSome?_eq_none_iff]
  refine ⟨fun h source => h source ?_, fun h source _ => h source⟩
  cases source <;> decide

end AccountSource

namespace AccountSources

variable {s s' : AccountSources} {f g : AccountField} {v : Value}

/-- What a source says about a field. The document says nothing by a null. -/
def said? (s : AccountSources) (f : AccountField) : AccountSource → Option Value
  | .document => s.stated? f.key
  | .environment => (s.environment.lookup f.variableName).map .text
  | .envFile => (EnvFile.get? s.envFile f.variableName).map .text
  | .otherCase => (s.spelled? f.variableName).map .text

/-- No source before this one says anything about a field. -/
def Reaches (s : AccountSources) (f : AccountField) (source : AccountSource) : Prop :=
  ∀ other ∈ source.above, s.said? f other = none

/-- A source is the first that says anything about a field, and says this. -/
def Provides (s : AccountSources) (f : AccountField) (source : AccountSource) (v : Value) : Prop :=
  s.said? f source = some v ∧ s.Reaches f source

/-- What the first source says that says anything about a field. -/
def first? (s : AccountSources) (f : AccountField) : Option Value :=
  AccountSource.all.findSome? (s.said? f)

/-- What is said first about a field is what some source provides. -/
theorem first?_eq_some_iff : s.first? f = some v ↔ ∃ source, s.Provides f source v :=
  AccountSource.findSome?_all_eq_some_iff

/-- Nothing is said about a field if no source says anything. -/
theorem first?_eq_none_iff : s.first? f = none ↔ ∀ source, s.said? f source = none :=
  AccountSource.findSome?_all_eq_none_iff

/-- A source never says a null. -/
theorem said?_ne_null (source : AccountSource) : s.said? f source ≠ some .null := by
  cases source with
  | document =>
    intro h
    simp only [said?, stated?] at h
    split at h
    · cases h
    · next hnull => exact hnull h
  | environment | envFile | otherCase =>
    intro h
    obtain ⟨_, _, ⟨⟩⟩ := Option.map_eq_some_iff.1 h

/-- A null is never what is said first. -/
theorem first?_ne_null : s.first? f ≠ some .null := by
  intro h
  obtain ⟨source, hsaid, _⟩ := first?_eq_some_iff.1 h
  exact said?_ne_null source hsaid

/-- The value that is read for a field is what the first source says. -/
theorem value?_eq_first? : s.value? f.key f.variableName = s.first? f := by
  simp only [value?, first?, AccountSource.all, List.findSome?, said?]
  cases s.stated? f.key with
  | some v => rfl
  | none =>
    cases s.environment.lookup f.variableName with
    | some x => rfl
    | none =>
      cases EnvFile.get? s.envFile f.variableName with
      | some x => rfl
      | none => cases s.spelled? f.variableName <;> rfl

/-- What is put together under different keys is found under them. -/
theorem find?_filterMap {names : List (String × String)} (hnames : (names.map (·.1)).Nodup)
    (value : String × String → Option Value) {n : String × String} (hn : n ∈ names) :
    Value.find? (.text n.1) (names.filterMap fun n => (value n).map fun v => (.text n.1, v)) =
      value n := by
  -- By induction on the names: what the first one has is found first, and what is put under the
  -- others stands behind it.
  induction names with
  | nil => cases hn
  | cons m rest ih =>
    obtain ⟨hm, hrest⟩ := List.nodup_cons.1 hnames
    rcases List.mem_cons.1 hn with rfl | hn
    · cases hvalue : value n with
      | some v => simp [Value.find?, hvalue]
      | none =>
        -- Nothing is put there, and other keys differ.
        rw [List.filterMap_cons_none (by rw [hvalue]; rfl)]
        simp only [Value.find?, Option.map_eq_none_iff, List.find?_eq_none, decide_eq_true_eq]
        intro e he hkey
        obtain ⟨n', hn', hput⟩ := List.mem_filterMap.1 he
        obtain ⟨v, -, rfl⟩ := Option.map_eq_some_iff.1 hput
        exact hm (List.mem_map.2 ⟨n', hn', Key.text.inj hkey⟩)
    · have hne : n.1 ≠ m.1 := fun heq => hm (List.mem_map.2 ⟨n, hn, heq⟩)
      rw [← ih hrest hn]
      cases hvalue : value m with
      | some v => simp [Value.find?, hvalue, Ne.symm hne]
      | none => rw [List.filterMap_cons_none (by rw [hvalue]; rfl)]

/-- What an account is read from has under each field what the first source says. -/
theorem find?_entries : Value.find? (.text f.key) s.entries = s.first? f := by
  rw [← value?_eq_first?]
  refine find?_filterMap (n := (f.key, f.variableName)) (by decide)
    (fun n => s.value? n.1 n.2) ?_
  rw [AccountField.variableNames_eq]
  exact List.mem_map_of_mem f.mem_all

/-- Where the sources that are looked at say the same, so does the first that says anything. -/
theorem first?_congr (h : ∀ source, s.Reaches f source → s'.said? f source = s.said? f source) :
    s'.first? f = s.first? f := by
  cases hfirst : s.first? f with
  | none =>
    -- All sources are looked at.
    have hnone := first?_eq_none_iff.1 hfirst
    apply first?_eq_none_iff.2
    intro source
    rw [h source fun other _ => hnone other]
    exact hnone source
  | some v =>
    obtain ⟨source, hsaid, hreaches⟩ := first?_eq_some_iff.1 hfirst
    apply first?_eq_some_iff.2
    refine ⟨source, (h source hreaches).trans hsaid, fun other hother => ?_⟩
    rw [h other fun o ho => hreaches o (AccountSource.above_trans ho hother)]
    exact hreaches other hother

/-! ### Changes that concern one field -/

/-- Sources are the same but for what concerns one field: the entries of the document with its key,
the variables of its name in any letter case, and the bindings of its name. -/
structure SameBut (g : AccountField) (s s' : AccountSources) : Prop where
  document : s'.document.filter (·.1 ≠ .text g.key) = s.document.filter (·.1 ≠ .text g.key)
  environment : s'.environment.filter (fun e => Text.lower e.1 ≠ Text.lower g.variableName) =
    s.environment.filter fun e => Text.lower e.1 ≠ Text.lower g.variableName
  envFile : s'.envFile.filter (·.name ≠ g.variableName) = s.envFile.filter (·.name ≠ g.variableName)

/-- A search does not miss what is left out if it would not have ended there. -/
theorem find?_filter_of_imp {α : Type} {p q : α → Bool} (h : ∀ a, q a = true → p a = true)
    (xs : List α) : (xs.filter p).find? q = xs.find? q := by
  rw [List.find?_filter]
  congr 1
  funext a
  cases hq : q a with
  | false => simp
  | true => simp [h a hq]

/-- The value under a name is that of the first entry that has the name. -/
theorem lookup_eq_find? (name : String) (es : List (String × String)) :
    es.lookup name = (es.find? (·.1 = name)).map (·.2) := by
  induction es with
  | nil => rfl
  | cons e rest ih =>
    obtain ⟨name', x⟩ := e
    rw [List.lookup_cons, List.find?_cons]
    by_cases hname : name' = name
    · simp [hname]
    · simp [hname, beq_false_of_ne (Ne.symm hname), ih]

/-- What a source says about one field does not depend on what concerns another. -/
theorem SameBut.said?_eq (h : SameBut g s s') (hne : f ≠ g) (source : AccountSource) :
    s'.said? f source = s.said? f source := by
  obtain ⟨hkey, hname⟩ := AccountField.names_ne hne
  -- Each source is searched for a name of `f`, and nothing with such a name concerns `g`.
  cases source with
  | document =>
    have hfind : ∀ entries : Schema.Entries, Value.find? (.text f.key) entries =
        Value.find? (.text f.key) (entries.filter (·.1 ≠ .text g.key)) := by
      intro entries
      unfold Value.find?
      rw [find?_filter_of_imp]
      intro e he
      simpa [of_decide_eq_true he] using hkey
    show s'.stated? f.key = s.stated? f.key
    unfold stated?
    rw [hfind, h.document, ← hfind]
  | environment =>
    have hlookup : ∀ environment : EnvFile.Environment, environment.lookup f.variableName =
        (environment.filter fun e => Text.lower e.1 ≠ Text.lower g.variableName).lookup
          f.variableName := by
      intro environment
      rw [lookup_eq_find?, lookup_eq_find?, find?_filter_of_imp]
      intro e he
      simpa [of_decide_eq_true he] using hname
    show (s'.environment.lookup _).map _ = (s.environment.lookup _).map _
    rw [hlookup, h.environment, ← hlookup]
  | envFile =>
    have hget : ∀ bindings : List EnvFile.Binding, EnvFile.get? bindings f.variableName =
        EnvFile.get? (bindings.filter (·.name ≠ g.variableName)) f.variableName := by
      intro bindings
      unfold EnvFile.get? EnvFile.last?
      rw [← List.filter_reverse, find?_filter_of_imp]
      intro b hb
      simpa [of_decide_eq_true hb] using fun heq => hname (congrArg Text.lower heq)
    show (EnvFile.get? s'.envFile _).map _ = (EnvFile.get? s.envFile _).map _
    rw [hget, h.envFile, ← hget]
  | otherCase =>
    have hfind : ∀ environment : EnvFile.Environment,
        environment.reverse.find? (fun e => Text.lower e.1 = Text.lower f.variableName) =
          (environment.filter fun e => Text.lower e.1 ≠ Text.lower g.variableName).reverse.find?
            fun e => Text.lower e.1 = Text.lower f.variableName := by
      intro environment
      rw [← List.filter_reverse, find?_filter_of_imp]
      intro e he
      simpa [of_decide_eq_true he] using hname
    show (s'.spelled? _).map _ = (s.spelled? _).map _
    unfold spelled?
    rw [hfind, h.environment, ← hfind]

/-- If no two variables have the same name but for letter case, the one of a field's name is found.
-/
theorem said?_otherCase_iff (h : (s.environment.map fun e => Text.lower e.1).Nodup) {x : String} :
    s.said? f .otherCase = some (.text x) ↔
      ∃ n, (n, x) ∈ s.environment ∧ Text.lower n = Text.lower f.variableName := by
  have hsaid : s.said? f .otherCase = some (.text x) ↔ s.spelled? f.variableName = some x := by
    simp [said?]
  rw [hsaid]
  unfold spelled?
  rw [Option.map_eq_some_iff]
  constructor
  · rintro ⟨e, hfind, rfl⟩
    have hname := List.find?_some hfind
    exact ⟨e.1, List.mem_reverse.1 (List.mem_of_find?_eq_some hfind), of_decide_eq_true hname⟩
  · rintro ⟨n, hmem, hname⟩
    have hsome : (s.environment.reverse.find? fun e =>
        Text.lower e.1 = Text.lower f.variableName).isSome := by
      rw [List.find?_isSome]
      exact ⟨(n, x), List.mem_reverse.2 hmem, decide_eq_true hname⟩
    -- What the search ends with has the name too, and no two variables have it.
    obtain ⟨e, he⟩ := Option.isSome_iff_exists.1 hsome
    have hfound := List.find?_some he
    have heq : e = (n, x) := List.inj_on_of_nodup_map h
      (List.mem_reverse.1 (List.mem_of_find?_eq_some he)) hmem
      ((of_decide_eq_true hfound).trans hname.symm)
    exact ⟨e, he, by rw [heq]⟩

end AccountSources

/-! ## The account of some sources -/

namespace Schema

variable {s : AccountSources} {f : AccountField} {x : String}

/-- A required field is valid if a source says something about it that can be read. -/
theorem required_eq_valid_iff {α : Type} {r : Reader α} {a : α} :
    required f.key r s.entries = .valid a ↔ ∃ v, s.first? f = some v ∧ r v = .valid a := by
  unfold required
  rw [AccountSources.find?_entries]
  cases s.first? f <;> simp [Checked.under_eq_valid_iff, Checked.problem]

/-- A field that may be missing is read as the text that is there, or as none. -/
theorem withDefault_eq_valid_iff {x : Option String} :
    withDefault f.key (optional text) none s.entries = .valid x ↔ s.first? f = x.map .text := by
  unfold withDefault
  rw [AccountSources.find?_entries]
  cases hfirst : s.first? f with
  | none => cases x <;> simp
  | some v =>
    -- What is said first is no null, and must be a text.
    have hnull : v ≠ .null := fun h => AccountSources.first?_ne_null (h ▸ hfirst)
    dsimp only
    rw [Checked.under_eq_valid_iff]
    unfold optional
    split
    · exact absurd rfl hnull
    · simp only [Checked.map_eq_valid_iff, text_eq_valid_iff]
      cases x <;> simp

end Schema

namespace Account

open Schema

variable {s s' : AccountSources} {a a' : Account} {f : AccountField}

/-- An account is read exactly if the first source of each field says what it has there, and the
region has the form of one. -/
theorem ofSources_eq_valid_iff : ofSources s = .valid a ↔
    (∀ f : AccountField, s.first? f = (f.value? a).map .text) ∧
      Zone.isRegionShape a.region.toList = true := by
  have hregion : ∀ x, required "region" (fun v => (text v).refine checkRegion) s.entries = .valid x ↔
      s.first? .region = some (.text x) ∧ Zone.isRegionShape x.toList = true := by
    intro x
    refine (required_eq_valid_iff (f := .region)).trans ?_
    simp only [Checked.refine_eq_valid_iff, text_eq_valid_iff, checkRegion]
    constructor
    · rintro ⟨v, hfirst, y, rfl, hcheck⟩
      split at hcheck
      · next hshape =>
        cases hcheck
        exact ⟨hfirst, hshape⟩
      · cases hcheck
    · rintro ⟨hfirst, hshape⟩
      exact ⟨_, hfirst, x, rfl, if_pos hshape⟩
  have hproject : ∀ x, required "project_id" text s.entries = .valid x ↔
      s.first? .projectId = some (.text x) := by
    intro x
    refine (required_eq_valid_iff (f := .projectId)).trans ?_
    simp only [text_eq_valid_iff, exists_eq_right]
  have haccess : ∀ x, withDefault "access_key" (optional text) none s.entries = .valid x ↔
      s.first? .accessKey = x.map .text := fun _ => withDefault_eq_valid_iff (f := .accessKey)
  have hsecret : ∀ x, withDefault "secret_key" (optional text) none s.entries = .valid x ↔
      s.first? .secretKey = x.map .text := fun _ => withDefault_eq_valid_iff (f := .secretKey)
  -- An account is valid if all four fields are, and then consists of them.
  unfold ofSources ofEntries
  simp only [Checked.seq_eq_valid_iff, Checked.map_eq_valid_iff, hregion, hproject, haccess, hsecret]
  constructor
  · rintro ⟨_, z, ⟨_, y, ⟨_, x, ⟨r, ⟨hr, hshape⟩, rfl⟩, hx, rfl⟩, hy, rfl⟩, hz, rfl⟩
    refine ⟨fun f => ?_, hshape⟩
    cases f with
    | region => exact hr
    | projectId => exact hx
    | accessKey => exact hy
    | secretKey => exact hz
  · rintro ⟨hfields, hshape⟩
    exact ⟨_, _, ⟨_, _, ⟨_, _, ⟨_, ⟨hfields .region, hshape⟩, rfl⟩, hfields .projectId, rfl⟩,
      hfields .accessKey, rfl⟩, hfields .secretKey, rfl⟩

/-- A field that is missing and has to be there is an issue. -/
theorem missing_mem_issues (hf : f.isOptional = false) (h : s.first? f = none) :
    ⟨[.key (.text f.key)], .missing⟩ ∈ (ofSources s).issues := by
  have hmissing : ∀ {α : Type} (r : Reader α),
      ⟨[.key (.text f.key)], .missing⟩ ∈ (required f.key r s.entries).issues := by
    intro α r
    unfold required
    rw [AccountSources.find?_entries, h]
    exact List.mem_singleton_self _
  unfold ofSources ofEntries
  simp only [Checked.issues_seq, Checked.issues_map, List.mem_append]
  cases f with
  | region => exact .inl (.inl (.inl (hmissing _)))
  | projectId => exact .inl (.inl (.inr (hmissing _)))
  | accessKey | secretKey => cases hf

end Account

/-! ## The account of settings -/

namespace Settings

open Schema

/-- The sources of the account of a document: its section, and what stands around it. -/
def sources (environment : EnvFile.Environment) (envFile : List EnvFile.Binding)
    (document : Value) : AccountSources where
  document := match document with
    | .table entries => (accountSection entries).toOption.getD []
    | _ => []
  environment := environment
  envFile := envFile

variable {environment : EnvFile.Environment} {envFile : List EnvFile.Binding} {document : Value}
  {settings : Settings} {entries own : Entries}

/-- The document among the sources is the section of the account. -/
theorem sources_table (h : accountSection entries = .ok own) :
    sources environment envFile (.table entries) = ⟨own, environment, envFile⟩ := by
  unfold sources
  dsimp only
  rw [h]
  rfl

/-- Settings are read once the section of the account is. -/
theorem ofDocument_table (h : accountSection entries = .ok own) :
    ofDocument environment envFile (.table entries) =
      match ofEntries ⟨own, environment, envFile⟩ entries with
      | .invalid issues => .error (.invalid issues)
      | .valid settings =>
        if settings.cluster.network.clashes = [] then .ok settings
        else .error (.pinnedTwice settings.cluster.network.clashes) := by
  unfold ofDocument
  dsimp only
  rw [h]
  rfl

/-- Settings are only loaded from a table that has a section for the account, if not an empty one.
-/
theorem exists_section_of_ofDocument (h : ofDocument environment envFile document = .ok settings) :
    ∃ entries own, document = .table entries ∧ accountSection entries = .ok own := by
  cases document with
  | table entries =>
    cases hown : accountSection entries with
    | ok own => exact ⟨entries, own, rfl, hown⟩
    | error e =>
      unfold ofDocument at h
      dsimp only at h
      rw [hown] at h
      cases h
  | _ => cases h

/-- Settings that are loaded have the account of their sources. -/
theorem account_of_ofDocument (h : ofDocument environment envFile document = .ok settings) :
    Account.ofSources (sources environment envFile document) = .valid settings.account := by
  obtain ⟨entries, own, rfl, hown⟩ := exists_section_of_ofDocument h
  rw [ofDocument_table hown] at h
  rw [sources_table hown]
  cases hread : ofEntries ⟨own, environment, envFile⟩ entries with
  | invalid issues =>
    rw [hread] at h
    cases h
  | valid settings' =>
    rw [hread] at h
    -- The settings are handed on as they are read, if their pins do not clash.
    have heq : settings' = settings := by
      dsimp only at h
      split at h
      · exact Except.ok.inj h
      · cases h
    subst heq
    simp only [ofEntries, Checked.seq_eq_valid_iff, Checked.map_eq_valid_iff] at hread
    obtain ⟨_, _, ⟨_, _, ⟨_, _, ⟨account, haccount, rfl⟩, _, rfl⟩, _, rfl⟩, _, rfl⟩ := hread
    exact Checked.under_eq_valid_iff.1 haccount

/-- When settings are read, the account has in each field what the first source says. -/
theorem first?_of_ofDocument (h : ofDocument environment envFile document = .ok settings)
    (f : AccountField) : (sources environment envFile document).first? f =
      (f.value? settings.account).map .text :=
  (Account.ofSources_eq_valid_iff.1 (account_of_ofDocument h)).1 f

/-- What a field has that is loaded is provided by a source, unless no source has anything for it
and it may be left out. -/
theorem provided_of_ofDocument (h : ofDocument environment envFile document = .ok settings)
    (f : AccountField) :
    (∃ source x, (sources environment envFile document).Provides f source (.text x) ∧
        f.value? settings.account = some x) ∨
      (∀ source, (sources environment envFile document).said? f source = none) ∧
        f.isOptional = true ∧ f.value? settings.account = none := by
  have hfirst := first?_of_ofDocument h f
  cases hvalue : f.value? settings.account with
  | some x =>
    rw [hvalue] at hfirst
    obtain ⟨source, hprovides⟩ := AccountSources.first?_eq_some_iff.1 hfirst
    exact .inl ⟨source, x, hprovides, rfl⟩
  | none =>
    rw [hvalue] at hfirst
    refine .inr ⟨AccountSources.first?_eq_none_iff.1 hfirst, ?_, rfl⟩
    -- Only fields that need not be given can be without a value.
    cases f with
    | region | projectId => cases hvalue
    | accessKey | secretKey => rfl

/-- Without a field that has to be there no settings are loaded. If there is a section of the
account, the field is reported as missing there. -/
theorem ofDocument_missing {f : AccountField} (hf : f.isOptional = false)
    (h : ∀ source, (sources environment envFile document).said? f source = none) :
    ∃ e, ofDocument environment envFile document = .error e ∧
      ∀ entries own, document = .table entries → accountSection entries = .ok own →
        ∃ issues, e = .invalid issues ∧
          ⟨[.key (.text "provider"), .key (.text f.key)], .missing⟩ ∈ issues := by
  have hfirst := AccountSources.first?_eq_none_iff.2 h
  cases hload : ofDocument environment envFile document with
  | ok settings =>
    -- The account would have the field.
    have hvalue := (first?_of_ofDocument hload f).symm.trans hfirst
    cases f with
    | region | projectId => cases hvalue
    | accessKey | secretKey => cases hf
  | error e =>
    refine ⟨e, rfl, ?_⟩
    rintro entries own rfl hown
    rw [sources_table hown] at hfirst
    have hmem : ⟨[.key (.text "provider"), .key (.text f.key)], .missing⟩ ∈
        (ofEntries ⟨own, environment, envFile⟩ entries).issues := by
      simp only [ofEntries, Checked.issues_seq, Checked.issues_map, Checked.issues_under,
        List.mem_append]
      refine .inl (.inl (.inl (List.mem_map.2 ⟨_, Account.missing_mem_issues hf hfirst, rfl⟩)))
    rw [ofDocument_table hown, Checked.eq_invalid_of_mem_issues hmem] at hload
    cases hload
    exact ⟨_, rfl, hmem⟩

open AccountSources in
/-- The account of settings that are loaded, field by field. What a field has is said by the first
source that says anything about it: the document, unless by a null, the variable of its name, the
environment file, and a variable whose name differs in letter case. If none does, an optional field
has nothing, and without another one nothing is loaded. So the account has the same in a field if it
is loaded again where only the sources behind the first one have changed, or only what concerns
another field. If no two variables have the same name but for letter case, the last source says what
the one with the field's name does. -/
theorem account_precedence (environment : EnvFile.Environment) (envFile : List EnvFile.Binding)
    (document : Value) :
    let s := sources environment envFile document
    (∀ settings, ofDocument environment envFile document = .ok settings → ∀ f : AccountField,
      ((∃ source x, s.Provides f source (.text x) ∧ f.value? settings.account = some x) ∨
        (∀ source, s.said? f source = none) ∧ f.isOptional = true ∧
          f.value? settings.account = none) ∧
      ∀ environment' envFile' document' settings',
        ofDocument environment' envFile' document' = .ok settings' →
        let s' := sources environment' envFile' document'
        ((∀ source, s.Reaches f source → s'.said? f source = s.said? f source) ∨
          ∃ g, f ≠ g ∧ s.SameBut g s') →
        f.value? settings'.account = f.value? settings.account) ∧
    (∀ f : AccountField, f.isOptional = false → (∀ source, s.said? f source = none) →
      ∃ e, ofDocument environment envFile document = .error e ∧
        ∀ entries own, document = .table entries → accountSection entries = .ok own →
          ∃ issues, e = .invalid issues ∧
            ⟨[.key (.text "provider"), .key (.text f.key)], .missing⟩ ∈ issues) ∧
    ((environment.map fun e => Text.lower e.1).Nodup → ∀ (f : AccountField) x,
      s.said? f .otherCase = some (.text x) ↔
        ∃ n, (n, x) ∈ environment ∧ Text.lower n = Text.lower f.variableName) := by
  intro s
  refine ⟨fun settings hload f => ?_, fun f hf h => ofDocument_missing hf h,
    fun h f x => said?_otherCase_iff (s := s) h⟩
  refine ⟨provided_of_ofDocument hload f, ?_⟩
  intro environment' envFile' document' settings' hload' s' hsame
  -- A second load with the same sources down to the providing one, or with all the same but for
  -- another field.
  have hfirst : s'.first? f = s.first? f := by
    rcases hsame with hsame | ⟨g, hne, hsame⟩
    · exact first?_congr hsame
    · exact first?_congr fun source _ => hsame.said?_eq hne source
  have hvalue := first?_of_ofDocument hload' f
  rw [hfirst, first?_of_ofDocument hload f] at hvalue
  exact (Option.map_injective (fun _ _ h => Value.text.inj h) hvalue).symm

end Settings

namespace Sample

/-- A document with a region, and a project that is left to others. -/
def document : Value :=
  .record [("provider", .record [("region", .text "fr-par"), ("project_id", .null)]),
    ("cluster", .record [("name", .text "demo")])]

/-- The region differs from that of the document, the project is empty, and the name of the key is
in lower case. -/
def environment : EnvFile.Environment :=
  [("SCW_REGION", "nl-ams"), ("SCW_PROJECT_ID", ""), ("scw_access_key", "key")]

/-- The project differs from that of the environment. -/
def envFile : List EnvFile.Binding :=
  [⟨"SCW_PROJECT_ID", some "other"⟩, ⟨"SCW_SECRET_KEY", some "secret"⟩]

end Sample

namespace Settings

/-- Each field comes from another source. The region of the environment does not matter to any of
them, and without an environment there is no project. -/
theorem sample_account_precedence : ∃ settings settings',
    ofDocument Sample.environment Sample.envFile Sample.document = .ok settings ∧
    ofDocument (Sample.environment.drop 1) Sample.envFile Sample.document = .ok settings' ∧
    settings.account = ⟨"fr-par", "", some "key", some "secret"⟩ ∧
    (∀ f : AccountField, ∃ source x, (sources Sample.environment Sample.envFile
      Sample.document).Provides f source (.text x) ∧ f.value? settings.account = some x) ∧
    (∀ f : AccountField, f.value? settings'.account = f.value? settings.account) ∧
    ∃ issues, ofDocument [] [] Sample.document = .error (.invalid issues) ∧
      ⟨[.key (.text "provider"), .key (.text "project_id")], .missing⟩ ∈ issues := by
  have haccount : ∀ environment, (environment = Sample.environment ∨
      environment = Sample.environment.drop 1) →
      ∃ settings, ofDocument environment Sample.envFile Sample.document = .ok settings ∧
        settings.account = ⟨"fr-par", "", some "key", some "secret"⟩ := by
    intro environment henvironment
    have hload : (ofDocument environment Sample.envFile Sample.document).toOption.map (·.account) =
        some ⟨"fr-par", "", some "key", some "secret"⟩ := by
      rcases henvironment with rfl | rfl <;> decide +kernel
    cases h : ofDocument environment Sample.envFile Sample.document with
    | error e =>
      rw [h] at hload
      cases hload
    | ok settings =>
      rw [h] at hload
      exact ⟨settings, rfl, Option.some.inj hload⟩
  obtain ⟨settings, hload, hsettings⟩ := haccount _ (.inl rfl)
  obtain ⟨settings', hload', -⟩ := haccount _ (.inr rfl)
  obtain ⟨hfields, -, -⟩ := account_precedence Sample.environment Sample.envFile Sample.document
  obtain ⟨-, hmissing, -⟩ := account_precedence [] [] Sample.document
  refine ⟨settings, settings', hload, hload', hsettings, fun f => ?_, fun f => ?_, ?_⟩
  · rcases (hfields settings hload f).1 with hprovided | ⟨-, -, hnone⟩
    · exact hprovided
    · rw [hsettings] at hnone
      cases f <;> cases hnone
  · apply (hfields settings hload f).2 _ _ _ settings' hload'
    by_cases hf : f = .region
    · -- The document says the region, and the sources behind it are not looked at.
      subst hf
      refine .inl fun source hreaches => ?_
      cases source with
      | document => rfl
      | environment | envFile | otherCase =>
        have hnone := hreaches .document (by decide)
        cases hnone
    · exact .inr ⟨.region, hf, ⟨rfl, by decide +kernel, rfl⟩⟩
  · obtain ⟨e, herror, hissues⟩ := hmissing .projectId rfl (by rintro (_ | _) <;> rfl)
    obtain ⟨issues, rfl, hmem⟩ := hissues _ _ rfl rfl
    exact ⟨issues, herror, hmem⟩

end Settings

end ControlPlane
