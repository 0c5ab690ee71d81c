import Mathlib.Data.List.Basic
import Mathlib.Data.List.Nodup
import ControlPlane.Schema.Reader

/-!
# Readers that read back what they have read

Reading is lenient, so many values are read as the same one. A reader is `Canonical` for a form of
plain data if what it reads has a property, and whatever has that property is read back from its
plain form. So to read a second time changes nothing, and the property says which typed values can
be read at all.

Readers are put together from smaller ones, and canonical readers are put together in the same way:
options, lists, checks, and the fields of a table. The lemmas in front say when the result of each
combination is valid. A table that may only have some keys has no others (`noKeysBut_eq_valid_iff`).
-/

namespace ControlPlane

/-! ## Results of readers -/

namespace Schema.Checked

variable {α β : Type} {b : β} {step : Step}

/-- A result is valid after a function has been applied if it was valid before. -/
theorem map_eq_valid_iff {f : α → β} {r : Checked α} :
    f <$> r = .valid b ↔ ∃ a, r = .valid a ∧ f a = b := by
  constructor
  · intro h
    cases r with
    | valid a =>
      cases h
      exact ⟨a, rfl, rfl⟩
    | invalid issues => cases h
  · rintro ⟨a, rfl, rfl⟩
    rfl

/-- Two results together are valid if both are. -/
theorem seq_eq_valid_iff {f : Checked (α → β)} {r : Checked α} :
    f <*> r = .valid b ↔ ∃ g a, f = .valid g ∧ r = .valid a ∧ g a = b := by
  constructor
  · intro h
    cases f with
    | valid g =>
      obtain ⟨a, hr, hb⟩ := map_eq_valid_iff.1 h
      exact ⟨g, a, rfl, hr, hb⟩
    | invalid issues => cases r <;> cases h
  · rintro ⟨g, a, rfl, rfl, rfl⟩
    rfl

/-- Saying where a result is found does not change whether it is valid. -/
theorem under_eq_valid_iff {r : Checked β} : r.under step = .valid b ↔ r = .valid b := by
  cases r with
  | valid a => exact Iff.rfl
  | invalid issues => exact ⟨nofun, nofun⟩

/-- A result is valid after a further check if it was valid, and its value passes. -/
theorem refine_eq_valid_iff {r : Checked α} {f : α → Checked β} :
    r.refine f = .valid b ↔ ∃ a, r = .valid a ∧ f a = .valid b := by
  cases r with
  | valid a =>
    constructor
    · exact fun h => ⟨a, rfl, h⟩
    · rintro ⟨_, ⟨⟩, h⟩
      exact h
  | invalid issues => exact ⟨nofun, nofun⟩

/-- The results of a list are valid together if each of them is. -/
theorem all_eq_valid_iff {rs : List (Checked β)} {bs : List β} :
    all rs = .valid bs ↔ rs = bs.map .valid := by
  induction rs generalizing bs with
  | nil => cases bs <;> simp [all]
  | cons r rest ih =>
    unfold all
    simp only [seq_eq_valid_iff, map_eq_valid_iff, ih]
    constructor
    · rintro ⟨_, bs', ⟨b, rfl, rfl⟩, rfl, rfl⟩
      rfl
    · intro h
      cases bs with
      | nil => cases h
      | cons b bs =>
        obtain ⟨rfl, rfl⟩ := List.cons.inj h
        exact ⟨_, bs, ⟨b, rfl, rfl⟩, rfl, rfl⟩

/-- The issues that keep a result from being valid. -/
def issues : Checked α → List Issue
  | valid _ => []
  | invalid issues => issues

/-- Applying a function to a value leaves the issues. -/
theorem issues_map (f : α → β) (r : Checked α) : (f <$> r).issues = r.issues := by
  cases r <;> rfl

/-- The issues of both sides are kept. -/
theorem issues_seq (f : Checked (α → β)) (r : Checked α) :
    (f <*> r).issues = f.issues ++ r.issues := by
  cases f <;> cases r <;> simp only [issues, List.append_nil, List.nil_append] <;> rfl

/-- Saying where a result is found moves its issues there. -/
theorem issues_under (r : Checked β) (step : Step) :
    (r.under step).issues = r.issues.map fun i => ⟨step :: i.place, i.problem⟩ := by
  cases r <;> rfl

/-- A result with issues is those. -/
theorem eq_invalid_of_mem_issues {r : Checked β} {i : Issue} (h : i ∈ r.issues) :
    r = .invalid r.issues := by
  cases r with
  | valid a => cases h
  | invalid issues => rfl

end Schema.Checked

/-! ## Tables -/

namespace Value

/-- The keys of a table are among some names. What is no table has no keys. -/
def KeysAmong (names : List String) : Value → Prop
  | table entries => ∀ e ∈ entries, ∃ name ∈ names, e.1 = .text name
  | _ => True

/-- The items of a list. What is no list has none. -/
def items : Value → List Value
  | list items => items
  | _ => []

/-- The entries of a table whose keys are texts. -/
def recordEntries (fields : List (String × Value)) : List (Key × Value) :=
  fields.map fun f => (.text f.1, f.2)

/-- Of fields with different names each is found under its own. -/
theorem find?_recordEntries {fields : List (String × Value)} (h : (fields.map (·.1)).Nodup) :
    ∀ f ∈ fields, find? (.text f.1) (recordEntries fields) = some f.2 := by
  intro f hf
  induction fields with
  | nil => cases hf
  | cons g rest ih =>
    obtain ⟨hg, hrest⟩ := List.nodup_cons.1 h
    unfold find? recordEntries
    rw [List.map_cons, List.find?_cons]
    rcases List.mem_cons.1 hf with rfl | hf
    · simp
    · -- Names are distinct, and so an entry before that of the field has another key.
      have hne : Key.text g.1 ≠ .text f.1 := fun heq =>
        hg (List.mem_map.2 ⟨f, hf, (Key.text.inj heq).symm⟩)
      rw [decide_eq_false hne]
      exact ih hrest hf

/-- The keys of a record are the names of its fields. -/
theorem keysAmong_record (fields : List (String × Value)) :
    (record fields).KeysAmong (fields.map (·.1)) := by
  intro e he
  obtain ⟨f, hf, rfl⟩ := List.mem_map.1 he
  exact ⟨f.1, List.mem_map_of_mem hf, rfl⟩

end Value

namespace Schema

variable {α : Type} {a default : α} {name : String} {names : List String} {r : Reader α} {v : Value}
  {entries : Entries}

/-- A text is read from that text only. -/
theorem text_eq_valid_iff {x : String} : text v = .valid x ↔ v = .text x := by
  cases v <;> simp [text, Checked.problem]

/-- What is read from the entries of a table is read from a table. -/
theorem table_eq_valid_iff {r : Entries → Checked α} :
    table r v = .valid a ↔ ∃ entries, v = .table entries ∧ r entries = .valid a := by
  cases v <;> simp [table, Checked.problem]

/-- A field with a default is read if it is there. -/
theorem valid_withDefault_iff : withDefault name r default entries = .valid a ↔
    (Value.find? (.text name) entries = none ∧ a = default) ∨
      ∃ v, Value.find? (.text name) entries = some v ∧ r v = .valid a := by
  unfold withDefault
  cases Value.find? (.text name) entries with
  | none => simp [eq_comm]
  | some v => simp [Checked.under_eq_valid_iff]

/-- A field that must be there is read. -/
theorem valid_required_iff : required name r entries = .valid a ↔
    ∃ v, Value.find? (.text name) entries = some v ∧ r v = .valid a := by
  unfold required
  cases Value.find? (.text name) entries <;> simp [Checked.under_eq_valid_iff, Checked.problem]

/-- In a table with a valid field there is nothing under the name of the field, or what was read. -/
theorem get_of_withDefault (h : withDefault name r default entries = .valid a) :
    (Value.get name (.table entries) = .null ∧ a = default) ∨
      r (Value.get name (.table entries)) = .valid a := by
  unfold Value.get
  dsimp only
  rcases valid_withDefault_iff.1 h with ⟨hfind, ha⟩ | ⟨v, hfind, hv⟩
  · rw [hfind]
    exact .inl ⟨rfl, ha⟩
  · rw [hfind]
    exact .inr hv

/-- A list is read item by item. -/
theorem listOf_eq_valid_iff {as : List α} : listOf r v = .valid as ↔
    ∃ items, v = .list items ∧ items.map r = as.map .valid := by
  -- The number of an item only matters to the place of its issues.
  have hitems : ∀ (items : List Value) (k : Nat) (as : List α),
      ((items.zipIdx k).map fun p => (r p.1).under (.index p.2)) = as.map .valid ↔
        items.map r = as.map .valid := by
    intro items
    induction items with
    | nil => exact fun _ _ => Iff.rfl
    | cons v rest ih =>
      intro k as
      cases as with
      | nil => exact iff_of_false (List.cons_ne_nil _ _) (List.cons_ne_nil _ _)
      | cons a as =>
        simp only [List.zipIdx_cons, List.map_cons, List.cons.injEq, Checked.under_eq_valid_iff,
          ih (k + 1) as]
  cases v with
  | list items =>
    refine Checked.all_eq_valid_iff.trans ((hitems items 0 as).trans ⟨fun h => ⟨_, rfl, h⟩, ?_⟩)
    rintro ⟨_, ⟨⟩, h⟩
    exact h
  | _ =>
    refine iff_of_false (fun h => ?_) ?_
    · cases h
    · rintro ⟨_, ⟨⟩, _⟩

/-- Texts are read from the list of them only. -/
theorem texts_eq_valid_iff {xs : List String} : listOf text v = .valid xs ↔ v = .texts xs := by
  have hitems : ∀ (items : List Value) (xs : List String),
      items.map text = xs.map .valid ↔ items = xs.map .text := by
    intro items
    induction items with
    | nil => intro xs; cases xs <;> simp
    | cons v rest ih => intro xs; cases xs <;> simp [text_eq_valid_iff, ih]
  rw [listOf_eq_valid_iff]
  constructor
  · rintro ⟨items, rfl, hread⟩
    rw [(hitems items xs).1 hread]
    rfl
  · rintro rfl
    exact ⟨_, rfl, (hitems _ xs).2 rfl⟩

/-- Where null counts as the empty list, that is read instead of it. -/
theorem nullAsEmpty_eq_valid_iff : nullAsEmpty r v = .valid a ↔
    v = .null ∧ r (.list []) = .valid a ∨ v ≠ .null ∧ r v = .valid a := by
  cases v with
  | null => exact ⟨fun h => .inl ⟨rfl, h⟩, fun h => h.elim (·.2) fun h => absurd rfl h.1⟩
  | _ => exact ⟨fun h => .inr ⟨nofun, h⟩, fun h => h.elim (fun h => nomatch h.1) (·.2)⟩

/-- A table that may only have some keys has no others. -/
theorem noKeysBut_eq_valid_iff :
    noKeysBut names entries = .valid () ↔ (Value.table entries).KeysAmong names := by
  induction entries with
  | nil => exact ⟨fun _ => nofun, fun _ => rfl⟩
  | cons e rest ih =>
    have hcons : (Value.table (e :: rest)).KeysAmong names ↔
        (∃ name ∈ names, e.1 = .text name) ∧ (Value.table rest).KeysAmong names :=
      List.forall_mem_cons
    rw [hcons, ← ih]
    obtain ⟨key, v⟩ := e
    -- Once a key is refused, no other key makes up for it.
    have hrefuse : ∀ p, noKeysBut.refuse key p <*> noKeysBut names rest ≠ .valid () := by
      intro p h
      obtain ⟨_, _, hinvalid, -⟩ := Checked.seq_eq_valid_iff.1 h
      cases hinvalid
    cases key with
    | text name =>
      rw [noKeysBut]
      split
      · next hmem =>
        have hknown : ∃ name' ∈ names, Key.text name = .text name' := ⟨name, hmem, rfl⟩
        exact (and_iff_right hknown).symm
      · next hmem =>
        refine iff_of_false (hrefuse _) ?_
        rintro ⟨⟨name', hname', hkey⟩, -⟩
        exact hmem (Key.text.inj hkey ▸ hname')
    | null | bool | int | real =>
      -- A key that is no text is not among the names.
      refine iff_of_false (hrefuse _) ?_
      rintro ⟨⟨_, _, hkey⟩, -⟩
      cases hkey

/-! ## Canonical readers -/

/-- What a reader reads has a property, and what has the property is read back from its plain form.
-/
structure Canonical (r : Reader α) (dump : α → Value) (P : α → Prop) : Prop where
  ensures : ∀ {v a}, r v = .valid a → P a
  rereads : ∀ {a}, P a → r (dump a) = .valid a

/-- Every text is read back from itself. -/
theorem canonical_text : Canonical text .text fun _ => True := ⟨fun _ => trivial, fun _ => rfl⟩

/-- Every truth value is read back from itself. -/
theorem canonical_truth : Canonical truth .bool fun _ => True := ⟨fun _ => trivial, fun _ => rfl⟩

/-- Every whole number is read back from itself. -/
theorem canonical_whole : Canonical whole .int fun _ => True := ⟨fun _ => trivial, fun _ => rfl⟩

namespace Canonical

variable {dump : α → Value} {P Q : α → Prop}

/-- To read once more what was read changes nothing. -/
theorem reread (h : Canonical r dump P) (ha : r v = .valid a) : r (dump a) = .valid a :=
  h.rereads (h.ensures ha)

/-- A check may refuse and change what is read, as long as it leaves alone what it lets through. -/
theorem refine (h : Canonical r dump P) {check : α → Checked α}
    (hensures : ∀ {a b}, P a → check a = .valid b → Q b)
    (hkeeps : ∀ {b}, Q b → P b ∧ check b = .valid b) :
    Canonical (fun v => (r v).refine check) dump Q where
  ensures h' := by
    obtain ⟨a, hread, hcheck⟩ := Checked.refine_eq_valid_iff.1 h'
    exact hensures (h.ensures hread) hcheck
  rereads hb := by
    obtain ⟨hp, hcheck⟩ := hkeeps hb
    exact Checked.refine_eq_valid_iff.2 ⟨_, h.rereads hp, hcheck⟩

/-- What may be null is read back if what is not null is, and is not dumped as a null. -/
theorem optional (h : Canonical r dump P) (hdump : ∀ a, dump a ≠ .null) :
    Canonical (optional r) (fun a? => a?.elim .null dump) fun a? => ∀ a ∈ a?, P a where
  ensures {v a?} h' := by
    cases v with
    | null =>
      cases h'
      exact nofun
    | _ =>
      obtain ⟨a, hread, rfl⟩ := Checked.map_eq_valid_iff.1 h'
      rintro _ ⟨⟩
      exact h.ensures hread
  rereads {a?} ha := by
    cases a? with
    | none => rfl
    | some a =>
      unfold Schema.optional
      dsimp only [Option.elim_some]
      split
      · -- The dump of a value is never null, and so is not read as nothing.
        next hnull => exact absurd hnull (hdump a)
      · exact Checked.map_eq_valid_iff.2 ⟨a, h.rereads (ha a rfl), rfl⟩

/-- A reader that takes null for the empty list reads back the same. -/
theorem nullAsEmpty (h : Canonical r dump P) (hdump : ∀ a, dump a ≠ .null) :
    Canonical (nullAsEmpty r) dump P where
  ensures h' := (nullAsEmpty_eq_valid_iff.1 h').elim (fun h' => h.ensures h'.2) fun h' =>
    h.ensures h'.2
  rereads ha := nullAsEmpty_eq_valid_iff.2 (.inr ⟨hdump _, h.rereads ha⟩)

/-- A list is read back if its elements are. -/
theorem listOf (h : Canonical r dump P) :
    Canonical (listOf r) (fun as => .list (as.map dump)) fun as => ∀ a ∈ as, P a where
  ensures {v as} h' a ha := by
    obtain ⟨items, rfl, hread⟩ := listOf_eq_valid_iff.1 h'
    have hmem : Checked.valid a ∈ items.map r := hread ▸ List.mem_map_of_mem ha
    obtain ⟨v, -, hv⟩ := List.mem_map.1 hmem
    exact h.ensures hv
  rereads {as} ha := by
    refine listOf_eq_valid_iff.2 ⟨_, rfl, ?_⟩
    rw [List.map_map]
    exact List.map_congr_left fun a hmem => h.rereads (ha a hmem)

/-- A field has the property if its default has. -/
theorem of_withDefault (h : Canonical r dump P)
    (ha : Schema.withDefault name r default entries = .valid a) (hdefault : P default) : P a := by
  rcases valid_withDefault_iff.1 ha with ⟨-, rfl⟩ | ⟨v, -, hread⟩
  · exact hdefault
  · exact h.ensures hread

/-- A field is read back from its plain form. -/
theorem withDefault (h : Canonical r dump P) (ha : P a)
    (hfind : Value.find? (.text name) entries = some (dump a)) :
    Schema.withDefault name r default entries = .valid a :=
  valid_withDefault_iff.2 (.inr ⟨_, hfind, h.rereads ha⟩)

end Canonical

end Schema

end ControlPlane
