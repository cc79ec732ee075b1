import Mathlib
import ListQuery.Config.Environment
import ListQuery.Proofs.Words
import ListQuery.Proofs.WrittenIntegers

/-!
Configurations as environments write them. Every setting is read from its own variable by a rule of
its own. Main statement: an environment that writes a configuration, in whichever spelling, is read
as this configuration; in any environment a setting depends on its own variable only, one that is
unusable counts as unset, and the result is a configuration that an environment can write.
-/
namespace ListQuery

open Text

/-! ## What the variables may say -/

/-- The words for a truth value. -/
def boolWords : Bool → List String
  | true => ["1", "true", "yes", "on"]
  | false => ["0", "false", "no", "off"]

/-- The settings of a configuration that are truth values. -/
inductive Flag where
  | lenient
  | ranges
  | checkMatches
  | checkAllColumns
  deriving DecidableEq, Repr

namespace Flag

def get : Flag → Config → Bool
  | .lenient, c => c.lenient
  | .ranges, c => c.ranges
  | .checkMatches, c => c.checkMatches
  | .checkAllColumns, c => c.checkAllColumns

end Flag

/-- The variables that a configuration is read from, one for each setting. -/
inductive Variable where
  | flag (f : Flag)
  | source
  | sortColumn
  | perPage
  deriving DecidableEq, Repr

namespace Variable

def all : List Variable :=
  [.flag .lenient, .flag .ranges, .flag .checkMatches, .flag .checkAllColumns, .source, .sortColumn,
   .perPage]

/-- The values of the setting of a variable. -/
abbrev Field : Variable → Type
  | .flag _ => Bool
  | .source => ColumnSource
  | .sortColumn => String
  | .perPage => UInt64

def get : (v : Variable) → Config → v.Field
  | .flag f, c => f.get c
  | .source, c => c.source
  | .sortColumn, c => c.sortColumn
  | .perPage, c => c.perPage

def name : Variable → String
  | .flag .lenient => "URLQUERY_IGNORE_INVALID_PARAMETERS"
  | .flag .ranges => "URLQUERY_RANGE_OPERATORS"
  | .flag .checkMatches => "URLQUERY_VALIDATE_PARAMETERS"
  | .flag .checkAllColumns => "URLQUERY_VALIDATE_ALL_COLUMNS"
  | .source => "URLQUERY_COLUMN_SOURCE"
  | .sortColumn => "URLQUERY_DEFAULT_SORT_COLUMN"
  | .perPage => "URLQUERY_DEFAULT_PER_PAGE"

/-- The texts that give a value to the setting of a variable. Words may be in any case, and blanks
may stand around all of them. -/
def Says : (v : Variable) → v.Field → String → Prop
  | .flag _, b => Padded fun cs => ∃ word ∈ boolWords b, InAnyCase word cs
  | .source, chosen => Padded (InAnyCase chosen.name)
  | .sortColumn, column => fun raw =>
    column ≠ "" ∧ Trimmed column.toList ∧ Padded (· = column.toList) raw
  | .perPage, n => fun raw => 0 < n ∧ Padded (WritesCount · n) raw

/-- The value that a text sets. -/
def read? : (v : Variable) → String → Option v.Field
  | .flag _ => Environment.readBool?
  | .source => fun raw => ColumnSource.ofName? (asciiLower (trim raw))
  | .sortColumn => Environment.readSortColumn?
  | .perPage => Environment.readPageSize?

/-- A text that sets a value. -/
def write : (v : Variable) → v.Field → String
  | .flag _, b => if b then "true" else "false"
  | .source, chosen => chosen.name
  | .sortColumn, column => column
  | .perPage, n => .ofList (Nat.toDigits 10 n.toNat)

end Variable

/-! ## Reading what a variable says -/

theorem isPlainWord_of_mem_boolWords {b : Bool} {word : String} (h : word ∈ boolWords b) :
    isPlainWord word = true := by
  revert word
  cases b <;> decide

theorem ColumnSource.isPlainWord_name (source : ColumnSource) : isPlainWord source.name = true := by
  cases source <;> decide

theorem ColumnSource.ofName?_eq_some_iff {word : String} {source : ColumnSource} :
    ofName? word = some source ↔ word = source.name := by
  constructor
  · intro h
    unfold ofName? at h
    split at h <;> cases h <;> rfl
  · rintro rfl
    cases source <;> rfl

namespace Environment

theorem readBool?_eq_some_iff (f : Flag) {raw : String} {b : Bool} :
    readBool? raw = some b ↔ (Variable.flag f).Says b raw := by
  have htrimmed : ∀ core, (∃ word ∈ boolWords b, InAnyCase word core) → Trimmed core := by
    rintro core ⟨word, hword, hcore⟩
    exact hcore.trimmed (isPlainWord_of_mem_boolWords hword)
  have hmeans : (∃ word ∈ boolWords b, InAnyCase word (strip raw.toList)) ↔
      asciiLower (trim raw) ∈ boolWords b := by
    constructor
    · rintro ⟨word, hword, hraw⟩
      rwa [(asciiLower_trim_eq_iff (isPlainWord_of_mem_boolWords hword)).2 hraw]
    · intro h
      exact ⟨_, h, (asciiLower_trim_eq_iff (isPlainWord_of_mem_boolWords h)).1 rfl⟩
  have hapart : ∀ word ∈ boolWords true, word ∉ boolWords false := by decide
  rw [Variable.Says, padded_iff htrimmed, hmeans, readBool?]
  generalize asciiLower (trim raw) = word
  have htrue : ["1", "true", "yes", "on"].contains word = true ↔ word ∈ boolWords true :=
    List.contains_iff_mem
  have hfalse : ["0", "false", "no", "off"].contains word = true ↔ word ∈ boolWords false :=
    List.contains_iff_mem
  simp only [htrue, hfalse]
  cases b <;> split <;> simp_all

theorem readSortColumn?_eq_some_iff {raw column : String} :
    readSortColumn? raw = some column ↔ Variable.Says .sortColumn column raw := by
  have hmeans : Variable.Says .sortColumn column raw ↔
      column ≠ "" ∧ Trimmed column.toList ∧ trim raw = column := by
    rw [Variable.Says]
    refine and_congr_right fun _ => and_congr_right fun htrimmed => ?_
    rw [padded_iff (fun core (hc : core = column.toList) => hc ▸ htrimmed), ← toList_trim,
      String.toList_inj]
  rw [hmeans, readSortColumn?]
  by_cases h : allBlank raw = true
  · rw [if_pos h]
    refine iff_of_false (Option.some_ne_none column).symm ?_
    rintro ⟨hne, -, rfl⟩
    exact hne (trim_eq_empty_iff.2 h)
  · rw [if_neg h, Option.some_inj]
    constructor
    · rintro rfl
      exact ⟨fun he => h (trim_eq_empty_iff.1 he), trimmed_trim raw, rfl⟩
    · exact fun hs => hs.2.2

theorem readPageSize?_eq_some_iff {raw : String} {n : UInt64} :
    readPageSize? raw = some n ↔ Variable.Says .perPage n raw := by
  have hpadded : Padded (WritesCount · n) raw ↔ readUInt64? (trim raw) = some n := by
    rw [padded_iff fun core => WritesCount.trimmed, readUInt64?_eq_some_iff, toList_trim]
  rw [readPageSize?, Option.filter_eq_some_iff, decide_eq_true_iff, ← hpadded]
  exact and_comm

end Environment

namespace Variable

/-- The rule of a variable finds a value exactly if the text says it. -/
theorem read?_eq_some_iff (v : Variable) {raw : String} {a : v.Field} :
    v.read? raw = some a ↔ v.Says a raw := by
  cases v with
  | flag f =>
    rw [read?]
    exact Environment.readBool?_eq_some_iff f
  | source =>
    have hname := a.isPlainWord_name
    simp only [read?, Says, ColumnSource.ofName?_eq_some_iff, asciiLower_trim_eq_iff hname,
      padded_iff fun core => InAnyCase.trimmed hname]
  | sortColumn => exact Environment.readSortColumn?_eq_some_iff
  | perPage => exact Environment.readPageSize?_eq_some_iff

theorem mem_all (v : Variable) : v ∈ all := by
  cases v with
  | flag f => cases f <;> decide
  | source | sortColumn | perPage => decide

/-- No two variables share a name. -/
theorem eq_of_name_eq {v w : Variable} (h : v.name = w.name) : v = w := by
  have hapart : (all.map name).Nodup := by decide
  exact List.inj_on_of_nodup_map hapart v.mem_all w.mem_all h

theorem config_ext {c d : Config} (h : ∀ v : Variable, v.get c = v.get d) : c = d := by
  obtain ⟨_, _, _, _, _, _, _⟩ := c
  obtain ⟨_, _, _, _, _, _, _⟩ := d
  obtain rfl := h (.flag .lenient)
  obtain rfl := h (.flag .ranges)
  obtain rfl := h (.flag .checkMatches)
  obtain rfl := h (.flag .checkAllColumns)
  obtain rfl := h .source
  obtain rfl := h .sortColumn
  obtain rfl := h .perPage
  rfl

end Variable

theorem Reading.getD_ofText {α : Type} (raw : Option String) (read : String → Option α)
    (note : String → Event) (default : α) :
    (ofText raw read note).getD default = (raw.bind read).getD default := by
  cases raw with
  | none => rfl
  | some s =>
    rw [ofText, Option.bind_some]
    cases read s <;> rfl

namespace Environment

variable (env : Environment)

/-- A setting is what is read from its variable, or else the default. -/
theorem get_config (v : Variable) :
    v.get env.config = ((env v.name).bind v.read?).getD (v.get .extended) := by
  cases v with
  | flag f => cases f <;> exact Reading.getD_ofText _ _ _ _
  | sortColumn | perPage => exact Reading.getD_ofText _ _ _ _
  | source =>
    refine (Reading.getD_ofText _ _ _ _).trans ?_
    rw [Option.bind_map]
    rfl

theorem get_config_of_says {v : Variable} {a : v.Field} {raw : String}
    (hraw : env v.name = some raw) (h : v.Says a raw) : v.get env.config = a := by
  rw [get_config, hraw, Option.bind_some, v.read?_eq_some_iff.2 h, Option.getD_some]

/-- The environment without one of its variables. -/
def unset (name : String) : Environment := fun other => if other = name then none else env other

/-- An environment whose variables say what a configuration is. -/
def Writes (c : Config) : Prop :=
  ∀ v : Variable, ∃ raw, env v.name = some raw ∧ v.Says (v.get c) raw

end Environment

namespace Config

/-- A configuration that variables can say: it has a page size above zero and a column to sort by
without blanks at its ends. -/
structure Writable (c : Config) : Prop where
  perPage_pos : 0 < c.perPage
  sortColumn_ne : c.sortColumn ≠ ""
  sortColumn_trimmed : Trimmed c.sortColumn.toList

/-- The environment in which nothing but a configuration is written. -/
def environment (c : Config) : Environment := fun name =>
  (Variable.all.find? (·.name = name)).map fun v => v.write (v.get c)

theorem environment_name (c : Config) (v : Variable) :
    c.environment v.name = some (v.write (v.get c)) := by
  cases v with
  | flag f => cases f <;> rfl
  | source | sortColumn | perPage => rfl

end Config

/-! ## Main statement -/

theorem Variable.flag_says_write (f : Flag) (b : Bool) :
    (flag f).Says b ((flag f).write b) := by
  cases b with
  | true => exact .bare ⟨"true", by decide, .self "true"⟩
  | false => exact .bare ⟨"false", by decide, .self "false"⟩

namespace Config.Writable

theorem says_write {c : Config} (h : c.Writable) (v : Variable) :
    v.Says (v.get c) (v.write (v.get c)) := by
  cases v with
  | flag f => exact Variable.flag_says_write f _
  | source => exact .bare (.self c.source.name)
  | sortColumn => exact ⟨h.sortColumn_ne, h.sortColumn_trimmed, .bare rfl⟩
  | perPage =>
    refine ⟨h.perPage_pos, .bare ?_⟩
    rw [Variable.write, String.toList_ofList]
    exact writesCount_toDigits c.perPage

theorem extended : Config.extended.Writable :=
  ⟨by decide, by decide, strip_eq_self_iff.1 (by decide)⟩

end Config.Writable

/-- The configurations that environments write are the writable ones. -/
theorem Config.writable_iff_exists_writes {c : Config} :
    c.Writable ↔ ∃ env : Environment, env.Writes c := by
  constructor
  · intro h
    exact ⟨c.environment, fun v => ⟨_, c.environment_name v, h.says_write v⟩⟩
  · rintro ⟨env, h⟩
    obtain ⟨_, -, hne, htrimmed, -⟩ := h .sortColumn
    obtain ⟨_, -, hpos, -⟩ := h .perPage
    exact ⟨hpos, hne, htrimmed⟩

namespace Environment

variable (env : Environment)

theorem config_of_writes {c : Config} (h : env.Writes c) : env.config = c :=
  Variable.config_ext fun v =>
    have ⟨_, hraw, hmeans⟩ := h v
    env.get_config_of_says hraw hmeans

/-- Every setting is what its variable says or what it is by default. -/
theorem says_or_default (v : Variable) :
    (∃ raw, env v.name = some raw ∧ v.Says (v.get env.config) raw) ∨
      v.get env.config = v.get .extended := by
  rw [get_config]
  cases hread : (env v.name).bind v.read? with
  | none => exact .inr rfl
  | some a =>
    obtain ⟨raw, hraw, ha⟩ := Option.bind_eq_some_iff.1 hread
    exact .inl ⟨raw, hraw, v.read?_eq_some_iff.1 ha⟩

theorem writable_config : env.config.Writable := by
  have hcolumn : env.config.sortColumn ≠ "" ∧ Trimmed env.config.sortColumn.toList := by
    rcases env.says_or_default .sortColumn with ⟨_, -, hne, htrimmed, -⟩ | h
    · exact ⟨hne, htrimmed⟩
    · have h : env.config.sortColumn = Config.extended.sortColumn := h
      rw [h]
      exact ⟨Config.Writable.extended.sortColumn_ne, Config.Writable.extended.sortColumn_trimmed⟩
  have hsize : 0 < env.config.perPage := by
    rcases env.says_or_default .perPage with ⟨_, -, hpos, -⟩ | h
    · exact hpos
    · have h : env.config.perPage = Config.extended.perPage := h
      rw [h]
      exact Config.Writable.extended.perPage_pos
  exact ⟨hsize, hcolumn.1, hcolumn.2⟩

/-- A variable that says nothing a setting can be may as well be left out. -/
theorem config_unset {v : Variable} {raw : String} (hraw : env v.name = some raw)
    (h : ∀ a, ¬ v.Says a raw) : (env.unset v.name).config = env.config := by
  refine Variable.config_ext fun w => ?_
  rw [get_config, get_config, unset]
  by_cases hname : w.name = v.name
  · obtain rfl := Variable.eq_of_name_eq hname
    have hread : w.read? raw = none :=
      Option.eq_none_iff_forall_ne_some.2 fun a ha => h a (w.read?_eq_some_iff.1 ha)
    rw [if_pos rfl, hraw, Option.bind_none, Option.bind_some, hread]
  · rw [if_neg hname]

end Environment

/-- Environments write the configurations with a page size above zero and a column to sort by that
has no blanks at its ends, and whichever way they write one, it is read back. In every environment a
setting depends on its own variable only, a variable that is unusable may as well be unset, and a
configuration of this kind is read. -/
theorem config_of_environment (c : Config) (env : Environment) :
    (c.Writable ↔ ∃ env' : Environment, env'.Writes c) ∧ (env.Writes c → env.config = c) ∧
    (∀ (v : Variable) (env' : Environment), env' v.name = env v.name →
      v.get env'.config = v.get env.config) ∧
    (∀ (v : Variable) (raw : String), env v.name = some raw → (∀ a, ¬ v.Says a raw) →
      (env.unset v.name).config = env.config) ∧
    env.config.Writable := by
  refine ⟨Config.writable_iff_exists_writes, env.config_of_writes, fun v env' h => ?_,
    fun v raw => env.config_unset, env.writable_config⟩
  rw [Environment.get_config, Environment.get_config, h]

/-- Spellings, cases, signs, zeros and blanks do not matter, and what is unusable is passed over. -/
example :
    let env : Environment := fun name =>
      [("URLQUERY_RANGE_OPERATORS", "\u3000oFF\n"), ("URLQUERY_VALIDATE_PARAMETERS", "maybe"),
        ("URLQUERY_COLUMN_SOURCE", " SearchaBle"), ("URLQUERY_DEFAULT_SORT_COLUMN", "\t"),
        ("URLQUERY_DEFAULT_PER_PAGE", "+0050 ")].lookup name
    env.config = { Config.extended with ranges := false, source := .searchable, perPage := 50 } := by
  rfl

end ListQuery
