import Mathlib
import ListQuery.Params.QueryString
import ListQuery.Proofs.Entries
import ListQuery.Proofs.WrittenIntegers
import ListQuery.Sample.Users

/-!
What the control parameters of a request are read as, and the page they ask for. Main statement: the
record of the control parameters can always be read, so that each is read as if it were alone, and
the page asked for is never empty: its number and its size are those of the request where these are
above zero.
-/
namespace ListQuery

open Text

/-- A value that gives a count: the number itself, or a text that writes it. -/
def Value.IsCount (n : UInt64) : Value → Prop
  | .number (.integer m _) => m = n.toNat
  | .text s => WritesCount s.toList n
  | _ => False

/-- A value that gives a text: the text itself, a number that it writes, or the word for a truth
value. -/
def Value.IsText (s : String) : Value → Prop
  | .text t => s = t
  | .number (.integer n _) => WritesInteger s.toList n
  | .number (.double x _) => s = Decimal.text x
  | .bool true => s = "true"
  | .bool false => s = "false"
  | .null | .list _ | .map _ => False

theorem Value.scalarText?_eq_some_iff {v : Value} {s : String} :
    v.scalarText? = some s ↔ v.IsText s := by
  match v with
  | .text t => exact Option.some_inj.trans eq_comm
  | .number (.integer n _) => exact Option.some_inj.trans toString_eq_iff
  | .number (.double x _) => exact Option.some_inj.trans eq_comm
  | .bool true | .bool false => exact Option.some_inj.trans eq_comm
  | .null | .list _ | .map _ => exact iff_of_false nofun id

theorem CountReading.toOption_ofValue_eq_some_iff {v : Value} {n : UInt64} :
    (ofValue v).toOption = some n ↔ v.IsCount n := by
  match v with
  | .null | .bool _ | .list _ | .map _ | .number (.double _ _) => exact iff_of_false nofun id
  | .text s =>
    rw [Value.IsCount, ← readUInt64?_eq_some_iff, ofValue]
    cases readUInt64? s <;> simp [toOption, malformedBoth]
  | .number (.integer m fits) =>
    have hn := n.toNat_lt
    rw [Value.IsCount, ofValue]
    by_cases hm : 0 ≤ m
    · rw [if_pos hm, toOption, Option.some_inj, ← UInt64.toNat_inj, UInt64.toNat_ofNat']
      have := Nat.mod_eq_of_lt (a := m.toNat) (b := 2 ^ 64) (by omega)
      omega
    · rw [if_neg hm]
      exact iff_of_false nofun (by omega)

/-! ## The record of the control parameters -/

namespace Entries

theorem get?_append (es fs : Entries) (key : String) :
    get? (es ++ fs) key = (es.get? key).or (fs.get? key) := by
  induction es with
  | nil => rfl
  | cons e es ih =>
    rw [List.cons_append, get?_cons, get?_cons, ih]
    split <;> rfl

/-- What is found under a name among fields that are made from names, each under its own. -/
theorem get?_filterMap {f : String → Option (String × Value)}
    (hf : ∀ name field, f name = some field → field.1 = name) (names : List String) (name : String) :
    get? (names.filterMap f) name = if name ∈ names then (f name).map Prod.snd else none := by
  induction names with
  | nil => rfl
  | cons other names ih =>
    cases hother : f other with
    | none =>
      rw [List.filterMap_cons_none hother, ih]
      by_cases h : name = other
      · simp [h, hother]
      · simp [h]
    | some field =>
      rw [List.filterMap_cons_some hother, get?_cons, hf other field hother, ih]
      by_cases h : other = name
      · subst h
        simp [hother]
      · simp [h, Ne.symm h]

end Entries

namespace Params

variable (p : Params) {name : String}

theorem textField?_fst {field : String × Value} (h : p.textField? name = some field) :
    field.1 = name := by
  obtain ⟨s, -, rfl⟩ := Option.map_eq_some_iff.1 h
  rfl

theorem countField?_fst {field : String × Value} (h : p.countField? name = some field) :
    field.1 = name := by
  obtain ⟨v, -, rfl⟩ := Option.map_eq_some_iff.1 h
  rfl

theorem get?_controlRecord_text (h : name ∈ Control.textNames) :
    p.controlRecord.get? name = (p.scalar? name).map .text := by
  have hcount : name ∉ Control.countNames := by
    revert name
    decide
  rw [controlRecord, Entries.get?_append, Entries.get?_filterMap fun _ _ => p.textField?_fst,
    Entries.get?_filterMap fun _ _ => p.countField?_fst, if_pos h, if_neg hcount, Option.or_none,
    textField?, Option.map_map]
  rfl

theorem get?_controlRecord_count (h : name ∈ Control.countNames) :
    p.controlRecord.get? name = (p.countField? name).map Prod.snd := by
  have htext : name ∉ Control.textNames := by
    revert name
    decide
  rw [controlRecord, Entries.get?_append, Entries.get?_filterMap fun _ _ => p.textField?_fst,
    Entries.get?_filterMap fun _ _ => p.countField?_fst, if_neg htext, if_pos h, Option.none_or]

theorem recordText?_controlRecord (h : name ∈ Control.textNames) :
    p.controlRecord.recordText? name = some (p.scalar? name) := by
  rw [Entries.recordText?, p.get?_controlRecord_text h]
  cases p.scalar? name <;> rfl

end Params

/-- A text or a number makes a record that can be read exactly if it can be read as a count. -/
theorem Control.isWritten_and_isSome_ofRecord? {name : String} (h : name ∈ countNames) (v : Value) :
    (v.isWritten && (ofRecord? [(name, v)]).isSome) =
      (CountReading.ofValue v).toOption.isSome := by
  have hrecord (hcount : Entries.recordCount? [(name, v)] name =
      (CountReading.ofValue v).toOption.map some) :
      (ofRecord? [(name, v)]).isSome = (CountReading.ofValue v).toOption.isSome := by
    obtain rfl | rfl : name = "page" ∨ name = "per_page" := by simpa [countNames] using h
    all_goals
      rw [ofRecord?, hcount]
      cases (CountReading.ofValue v).toOption <;> rfl
  cases v with
  | null | bool _ | list _ | map _ => rfl
  | number _ | text _ =>
    rw [Value.isWritten, Bool.true_and]
    exact hrecord (by rw [Entries.recordCount?, Entries.get?_cons, if_pos rfl])

namespace Params

variable (p : Params) {name : String}

/-- What is gathered for a count is the parameter itself if it can be read as one, and nothing
otherwise. -/
theorem recordCount?_controlRecord (h : name ∈ Control.countNames) :
    p.controlRecord.recordCount? name = some (p.countReading name).toOption := by
  rw [Entries.recordCount?, p.get?_controlRecord_count h, countField?, countReading]
  cases hget : p.get? name with
  | none => rfl
  | some v =>
    rw [Option.filter_some, Control.isWritten_and_isSome_ofRecord? h]
    cases hcount : (CountReading.ofValue v).toOption with
    | none => exact congrArg some hcount.symm
    | some n =>
      have hsome : (CountReading.ofValue v).toOption.map some =
          some (CountReading.ofValue v).toOption := by
        rw [hcount]
        rfl
      cases v with
      | null => cases hcount
      | bool _ | number _ | text _ | list _ | map _ => exact hsome

/-- The record of the control parameters can be read, and each as if it were alone. -/
theorem ofRecord?_controlRecord :
    Control.ofRecord? p.controlRecord = some
      { page := (p.countReading "page").toOption
        perPage := (p.countReading "per_page").toOption
        search := p.scalar? "search"
        searchBy := p.scalar? "search_by"
        order := p.scalar? "order"
        orderBy := p.scalar? "order_by" } := by
  have hcount := @recordCount?_controlRecord p
  have htext := @recordText?_controlRecord p
  rw [Control.ofRecord?, hcount (by decide), hcount (by decide), htext (by decide),
    htext (by decide), htext (by decide), htext (by decide)]
  rfl

theorem control_eq :
    p.control =
      { page := (p.countReading "page").toOption
        perPage := (p.countReading "per_page").toOption
        search := p.scalar? "search"
        searchBy := p.scalar? "search_by"
        order := p.scalar? "order"
        orderBy := p.scalar? "order_by" } := by
  rw [control, ofRecord?_controlRecord]
  rfl

end Params

/-! ## The page that is asked for -/

section

variable {asked : Option UInt64} {n default : UInt64}

theorem getD_filter_pos (h : 0 < default) : 0 < (asked.filter (0 < ·)).getD default := by
  cases hasked : asked.filter (0 < ·) with
  | none => exact h
  | some n => simpa using (Option.filter_eq_some_iff.1 hasked).2

theorem getD_filter_of_pos (hn : 0 < n) (h : asked = some n) :
    (asked.filter (0 < ·)).getD default = n := by
  rw [h, Option.filter_some, decide_eq_true hn]
  rfl

theorem getD_filter_of_none (h : ∀ n, 0 < n → asked ≠ some n) :
    (asked.filter (0 < ·)).getD default = default := by
  have hnone : asked.filter (0 < ·) = none :=
    Option.filter_eq_none_iff.2 fun n hn hpos => h n (of_decide_eq_true hpos) hn
  rw [hnone, Option.getD_none]

theorem max_one_pos (size : UInt64) : 0 < max size 1 := by
  rw [UInt64.lt_iff_toNat_lt, UInt64.toNat_max, UInt64.toNat_one]
  exact Nat.lt_of_lt_of_le Nat.zero_lt_one (Nat.le_max_right _ _)

end

namespace PageRequest

variable (c : Control) (size : UInt64)

theorem page_ofControl_pos : 0 < (ofControl c size).page := getD_filter_pos (by decide)

/-- No page is asked for without a row. -/
theorem perPage_ofControl_pos : 0 < (ofControl c size).perPage := getD_filter_pos (max_one_pos size)

end PageRequest

/-- A select to be cut into pages of one size. -/
structure Sql.Paginator where
  select : Sql.Select
  size : UInt64
  size_ne_zero : size ≠ 0

namespace Sql

/-- Pages without a row are refused. -/
def Select.paginator? (s : Select) (size : UInt64) : Option Paginator :=
  if h : size = 0 then none else some ⟨s, size, h⟩

/-- The page behind so many others. -/
def Paginator.page (p : Paginator) (index : UInt64) : Select :=
  p.select.inWindow ⟨p.size, p.size * index⟩

end Sql

/-! ## Main statement -/

namespace Control

/-- The control parameters that are counts, by name. -/
def counts : List (String × (Control → Option UInt64)) := [("page", page), ("per_page", perPage)]

/-- The control parameters that are texts, by name. -/
def texts : List (String × (Control → Option String)) :=
  [("search", search), ("search_by", searchBy), ("order", order), ("order_by", orderBy)]

variable (p : Params)

theorem eq_of_mem_counts {field : String × (Control → Option UInt64)} (h : field ∈ counts) :
    field.2 p.control = ((p.get? field.1).map CountReading.ofValue).bind CountReading.toOption := by
  have hcount : field.2 p.control = (p.countReading field.1).toOption := by
    rw [p.control_eq]
    simp only [counts, List.mem_cons, List.not_mem_nil, or_false] at h
    rcases h with rfl | rfl <;> rfl
  rw [hcount, Params.countReading]
  cases p.get? field.1 <;> rfl

theorem eq_of_mem_texts {field : String × (Control → Option String)} (h : field ∈ texts) :
    field.2 p.control = (p.get? field.1).bind Value.scalarText? := by
  rw [p.control_eq]
  simp only [texts, List.mem_cons, List.not_mem_nil, or_false] at h
  rcases h with rfl | rfl | rfl | rfl <;> rfl

end Control

/-- The record of the control parameters can be read for every request, and each parameter depends
on the one of its name alone: a count is an integer that is not negative or a text that writes one,
and fits 64 bits; a text is a text as it stands, the decimal text of a number, or `true` or `false`.
The page that is asked for has a number and a size above zero, those of the request where it gives
such, so that there is always a paginator for it. -/
theorem controls_read_alone_and_page_usable (c : Config) (r : Resource) (p : Params) :
    Control.ofRecord? p.controlRecord = some p.control ∧
    (∀ field ∈ Control.counts,
      (∀ n, field.2 p.control = some n ↔ ∃ v, p.get? field.1 = some v ∧ v.IsCount n) ∧
      ∀ q : Params, q.get? field.1 = p.get? field.1 → field.2 q.control = field.2 p.control) ∧
    (∀ field ∈ Control.texts,
      (∀ s, field.2 p.control = some s ↔ ∃ v, p.get? field.1 = some v ∧ v.IsText s) ∧
      ∀ q : Params, q.get? field.1 = p.get? field.1 → field.2 q.control = field.2 p.control) ∧
    let request := c.pageRequest r p
    0 < request.page ∧ 0 < request.perPage ∧
    (∀ n, 0 < n → p.control.page = some n → request.page = n) ∧
    (∀ n, 0 < n → p.control.perPage = some n → request.perPage = n) ∧
    ((∀ n, 0 < n → p.control.page ≠ some n) → request.page = 1) ∧
    ((∀ n, 0 < n → p.control.perPage ≠ some n) →
      request.perPage = max (r.perPage.getD c.perPage) 1) ∧
    ∀ s : Sql.Select, ∃ pages, s.paginator? request.perPage = some pages ∧
      pages.page request.index = s.page request := by
  have hsize : max (r.pageSize c) 1 = max (r.perPage.getD c.perPage) 1 := by
    refine UInt64.toNat_inj.1 ?_
    simp only [Resource.pageSize, UInt64.toNat_max, Nat.max_assoc, Nat.max_self]
  refine ⟨p.ofRecord?_controlRecord.trans (congrArg some p.control_eq.symm),
    fun field hfield => ⟨fun n => ?_, fun q hq => ?_⟩,
    fun field hfield => ⟨fun s => ?_, fun q hq => ?_⟩, ?_⟩
  · rw [Control.eq_of_mem_counts p hfield, Option.bind_map, Option.bind_eq_some_iff]
    simp only [Function.comp_apply, CountReading.toOption_ofValue_eq_some_iff]
  · rw [Control.eq_of_mem_counts p hfield, Control.eq_of_mem_counts q hfield, hq]
  · rw [Control.eq_of_mem_texts p hfield, Option.bind_eq_some_iff]
    simp only [Value.scalarText?_eq_some_iff]
  · rw [Control.eq_of_mem_texts p hfield, Control.eq_of_mem_texts q hfield, hq]
  · intro request
    have hpos : 0 < request.perPage := PageRequest.perPage_ofControl_pos _ _
    have hne : request.perPage ≠ 0 := by
      intro h
      rw [h] at hpos
      exact UInt64.lt_irrefl 0 hpos
    refine ⟨PageRequest.page_ofControl_pos _ _, hpos, fun n => getD_filter_of_pos,
      fun n => getD_filter_of_pos, getD_filter_of_none, fun h => ?_, fun s => ?_⟩
    · exact (getD_filter_of_none h).trans hsize
    · exact ⟨_, dif_neg hne, rfl⟩

namespace Sample

/-- A fraction, a truth value and a text with blanks are texts, a list is none; a page with a sign
in front, and the size of the configuration in place of a zero. A number below zero is a text too,
and no count. -/
theorem controls_of_mixed_values :
    let p := Params.ofPairs [("order_by", .text " Name "), ("page", .text "+03"),
      ("search", .number (.double ⟨0x3ff8000000000000⟩ rfl)), ("order", .bool true),
      ("search_by", .list [.text "name"]), ("per_page", .number (.ofUInt64 0))]
    let q := Params.ofPairs [("per_page", .number (.ofInt64 (-70))),
      ("search", .number (.ofInt64 (-70)))]
    let request := Config.extended.pageRequest usersResource p
    p.control.search = some "1.5" ∧ p.control.order = some "true" ∧
      p.control.orderBy = some " Name " ∧ p.control.searchBy = none ∧
      p.control.page = some 3 ∧ request.page = 3 ∧ request.perPage = 15 ∧
      q.control.search = some "-70" ∧ q.control.perPage = none := by
  intro p q request
  have hfraction : p.get? "search" = some (.number (.double ⟨0x3ff8000000000000⟩ rfl)) := by rfl
  have htruth : p.get? "order" = some (.bool true) := by rfl
  have hblanks : p.get? "order_by" = some (.text " Name ") := by rfl
  have hlist : p.get? "search_by" = some (.list [.text "name"]) := by rfl
  have hplus : p.get? "page" = some (.text "+03") := by rfl
  have hzero : p.get? "per_page" = some (.number (.ofUInt64 0)) := by rfl
  have hbelow : q.get? "search" = some (.number (.ofInt64 (-70))) := by rfl
  have hless : q.get? "per_page" = some (.number (.ofInt64 (-70))) := by rfl
  -- from here on only these values matter
  clear_value p q
  obtain ⟨-, hcounts, htexts, -, -, hpages, -, -, hsizes, -⟩ :=
    controls_read_alone_and_page_usable .extended usersResource p
  obtain ⟨-, hcountsOf, htextsOf, -⟩ :=
    controls_read_alone_and_page_usable .extended usersResource q
  have hsearch := (htexts ("search", Control.search) (by simp [Control.texts])).1 "1.5"
  have horder := (htexts ("order", Control.order) (by simp [Control.texts])).1 "true"
  have horderBy := (htexts ("order_by", Control.orderBy) (by simp [Control.texts])).1 " Name "
  have hsearchBy := (htexts ("search_by", Control.searchBy) (by simp [Control.texts])).1
  have hpage := (hcounts ("page", Control.page) (by simp [Control.counts])).1 3
  have hperPage := (hcounts ("per_page", Control.perPage) (by simp [Control.counts])).1
  have hsearchOf := (htextsOf ("search", Control.search) (by simp [Control.texts])).1 "-70"
  have hperPageOf := (hcountsOf ("per_page", Control.perPage) (by simp [Control.counts])).1
  have htext : "1.5" = Decimal.text ⟨0x3ff8000000000000⟩ := by decide +kernel
  have hdigits : WritesInteger "-70".toList (-70) :=
    ⟨['7', '0'], ⟨by decide, by simp, by decide, by decide⟩, by decide⟩
  have hwritten : WritesCount "+03".toList 3 :=
    ⟨['0', '3'], .inr (by decide), by decide, by simp, by decide⟩
  have hthree : p.control.page = some 3 := hpage.2 ⟨_, hplus, hwritten⟩
  have hpositive : ∀ n, 0 < n → p.control.perPage ≠ some n := by
    intro n hn hsome
    obtain ⟨v, hv, hcount⟩ := (hperPage n).1 hsome
    cases hzero.symm.trans hv
    have hn0 : ((0 : UInt64).toNat : Int) = n.toNat := hcount
    obtain rfl : 0 = n := UInt64.toNat_inj.1 (Int.ofNat_inj.1 hn0)
    exact UInt64.lt_irrefl 0 hn
  have hfifteen : (Config.extended.pageRequest usersResource p).perPage = 15 :=
    (hsizes hpositive).trans (by decide)
  refine ⟨hsearch.2 ⟨_, hfraction, htext⟩, horder.2 ⟨_, htruth, rfl⟩,
    horderBy.2 ⟨_, hblanks, rfl⟩, Option.eq_none_iff_forall_ne_some.2 fun s hs => ?_, hthree,
    hpages 3 (by decide) hthree, hfifteen, hsearchOf.2 ⟨_, hbelow, hdigits⟩,
    Option.eq_none_iff_forall_ne_some.2 fun n hn => ?_⟩
  · obtain ⟨v, hv, htext⟩ := (hsearchBy s).1 hs
    cases hlist.symm.trans hv
    exact htext
  · obtain ⟨v, hv, hcount⟩ := (hperPageOf n).1 hn
    cases hless.symm.trans hv
    cases hcount

end Sample

/-- A zero counts as not given, whether the request, the resource or the configuration gives it. -/
example : Config.pageRequest { Config.extended with perPage := 0 } Sample.zeroUsers
    (.ofQuery "page=0&per_page=%2B00&search[]=x") = ⟨1, 1⟩ := by rfl

end ListQuery
