import ListQuery.Proofs.Entries
import ListQuery.Proofs.Findings
import ListQuery.Sample.Users

/-!
Requests that compiling cannot tell apart. What is found in a request depends on a few readings of
it only. Main statements: parameters of different families may stand in any order to each other, and
blank entries may be left out.
-/
namespace ListQuery

namespace Params

variable {p q : Params} {name : String}

/-- A name without a point is looked up as it stands. -/
theorem filled_eq (h : pathSegments name = [name]) :
    p.filled name = ((p.get? name).filter Value.isFilled).isSome := by
  simp only [filled, getPath?, h]
  cases p.get? name with
  | none => rfl
  | some v => cases hv : v.isFilled <;> simp [hv, Option.filter_some]

theorem text?_congr
    (h : (p.get? name).filter Value.isFilled = (q.get? name).filter Value.isFilled) :
    p.text? name = q.text? name := congrArg (Option.bind · Value.scalarText?) h

end Params

/-! ## What compiling reads -/

/-- Every stage reads the same in both requests. -/
structure Rules.Agrees (r : Rules) (p q : Params) : Prop where
  columns : r.exactMatches (p.columnMatches r.config.ranges) =
    r.exactMatches (q.columnMatches r.config.ranges)
  bounds : r.ranges p = r.ranges q
  steering : ∀ name ∈ ["search", "search_by", "order", "order_by"],
    (p.get? name).filter Value.isFilled = (q.get? name).filter Value.isFilled
  calls : r.scopeCalls p = r.scopeCalls q

namespace Rules.Agrees

variable {r : Rules} {p q : Params}

/-- Where the families are the same, equal steering parameters suffice. -/
theorem of_get? (hcolumns : p.columnMatches r.config.ranges = q.columnMatches r.config.ranges)
    (hbounds : r.ranges p = r.ranges q)
    (hget : ∀ name ∈ ["search", "search_by", "order", "order_by", "scopes"],
      p.get? name = q.get? name) : r.Agrees p q where
  columns := congrArg r.exactMatches hcolumns
  bounds := hbounds
  steering := fun name hname => by rw [hget name (List.mem_append_left ["scopes"] hname)]
  calls := by
    rw [scopeCalls, scopeCalls, Params.getD_map?, Params.getD_map?, hget "scopes" (by decide)]

/-- The same is found in both requests. -/
theorem findings_eq (h : r.Agrees p q) : r.findings p = r.findings q := by
  have htext : ∀ name ∈ ["search", "search_by", "order", "order_by"],
      p.text? name = q.text? name := fun name hname => Params.text?_congr (h.steering name hname)
  have hfilled : p.filled "search" = q.filled "search" := by
    have hpath : Params.pathSegments "search" = ["search"] := by decide
    rw [Params.filled_eq hpath, Params.filled_eq hpath, h.steering "search" (by decide)]
  have hsearch : r.search p = r.search q := by
    rw [search, search, htext "search" (by decide), htext "search_by" (by decide), hfilled]
  have hdirection : direction p = direction q := by
    rw [direction, direction, htext "order" (by decide)]
  have horder : r.order p = r.order q := by
    rw [order, order, htext "order_by" (by decide), hdirection]
  rw [findings, findings, h.columns, h.bounds, hsearch, horder, h.calls]

/-- Both requests compile to the same description or fail for the same reason. -/
theorem compile_eq {c : Config} {schema : Schema} {knowsScope : String → Bool}
    (h : (c.rules schema knowsScope).Agrees p q) :
    c.compile schema knowsScope p = c.compile schema knowsScope q := by
  simp only [Config.compile, h.findings_eq]

end Rules.Agrees

/-- A name that is no range's has no bounds. -/
theorem Rules.range_eq_nil (r : Rules) {e : String × Value}
    (h : rangeNames.contains e.1 = false) : r.range e.1 e.2 = [] := by
  have ho : Operator.ofName? e.1 = none := by
    rw [← isSome_ofName?_iff] at h
    simpa using h
  simp [range, ho]

/-! ## Names left out -/

/-- The parameters without those of some names. -/
def Params.without (p : Params) (drops : String → Bool) : Params :=
  ⟨List.filter (fun e => !drops e.1) p.entries, p.distinct.filter _⟩

section

variable {drops : String → Bool}

theorem Params.get?_without (p : Params) (drops : String → Bool) (name : String) :
    (p.without drops).get? name = if drops name then none else p.get? name := by
  have hget := Entries.get?_filter p.distinct.nodup (fun e => !drops e.1) name
  rw [get?, without, hget, get?]
  cases Entries.get? p.entries name <;> cases hd : drops name <;> simp [hd]

/-- Reserved names are matched nowhere. -/
theorem Params.columnMatches_without (p : Params) {ranges : Bool}
    (h : ∀ name, drops name = true → isReserved ranges name = true) :
    (p.without drops).columnMatches ranges = p.columnMatches ranges := by
  rw [columnMatches, without, List.filter_filter]
  refine List.filter_congr fun e _ => ?_
  cases hd : drops e.1 with
  | false => simp
  | true => simp [h _ hd]

theorem Rules.ranges_without (r : Rules) (p : Params)
    (h : ∀ name, drops name = true → rangeNames.contains name = false) :
    r.ranges (p.without drops) = r.ranges p := by
  have hnil : ∀ e ∈ p.entries, drops e.1 = true → r.range e.1 e.2 = [] :=
    fun e _ hd => r.range_eq_nil (h _ hd)
  rw [ranges, ranges, Params.without, flatMap_filter_of_nil p.entries hnil]

end

/-! ## The order of families -/

/-- The same entries in both requests, with the names that are matched in the same order, and those
of ranges too where ranges are read. -/
structure Params.SameFamilies (ranges : Bool) (p q : Params) : Prop where
  entries : ∀ e, e ∈ p.entries ↔ e ∈ q.entries
  matched : p.keys.filter (fun name => !isReserved ranges name) =
    q.keys.filter fun name => !isReserved ranges name
  bounded : ranges = true →
    p.keys.filter rangeNames.contains = q.keys.filter rangeNames.contains

namespace Params.SameFamilies

variable {ranges : Bool} {p q : Params}

theorem get?_eq (h : SameFamilies ranges p q) (name : String) : p.get? name = q.get? name := by
  refine Option.ext fun v => ⟨fun hv => ?_, fun hv => ?_⟩
  · exact Entries.get?_of_mem q.distinct.nodup ((h.entries _).1 (Entries.mem_of_get? hv))
  · exact Entries.get?_of_mem p.distinct.nodup ((h.entries _).2 (Entries.mem_of_get? hv))

/-- Entries of a family whose names stand in the same order do so themselves. -/
theorem filter_eq (h : SameFamilies ranges p q) {family : String → Bool}
    (hf : p.keys.filter family = q.keys.filter family) :
    List.filter (fun e => family e.1) p.entries = List.filter (fun e => family e.1) q.entries := by
  have hkeys : ∀ p : Params, Entries.keys (List.filter (fun e => family e.1) p.entries) =
      p.keys.filter family := fun p => by
    simp [Entries.keys, Params.keys, List.filter_map, Function.comp_def]
  refine Entries.eq_of_keys_eq (q.distinct.filter _).nodup ?_ fun e he => ?_
  · rw [hkeys, hkeys, hf]
  · obtain ⟨he, hfamily⟩ := List.mem_filter.1 he
    exact List.mem_filter.2 ⟨(h.entries e).1 he, hfamily⟩

theorem columnMatches_eq (h : SameFamilies ranges p q) :
    p.columnMatches ranges = q.columnMatches ranges := h.filter_eq h.matched

theorem ranges_eq (r : Rules) (h : SameFamilies r.config.ranges p q) :
    r.ranges p = r.ranges q := by
  have hfamily : ∀ es : Entries, (List.filter (fun e => rangeNames.contains e.1) es).flatMap
      (fun e => r.range e.1 e.2) = es.flatMap fun e => r.range e.1 e.2 := fun es => by
    have hnil : ∀ e ∈ es, (!rangeNames.contains e.1) = true → r.range e.1 e.2 = [] :=
      fun e _ he => r.range_eq_nil (by simpa using he)
    simpa using flatMap_filter_of_nil es hnil
  rw [Rules.ranges, Rules.ranges]
  split
  · rename_i hr
    rw [← hfamily p.entries, ← hfamily q.entries, h.filter_eq (h.bounded hr)]
  · rfl

theorem agrees (r : Rules) (h : SameFamilies r.config.ranges p q) : r.Agrees p q :=
  .of_get? h.columnMatches_eq (h.ranges_eq r) fun name _ => h.get?_eq name

end Params.SameFamilies

/-- Only the order inside a family counts: requests with the same entries compile alike, also to the
same error, however parameters of different families stand to each other. -/
theorem compile_eq_of_sameFamilies (c : Config) (schema : Schema) (knowsScope : String → Bool)
    (p q : Params) (h : p.SameFamilies c.ranges q) :
    c.compile schema knowsScope p = c.compile schema knowsScope q :=
  (h.agrees (c.rules schema knowsScope)).compile_eq

/-- The refused bound comes first in one request and the refused match in the other. -/
theorem compile_of_interleaved_families :
    let c : Config := { Config.extended.strict with checkAllColumns := true }
    let schema := Schema.ofDescriptor Sample.usersResource.descriptor Sample.users.columnNames
    let lt := ("lt", Value.map [("password", .text "a"), ("age", .text "9")])
    let min := ("min", Value.map [("age", .text "1")])
    let p := Params.ofPairs [lt, ("order", .text "up"), ("name", .text "Ann"), min,
      ("salary", .text "1"), ("search", .text "a")]
    let q := Params.ofPairs [("name", .text "Ann"), ("salary", .text "1"), ("search", .text "a"),
      lt, min, ("order", .text "up")]
    p.SameFamilies c.ranges q ∧
      c.compile schema Sample.userScopes.contains p =
        c.compile schema Sample.userScopes.contains q ∧
      c.compile schema Sample.userScopes.contains p =
        .error (.rejected (.invalidParameter "salary")) := by
  intro c schema lt min p q
  have hp : p.entries = [lt, ("order", .text "up"), ("name", .text "Ann"), min,
    ("salary", .text "1"), ("search", .text "a")] := by rfl
  have hq : q.entries = [("name", .text "Ann"), ("salary", .text "1"), ("search", .text "a"),
    lt, min, ("order", .text "up")] := by rfl
  have h : p.SameFamilies c.ranges q := by
    refine ⟨fun e => ?_, by decide, fun _ => by decide⟩
    simp only [hp, hq, List.mem_cons, List.not_mem_nil, or_false]
    constructor <;> (intro h; rcases h with h | h | h | h | h | h <;> simp [h])
  exact ⟨h, compile_eq_of_sameFamilies c schema Sample.userScopes.contains p q h, by rfl⟩

/-! ## Blank entries -/

namespace Entries

/-- Whether an entry is blank and one of those to be left out. -/
def leavesOut (chosen : String → Bool) (e : String × Value) : Bool := chosen e.1 && !e.2.isFilled

/-- The entries without the blank ones under the chosen names. The others keep their order. -/
def withoutBlank (chosen : String → Bool) (es : Entries) : Entries :=
  List.filter (fun e => !leavesOut chosen e) es

theorem isFilled_of_leavesOut {chosen : String → Bool} {e : String × Value}
    (h : leavesOut chosen e = true) : e.2.isFilled = false := by
  simp only [leavesOut, Bool.and_eq_true, Bool.not_eq_true'] at h
  exact h.2

/-- Entries that come to nothing where they are blank come to the same without them. -/
theorem flatMap_withoutBlank {β : Type} {f : String × Value → List β}
    (hf : ∀ e : String × Value, e.2.isFilled = false → f e = []) (chosen : String → Bool)
    (es : Entries) : (es.withoutBlank chosen).flatMap f = es.flatMap f :=
  flatMap_filter_of_nil es fun e _ he => hf e (isFilled_of_leavesOut he)

end Entries

namespace Value

/-- A map without its blank entries under the chosen names; any other value as it is. -/
def withoutBlank (chosen : String → Bool) : Value → Value
  | .map es => .map (Entries.withoutBlank chosen es)
  | v => v

theorem distinct_withoutBlank (chosen : String → Bool) {v : Value} (h : v.Distinct) :
    (v.withoutBlank chosen).Distinct := by
  cases v with
  | map es => exact distinct_map_iff.2 ((distinct_map_iff.1 h).filter _)
  | null | bool _ | number _ | text _ | list _ => exact h

theorem entriesOf_withoutBlank (chosen : String → Bool) (v : Value) :
    entriesOf (some (v.withoutBlank chosen)) = (entriesOf (some v)).withoutBlank chosen := by
  cases v <;> rfl

/-- A blank value holds no entries. -/
theorem entriesOf_of_blank {v : Value} (h : v.isFilled = false) : entriesOf (some v) = [] := by
  cases v with
  | map es => simpa [isFilled, entriesOf] using h
  | null | bool _ | number _ | text _ | list _ => rfl

end Value

/-- Whether compiling reads the entries of the map under a name: it holds scopes, or bounds where
ranges are read. -/
def holdsEntries (ranges : Bool) (name : String) : Bool :=
  name == "scopes" || (ranges && rangeNames.contains name)

/-- The request without the blank parameters under the chosen names and, where the entries of a map
are read, without the blank entries that are chosen there. The others keep their order. No name
stands twice in a request or in a map, so to choose names is to choose entries. -/
def Params.withoutBlank (p : Params) (ranges : Bool) (chosen : String → Bool)
    (chosenIn : String → String → Bool) : Params where
  entries := (p.entries.withoutBlank chosen).mapValues fun name v =>
    if holdsEntries ranges name then v.withoutBlank (chosenIn name) else v
  distinct := (p.distinct.filter _).mapValues fun name v hv => by
    split
    · exact v.distinct_withoutBlank (chosenIn name) hv
    · exact hv

namespace Params

variable (p : Params) (ranges : Bool) (chosen : String → Bool)
  (chosenIn : String → String → Bool)

theorem get?_withoutBlank (name : String) :
    (p.withoutBlank ranges chosen chosenIn).get? name =
      ((p.get? name).filter fun v => !Entries.leavesOut chosen (name, v)).map fun v =>
        if holdsEntries ranges name then v.withoutBlank (chosenIn name) else v := by
  rw [get?, withoutBlank, Entries.get?_mapValues, Entries.withoutBlank,
    Entries.get?_filter p.distinct.nodup]
  rfl

/-- What is filled and read as a whole stays. -/
theorem filter_isFilled_withoutBlank {name : String} (h : holdsEntries ranges name = false) :
    ((p.withoutBlank ranges chosen chosenIn).get? name).filter Value.isFilled =
      (p.get? name).filter Value.isFilled := by
  rw [get?_withoutBlank]
  cases p.get? name with
  | none => rfl
  | some v =>
    cases hv : Entries.leavesOut chosen (name, v) with
    | false => simp [h, hv, Option.filter_some]
    | true => simp [hv, Option.filter_some, Entries.isFilled_of_leavesOut hv]

theorem entriesOf_scopes_withoutBlank :
    Value.entriesOf ((p.withoutBlank ranges chosen chosenIn).get? "scopes") =
      (Value.entriesOf (p.get? "scopes")).withoutBlank (chosenIn "scopes") := by
  have hname : holdsEntries ranges "scopes" = true := rfl
  rw [get?_withoutBlank]
  cases p.get? "scopes" with
  | none => rfl
  | some v =>
    cases hv : Entries.leavesOut chosen ("scopes", v) with
    | false => simp [hname, hv, Option.filter_some, Value.entriesOf_withoutBlank]
    | true =>
      have hes := Value.entriesOf_of_blank (Entries.isFilled_of_leavesOut hv)
      simp only [hv, hes, Option.filter_some]
      rfl

theorem columnMatches_withoutBlank :
    (p.withoutBlank ranges chosen chosenIn).columnMatches ranges =
      (p.columnMatches ranges).withoutBlank chosen := by
  have hspared : ∀ name v, (!isReserved ranges name) = true →
      (if holdsEntries ranges name then Value.withoutBlank (chosenIn name) v else v) = v := by
    intro name v h
    have hname : holdsEntries ranges name = false := by
      cases ranges <;> simp_all [isReserved, controlNames, holdsEntries]
    rw [hname]
    rfl
  calc (p.withoutBlank ranges chosen chosenIn).columnMatches ranges
      = List.filter (fun e => !isReserved ranges e.1) (p.entries.withoutBlank chosen) :=
        Entries.filter_mapValues hspared _
    _ = (p.columnMatches ranges).withoutBlank chosen := by
      rw [columnMatches, Entries.withoutBlank, Entries.withoutBlank, List.filter_filter,
        List.filter_filter]
      exact List.filter_congr fun e _ => Bool.and_comm _ _

end Params

namespace Rules

variable (r : Rules)

/-- Blank parameters are passed over before anything is asked of them. -/
theorem exactMatches_withoutBlank (chosen : String → Bool) (es : Entries) :
    r.exactMatches (es.withoutBlank chosen) = r.exactMatches es := by
  induction es with
  | nil => rfl
  | cons e es ih =>
    cases he : Entries.leavesOut chosen e with
    | true =>
      have hf := Entries.isFilled_of_leavesOut he
      simpa [Entries.withoutBlank, he, exactMatches, hf] using ih
    | false =>
      have hcons : Entries.withoutBlank chosen (e :: es) =
          e :: Entries.withoutBlank chosen es := by simp [Entries.withoutBlank, he]
      rw [hcons, exactMatches, exactMatches, ih]

theorem bound_of_blank (operator : Operator) {b : String × Value} (h : b.2.isFilled = false) :
    r.bound operator b.1 b.2 = [] := by
  simp [bound, h]

theorem scopeCall_of_blank {s : String × Value} (h : s.2.isFilled = false) :
    r.scopeCall s.1 s.2 = [] := by
  simp [scopeCall, h]

theorem range_of_blank {e : String × Value} (h : e.2.isFilled = false) :
    r.range e.1 e.2 = [] := by
  obtain ⟨name, v⟩ := e
  cases ho : Operator.ofName? name with
  | none => simp [range, ho]
  | some operator =>
    cases v with
    | map bounds =>
      have hb : bounds = [] := Value.entriesOf_of_blank h
      simp [range, ho, hb]
    | null | bool _ | number _ | text _ | list _ => simp_all [range]

/-- A range without blank bounds has the same bounds. -/
theorem range_withoutBlank (operator : Operator) {name : String}
    (ho : Operator.ofName? name = some operator) (chosen : String → Bool) (v : Value) :
    r.range name (v.withoutBlank chosen) = r.range name v := by
  cases v with
  | map bounds =>
    simp only [Value.withoutBlank, range, ho]
    exact Entries.flatMap_withoutBlank (fun b hb => r.bound_of_blank operator hb) chosen bounds
  | null | bool _ | number _ | text _ | list _ => rfl

variable (p : Params) (chosen : String → Bool) (chosenIn : String → String → Bool)

theorem ranges_withoutBlank :
    r.ranges (p.withoutBlank r.config.ranges chosen chosenIn) = r.ranges p := by
  rw [ranges, ranges]
  split
  · rename_i hr
    have hentry : ∀ e : String × Value, r.range e.1 (if holdsEntries r.config.ranges e.1 then
        e.2.withoutBlank (chosenIn e.1) else e.2) = r.range e.1 e.2 := by
      intro e
      split
      · cases ho : Operator.ofName? e.1 with
        | none => simp [range, ho]
        | some operator => exact r.range_withoutBlank operator ho _ _
      · rfl
    have hentries : (p.withoutBlank r.config.ranges chosen chosenIn).entries =
        (p.entries.withoutBlank chosen).map fun e => (e.1,
          if holdsEntries r.config.ranges e.1 then e.2.withoutBlank (chosenIn e.1) else e.2) := rfl
    rw [hentries, List.flatMap_map]
    simp only [hentry]
    exact Entries.flatMap_withoutBlank (fun e he => r.range_of_blank he) chosen p.entries
  · rfl

theorem agrees_withoutBlank :
    r.Agrees (p.withoutBlank r.config.ranges chosen chosenIn) p where
  columns := by rw [p.columnMatches_withoutBlank, exactMatches_withoutBlank]
  bounds := r.ranges_withoutBlank p chosen chosenIn
  steering := by
    intro name hname
    have hwhole : ∀ ranges, ∀ name ∈ ["search", "search_by", "order", "order_by"],
        holdsEntries ranges name = false := by decide
    exact p.filter_isFilled_withoutBlank _ _ _ (hwhole _ name hname)
  calls := by
    rw [scopeCalls, scopeCalls, Params.getD_map?, Params.getD_map?,
      p.entriesOf_scopes_withoutBlank]
    exact Entries.flatMap_withoutBlank (fun s hs => r.scopeCall_of_blank hs) _ _

end Rules

/-- Blank entries count for nothing. Whichever of them are left out of a request, at the top, in the
ranges that are read or among the scopes, it compiles to the same description or the same error. -/
theorem compile_withoutBlank (c : Config) (schema : Schema) (knowsScope : String → Bool)
    (p : Params) (chosen : String → Bool) (chosenIn : String → String → Bool) :
    c.compile schema knowsScope (p.withoutBlank c.ranges chosen chosenIn) =
      c.compile schema knowsScope p :=
  ((c.rules schema knowsScope).agrees_withoutBlank p chosen chosenIn).compile_eq

/-- A range and the scopes may become empty, and a text that is not blank stays though chosen. -/
example :
    let lt := ("lt", Value.map [("age", .text " "), ("id", .null)])
    let p := Params.ofPairs [("name", .text " "), lt, ("scopes", .map [("active", .text "")]),
      ("email", .text "a")]
    (p.withoutBlank true (fun _ => true) fun _ _ => true).entries =
      [("lt", .map []), ("scopes", .map []), ("email", .text "a")] := by rfl

end ListQuery
