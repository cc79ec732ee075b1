import ListQuery.Compile

/-!
Findings as a whole: what a list of findings emits and what it refuses, read off part by part, and
what lenient and strict compiling make of the two: going through findings one by one comes to all
that they emit, or fails at the first that they refuse.
-/
namespace ListQuery

/-! ## Lists made element by element -/

section

variable {α β : Type} {f : α → List β}

/-- Elements that come to nothing may be left out. -/
theorem flatMap_filter_of_nil {drops : α → Bool} (as : List α)
    (h : ∀ a ∈ as, drops a = true → f a = []) :
    (as.filter fun a => !drops a).flatMap f = as.flatMap f := by
  induction as with
  | nil => rfl
  | cons a as ih =>
    have ih := ih fun b hb => h b (List.mem_cons_of_mem _ hb)
    cases ha : drops a with
    | true => simp [ha, ih, h a List.mem_cons_self ha]
    | false => simp [ha, ih]

/-- Elements that come to one thing or to nothing. -/
theorem flatMap_of_ite {keeps : α → Bool} {g : α → β}
    (h : ∀ a, f a = if keeps a then [g a] else []) (as : List α) :
    as.flatMap f = (as.filter keeps).map g := by
  induction as with
  | nil => rfl
  | cons a as ih =>
    rw [List.flatMap_cons, h, ih]
    by_cases ha : keeps a <;> simp [ha]

end

namespace Findings

/-- Everything refused, in order. -/
def refusals (fs : Findings) : List Rejection := fs.filterMap Finding.refused?

@[simp] theorem description_nil : description [] = [] := rfl

@[simp] theorem description_emit (p : Predicate) (fs : Findings) :
    description (.emit p :: fs) = p :: description fs := rfl

@[simp] theorem description_refuse (r : Rejection) (fs : Findings) :
    description (.refuse r :: fs) = description fs := rfl

@[simp] theorem description_omit (o : Omission) (fs : Findings) :
    description (.omit o :: fs) = description fs := rfl

@[simp] theorem description_append (fs gs : Findings) :
    description (fs ++ gs) = description fs ++ description gs := List.filterMap_append

@[simp] theorem refusals_nil : refusals [] = [] := rfl

@[simp] theorem refusals_emit (p : Predicate) (fs : Findings) :
    refusals (.emit p :: fs) = refusals fs := rfl

@[simp] theorem refusals_refuse (r : Rejection) (fs : Findings) :
    refusals (.refuse r :: fs) = r :: refusals fs := rfl

@[simp] theorem refusals_omit (o : Omission) (fs : Findings) :
    refusals (.omit o :: fs) = refusals fs := rfl

@[simp] theorem refusals_append (fs gs : Findings) :
    refusals (fs ++ gs) = refusals fs ++ refusals gs := List.filterMap_append

theorem description_flatMap {α : Type} (as : List α) (f : α → Findings) :
    description (as.flatMap f) = as.flatMap fun a => description (f a) := by
  simp only [description, List.filterMap_flatMap]

theorem refusals_flatMap {α : Type} (as : List α) (f : α → Findings) :
    refusals (as.flatMap f) = as.flatMap fun a => refusals (f a) := by
  simp only [refusals, List.filterMap_flatMap]

/-- The refusals of findings of which each refuses at most one thing. -/
theorem refusals_flatMap_of_ite {α : Type} {f : α → Findings} {refuses : α → Bool}
    {reason : α → Rejection}
    (h : ∀ a, refusals (f a) = if refuses a then [reason a] else []) (as : List α) :
    refusals (as.flatMap f) = (as.filter refuses).map reason := by
  rw [refusals_flatMap]
  exact flatMap_of_ite h as

end Findings

/-! ## Going through the findings -/

/-- What a request is refused for may be passed over; faults of the schema and of the database may
not. -/
theorem Error.isSuppressible_iff {e : Error} :
    e.isSuppressible = true ↔ ∃ r : Rejection, e = .rejected r := by
  cases e with
  | rejected r => exact iff_of_true rfl ⟨r, rfl⟩
  | schema _ | database _ => exact iff_of_false nofun nofun

/-- An error is passed over in lenient compiling, and only if the request is the reason for it. -/
theorem Error.reject_eq_ok_iff {e : Error} {lenient : Bool} :
    e.reject lenient = .ok () ↔ lenient = true ∧ ∃ r : Rejection, e = .rejected r := by
  rw [reject, ← isSuppressible_iff, ← Bool.and_eq_true]
  split <;> simp_all

namespace Findings

/-- Lenient compiling comes to all that is emitted. -/
theorem collect_lenient (fs : Findings) : fs.collect true = .ok fs.description := by
  induction fs with
  | nil => rfl
  | cons f fs ih =>
    match f with
    | .emit p =>
      rw [collect, ih]
      rfl
    | .refuse _ | .omit _ => exact ih

/-- Strict compiling fails at the first refusal and comes to all that is emitted without one. -/
theorem collect_strict (fs : Findings) :
    fs.collect false = match fs.refusals with
      | [] => .ok fs.description
      | r :: _ => .error (.rejected r) := by
  induction fs with
  | nil => rfl
  | cons f fs ih =>
    match f with
    | .emit p =>
      rw [collect, ih, refusals_emit]
      cases refusals fs <;> rfl
    | .refuse r => rfl
    | .omit _ => exact ih

end Findings

/-- The refusal that an event says was passed over. -/
def Event.suppressed? : Event → Option Rejection
  | .suppressed _ reason => some reason
  | _ => none

/-- The log of lenient compiling tells of every refusal. -/
theorem Findings.suppressed_events (table : String) (fs : Findings) :
    (fs.events true table).filterMap Event.suppressed? = fs.refusals := by
  induction fs with
  | nil => rfl
  | cons f fs ih =>
    match f with
    | .emit _ | .omit _ => exact ih
    | .refuse r =>
      rw [refusals_refuse, ← ih]
      rfl

namespace Rules

theorem description_guarded (r : Rules) (check : Bool) (column : String)
    (found instead : List Finding) :
    Findings.description (r.guarded check column found instead) =
      if check && !r.allows column then Findings.description instead
      else Findings.description found := by
  rw [guarded]
  split <;> rfl

theorem refusals_guarded (r : Rules) (check : Bool) (column : String)
    (found instead : List Finding) :
    Findings.refusals (r.guarded check column found instead) =
      if check && !r.allows column then .invalidParameter column :: Findings.refusals instead
      else Findings.refusals found := by
  rw [guarded]
  split <;> rfl

/-- A name is a range's exactly when it stands for a comparison. -/
theorem isSome_ofName?_iff (name : String) :
    (Operator.ofName? name).isSome = rangeNames.contains name := by
  unfold Operator.ofName?
  split <;> simp_all [rangeNames]

/-- A direction that is refused emits nothing. -/
theorem description_direction (p : Params) : Findings.description (direction p).2 = [] := by
  rw [direction]
  repeat' split
  all_goals rfl

/-- What is found in exact matches is the same in lenient and in strict compiling. -/
theorem exactMatches_lenient (r : Rules) (b : Bool) (es : Entries) :
    exactMatches { r with config := { r.config with lenient := b } } es = r.exactMatches es := by
  induction es with
  | nil => rfl
  | cons e es ih =>
    simp only [exactMatches, ih]
    rfl

/-- What is found in a request is the same in lenient and in strict compiling. -/
theorem findings_lenient (r : Rules) (b : Bool) (p : Params) :
    findings { r with config := { r.config with lenient := b } } p = r.findings p := by
  simp only [findings, exactMatches_lenient]
  rfl

end Rules

namespace Config

variable (c : Config) (schema : Schema) (knowsScope : String → Bool) (p : Params)

theorem compile_of_allowed_nil (h : schema.allowed c.source = []) :
    c.compile schema knowsScope p = .error (.schema (.noColumn schema.table)) := by
  simp [compile, rules, h]

theorem compile_of_allowed_ne_nil (h : schema.allowed c.source ≠ []) :
    c.compile schema knowsScope p =
      ((c.rules schema knowsScope).findings p).collect c.lenient := by
  simp [compile, rules, h]

theorem findings_rules_lenient (b : Bool) :
    (rules { c with lenient := b } schema knowsScope).findings p =
      (c.rules schema knowsScope).findings p :=
  (c.rules schema knowsScope).findings_lenient b p

/-- Lenient compiling never fails for a schema with allowed columns. -/
theorem compile_lenient (h : schema.allowed c.source ≠ []) :
    compile { c with lenient := true } schema knowsScope p =
      .ok ((c.rules schema knowsScope).findings p).description := by
  rw [compile_of_allowed_ne_nil { c with lenient := true } _ _ _ h, findings_rules_lenient,
    Findings.collect_lenient]

/-- Strict compiling fails with the first refusal, if there is one. -/
theorem compile_strict (h : schema.allowed c.source ≠ []) :
    compile { c with lenient := false } schema knowsScope p =
      match Findings.refusals ((c.rules schema knowsScope).findings p) with
      | [] => .ok ((c.rules schema knowsScope).findings p).description
      | r :: _ => .error (.rejected r) := by
  rw [compile_of_allowed_ne_nil { c with lenient := false } _ _ _ h, findings_rules_lenient,
    Findings.collect_strict]

/-- The log of lenient compiling tells of every refusal, in order. -/
theorem suppressed_compileEvents (h : schema.allowed c.source ≠ []) :
    (compileEvents { c with lenient := true } schema knowsScope p).filterMap Event.suppressed? =
      Findings.refusals ((c.rules schema knowsScope).findings p) := by
  let fs := (c.rules schema knowsScope).findings p
  have ha : (schema.allowed c.source).isEmpty = false := by simpa using h
  have he : compileEvents { c with lenient := true } schema knowsScope p =
      fs.events true schema.table ++ [.compiled schema.table fs.description.length] := by
    simp only [compileEvents, findings_rules_lenient, Findings.collect_lenient]
    simp [rules, ha, fs]
  rw [he, List.filterMap_append, Findings.suppressed_events]
  exact List.append_nil _

/-- A compiled description holds the predicates found, in order. -/
theorem eq_description_of_compile {d : Description}
    (h : c.compile schema knowsScope p = .ok d) :
    d = ((c.rules schema knowsScope).findings p).description := by
  by_cases ha : schema.allowed c.source = []
  · rw [compile_of_allowed_nil _ _ _ _ ha] at h
    cases h
  · rw [compile_of_allowed_ne_nil _ _ _ _ ha] at h
    cases hl : c.lenient with
    | true =>
      rw [hl, Findings.collect_lenient] at h
      exact (Except.ok.inj h).symm
    | false =>
      rw [hl, Findings.collect_strict] at h
      split at h
      · exact (Except.ok.inj h).symm
      · cases h

end Config
end ListQuery
