import ListQuery.Proofs.Bindings
import ListQuery.Proofs.Placeholders

/-!
What texts bind as for columns that hold texts. Main statement: such a column is compared with the
text that trimming leaves. This is the text of the request, and what binds for a column that is not
known, exactly if no blank stands at its ends.
-/
namespace ListQuery

open Sql Text

/-- The names under which a request may call a column. -/
def Column.spellings (c : Column) : List String := [c.field, lowerCamel c.field, c.name]

theorem Column.answersTo_iff {c : Column} {name : String} :
    c.answersTo name = true ↔ name ∈ c.spellings := by
  simp [answersTo, spellings, or_assoc]

namespace Entity

/-- A name calls the first column that can be spelled so. -/
structure Calls (e : Entity) (name : String) (c : Column) : Prop where
  spelled : name ∈ c.spellings
  first : ∃ before after, e.columns = before ++ c :: after ∧ ∀ b ∈ before, name ∉ b.spellings

variable {e : Entity} {name : String} {type : ColumnType}

theorem Calls.columnType? {c : Column} (h : e.Calls name c) :
    e.columnType? name = some c.type := by
  obtain ⟨before, after, hcolumns, hbefore⟩ := h.first
  have hfind : e.columns.find? (·.answersTo name) = some c := by
    refine List.find?_eq_some_iff_append.2
      ⟨Column.answersTo_iff.2 h.spelled, before, after, hcolumns, fun b hb => ?_⟩
    rw [Bool.not_eq_true', Bool.eq_false_iff, Ne, Column.answersTo_iff]
    exact hbefore b hb
  rw [Entity.columnType?, hfind]
  rfl

theorem columnType?_eq_none (h : ∀ b ∈ e.columns, name ∉ b.spellings) :
    e.columnType? name = none := by
  rw [columnType?, Option.map_eq_none_iff, List.find?_eq_none]
  exact fun b hb hanswers => h b hb (Column.answersTo_iff.1 hanswers)

/-- A column of texts takes every text, without the blanks at its ends. -/
theorem bind_text_of_textual (h : e.columnType? name = some type) (htype : type.isTextual = true)
    (s : String) : e.bind name (.text s) = .text (some (trim s)) := by
  have hother : ¬ type.isInteger = true ∧ ¬ type.isFractional = true := by
    cases type <;> first | exact ⟨Bool.false_ne_true, Bool.false_ne_true⟩ | cases htype
  have hread : type.readText? (trim s) = some (.text (some (trim s))) := by
    unfold ColumnType.readText?
    rw [if_neg hother.1, if_neg hother.2, if_pos htype]
  rw [bind, h, Option.bind_some, hread]
  rfl

/-- For a column that is not known, a text binds as it is unless it writes an identifier. -/
theorem bind_text_of_unknown (h : e.columnType? name = none) (s : String) :
    e.bind name (.text s) = ((Uuid.read? (trim s)).map .uuid).getD (.text (some s)) := by
  rw [bind, h, Option.bind_none, Option.getD_none, Value.datum]
  cases Uuid.read? (trim s) <;> rfl

end Entity

/-- What a predicate compares its column with is the one value of its statement. -/
theorem Predicate.values_of_datum? {e : Entity} {q : Predicate} {v : Datum}
    (h : q.datum? e = some v) (d : Dialect) :
    ∃ s, Description.apply [q] e .empty e.rows = .ok s ∧ (s.statement d).values = [v] := by
  have hstands : ∃ column relation, Description.apply [q] e .empty e.rows =
      .ok (e.rows.filter (.single (.compare column relation v))) := by
    cases q with
    | equals _ _ | compare _ _ _ | like _ _ | orLike _ _ =>
      cases h
      exact ⟨_, _, rfl⟩
    | orderBy _ _ | scopeCall _ _ => cases h
  obtain ⟨column, relation, happly⟩ := hstands
  refine ⟨_, happly, ?_⟩
  rw [(Select.binds_statement _ d).values]
  rfl

/-- A column of texts, under each of its names, is compared with what trimming leaves of a text. It
is compared with the text that was sent if no blank stands at its ends, and only then; the same holds
for agreeing with a column that is not known, unless the text writes an identifier, which for such a
column binds as one. -/
theorem text_column_binds_trimmed (e : Entity) {name : String} {c : Column}
    (hcalls : e.Calls name c) (htype : c.type = .string ∨ c.type = .text ∨ c.type = .char)
    (e' : Entity) {other : String} (hother : ∀ b ∈ e'.columns, other ∉ b.spellings) (s : String)
    (asks : String → Value → Predicate)
    (hasks : asks = .equals ∨ ∃ operator, asks = fun column => .compare column operator) :
    let known := (asks name (.text s)).datum? e
    let unknown := (asks other (.text s)).datum? e'
    ∃ before core after, s = before ++ core ++ after ∧ allBlank before = true ∧
      allBlank after = true ∧ Trimmed core.toList ∧ known = some (.text (some core)) ∧
      (∀ d, ∃ q, Description.apply [asks name (.text s)] e .empty e.rows = .ok q ∧
        (q.statement d).values = [.text (some core)]) ∧
      (known = some (.text (some s)) ↔ Trimmed s.toList) ∧
      (Uuid.read? core = none → unknown = some (.text (some s)) ∧
        (known = unknown ↔ Trimmed s.toList)) ∧
      ∀ u, Uuid.read? core = some u → unknown = some (.uuid u) := by
  intro known unknown
  have hasks : ∀ (e : Entity) (column : String),
      (asks column (.text s)).datum? e = some (e.bind column (.text s)) := by
    rcases hasks with rfl | ⟨operator, rfl⟩ <;> exact fun e column => rfl
  have htextual : c.type.isTextual = true := by
    rcases htype with h | h | h <;> rw [h] <;> rfl
  have hknown : known = some (.text (some (trim s))) :=
    (hasks e name).trans (congrArg some (Entity.bind_text_of_textual hcalls.columnType? htextual s))
  have hunknown : unknown = some (((Uuid.read? (trim s)).map .uuid).getD (.text (some s))) :=
    (hasks e' other).trans
      (congrArg some (Entity.bind_text_of_unknown (Entity.columnType?_eq_none hother) s))
  have hsent : known = some (.text (some s)) ↔ Trimmed s.toList := by
    rw [hknown, Option.some_inj, Datum.text.injEq, Option.some_inj, trim_eq_self_iff]
  obtain ⟨before, after, hs, hbefore, hafter⟩ := exists_trim_padding s
  refine ⟨before, trim s, after, hs, hbefore, hafter, trimmed_trim s, hknown,
    Predicate.values_of_datum? hknown, hsent, fun hnone => ?_, fun u hu => ?_⟩
  · rw [hnone] at hunknown
    exact ⟨hunknown, hunknown ▸ hsent⟩
  · rw [hu] at hunknown
    exact hunknown

namespace Sample

/-- An identifier between blanks stays a text for a column of texts, less the blanks. -/
theorem identifier_for_body_text_stays_text :
    let core := "urn:uuid:00112233-4455-6677-8899-AABBCCDDEEFF"
    let s := "\u2003 " ++ core ++ "\n"
    gadgets.Calls "bodyText" { field := "body_text", type := .text } ∧
      (∀ b ∈ gadgets.columns, "BodyText" ∉ b.spellings) ∧
      (Predicate.compare "bodyText" .less (.text s)).datum? gadgets = some (.text (some core)) ∧
      ∃ u, Uuid.read? core = some u ∧
        (Predicate.compare "BodyText" .less (.text s)).datum? gadgets = some (.uuid u) := by
  intro core s
  have hcalls : gadgets.Calls "bodyText" { field := "body_text", type := .text } :=
    ⟨by decide, gadgets.columns.take 14, gadgets.columns.drop 15, by rfl, by decide⟩
  have hother : ∀ b ∈ gadgets.columns, "BodyText" ∉ b.spellings := by decide
  obtain ⟨before, core', after, hs, hbefore, hafter, hcore, hknown, -, -, -, hidentifier⟩ :=
    text_column_binds_trimmed gadgets hcalls (.inr (.inl rfl)) gadgets hother s
      (fun column => .compare column .less) (.inr ⟨.less, rfl⟩)
  obtain rfl : core' = core := by
    have htrim : trim s = core := by decide
    rw [← htrim, hs, trim_padded hbefore hcore hafter]
  have hread : ∃ u, Uuid.read? core = some u := Option.isSome_iff_exists.1 (by decide)
  obtain ⟨u, hu⟩ := hread
  exact ⟨hcalls, hother, hknown, u, hu, hidentifier u hu⟩

/-- The blanks of a name are lost where the column is known, and kept where it is not. -/
theorem blanks_of_name_are_lost :
    let known := (Predicate.equals "name" (.text " Ann ")).datum? gadgets
    let unknown := (Predicate.equals "nickname" (.text " Ann ")).datum? gadgets
    gadgets.Calls "name" { field := "name", type := .string } ∧
      (∀ b ∈ gadgets.columns, "nickname" ∉ b.spellings) ∧ Uuid.read? " Ann " = none ∧
      known = some (.text (some "Ann")) ∧ known ≠ some (.text (some " Ann ")) ∧
      unknown = some (.text (some " Ann ")) := by
  refine ⟨⟨by decide, gadgets.columns.take 13, gadgets.columns.drop 14, by rfl, by decide⟩,
    by decide, by rfl, by rfl, by decide, by rfl⟩

end Sample
end ListQuery
