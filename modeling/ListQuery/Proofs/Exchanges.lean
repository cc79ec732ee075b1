import ListQuery.Params.QueryString
import ListQuery.Proofs.Placeholders

/-!
What listings send to the database, whatever it answers. Main statement: a request without a select
sends nothing; any other sends its select, and a page with totals first the count and, once that is
known, the page. The count is of the rows that the page is taken from: the text of the condition is
the same, and so are the values bound in it.
-/
namespace ListQuery

namespace Sql

/-! ## The text of a select, part by part -/

namespace Select

variable (s : Select) (d : Dialect)

/-- The text from the first word to the name of the table. -/
def headText : String := .ofList (renderAfter d 0 s.headTokens)

/-- The text of the condition; empty without one. -/
def whereText : String := .ofList (renderAfter d 0 (whereTokens s.condition))

/-- The text of the order; empty without one. -/
def orderText : String := .ofList (renderAfter d 0 (orderTokens s.order))

/-- The values of the condition, in the order of its text. -/
def whereValues : List Datum := (s.condition.flatMap Restriction.atoms).flatMap Atom.values

end Select

/-- The text of a window behind `n` placeholders. -/
def windowText (d : Dialect) (n : Nat) : String :=
  " LIMIT " ++ .ofList (d.placeholder (n + 1)) ++ " OFFSET " ++ .ofList (d.placeholder (n + 2))

/-- The text that counts the rows of another. -/
def countText (d : Dialect) (inner : String) : String :=
  "SELECT COUNT(*) AS num_items FROM (" ++ inner ++ ") AS " ++ .ofList (d.quoteName "sub_query")

/-- Without values it does not matter how many placeholders stand before. -/
theorem renderAfter_of_arity_eq_zero (d : Dialect) {ts : List Token} (h : arity ts = 0)
    (n : Nat) : renderAfter d n ts = renderAfter d 0 ts := by
  induction ts generalizing n with
  | nil => rfl
  | cons t ts ih =>
    rw [arity_cons] at h
    cases t with
    | word w => simp [renderAfter, ih (by omega) n]
    | name s => simp [renderAfter, ih (by omega) n]
    | value v => simp [Token.arity] at h

/-- The statement of tokens between a first word and a last word with a name. -/
theorem ofTokens_around (d : Dialect) (first last name : String) (ts : List Token) :
    Statement.ofTokens d (.word first :: ts ++ [.word last, .name name]) =
      ⟨first ++ (Statement.ofTokens d ts).sql ++ last ++ .ofList (d.quoteName name),
        (Statement.ofTokens d ts).values⟩ := by
  have htext : renderAfter d 0 (.word first :: ts ++ [.word last, .name name]) =
      first.toList ++ renderAfter d 0 ts ++ last.toList ++ d.quoteName name := by
    simp [renderAfter, renderAfter_append]
  rw [Statement.ofTokens, htext, String.ofList_append, String.ofList_append, String.ofList_append,
    String.ofList_toList, String.ofList_toList]
  simp [Statement.ofTokens]

theorem renderAfter_window (d : Dialect) (n : Nat) (w : Window) :
    renderAfter d n (windowTokens (some w)) = (windowText d n).toList := by
  simp [windowTokens, renderAfter, windowText]

namespace Select

variable (s : Select)

theorem filterMap_datum?_whereTokens :
    (whereTokens s.condition).filterMap Token.datum? = s.whereValues := by
  rw [(Carries.whereClause (d := .sqlite) s.condition).values, whereValues, List.map_flatMap,
    List.flatMap_assoc]
  simp only [Restriction.bindings, List.map_flatMap, Atom.map_value_bindings]

theorem filterMap_datum?_orderTokens : (orderTokens s.order).filterMap Token.datum? = [] :=
  (Carries.orderClause (d := .sqlite) s.order).values

variable (d : Dialect)

/-- The rows of a select, without order and window, are written by its head and its condition. -/
theorem statement_unordered :
    s.unordered.statement d = ⟨s.headText d ++ s.whereText d, s.whereValues⟩ := by
  have htokens : s.unordered.tokens = s.headTokens ++ whereTokens s.condition := by
    simp [tokens, unordered, headTokens, orderTokens, windowTokens]
  rw [statement, Statement.ofTokens, htokens, renderAfter_append, arity_headTokens,
    List.filterMap_append, filterMap_datum?_headTokens, filterMap_datum?_whereTokens,
    String.ofList_append]
  rfl

/-- A count stands around the select without order and window, and binds what that binds. -/
theorem countStatement_eq :
    s.countStatement d =
      ⟨countText d (s.unordered.statement d).sql, (s.unordered.statement d).values⟩ := by
  exact ofTokens_around d _ _ _ _

theorem arity_whereTokens : arity (whereTokens s.condition) = s.whereValues.length := by
  rw [arity, filterMap_datum?_whereTokens]

theorem arity_orderTokens : arity (orderTokens s.order) = 0 := by
  rw [arity, filterMap_datum?_orderTokens, List.length_nil]

/-- A page goes on behind the condition with the order and the window. -/
theorem statement_inWindow_eq (w : Window) :
    (s.inWindow w).statement d =
      ⟨s.headText d ++ s.whereText d ++ s.orderText d ++ windowText d s.whereValues.length,
        s.whereValues ++ [.uint64 w.limit, .uint64 w.offset]⟩ := by
  have htokens : (s.inWindow w).tokens = s.headTokens ++ (whereTokens s.condition ++
      (orderTokens s.order ++ windowTokens (some w))) := by
    simp [tokens, inWindow, headTokens]
  have htext : renderAfter d 0 (s.inWindow w).tokens =
      renderAfter d 0 s.headTokens ++ (renderAfter d 0 (whereTokens s.condition) ++
        (renderAfter d 0 (orderTokens s.order) ++ (windowText d s.whereValues.length).toList)) := by
    rw [htokens, renderAfter_append, renderAfter_append, renderAfter_append, arity_headTokens,
      arity_whereTokens, arity_orderTokens, renderAfter_of_arity_eq_zero d s.arity_orderTokens]
    simp only [Nat.zero_add, Nat.add_zero, renderAfter_window]
  have hvalues : (s.inWindow w).tokens.filterMap Token.datum? =
      s.whereValues ++ [.uint64 w.limit, .uint64 w.offset] := by
    rw [htokens, List.filterMap_append, List.filterMap_append, List.filterMap_append,
      filterMap_datum?_headTokens, filterMap_datum?_whereTokens, filterMap_datum?_orderTokens]
    rfl
  rw [statement, Statement.ofTokens, htext, hvalues, String.ofList_append, String.ofList_append,
    String.ofList_append, String.ofList_toList, ← String.append_assoc, ← String.append_assoc]
  rfl

end Select
end Sql

open Sql

/-! ## Replies -/

section

variable {ρ α : Type}

/-- The reply to the statement in place `i`, counted from zero. Behind the last answer there is
none, which is a fault. -/
def replyAt (answers : List (Answer ρ)) (i : Nat) : Answer ρ :=
  answers[i]?.getD (.failure Plan.exhausted)

variable (answers : List (Answer ρ))

theorem replyAt_zero : answers.head?.getD (.failure Plan.exhausted) = replyAt answers 0 := by
  rw [replyAt, List.head?_eq_getElem?]

theorem replyAt_tail (i : Nat) : replyAt answers.tail i = replyAt answers (i + 1) := by
  rw [replyAt, replyAt, List.getElem?_tail]

/-- A plan that asks for rows and then is done sends one statement. -/
theorem Plan.replay_fetch (st : Statement) (finish : List ρ → α) :
    (Plan.ask st fun answer => .orFail answer.rowsOf fun rows => .done (.ok (finish rows))).replay
        answers =
      ⟨((replyAt answers 0).rowsOf.mapError .database).map finish, [st]⟩ := by
  rw [replay, replyAt_zero]
  cases (replyAt answers 0).rowsOf with
  | ok rows => rfl
  | error f => rfl

namespace Config

variable {c : Config} {r : Resource} {d : Dialect} {p : Params} {s : Select}

/-- Without a select nothing is sent. -/
theorem replay_of_select_error {e : Error} (h : c.select r p = .error e) :
    (c.list r d p).replay answers = ⟨.error e, []⟩ ∧
      (c.paginate r d p).replay answers = ⟨.error e, []⟩ ∧
      (c.paginateSimply r d p).replay answers = ⟨.error e, []⟩ := by
  simp only [list, paginate, paginateSimply, h, Plan.withSelect, Plan.replay, and_self]

theorem replay_list (hs : c.select r p = .ok s) :
    (c.list r d p).replay answers =
      ⟨(replyAt answers 0).rowsOf.mapError .database, [s.statement d]⟩ := by
  have hfetch := Plan.replay_fetch answers (s.statement d) id
  rw [list, hs, Plan.withSelect]
  refine hfetch.trans ?_
  cases (replyAt answers 0).rowsOf <;> rfl

theorem replay_paginateSimply (hs : c.select r p = .ok s) :
    (c.paginateSimply r d p).replay answers =
      ⟨((replyAt answers 0).rowsOf.mapError .database).map (.ofRows · (c.pageRequest r p)),
        [(s.pageAndOne (c.pageRequest r p)).statement d]⟩ := by
  rw [paginateSimply, hs]
  exact Plan.replay_fetch answers _ _

/-- A page with totals ends where the count fails. -/
theorem replay_paginate_of_fault (hs : c.select r p = .ok s) {f : DbFault}
    (hcount : (replyAt answers 0).totalOf = .error f) :
    (c.paginate r d p).replay answers = ⟨.error (.database f), [s.countStatement d]⟩ := by
  simp only [paginate, hs, Plan.withSelect, Plan.replay, replyAt_zero, hcount, Plan.orFail]

/-- Once the count is known, the page is asked for. -/
theorem replay_paginate_of_total (hs : c.select r p = .ok s) {total : UInt64}
    (hcount : (replyAt answers 0).totalOf = .ok total) :
    (c.paginate r d p).replay answers =
      ⟨((replyAt answers 1).rowsOf.mapError .database).map
          (.ofRequest · total (c.pageRequest r p)),
        [s.countStatement d, (s.page (c.pageRequest r p)).statement d]⟩ := by
  have hpage := Plan.replay_fetch answers.tail ((s.page (c.pageRequest r p)).statement d)
    fun rows => Page.ofRequest rows total (c.pageRequest r p)
  rw [replyAt_tail] at hpage
  rw [paginate, hs]
  simp only [Plan.withSelect]
  rw [Plan.replay, replyAt_zero, hcount]
  simp only [Plan.orFail] at hpage ⊢
  rw [hpage]

end Config

/-- Listings send the select of their request, and nothing where there is none. A request without a
select fails for the reason for which it has none. Otherwise a listing sends exactly the select, a
page without totals one statement, and a page with totals the count and then, where the count is
known, the page. Every fault of the database is the error of the listing, and there is no page then.
The count is taken of the select without order and window: its condition has the text and the values
that the condition of the page has. -/
theorem listings_send_compiled_select (c : Config) (r : Resource) (d : Dialect) (p : Params) :
    (∀ e, c.select r p = .error e →
      (c.list r d p).replay answers = ⟨.error e, []⟩ ∧
      (c.paginate r d p).replay answers = ⟨.error e, []⟩ ∧
      (c.paginateSimply r d p).replay answers = ⟨.error e, []⟩) ∧
    ∀ s, c.select r p = .ok s →
      let request := c.pageRequest r p
      (c.list r d p).replay answers =
        ⟨(replyAt answers 0).rowsOf.mapError .database, [s.statement d]⟩ ∧
      (c.paginateSimply r d p).replay answers =
        ⟨((replyAt answers 0).rowsOf.mapError .database).map (.ofRows · request),
          [(s.pageAndOne request).statement d]⟩ ∧
      (∀ f, (replyAt answers 0).totalOf = .error f →
        (c.paginate r d p).replay answers = ⟨.error (.database f), [s.countStatement d]⟩) ∧
      (∀ total, (replyAt answers 0).totalOf = .ok total →
        (c.paginate r d p).replay answers =
          ⟨((replyAt answers 1).rowsOf.mapError .database).map (.ofRequest · total request),
            [s.countStatement d, (s.page request).statement d]⟩) ∧
      (∀ f, replyAt answers 0 = .failure f →
        ((c.list r d p).replay answers).result = .error (.database f) ∧
        ((c.paginateSimply r d p).replay answers).result = .error (.database f) ∧
        ((c.paginate r d p).replay answers).result = .error (.database f)) ∧
      (∀ total f, (replyAt answers 0).totalOf = .ok total → replyAt answers 1 = .failure f →
        ((c.paginate r d p).replay answers).result = .error (.database f)) ∧
      s.unordered.statement d = ⟨s.headText d ++ s.whereText d, s.whereValues⟩ ∧
      s.countStatement d = ⟨countText d (s.headText d ++ s.whereText d), s.whereValues⟩ ∧
      (s.page request).statement d =
        ⟨s.headText d ++ s.whereText d ++ s.orderText d ++ windowText d s.whereValues.length,
          s.whereValues ++
            [.uint64 request.perPage, .uint64 (request.perPage * request.index)]⟩ := by
  refine ⟨fun e h => Config.replay_of_select_error answers h, fun s hs => ?_⟩
  intro request
  have hlist := Config.replay_list (d := d) answers hs
  have hsimple := Config.replay_paginateSimply (d := d) answers hs
  refine ⟨hlist, hsimple, fun f => Config.replay_paginate_of_fault answers hs,
    fun total => Config.replay_paginate_of_total answers hs, fun f hf => ⟨?_, ?_, ?_⟩,
    fun total f hcount hf => ?_, s.statement_unordered d, ?_, s.statement_inWindow_eq d _⟩
  · rw [hlist, hf]
    rfl
  · rw [hsimple, hf]
    rfl
  · rw [Config.replay_paginate_of_fault answers hs (f := f) (by rw [hf]; rfl)]
  · rw [Config.replay_paginate_of_total answers hs hcount, hf]
    rfl
  · rw [s.countStatement_eq, s.statement_unordered]

end

namespace Sample

/-- The count comes about and the page does not; a strict request that is refused sends nothing. -/
theorem exchange_of_failing_page :
    let p := Params.ofQuery "scopes[active]=1&name=Ann&page=2&per_page=3"
    let refused := Params.ofQuery "nickname=Ann"
    let answers : List (Answer User) := [.total 5, .failure (.custom "down")]
    let s : Select := { usersResource.all with
      condition := [.single (.compare ⟨some "users", "active"⟩ .equal (.bool true)),
        .single (.compare ⟨none, "name"⟩ .equal (.text (some "Ann")))]
      order := [(⟨none, "created_at"⟩, .ascending)] }
    let rows := "SELECT \"users\".\"id\", \"users\".\"name\", \"users\".\"email\", " ++
      "\"users\".\"password\", \"users\".\"age\", \"users\".\"active\", " ++
      "\"users\".\"created_at\" FROM \"users\" " ++
      "WHERE \"users\".\"active\" = $1 AND \"name\" = $2"
    Config.extended.select usersResource p = .ok s ∧
      (Config.extended.paginate usersResource .postgres p).replay answers =
        ⟨.error (.database (.custom "down")), [
          ⟨"SELECT COUNT(*) AS num_items FROM (" ++ rows ++ ") AS \"sub_query\"",
            [.bool true, .text (some "Ann")]⟩,
          ⟨rows ++ " ORDER BY \"created_at\" ASC LIMIT $3 OFFSET $4",
            [.bool true, .text (some "Ann"), .uint64 3, .uint64 3]⟩]⟩ ∧
      (Config.extended.strict.paginate usersResource .postgres refused).replay answers =
        ⟨.error (.rejected (.invalidParameter "nickname")), []⟩ := by
  intro p refused answers s rows
  have hs : Config.extended.select usersResource p = .ok s := by rfl
  have hrequest : Config.extended.pageRequest usersResource p = ⟨2, 3⟩ := by rfl
  have hrefused : Config.extended.strict.select usersResource refused =
      .error (.rejected (.invalidParameter "nickname")) := by rfl
  obtain ⟨-, -, -, hpage, -, -, -, hcount, htext⟩ :=
    (listings_send_compiled_select answers Config.extended usersResource .postgres p).2 s hs
  have hvalues : s.whereValues = [.bool true, .text (some "Ann")] := rfl
  have hrows : s.headText .postgres ++ s.whereText .postgres = rows := by decide +kernel
  have hcounted : countText .postgres rows =
      "SELECT COUNT(*) AS num_items FROM (" ++ rows ++ ") AS \"sub_query\"" := by decide +kernel
  have hpaged : rows ++ s.orderText .postgres ++ windowText .postgres 2 =
      rows ++ " ORDER BY \"created_at\" ASC LIMIT $3 OFFSET $4" := by decide +kernel
  have hnone := (listings_send_compiled_select answers Config.extended.strict usersResource
    .postgres refused).1 _ hrefused
  have hpage := hpage 5 rfl
  rw [hcount, htext, hrequest, hvalues, hrows, hcounted] at hpage
  refine ⟨hs, hpage.trans ?_, hnone.2.1⟩
  rw [← hpaged]
  rfl

end Sample
end ListQuery
