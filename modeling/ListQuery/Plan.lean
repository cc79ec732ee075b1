import ListQuery.Resource

/-!
Plans: what a listing asks of the database, statement by statement, each chosen by the answers
before it. A plan can be run on recorded answers or on any function that answers statements.
-/
namespace ListQuery

open Sql

/-- What the database answers to a statement. -/
inductive Answer (ρ : Type) where
  | rows (rows : List ρ)
  | total (count : UInt64)
  | failure (fault : DbFault)

namespace Answer

variable {ρ : Type}

/-- The rows of an answer to a select. -/
def rowsOf : Answer ρ → Except DbFault (List ρ)
  | .rows rs => .ok rs
  | .failure f => .error f
  | .total _ => .error (.query "the answer holds no rows")

/-- The number in an answer to a count. An answer without a row counts none. -/
def totalOf : Answer ρ → Except DbFault UInt64
  | .total n => .ok n
  | .failure f => .error f
  | .rows [] => .ok 0
  | .rows (_ :: _) => .error (.query "the answer holds no count")

end Answer

/-- Either done, or a statement to send and what to do with its answer. -/
inductive Plan (ρ α : Type) where
  | done (result : Except Error α)
  | ask (statement : Statement) (next : Answer ρ → Plan ρ α)

/-- What came of a plan: its result and the statements that were sent. -/
structure Run (α : Type) where
  result : Except Error α
  statements : List Statement

namespace Plan

variable {ρ α : Type}

/-- Goes on with what was read from an answer, or ends with the fault. -/
def orFail {β : Type} (read : Except DbFault β) (next : β → Plan ρ α) : Plan ρ α :=
  match read with
  | .ok b => next b
  | .error f => .done (.error (.database f))

/-- The fault of a statement for which no answer is left. -/
def exhausted : DbFault := .query "`query_results` buffer is empty."

/-- Runs a plan on answers recorded in order. -/
def replay : Plan ρ α → List (Answer ρ) → Run α
  | .done r, _ => ⟨r, []⟩
  | .ask s next, answers =>
    let run := (next (answers.head?.getD (.failure exhausted))).replay answers.tail
    ⟨run.result, s :: run.statements⟩

/-- Runs a plan on a database that answers every statement by itself. -/
def runOn (answer : Statement → Answer ρ) : Plan ρ α → Run α
  | .done r => ⟨r, []⟩
  | .ask s next =>
    let run := runOn answer (next (answer s))
    ⟨run.result, s :: run.statements⟩

/-- A plan that starts with a select, unless there is none. -/
def withSelect (select : Except Error Select) (next : Select → Plan ρ α) : Plan ρ α :=
  match select with
  | .ok s => next s
  | .error e => .done (.error e)

end Plan

/-- The rows of one page of a select, the page counted from zero. -/
def Sql.Select.page (s : Select) (r : PageRequest) : Select :=
  s.inWindow ⟨r.perPage, r.perPage * r.index⟩

/-- The rows of one page of a select, and one row more if there is one. -/
def Sql.Select.pageAndOne (s : Select) (r : PageRequest) : Select :=
  s.inWindow ⟨Saturating.add r.perPage 1, r.offset⟩

namespace Config

variable {ρ : Type}

/-- All rows that match a request. -/
def list (c : Config) (r : Resource) (d : Dialect) (params : Params) : Plan ρ (List ρ) :=
  .withSelect (c.select r params) fun select =>
    .ask (select.statement d) fun answer => .orFail answer.rowsOf fun rows => .done (.ok rows)

/-- The page of rows that a request asks for, with totals: first the count, then the rows. -/
def paginate (c : Config) (r : Resource) (d : Dialect) (params : Params) : Plan ρ (Page ρ) :=
  let request := c.pageRequest r params
  .withSelect (c.select r params) fun select =>
    .ask (select.countStatement d) fun answer => .orFail answer.totalOf fun total =>
      .ask ((select.page request).statement d) fun answer => .orFail answer.rowsOf fun rows =>
        .done (.ok (.ofRequest rows total request))

/-- The page of rows that a request asks for, and whether another follows. -/
def paginateSimply (c : Config) (r : Resource) (d : Dialect) (params : Params) :
    Plan ρ (SimplePage ρ) :=
  let request := c.pageRequest r params
  .withSelect (c.select r params) fun select =>
    .ask ((select.pageAndOne request).statement d) fun answer => .orFail answer.rowsOf fun rows =>
      .done (.ok (.ofRows rows request))

/-- What a page with totals notes in the log when it has come about. -/
def fetchedEvents (r : Resource) (result : Except Error (Page ρ)) : List Event :=
  match result with
  | .ok page => [.fetchedPage r.table page.currentPage page.total]
  | .error _ => []

end Config
end ListQuery
