import TypedQuery.Rows.Error

/-! Queries that wait. -/
namespace TypedQuery.Rows

/-- When a query is ready. -/
inductive Readiness where
  | atOnce
  | after (milliseconds : Nat)
  | never
  deriving DecidableEq, Repr

/-- Whether a query is ready within a limit. Clocks tick in milliseconds, a limit ends at the next
tick, and a query that is ready at that tick is in time. -/
def Readiness.within (limit : Duration) : Readiness → Bool
  | atOnce => true
  | after milliseconds => milliseconds ≤ limit.milliseconds
  | never => false

/-- The outcome of a query, if it is ready within the limit. There is no answer for a query that
is never ready and has no limit. -/
def withTimeout {α : Type} (limit : Option Duration) (ready : Readiness)
    (outcome : Except RowError α) : Option (Except RowError α) :=
  match limit with
  | none => if ready = .never then none else some outcome
  | some limit => some (if ready.within limit then outcome else .error (.timedOut limit))

/-- Where a blocking call is made. -/
inductive Scheduler where
  | none
  | currentThread
  | multiThread
  deriving DecidableEq, Repr

/-- The outcome of a query that the caller blocks on. Only a scheduler with other threads can
drive it. -/
def blockOn {α : Type} (scheduler : Scheduler) (outcome : Except RowError α) : Except RowError α :=
  match scheduler with
  | .none => .error .noScheduler
  | .currentThread => .error .singleThread
  | .multiThread => outcome

end TypedQuery.Rows
