import DocCheck.Files

/-!
# Computations with jobs

A computation may start jobs and wait for them. A job runs beside the computation and beside the
other jobs; it may end at any time, long before it is waited for or only after everything else. What
it comes to depends on the files alone, which never change while it runs.

* `Async` — computations that start jobs and wait for them;
* `Async.spawnAll`, `Async.joinAll` — many jobs in a row;
* `Async.State` — a computation on its way, with its jobs;
* `Async.Step` — one step, of the computation or of one of the jobs.
-/

namespace DocCheck

/-- A computation that returns an `α` and starts jobs that come to a `ρ` each. Jobs are numbered in
the order in which they are started. -/
inductive Async (ρ α : Type) where
  /-- There is nothing left to do but to return a value. Jobs that still run are left alone. -/
  | done (value : α)
  /-- Starts a job, and goes on with its number. -/
  | spawn (work : Files → ρ) (next : Nat → Async ρ α)
  /-- Waits for the job with a number, and goes on with what it comes to. -/
  | join (job : Nat) (next : ρ → Async ρ α)

namespace Async

variable {ρ α : Type}

/-- Starts a job for each work, in order, and goes on with their numbers. -/
def spawnAll : List (Files → ρ) → (List Nat → Async ρ α) → Async ρ α
  | [], next => next []
  | work :: rest, next => .spawn work fun job => spawnAll rest fun jobs => next (job :: jobs)

/-- Waits for each of the jobs, in order, and goes on with what they come to. -/
def joinAll : List Nat → (List ρ → Async ρ α) → Async ρ α
  | [], next => next []
  | job :: rest, next => .join job fun result => joinAll rest fun results => next (result :: results)

/-- A job that was started. -/
inductive Job (ρ : Type) where
  | running (work : Files → ρ)
  | ended (result : ρ)

/-- A computation on its way. -/
structure State (ρ α : Type) where
  /-- The files. -/
  files : Files
  /-- The jobs that were started, in order. -/
  jobs : List (Job ρ)
  /-- What is left to do. -/
  rest : Async ρ α

/-- A computation before its first step. -/
def start (files : Files) (p : Async ρ α) : State ρ α := ⟨files, [], p⟩

/-- **One step.** The computation goes on, or some job ends. No order is imposed on the two: a job
may end at any time, also when the computation has returned. -/
inductive Step : State ρ α → State ρ α → Prop where
  /-- A job is started. -/
  | spawn {files : Files} {jobs : List (Job ρ)} {work : Files → ρ} {next : Nat → Async ρ α} :
    Step ⟨files, jobs, .spawn work next⟩ ⟨files, jobs ++ [.running work], next jobs.length⟩
  /-- A job ends with what it comes to over the files as they are. -/
  | finish {files : Files} {jobs : List (Job ρ)} {rest : Async ρ α} {job : Nat} {work : Files → ρ}
    (h : jobs[job]? = some (.running work)) :
    Step ⟨files, jobs, rest⟩ ⟨files, jobs.set job (.ended (work files)), rest⟩
  /-- A job that is waited for has ended. -/
  | join {files : Files} {jobs : List (Job ρ)} {job : Nat} {result : ρ} {next : ρ → Async ρ α}
    (h : jobs[job]? = some (.ended result)) :
    Step ⟨files, jobs, .join job next⟩ ⟨files, jobs, next result⟩

end Async

end DocCheck
