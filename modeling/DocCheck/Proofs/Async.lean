import DocCheck.Async
import Mathlib.Logic.Relation
import Mathlib.Data.List.Forall2

/-!
# The order in which jobs end

A computation goes by what its jobs come to, and never by which of them have ended. What it returns
can therefore be read off without any jobs, as if every job ended when it is started
(`Async.value?`). Along a run this reading does not change (`State.value?_of_reaches`), a
computation with such a reading is never stuck (`State.progress`), and no run goes on for ever
(`State.terminates`): in whatever order the jobs end, the computation returns this value.

* `Async.Returns` — a computation returns a value in whatever order its jobs end;
* `Async.value?` — the value as it is read off;
* `Async.returns_of_value?` — a computation returns the value that is read off.
-/

namespace DocCheck.Async

variable {ρ α : Type} {files : Files} {s s' : State ρ α} {a : α}

/-! ### Runs -/

/-- A state that comes about after some steps. -/
abbrev State.Reaches : State ρ α → State ρ α → Prop := Relation.ReflTransGen Step

/-- **Returning.** Over some files a computation returns a value, in whatever order its jobs end and
whenever each of them does. -/
structure Returns (files : Files) (p : Async ρ α) (a : α) : Prop where
  /-- No run returns anything else. -/
  unique : ∀ s b, (p.start files).Reaches s → s.rest = .done b → b = a
  /-- No run is stuck before it has returned. -/
  progress : ∀ s, (p.start files).Reaches s → s.rest = .done a ∨ ∃ s', Step s s'
  /-- No run goes on for ever. -/
  terminates : Acc (fun s' s => Step s s') (p.start files)

/-! ### The value of a computation -/

/-- What a job comes to over some files, or has come to. -/
def Job.result (files : Files) : Job ρ → ρ
  | running work => work files
  | ended result => result

/-- What a computation returns if each job ends when it is started. `results` is what the jobs that
were started before come to. A computation that waits for a job that was not started returns
nothing. -/
def value? (files : Files) : Async ρ α → List ρ → Option α
  | .done a, _ => some a
  | .spawn work next, results => (next results.length).value? files (results ++ [work files])
  | .join job next, results =>
    match results[job]? with
    | some result => (next result).value? files results
    | none => none

theorem value?_join {job : Nat} {result : ρ} {results : List ρ} (next : ρ → Async ρ α)
    (h : results[job]? = some result) :
    (Async.join job next).value? files results = (next result).value? files results := by
  rw [value?, h]

theorem value?_join_of_none {job : Nat} {results : List ρ} (next : ρ → Async ρ α)
    (h : results[job]? = none) : (Async.join job next).value? files results = none := by
  rw [value?, h]

/-- Whether a job has not ended yet. -/
def Job.isRunning : Job ρ → Bool
  | running _ => true
  | ended _ => false

namespace State

/-- What the jobs come to, ended or not. -/
def results (s : State ρ α) : List ρ := s.jobs.map (Job.result s.files)

/-- What is returned if every job ends now. -/
def value? (s : State ρ α) : Option α := s.rest.value? s.files s.results

/-- How many jobs have not ended yet. -/
def running (s : State ρ α) : Nat := s.jobs.countP Job.isRunning

theorem getElem?_results {s : State ρ α} {job : Nat} {j : Job ρ} (h : s.jobs[job]? = some j) :
    s.results[job]? = some (j.result s.files) := by
  rw [results, List.getElem?_map, h, Option.map_some]

end State

/-- A job that ends comes to what it was to come to. -/
theorem results_finish (files : Files) {jobs : List (Job ρ)} {job : Nat} {work : Files → ρ}
    (rest : Async ρ α) (h : jobs[job]? = some (.running work)) :
    State.results ⟨files, jobs.set job (.ended (work files)), rest⟩ =
      State.results ⟨files, jobs, rest⟩ := by
  obtain ⟨hjob, hwork⟩ := List.getElem?_eq_some_iff.mp h
  have hlength : job < (jobs.map (Job.result files)).length := by rwa [List.length_map]
  have hsame : Job.result files (.ended (work files)) = (jobs.map (Job.result files))[job] := by
    rw [List.getElem_map, hwork]
    rfl
  calc (jobs.set job (.ended (work files))).map (Job.result files)
    _ = (jobs.map (Job.result files)).set job (Job.result files (.ended (work files))) :=
      List.map_set
    _ = jobs.map (Job.result files) := by rw [hsame, List.set_getElem_self]

/-- **One step** does not change the value of a computation: a job that is started or has ended
comes to what it comes to, and this is what is passed on when it is waited for. -/
theorem Step.value?_eq (h : Step s s') : s'.value? = s.value? := by
  cases h with
  | @spawn files jobs work next =>
    have hlength : (jobs.map (Job.result files)).length = jobs.length := List.length_map _
    unfold State.value? State.results
    dsimp only
    rw [value?, List.map_append, hlength]
    rfl
  -- `Job.result` does not ask whether a job has ended, so the results are the same as before.
  | @finish files jobs rest job work hrunning =>
    have hresults := results_finish files rest hrunning
    unfold State.value?
    rw [hresults]
  | @join files jobs job result next hended =>
    have hresult := State.getElem?_results (s := ⟨files, jobs, .join job next⟩) hended
    exact (value?_join next hresult).symm

namespace State

/-- **A whole run** does not change it either. -/
theorem value?_of_reaches (h : s.Reaches s') : s'.value? = s.value? := by
  induction h with
  | refl => rfl
  | tail _ hstep ih => rw [hstep.value?_eq, ih]

/-- **Progress.** A computation that has a value returns it, or can go on: the job that it waits for
was started, and if this job has not ended yet, then it can end. -/
theorem progress (h : s.value? = some a) : s.rest = .done a ∨ ∃ s', Step s s' := by
  obtain ⟨files, jobs, rest⟩ := s
  cases rest with
  | done b =>
    have hb : b = a := Option.some.inj h
    exact .inl (by rw [hb])
  | spawn work next => exact .inr ⟨_, .spawn⟩
  | join job next =>
    refine .inr ?_
    cases hjob : jobs[job]? with
    | none =>
      -- A job that was never started has no result, and the computation no value.
      have hnone : (jobs.map (Job.result files))[job]? = none := by
        rw [List.getElem?_map, hjob, Option.map_none]
      have hvalue : value? (⟨files, jobs, .join job next⟩ : State ρ α) = none :=
        value?_join_of_none next hnone
      rw [hvalue] at h
      cases h
    | some j =>
      cases j with
      | running work => exact ⟨_, .finish hjob⟩
      | ended result => exact ⟨_, .join hjob⟩

/-- A job that ends is one job less that runs. -/
theorem running_finish (files : Files) {jobs : List (Job ρ)} {job : Nat} {work : Files → ρ}
    (rest : Async ρ α) (h : jobs[job]? = some (.running work)) :
    running ⟨files, jobs.set job (.ended (work files)), rest⟩ <
      running (⟨files, jobs, rest⟩ : State ρ α) := by
  obtain ⟨hjob, hwork⟩ := List.getElem?_eq_some_iff.mp h
  have hpositive : 0 < jobs.countP Job.isRunning :=
    List.countP_pos_iff.mpr ⟨.running work, List.mem_of_getElem? h, rfl⟩
  have hended : Job.isRunning (.ended (work files)) = false := rfl
  have hrunning : Job.isRunning (.running work) = true := rfl
  change (jobs.set job (.ended (work files))).countP Job.isRunning < jobs.countP Job.isRunning
  rw [List.countP_set hjob, hwork, hended, hrunning, if_pos rfl, if_neg Bool.false_ne_true]
  omega

/-- A computation that can only be left waiting for so long ends: as long as what is left to do
stays the same, each step is the end of a job, and there are only so many jobs that run. -/
theorem acc_of_next {files : Files} {rest : Async ρ α}
    (h : ∀ jobs s', Step ⟨files, jobs, rest⟩ s' →
      (∃ job work, jobs[job]? = some (.running work) ∧
        s' = ⟨files, jobs.set job (.ended (work files)), rest⟩) ∨ Acc (fun s' s => Step s s') s')
    (jobs : List (Job ρ)) : Acc (fun s' s => Step s s') (⟨files, jobs, rest⟩ : State ρ α) := by
  induction hn : running (⟨files, jobs, rest⟩ : State ρ α) using Nat.strongRecOn
    generalizing jobs with
  | ind n ih =>
    refine ⟨_, fun s' hstep => ?_⟩
    rcases h jobs s' hstep with ⟨job, work, hjob, rfl⟩ | hacc
    · have hless := running_finish files rest hjob
      exact ih _ (hn ▸ hless) _ rfl
    · exact hacc

/-- **Termination.** No run goes on for ever, by induction on what is left to do. -/
theorem terminates (s : State ρ α) : Acc (fun s' s => Step s s') s := by
  obtain ⟨files, jobs, rest⟩ := s
  induction rest generalizing jobs with
  | done b =>
    refine acc_of_next (fun jobs s' hstep => ?_) jobs
    cases hstep with
    | finish hjob => exact .inl ⟨_, _, hjob, rfl⟩
  -- Each step but the end of a job leads to what `spawn` or `join` goes on with.
  | spawn work next ih =>
    refine acc_of_next (fun jobs s' hstep => ?_) jobs
    cases hstep with
    | spawn => exact .inr (ih _ _)
    | finish hjob => exact .inl ⟨_, _, hjob, rfl⟩
  | join job next ih =>
    refine acc_of_next (fun jobs s' hstep => ?_) jobs
    cases hstep with
    | finish hjob => exact .inl ⟨_, _, hjob, rfl⟩
    | join _ => exact .inr (ih _ _)

end State

/-- **In whatever order jobs end,** a computation returns the value that is read off. -/
theorem returns_of_value? {p : Async ρ α} (h : p.value? files [] = some a) :
    Returns files p a where
  unique := by
    intro s b hs hb
    have hvalue : s.value? = some a := (State.value?_of_reaches hs).trans h
    have hdone : s.value? = some b := by
      unfold State.value?
      rw [hb]
      rfl
    rw [hdone, Option.some.injEq] at hvalue
    exact hvalue
  progress := by
    intro s hs
    exact State.progress ((State.value?_of_reaches hs).trans h)
  terminates := State.terminates _

/-! ### Many jobs -/

/-- The jobs with these numbers come to these results. -/
def ComeTo (results : List ρ) (jobs : List Nat) (found : List ρ) : Prop :=
  List.Forall₂ (fun job r => results[job]? = some r) jobs found

namespace ComeTo

variable {results found found' : List ρ} {jobs jobs' : List Nat}

theorem later (h : ComeTo results jobs found) (more : List ρ) :
    ComeTo (results ++ more) jobs found := by
  refine List.Forall₂.imp (fun job r hr => ?_) h
  rwa [List.getElem?_append_left (List.getElem?_eq_some_iff.mp hr).1]

theorem append (h : ComeTo results jobs found) (h' : ComeTo results jobs' found') :
    ComeTo results (jobs ++ jobs') (found ++ found') :=
  List.rel_append h h'

theorem concat (h : ComeTo results jobs found) (r : ρ) :
    ComeTo (results ++ [r]) (jobs ++ [results.length]) (found ++ [r]) :=
  (h.later [r]).append (.cons List.getElem?_concat_length .nil)

end ComeTo

theorem value?_joinAll {results found : List ρ} {jobs : List Nat} (h : ComeTo results jobs found)
    (next : List ρ → Async ρ α) :
    (joinAll jobs next).value? files results = (next found).value? files results := by
  induction h generalizing next with
  | nil => rfl
  | @cons job r jobs found hr _ ih =>
    rw [joinAll, value?, hr]
    exact ih fun rest => next (r :: rest)

/-- Jobs that are started in a row come to what their works come to. -/
theorem value?_spawnAll (files : Files) (works : List (Files → ρ)) (results : List ρ)
    (next : List Nat → Async ρ α) :
    ∃ jobs, ComeTo (results ++ works.map fun work => work files) jobs
        (works.map fun work => work files) ∧
      (spawnAll works next).value? files results =
        (next jobs).value? files (results ++ works.map fun work => work files) := by
  induction works generalizing results next with
  | nil =>
    refine ⟨[], .nil, ?_⟩
    rw [List.map_nil, List.append_nil]
    rfl
  | cons work rest ih =>
    obtain ⟨jobs, hjobs, hvalue⟩ :=
      ih (results ++ [work files]) fun jobs => next (results.length :: jobs)
    rw [List.append_assoc, List.singleton_append] at hjobs hvalue
    -- The first job gets the number behind all earlier ones.
    refine ⟨results.length :: jobs, .cons ?_ hjobs, hvalue⟩
    rw [List.getElem?_append_right (Nat.le_refl _), Nat.sub_self]
    rfl

end DocCheck.Async
