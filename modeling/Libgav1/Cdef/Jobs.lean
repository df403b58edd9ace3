/-
# The band jobs of a window

With a thread pool, `ApplyCdefThreaded` filters each window band by band. Of the window's
`vertical_units_per_window` bands the first `jobs_for_threadpool` go to the pool as closures
and the calling thread runs the others itself; it then waits on the `BlockingCounter`
`pending_jobs`, which each closure decrements after its band, and copies the window back.

The model is the window's protocol from the construction of `pending_jobs`: the calling
thread's loop variables and where it is, the closures handed to the pool (queued, past their
band, past their `Decrement()`), the counter's `count_`, and the record of the bands run.
`BlockingCounter` is modelled by its count: `Decrement()` lowers it by one and `Wait()`
returns once it is 0. A step is one thread's atomic step. Any queued closure may start next,
which covers every order the pool's threads can take them in. A band is one step: the bands
of a window write disjoint parts of the window buffer and read neither buffer
(`applyCdefThreaded_windowWrites`), so bands that overlap in time leave what the same bands
run one after the other leave.

`WindowJobs.Inv` holds in every state a run reaches. From it: the loop runs
`⌈actual / 16⌉` times; the first `jobs_for_threadpool` bands are scheduled and the rest, at
least one, run inline; `Wait()` waits for exactly the scheduled closures not yet finished;
no state but the copy-back is stuck; and the copy-back starts only after every closure has
finished and every band has run exactly once, `n + 2 + 2·jobs_for_threadpool` steps after
the start (`applyCdefThreaded_windowJobs`). The order the bands ran in is one that the
window model of `Threaded` accepts (`applyCdefWindow_windowJobs`).
-/

import Libgav1.Cdef.Threaded

namespace Libgav1

/-- `jobs_for_threadpool`: how many of a window's `vertical_units_per_window` bands go to a
pool of `num_workers` threads. The model takes the `int` product exactly. -/
def jobsForThreadpool (verticalUnitsPerWindow numWorkers : Nat) : Nat :=
  verticalUnitsPerWindow * numWorkers / (numWorkers + 1)

/-- The pool's share and the caller's add up to all the bands: the caller runs
`⌈n / (num_workers + 1)⌉` of them. -/
theorem jobsForThreadpool_add (n numWorkers : Nat) :
    jobsForThreadpool n numWorkers + (n + numWorkers) / (numWorkers + 1) = n := by
  have hpool := Nat.div_add_mod (n * numWorkers) (numWorkers + 1)
  have hcaller := Nat.div_add_mod (n + numWorkers) (numWorkers + 1)
  have := Nat.mod_lt (n * numWorkers) (by omega : 0 < numWorkers + 1)
  have := Nat.mod_lt (n + numWorkers) (by omega : 0 < numWorkers + 1)
  have hn : (numWorkers + 1) * n = n * numWorkers + n := by rw [Nat.mul_comm, Nat.mul_succ]
  unfold jobsForThreadpool
  generalize n * numWorkers / (numWorkers + 1) = pool at hpool
  generalize (n + numWorkers) / (numWorkers + 1) = caller at hcaller
  have hlow : (numWorkers + 1) * (pool + caller) < (numWorkers + 1) * (n + 1) := by
    rw [Nat.mul_add, Nat.mul_add]; omega
  have hhigh : (numWorkers + 1) * n < (numWorkers + 1) * (pool + caller + 1) := by
    rw [Nat.mul_add, Nat.mul_add]; omega
  have := Nat.lt_of_mul_lt_mul_left hlow
  have := Nat.lt_of_mul_lt_mul_left hhigh
  omega

/-- Where the calling thread is in a window: in the `row64x64` loop, in
`pending_jobs.Wait()`, or past it, in the copy-back. -/
inductive MainPc
  | loop
  | wait
  | copyBack
  deriving DecidableEq, Repr

/-- A window's jobs from the construction of `pending_jobs`: the calling thread's loop
variables `row64x64` and `job_count` and where it is; the closures handed to the pool, each
by the `row64x64` it captured, as queued, past its band, or past its `Decrement()`; the
counter's `count_`; and the bands `ApplyCdefForOneRowInWindow` has run, by their `row64x64`,
in the order they ran. -/
structure WindowJobs where
  row64x64 : Nat
  jobCount : Nat
  main : MainPc
  queued : List Nat
  ranBand : List Nat
  finished : List Nat
  pendingJobs : Int
  bandRuns : List Nat
  deriving DecidableEq, Repr

/-- One atomic step of a thread: the calling thread's next step, a pool thread running the
band of the queued closure that captured `row64x64`, or that closure's `Decrement()`. -/
inductive JobAction
  | main
  | runBand (row64x64 : Nat)
  | decrement (row64x64 : Nat)
  deriving DecidableEq, Repr

namespace WindowJobs

/-- Before the loop: `BlockingCounter pending_jobs(jobs_for_threadpool); int job_count = 0;`. -/
def init (jobs : Nat) : WindowJobs where
  row64x64 := 0
  jobCount := 0
  main := .loop
  queued := []
  ranBand := []
  finished := []
  pendingJobs := jobs
  bandRuns := []

/-- The calling thread's step in a window `actual` 4x4 rows high with `jobs` closures for the
pool: an iteration of the `row64x64` loop, which schedules the band while
`job_count < jobs_for_threadpool` and runs it inline otherwise; the loop's exit into
`Wait()`; and the return of `Wait()`, once the counter is 0. -/
def mainStep (actual jobs : Nat) (s : WindowJobs) : Option WindowJobs :=
  match s.main with
  | .loop =>
    if s.row64x64 < actual then
      if s.jobCount < jobs then
        some { s with
          queued := s.queued ++ [s.row64x64]
          row64x64 := s.row64x64 + kStep64x64
          jobCount := s.jobCount + 1 }
      else
        some { s with
          bandRuns := s.bandRuns ++ [s.row64x64]
          row64x64 := s.row64x64 + kStep64x64
          jobCount := s.jobCount + 1 }
    else some { s with main := .wait }
  | .wait => if s.pendingJobs = 0 then some { s with main := .copyBack } else none
  | .copyBack => none

/-- A step of the window, `none` where the thread cannot take it: the calling thread's, a
pool thread starting a queued closure (its `ApplyCdefForOneRowInWindow`), or a closure past
its band calling `Decrement()`. -/
def step (actual jobs : Nat) (s : WindowJobs) : JobAction → Option WindowJobs
  | .main => s.mainStep actual jobs
  | .runBand row64x64 =>
    if row64x64 ∈ s.queued then
      some { s with
        queued := s.queued.erase row64x64
        ranBand := s.ranBand ++ [row64x64]
        bandRuns := s.bandRuns ++ [row64x64] }
    else none
  | .decrement row64x64 =>
    if row64x64 ∈ s.ranBand then
      some { s with
        ranBand := s.ranBand.erase row64x64
        finished := s.finished ++ [row64x64]
        pendingJobs := s.pendingJobs - 1 }
    else none

/-- The state a sequence of steps leads to, if every step can be taken. -/
def run (actual jobs : Nat) (s : WindowJobs) (actions : List JobAction) : Option WindowJobs :=
  actions.foldlM (step actual jobs) s

theorem run_cons (actual jobs : Nat) (s : WindowJobs) (a : JobAction) (actions : List JobAction) :
    s.run actual jobs (a :: actions) = (s.step actual jobs a).bind (·.run actual jobs actions) :=
  rfl

section Steps

variable {actual jobs : Nat} {s s' : WindowJobs} {a : JobAction}

/-- Everything a step can do. -/
theorem step_cases (h : s.step actual jobs a = some s') :
    (s.main = .loop ∧ s.row64x64 < actual ∧ s.jobCount < jobs ∧
      s' = { s with
        queued := s.queued ++ [s.row64x64]
        row64x64 := s.row64x64 + kStep64x64
        jobCount := s.jobCount + 1 }) ∨
    (s.main = .loop ∧ s.row64x64 < actual ∧ jobs ≤ s.jobCount ∧
      s' = { s with
        bandRuns := s.bandRuns ++ [s.row64x64]
        row64x64 := s.row64x64 + kStep64x64
        jobCount := s.jobCount + 1 }) ∨
    (s.main = .loop ∧ actual ≤ s.row64x64 ∧ s' = { s with main := .wait }) ∨
    (s.main = .wait ∧ s.pendingJobs = 0 ∧ s' = { s with main := .copyBack }) ∨
    (∃ r ∈ s.queued, s' = { s with
      queued := s.queued.erase r
      ranBand := s.ranBand ++ [r]
      bandRuns := s.bandRuns ++ [r] }) ∨
    (∃ r ∈ s.ranBand, s' = { s with
      ranBand := s.ranBand.erase r
      finished := s.finished ++ [r]
      pendingJobs := s.pendingJobs - 1 }) := by
  cases a with
  | main =>
    simp only [step, mainStep] at h
    split at h <;> rename_i hmain
    · split at h
      · split at h
        · exact .inl ⟨hmain, ‹_›, ‹_›, (Option.some.inj h).symm⟩
        · exact .inr (.inl ⟨hmain, ‹_›, by omega, (Option.some.inj h).symm⟩)
      · exact .inr (.inr (.inl ⟨hmain, by omega, (Option.some.inj h).symm⟩))
    · split at h
      · exact .inr (.inr (.inr (.inl ⟨hmain, ‹_›, (Option.some.inj h).symm⟩)))
      · cases h
    · cases h
  | runBand r =>
    simp only [step] at h
    split at h
    · exact .inr (.inr (.inr (.inr (.inl ⟨r, ‹_›, (Option.some.inj h).symm⟩))))
    · cases h
  | decrement r =>
    simp only [step] at h
    split at h
    · exact .inr (.inr (.inr (.inr (.inr ⟨r, ‹_›, (Option.some.inj h).symm⟩))))
    · cases h

end Steps

/-- What holds in every state a window's run reaches, for a window `actual` 4x4 rows high,
that is `(actual + 15) / 16` bands, of which the first `jobs` go to the pool. -/
structure Inv (actual jobs : Nat) (s : WindowJobs) : Prop where
  /-- `row64x64` and `job_count` advance together, `job_count` up to the band count. -/
  row : s.row64x64 = kStep64x64 * s.jobCount
  jobCount_le : s.jobCount ≤ (actual + 15) / 16
  /-- Past the loop, the loop has run once per band. -/
  loopDone : s.main ≠ .loop → s.jobCount = (actual + 15) / 16
  /-- The closures are those of the loop's first `jobs` iterations, each in one place. -/
  closures : (s.queued ++ s.ranBand ++ s.finished).Perm
    ((List.range (min s.jobCount jobs)).map (kStep64x64 * ·))
  /-- The counter is `jobs` less one for each `Decrement()`. -/
  pending : s.pendingJobs = jobs - s.finished.length
  /-- The bands run are those of the closures past their band and, from iteration `jobs`
  on, the loop's own. -/
  bandRuns : s.bandRuns.Perm (s.ranBand ++ s.finished ++
    (List.range' jobs (s.jobCount - jobs)).map (kStep64x64 * ·))
  /-- The copy-back starts with no closure left. -/
  copyBack : s.main = .copyBack → s.queued = [] ∧ s.ranBand = []

/-- The steps a run takes from `s` to the copy-back: the loop's remaining iterations and its
exit, two for each closure not yet scheduled or still queued, one for each closure past its
band, and the return of `Wait()`. -/
def stepsLeft (n jobs : Nat) (s : WindowJobs) : Nat :=
  (n - s.jobCount) + 2 * (jobs - s.jobCount) + 2 * s.queued.length + s.ranBand.length +
    match s.main with
    | .loop => 2
    | .wait => 1
    | .copyBack => 0

theorem inv_init (actual jobs : Nat) : (init jobs).Inv actual jobs where
  row := rfl
  jobCount_le := Nat.zero_le _
  loopDone h := absurd rfl h
  closures := by simp [init]
  pending := by simp [init]
  bandRuns := by simp [init]
  copyBack h := nomatch h

theorem stepsLeft_init (n jobs : Nat) : (init jobs).stepsLeft n jobs = n + 2 + 2 * jobs := by
  simp only [stepsLeft, init, List.length_nil]; omega

/-- At the copy-back no thread can take a step. -/
theorem Inv.stuck {actual jobs : Nat} {s : WindowJobs} (hinv : s.Inv actual jobs)
    (hmain : s.main = .copyBack) (a : JobAction) : s.step actual jobs a = none := by
  obtain ⟨hq, hb⟩ := hinv.copyBack hmain
  cases a <;> simp [WindowJobs.step, mainStep, hmain, hq, hb]

section Invariant

variable {actual jobs : Nat} {s s' : WindowJobs} {a : JobAction}
  (hjobs : jobs ≤ (actual + 15) / 16)
include hjobs

/-- Every step keeps the invariant and takes one of the steps left. -/
theorem Inv.step (hinv : s.Inv actual jobs) (h : s.step actual jobs a = some s') :
    s'.Inv actual jobs ∧ s'.stepsLeft ((actual + 15) / 16) jobs + 1 =
      s.stepsLeft ((actual + 15) / 16) jobs := by
  obtain ⟨hrow, hle, hdone, hclosures, hpending, hbands, hcopy⟩ := hinv
  have hrow16 : s.row64x64 = 16 * s.jobCount := hrow
  rcases step_cases h with ⟨hmain, hlt, hjc, rfl⟩ | ⟨hmain, hlt, hjc, rfl⟩ | ⟨hmain, hge, rfl⟩ |
    ⟨hmain, hzero, rfl⟩ | ⟨r, hr, rfl⟩ | ⟨r, hr, rfl⟩
  · -- the loop schedules its band
    rw [Nat.min_eq_left (by omega : s.jobCount ≤ jobs)] at hclosures
    refine ⟨⟨by dsimp only; rw [hrow, Nat.mul_succ], by dsimp only; omega, fun h => absurd hmain h,
      ?_, hpending, ?_, fun h => nomatch hmain.symm.trans h⟩, ?_⟩
    · dsimp only
      rw [Nat.min_eq_left hjc, List.range_succ, List.map_append, List.map_singleton, ← hrow]
      refine List.perm_iff_count.2 fun a => ?_
      have := List.perm_iff_count.1 hclosures a
      simp only [List.count_append] at this ⊢
      omega
    · dsimp only; rwa [show s.jobCount + 1 - jobs = s.jobCount - jobs by omega]
    · simp only [stepsLeft, hmain, List.length_append, List.length_singleton]; omega
  · -- the loop runs its band inline
    refine ⟨⟨by dsimp only; rw [hrow, Nat.mul_succ], by dsimp only; omega, fun h => absurd hmain h,
      ?_, hpending, ?_, fun h => nomatch hmain.symm.trans h⟩, ?_⟩
    · rw [Nat.min_eq_right hjc] at hclosures
      dsimp only; rwa [Nat.min_eq_right (Nat.le_succ_of_le hjc)]
    · dsimp only
      rw [show s.jobCount + 1 - jobs = s.jobCount - jobs + 1 by omega, List.range'_concat,
        List.map_append, List.map_singleton,
        show jobs + 1 * (s.jobCount - jobs) = s.jobCount by omega, ← hrow]
      refine List.perm_iff_count.2 fun a => ?_
      have := List.perm_iff_count.1 hbands a
      simp only [List.count_append] at this ⊢
      omega
    · simp only [stepsLeft, hmain]; omega
  · -- the loop ends
    have hn : s.jobCount = (actual + 15) / 16 := by omega
    refine ⟨⟨hrow, hle, fun _ => hn, hclosures, hpending, hbands, fun h => nomatch h⟩, ?_⟩
    simp only [stepsLeft, hmain]
  · -- `Wait()` returns
    have hn := hdone (hmain ▸ nofun)
    have hlength := hclosures.length_eq
    simp only [List.length_append, List.length_map, List.length_range, hn,
      Nat.min_eq_right hjobs] at hlength
    have hfinished : s.finished.length = jobs := by rw [hpending] at hzero; omega
    refine ⟨⟨hrow, hle, fun _ => hn, hclosures, hpending, hbands,
      fun _ => ⟨List.length_eq_zero.1 (by omega : s.queued.length = 0),
        List.length_eq_zero.1 (by omega : s.ranBand.length = 0)⟩⟩, ?_⟩
    simp only [stepsLeft, hmain]
  · -- a pool thread runs a queued closure's band
    have hq := fun a => List.perm_iff_count.1 (List.perm_cons_erase hr) a
    refine ⟨⟨hrow, hle, hdone, ?_, hpending, ?_,
      fun h => absurd (hcopy h).1 (List.ne_nil_of_mem hr)⟩, ?_⟩
    · refine List.perm_iff_count.2 fun a => ?_
      have h₁ := List.perm_iff_count.1 hclosures a
      have h₂ := hq a
      simp only [List.count_append, List.count_cons, List.count_nil] at h₁ h₂ ⊢
      omega
    · refine List.perm_iff_count.2 fun a => ?_
      have := List.perm_iff_count.1 hbands a
      simp only [List.count_append, List.count_singleton] at this ⊢
      omega
    · have := List.length_pos_of_mem hr
      simp only [stepsLeft, List.length_erase_of_mem hr, List.length_append, List.length_singleton]
      omega
  · -- a closure calls `Decrement()`
    have hq := fun a => List.perm_iff_count.1 (List.perm_cons_erase hr) a
    refine ⟨⟨hrow, hle, hdone, ?_, ?_, ?_,
      fun h => absurd (hcopy h).2 (List.ne_nil_of_mem hr)⟩, ?_⟩
    · refine List.perm_iff_count.2 fun a => ?_
      have h₁ := List.perm_iff_count.1 hclosures a
      have h₂ := hq a
      simp only [List.count_append, List.count_cons, List.count_nil] at h₁ h₂ ⊢
      omega
    · dsimp only; rw [hpending, List.length_append, List.length_singleton]; omega
    · refine List.perm_iff_count.2 fun a => ?_
      have h₁ := List.perm_iff_count.1 hbands a
      have h₂ := hq a
      simp only [List.count_append, List.count_cons, List.count_nil] at h₁ h₂ ⊢
      omega
    · have := List.length_pos_of_mem hr
      simp only [stepsLeft, List.length_erase_of_mem hr, List.length_append, List.length_singleton]
      omega

/-- Every run keeps the invariant and takes one of the steps left per step. -/
theorem Inv.run : ∀ {actions : List JobAction} {s s' : WindowJobs}, s.Inv actual jobs →
    s.run actual jobs actions = some s' →
    s'.Inv actual jobs ∧ s'.stepsLeft ((actual + 15) / 16) jobs + actions.length =
      s.stepsLeft ((actual + 15) / 16) jobs
  | [], _, _, hinv, h => by cases h; exact ⟨hinv, rfl⟩
  | a :: actions, s, s', hinv, h => by
    rw [run_cons] at h
    obtain ⟨s₁, h₁, h⟩ := Option.bind_eq_some.1 h
    obtain ⟨hinv₁, hsteps₁⟩ := hinv.step hjobs h₁
    obtain ⟨hinv', hsteps'⟩ := Inv.run hinv₁ h
    exact ⟨hinv', by rw [List.length_cons]; omega⟩

/-- Past the loop, the counter counts the scheduled closures that have not finished. -/
theorem Inv.pending_eq (hinv : s.Inv actual jobs) (hmain : s.main ≠ .loop) :
    s.pendingJobs = s.queued.length + s.ranBand.length := by
  have hn := hinv.loopDone hmain
  have hlength := hinv.closures.length_eq
  simp only [List.length_append, List.length_map, List.length_range] at hlength
  rw [hinv.pending]
  omega

/-- At the copy-back every scheduled closure has called `Decrement()`, each once. -/
theorem Inv.finished_perm (hinv : s.Inv actual jobs) (h : s.main = .copyBack) :
    s.finished.Perm ((List.range jobs).map (kStep64x64 * ·)) := by
  have hclosures := hinv.closures
  rwa [(hinv.copyBack h).1, (hinv.copyBack h).2, hinv.loopDone (h ▸ nofun),
    Nat.min_eq_right hjobs] at hclosures

/-- At the copy-back every band of the window has run, each once. -/
theorem Inv.bandRuns_perm (hinv : s.Inv actual jobs) (h : s.main = .copyBack) :
    s.bandRuns.Perm ((List.range ((actual + 15) / 16)).map (kStep64x64 * ·)) := by
  have hbands := hinv.bandRuns
  rw [(hinv.copyBack h).2, List.nil_append, hinv.loopDone (h ▸ nofun)] at hbands
  refine hbands.trans (((hinv.finished_perm hjobs h).append_right _).trans ?_)
  have hrange := List.range'_append_1 0 jobs ((actual + 15) / 16 - jobs)
  rw [Nat.zero_add, Nat.sub_add_cancel hjobs] at hrange
  rw [← List.map_append, List.range_eq_range', List.range_eq_range', hrange]

/-- A state that has not reached the copy-back can take a step: the calling thread unless it
waits on a positive counter, and then a pool thread, with a closure left to run or finish. -/
theorem Inv.progress (hinv : s.Inv actual jobs) (hmain : s.main ≠ .copyBack) :
    ∃ a s', s.step actual jobs a = some s' := by
  cases hm : s.main with
  | copyBack => exact absurd hm hmain
  | loop =>
    refine ⟨.main, ?_⟩
    simp only [WindowJobs.step, mainStep, hm]
    split
    · split <;> exact ⟨_, rfl⟩
    · exact ⟨_, rfl⟩
  | wait =>
    by_cases hzero : s.pendingJobs = 0
    · exact ⟨.main, _, by simp only [WindowJobs.step, mainStep, hm, hzero, if_true]; rfl⟩
    · have hcount := hinv.pending_eq hjobs (hm ▸ nofun)
      cases hq : s.queued with
      | cons r _ =>
        exact ⟨.runBand r, _,
          by simp only [WindowJobs.step, hq, List.mem_cons_self, if_true]; rfl⟩
      | nil =>
        cases hb : s.ranBand with
        | cons r _ =>
          exact ⟨.decrement r, _,
            by simp only [WindowJobs.step, hb, List.mem_cons_self, if_true]; rfl⟩
        | nil => simp only [hq, hb, List.length_nil] at hcount; omega

end Invariant

end WindowJobs

/-- For every window `actual ≥ 1` 4x4 rows high and every number of pool threads, with
`n = DivideBy16(actual + 15)` bands: `n` is `⌈actual / 16⌉`; the pool gets
`jobs_for_threadpool ≤ n` of them and the calling thread the other `⌈n / (num_workers + 1)⌉`,
at least one. In every state a run of the window reaches, whatever the threads' interleaving:
the loop has run at most `n` times and, once past it, exactly `n`; the closures are the bands
of the first `jobs_for_threadpool` iterations, each queued, past its band or finished; the
counter is `jobs_for_threadpool` less one per finished closure, and past the loop it counts
exactly the scheduled closures not yet finished; the bands run are those of the closures past
their band and the loop's inline ones; no state but the copy-back is stuck, and the copy-back
starts with every closure finished and every band run exactly once, after exactly
`n + 2 + 2·jobs_for_threadpool` steps, no run being longer. -/
theorem applyCdefThreaded_windowJobs (actual numWorkers n jobs : Nat) (hactual : 1 ≤ actual)
    (hn : n = (actual + 15) / 16) (hjobs : jobs = jobsForThreadpool n numWorkers) :
    (actual ≤ kStep64x64 * n ∧ kStep64x64 * (n - 1) < actual) ∧ jobs ≤ n ∧
    n - jobs = (n + numWorkers) / (numWorkers + 1) ∧ 1 ≤ n - jobs ∧
    ∀ actions s, (WindowJobs.init jobs).run actual jobs actions = some s →
      s.Inv actual jobs ∧ 0 ≤ s.pendingJobs ∧
      (s.main ≠ .loop → s.pendingJobs = s.queued.length + s.ranBand.length) ∧
      (s.main = .copyBack ↔ ∀ a, s.step actual jobs a = none) ∧
      (s.main = .copyBack → s.queued = [] ∧ s.ranBand = [] ∧
        s.finished.Perm ((List.range jobs).map (kStep64x64 * ·)) ∧
        s.bandRuns.Perm ((List.range n).map (kStep64x64 * ·)) ∧
        actions.length = n + 2 + 2 * jobs) ∧
      actions.length ≤ n + 2 + 2 * jobs := by
  have hsplit := jobsForThreadpool_add n numWorkers
  rw [← hjobs] at hsplit
  have hcaller : 1 ≤ (n + numWorkers) / (numWorkers + 1) :=
    (Nat.le_div_iff_mul_le (Nat.succ_pos _)).2 (by omega)
  refine ⟨by simp only [kStep64x64]; omega, by omega, by omega, by omega, fun actions s hrun => ?_⟩
  subst hn
  have hbound : jobs ≤ (actual + 15) / 16 := by omega
  obtain ⟨hinv, hsteps⟩ := (WindowJobs.inv_init actual jobs).run hbound hrun
  rw [WindowJobs.stepsLeft_init] at hsteps
  have hlength := hinv.closures.length_eq
  simp only [List.length_append, List.length_map, List.length_range] at hlength
  have hpending : 0 ≤ s.pendingJobs := by rw [hinv.pending]; omega
  refine ⟨hinv, hpending, hinv.pending_eq hbound, ⟨fun h a => hinv.stuck h a, fun h => ?_⟩,
    fun h => ?_, by omega⟩
  · exact Classical.byContradiction fun hmain =>
      let ⟨a, _, ha⟩ := hinv.progress hbound hmain
      nomatch (h a).symm.trans ha
  · obtain ⟨hq, hb⟩ := hinv.copyBack h
    refine ⟨hq, hb, hinv.finished_perm hbound h, hinv.bandRuns_perm hbound h, ?_⟩
    simp only [WindowJobs.stepsLeft, h, hq, hb, hinv.loopDone (h ▸ nofun),
      List.length_nil] at hsteps
    omega

theorem applyCdefThreaded_windowJobs_three :
    1 ≤ 40 ∧ 3 = (40 + 15) / 16 ∧ 2 = jobsForThreadpool 3 2 ∧
    (40 ≤ kStep64x64 * 3 ∧ kStep64x64 * (3 - 1) < 40) ∧ 2 ≤ 3 ∧
    3 - 2 = (3 + 2) / (2 + 1) ∧ 1 ≤ 3 - 2 ∧
    ∀ actions s, (WindowJobs.init 2).run 40 2 actions = some s →
      s.Inv 40 2 ∧ 0 ≤ s.pendingJobs ∧
      (s.main ≠ .loop → s.pendingJobs = s.queued.length + s.ranBand.length) ∧
      (s.main = .copyBack ↔ ∀ a, s.step 40 2 a = none) ∧
      (s.main = .copyBack → s.queued = [] ∧ s.ranBand = [] ∧
        s.finished.Perm ((List.range 2).map (kStep64x64 * ·)) ∧
        s.bandRuns.Perm ((List.range 3).map (kStep64x64 * ·)) ∧
        actions.length = 3 + 2 + 2 * 2) ∧
      actions.length ≤ 3 + 2 + 2 * 2 :=
  ⟨by decide, rfl, rfl, applyCdefThreaded_windowJobs 40 2 3 2 (by decide) rfl rfl⟩

/-- A window of three bands with two pool threads: the pool takes the first two bands, the
caller runs the third, and the copy-back starts after the `3 + 2 + 2·2` steps. -/
example :
    ((WindowJobs.init (jobsForThreadpool 3 2)).run 40 (jobsForThreadpool 3 2)
      [.main, .main, .runBand 16, .main, .main, .runBand 0, .decrement 0, .decrement 16,
        .main]).map (·.main) = some .copyBack := by decide

section Window

variable {pf : PostFilter} {w : CdefWindow} {i : Nat}

/-- Whatever the threads' interleaving, a run of the jobs of window `(i, j)` of the pass with
`num_workers = num_threads()` that reaches the copy-back has run every band once: the band of
`row64x64` is `ApplyCdefForOneRowInWindow(row4x4 + row64x64, column4x4)`, band
`row64x64 / 16` of the window model, and the window's bands in the order they ran, with any
scratch contents, then the copy-back, leave the window's reference output at every address
they write. -/
theorem applyCdefWindow_windowJobs (pixel16 : Bool) (dsp : Dsp) {stride : Nat}
    (hS : 64 + 2 * kCdefBorder ≤ stride) (hi : i < forCount pf.rows4x4 w.height4x4) (j : Nat)
    {actions : List JobAction} {s : WindowJobs}
    (hrun : (WindowJobs.init (jobsForThreadpool (verticalUnitsPerWindow pf w (w.height4x4 * i))
        w.numThreads)).run (actualWindowHeight4x4 pf w (w.height4x4 * i))
        (jobsForThreadpool (verticalUnitsPerWindow pf w (w.height4x4 * i)) w.numThreads) actions =
      some s)
    (hdone : s.main = .copyBack) (scratch : Nat → Nat → Nat) :
    (∀ r ∈ s.bandRuns, kStep64x64 * (r / kStep64x64) = r) ∧
    Overwrites (applyCdefWindow pixel16 pf dsp w stride (w.height4x4 * i) (w.width4x4 * j)
        (s.bandRuns.map (· / kStep64x64)) scratch)
      (fun a => (∃ b < verticalUnitsPerWindow pf w (w.height4x4 * i),
          bandWrites pf w (w.height4x4 * i) (w.width4x4 * j) b a) ∨
        copyRegion pf w (w.height4x4 * i) (w.width4x4 * j) a)
      (windowReference pf dsp w (w.height4x4 * i) (w.width4x4 * j)) := by
  have hjobs := jobsForThreadpool_add (verticalUnitsPerWindow pf w (w.height4x4 * i)) w.numThreads
  obtain ⟨hinv, -⟩ := (WindowJobs.inv_init _ _).run (by exact Nat.le.intro hjobs) hrun
  have hperm := hinv.bandRuns_perm (Nat.le.intro hjobs) hdone
  have hindex : ∀ b, kStep64x64 * b / kStep64x64 = b := fun b =>
    Nat.mul_div_cancel_left b (by decide)
  refine ⟨fun r hr => ?_, applyCdefWindow_overwrites pixel16 dsp hS hi ?_ scratch⟩
  · obtain ⟨b, -, rfl⟩ := List.mem_map.1 (hperm.mem_iff.1 hr)
    rw [hindex]
  · have horder := hperm.map (· / kStep64x64)
    rwa [List.map_map, show (· / kStep64x64) ∘ (kStep64x64 * ·) = id from funext hindex,
      List.map_id] at horder

theorem applyCdefWindow_windowJobs_ramp16x200 :
    64 + 2 * kCdefBorder ≤ 70 ∧
    1 < forCount PostFilter.ramp16x200.rows4x4 CdefWindow.twoBands.height4x4 ∧
    (WindowJobs.init (jobsForThreadpool (verticalUnitsPerWindow PostFilter.ramp16x200
        CdefWindow.twoBands (CdefWindow.twoBands.height4x4 * 1)) CdefWindow.twoBands.numThreads)).run
        (actualWindowHeight4x4 PostFilter.ramp16x200 CdefWindow.twoBands
          (CdefWindow.twoBands.height4x4 * 1))
        (jobsForThreadpool (verticalUnitsPerWindow PostFilter.ramp16x200 CdefWindow.twoBands
          (CdefWindow.twoBands.height4x4 * 1)) CdefWindow.twoBands.numThreads)
        [.main, .main, .runBand 0, .main, .decrement 0, .main] =
      some ⟨32, 2, .copyBack, [], [], [0], 0, [16, 0]⟩ ∧
    (∀ r ∈ [16, 0], kStep64x64 * (r / kStep64x64) = r) ∧
    Overwrites (applyCdefWindow false PostFilter.ramp16x200 Dsp.verticalMean CdefWindow.twoBands 70
        (CdefWindow.twoBands.height4x4 * 1) (CdefWindow.twoBands.width4x4 * 0)
        ([16, 0].map (· / kStep64x64)) fun _ _ => 0)
      (fun a => (∃ b < verticalUnitsPerWindow PostFilter.ramp16x200 CdefWindow.twoBands
          (CdefWindow.twoBands.height4x4 * 1),
          bandWrites PostFilter.ramp16x200 CdefWindow.twoBands (CdefWindow.twoBands.height4x4 * 1)
            (CdefWindow.twoBands.width4x4 * 0) b a) ∨
        copyRegion PostFilter.ramp16x200 CdefWindow.twoBands (CdefWindow.twoBands.height4x4 * 1)
          (CdefWindow.twoBands.width4x4 * 0) a)
      (windowReference PostFilter.ramp16x200 Dsp.verticalMean CdefWindow.twoBands
        (CdefWindow.twoBands.height4x4 * 1) (CdefWindow.twoBands.width4x4 * 0)) :=
  ⟨by decide, by decide, rfl, @applyCdefWindow_windowJobs PostFilter.ramp16x200
    CdefWindow.twoBands 1 false Dsp.verticalMean 70 (by decide) (by decide) 0
    [.main, .main, .runBand 0, .main, .decrement 0, .main]
    ⟨32, 2, .copyBack, [], [], [0], 0, [16, 0]⟩ rfl rfl fun _ _ => 0⟩

end Window

end Libgav1
