import BackupOperator.System.Step

/-!
# The request lifecycle across dispatcher and worker

The status of a request has two writers that never coordinate: the worker writes the outcome of
its run, and the dispatcher maps the Job's counters to a phase and dispatches a Job whenever its
cache lists none. What holds for every run, and the runs in which the two writers disagree:

* `run_phase_ne_pending` — once the phase has left `Pending` it never returns.
* `synced_reconciles_single_job` — if every reconcile first lets the informer cache catch up with
  the store, the store never holds two Jobs for the request.
* `phase_leaves_terminal` — a worker that records `Failed` returns `nil`, its Job succeeds and the
  next reconcile writes `Completed`; after a completed backup's Job is deleted at its TTL, the next
  reconcile dispatches a second Job and writes `Running`.
* `recorded_phase_ignores_stored` — a worker that stored its artifact but whose final write lost
  to another client's update fails its Job, and the dispatcher records `Failed`; a worker whose
  export failed and stored nothing ends `Completed`.
* `artifact_location_phase_mismatch` — the same runs leave `Completed` with no artifact location,
  and `Running` with the previous run's location.
* `duplicate_jobs_from_stale_cache` — a reconcile that runs before the cache has seen the Job just
  created dispatches a second Job for the same owner.
-/

namespace BackupOperator

open System

/-! ### No step writes `Pending` -/

theorem foldl_writeStatus_phase (s : System) (sts : List Status)
    (h : ∀ st ∈ sts, st.phase ≠ .pending) (hs : s.request.status.phase ≠ .pending) :
    (sts.foldl writeStatus s).request.status.phase ≠ .pending := by
  induction sts generalizing s with
  | nil => exact hs
  | cons st sts ih =>
    exact ih (s.writeStatus st) (fun x hx => h x (List.mem_cons_of_mem _ hx))
      (h st (List.mem_cons_self _ _))

theorem applyReconcile_phase {s : System} (hs : s.request.status.phase ≠ .pending)
    (listed : List BackupStorageLocation) :
    (s.applyReconcile listed).request.status.phase ≠ .pending := by
  unfold applyReconcile
  dsimp only
  split <;> exact foldl_writeStatus_phase _ _ (fun _ => reconcile_write_phase) hs

theorem finishOf_write_phase {e : JobEntry} {snap : Snapshot}
    {secrets : List ((String × String) × SecretData)} {now : Nat} {o : Outcome} {st : Status}
    (h : (finishOf e snap secrets now o).write = some st) : st.phase ≠ .pending := by
  unfold finishOf at h
  split at h
  · rcases finishBackup_write_phase h with h | h <;> simp [h]
  · rcases finishRestore_write_phase h with h | h <;> simp [h]
  · cases h

theorem startWorker_phase {s : System} (hs : s.request.status.phase ≠ .pending) (id : Nat)
    (ts : String) : (s.startWorker id ts).request.status.phase ≠ .pending := by
  unfold startWorker
  split
  · dsimp only
    split
    · simp [setWorker, writeStatus, failedWorkerStatus]
    · exact hs
  · exact hs

theorem finishWorker_phase {s : System} (hs : s.request.status.phase ≠ .pending) (id : Nat)
    (o : Outcome) : (s.finishWorker id o).request.status.phase ≠ .pending := by
  unfold finishWorker
  split
  · split
    · dsimp only
      split
      · exact hs
      · rename_i st hw
        simp only [updateStatus]
        split_ifs
        · exact finishOf_write_phase hw
        · exact hs
    · exact hs
  · exact hs

theorem request_completeJob (s : System) (id : Nat) : (s.completeJob id).request = s.request := by
  unfold completeJob; split <;> rfl

theorem request_expireDeadline (s : System) (id : Nat) :
    (s.expireDeadline id).request = s.request := by
  unfold expireDeadline; split
  · split_ifs <;> rfl
  · rfl

theorem step_phase_ne_pending {s : System} (hs : s.request.status.phase ≠ .pending)
    (ev : Event) : (s.step ev).request.status.phase ≠ .pending := by
  cases ev with
  | reconcile listed =>
    simp only [System.step]; split_ifs
    exacts [applyReconcile_phase hs listed, hs]
  | startWorker id ts => exact startWorker_phase hs id ts
  | finishWorker id o => exact finishWorker_phase hs id o
  | completeJob id =>
    show (s.completeJob id).request.status.phase ≠ _; rw [request_completeJob]; exact hs
  | expireDeadline id =>
    show (s.expireDeadline id).request.status.phase ≠ _; rw [request_expireDeadline]; exact hs
  | editRegistry locations => simp only [System.step]; split_ifs <;> exact hs
  | _ => exact hs

/-- **The phase never returns to `Pending`.** -/
theorem run_phase_ne_pending {s : System} (hs : s.request.status.phase ≠ .pending)
    (es : List Event) : (s.run es).request.status.phase ≠ .pending := by
  induction es generalizing s with
  | nil => exact hs
  | cons ev es ih => exact ih (step_phase_ne_pending hs ev)

/-- A `Backup` already `Failed` stays out of `Pending` through a reconcile, a worker start and the
cache catching up. -/
theorem failed_backup_stays_out_of_pending :
    ((System.init [] ⟨.backup, "nightly", "apps", "u1", 1, 1, false, "", ⟨"", "", ""⟩, none,
        { Status.initial with phase := .failed }⟩ ⟨[], List.nodup_nil⟩ []).run
      [.reconcile [], .startWorker 0 "20260101T000000Z", .syncJobCache]).request.status.phase ≠
      .pending :=
  run_phase_ne_pending (by decide) _

/-! ### Reconciles that read a caught-up cache create one Job -/

/-- Every Job in the store carries the request's owner labels. -/
def OwnerJobs (s : System) : Prop := ∀ e ∈ s.jobs, e.job.spec.labels = s.request.ownerLabels

theorem ownerLabels_of_config {s s' : System} (h : s'.config = s.config) :
    s'.request.ownerLabels = s.request.ownerLabels := by
  have hk : s'.request.kind = s.request.kind := congrArg Config.kind h
  have hn : s'.request.name = s.request.name := congrArg Config.name h
  have hns : s'.request.ns = s.request.ns := congrArg Config.ns h
  have hu : s'.request.uid = s.request.uid := congrArg Config.uid h
  simp only [Request.ownerLabels, Request.ownerNamespace, hk, hn, hns, hu]

theorem OwnerJobs.of_frame {s s' : System} (h : OwnerJobs s) (hc : s'.config = s.config)
    (hj : KeepsJobs s s') : OwnerJobs s' := fun e' he' => by
  obtain ⟨e, he, hs, -⟩ := hj e' he'
  rw [hs, h e he, ownerLabels_of_config hc]

theorem OwnerJobs.step {s : System} (h : OwnerJobs s) (hi : IdsFresh s) (ev : Event) :
    OwnerJobs (s.step ev) := by
  cases ev with
  | reconcile listed =>
    simp only [System.step]; split_ifs
    · obtain ⟨hc, hj⟩ := applyReconcile_frame s listed
      intro e' he'
      rw [ownerLabels_of_config hc]
      rcases hj e' he' with he | ⟨spec, storage, hcr, rfl⟩
      exacts [h e' he, (reconcile_created hcr).2]
    · exact h
  | startWorker id ts =>
    show OwnerJobs (s.startWorker id ts)
    obtain ⟨hc, hj⟩ := startWorker_frame s id ts
    intro e' he'
    obtain ⟨e, he, ⟨hs, -⟩ | ⟨hs, -⟩⟩ := hj e' he' <;> rw [hs, h e he, ownerLabels_of_config hc]
  | finishWorker id o =>
    exact h.of_frame (finishWorker_frame s id o hi.1).1 (finishWorker_frame s id o hi.1).2
  | completeJob id => exact h.of_frame (completeJob_frame s id).1 (completeJob_frame s id).2
  | expireDeadline id =>
    exact h.of_frame (expireDeadline_frame s id).1 (expireDeadline_frame s id).2
  | expireJob id => exact h.of_frame rfl fun e he => ⟨e, List.mem_of_mem_filter he, Kept.refl e⟩
  | editRegistry locations => simp only [System.step]; split_ifs <;> exact h
  | _ => exact h

/-- Only a reconcile adds a Job. -/
theorem step_length_le {s : System} {ev : Event} (hev : ∀ listed, ev = .reconcile listed → False) :
    (s.step ev).jobs.length ≤ s.jobs.length := by
  have ops := jobIds_of_worker_ops s
  have hlen : ∀ s' : System, s'.jobIds = s.jobIds → s'.jobs.length ≤ s.jobs.length := by
    intro s' h
    have := congrArg List.length h
    simp only [jobIds, List.length_map] at this
    exact this.le
  cases ev with
  | reconcile listed => exact absurd rfl (hev listed)
  | startWorker id ts => exact hlen _ (ops id ts .succeeded).1.1
  | finishWorker id o => exact hlen _ (ops id "" o).2.1.1
  | completeJob id => exact hlen _ (ops id "" .succeeded).2.2.1.1
  | expireDeadline id => exact hlen _ (ops id "" .succeeded).2.2.2.1
  | expireJob id => exact List.length_filter_le _ _
  | editRegistry locations => simp only [System.step]; split_ifs <;> exact le_rfl
  | _ => exact le_rfl

/-- The store holds at most one Job, and it is the request's. -/
structure SingleJob (s : System) : Prop where
  ids : IdsFresh s
  owner : OwnerJobs s
  length_le : s.jobs.length ≤ 1

theorem SingleJob.step {s : System} (h : SingleJob s) {ev : Event}
    (hev : ∀ listed, ev = .reconcile listed → False) : SingleJob (s.step ev) :=
  ⟨step_idsFresh h.ids ev, h.owner.step h.ids ev, (step_length_le hev).trans h.length_le⟩

/-- A reconcile over a cache that lists every Job of the store creates a Job only when the
store holds none. -/
theorem SingleJob.synced {s : System} (h : SingleJob s) (listed : List BackupStorageLocation) :
    SingleJob ((s.step .syncJobCache).step (.reconcile listed)) := by
  have hs : SingleJob (s.step .syncJobCache) := h.step fun _ h => nomatch h
  refine ⟨step_idsFresh hs.ids _, hs.owner.step hs.ids _, ?_⟩
  simp only [System.step]
  split_ifs
  · rcases applyReconcile_jobs { s with jobCache := s.jobs.map (·.job) } listed with
      ⟨hj, -⟩ | ⟨spec, storage, hc, hj, -⟩
    · rw [hj]; exact h.length_le
    · rw [hj]
      have hf := (reconcile_created hc).1
      cases hjobs : s.jobs with
      | nil => simp
      | cons e es =>
        have he : e ∈ s.jobs := hjobs ▸ List.mem_cons_self e es
        have hfound := findJob_isSome (List.mem_map_of_mem (·.job) he) (h.owner e he)
        simp [hf] at hfound
  · exact h.length_le

/-- A run in which every reconcile first lets the informer cache catch up with the store. -/
def syncBeforeReconcile : List Event → List Event
  | [] => []
  | .reconcile listed :: es => .syncJobCache :: .reconcile listed :: syncBeforeReconcile es
  | ev :: es => ev :: syncBeforeReconcile es

theorem SingleJob.run {s : System} (h : SingleJob s) (es : List Event) :
    SingleJob (s.run (syncBeforeReconcile es)) := by
  induction es using syncBeforeReconcile.induct generalizing s with
  | case1 => exact h
  | case2 listed es ih => exact ih (h.synced listed)
  | case3 ev es hev ih =>
    rw [syncBeforeReconcile.eq_3 ev es hev]
    exact ih (h.step hev)

/-- **Reconciles that read a caught-up cache create one Job.** If every reconcile of a run
first lets the informer cache catch up with the store, the store never holds two Jobs. -/
theorem synced_reconciles_single_job (env : Env) (r : Request) (registry : Registry)
    (backups : List SourceBackup) (es : List Event) :
    ((System.init env r registry backups).run (syncBeforeReconcile es)).jobs.length ≤ 1 := by
  have h₀ : SingleJob (System.init env r registry backups) :=
    ⟨⟨List.nodup_nil, fun _ h => nomatch h⟩, (fun _ h => nomatch h), Nat.zero_le 1⟩
  exact (h₀.run es).length_le

/-! ### Runs in which the two writers disagree -/

/-- The backup `nightly` of namespace `apps`, with no storage reference: it uses the default. -/
def nightly : Request :=
  ⟨.backup, "nightly", "apps", "u1", 1, 1, false, "", ⟨"", "", ""⟩, none, Status.initial⟩

/-- An S3 location, the default. -/
def primaryS3 : BackupStorageLocation :=
  ⟨"primary", .s3, some ⟨"backups", "", "", ⟨"", ""⟩⟩, none, true⟩

/-- `nightly` before anything has happened, with `primaryS3` as the only location. -/
def nightlyInit : System := System.init [] nightly ⟨[primaryS3], by decide⟩ []

/-- The location a worker started at `20260101T000000Z` stores `nightly` under. -/
def nightlyLocation : String :=
  "s3://backups/cluster-unknown/backup/apps/nightly/20260101T000000Z/backup.tar.gz"

/-- Dispatch, start the worker, and end its run with this outcome. -/
def dispatchAndRun (o : Outcome) : List Event :=
  [.reconcile [primaryS3], .startWorker 0 "20260101T000000Z", .finishWorker 0 o]

/-- The Job controller records the exit, the cache catches up, and the dispatcher reconciles. -/
def observeExit : List Event := [.completeJob 0, .syncJobCache, .reconcile [primaryS3]]

/-- The worker's export fails, and the dispatcher observes its exit. -/
def exportFails : List Event := dispatchAndRun (.stepFailed "export failed") ++ observeExit

/-- A backup completes and is observed; its Job is deleted at its TTL, the cache catches up, and a
resync reconciles. -/
def completedThenExpired : List Event :=
  dispatchAndRun .succeeded ++ observeExit ++ [.expireJob 0, .syncJobCache, .reconcile [primaryS3]]

/-- Another client updates the request while the worker runs, then the exit is observed. -/
def touchedWhileRunning : List Event :=
  [.reconcile [primaryS3], .startWorker 0 "20260101T000000Z", .touchRequest,
    .finishWorker 0 .succeeded] ++ observeExit

/-- Both terminal phases are left. A worker whose export fails writes `Failed` and returns `nil`;
its Job succeeds, and the reconcile that observes it writes `Completed`. A completed backup whose
Job is deleted at its TTL is dispatched again, and the reconcile writes `Running`. -/
theorem phase_leaves_terminal :
    (nightlyInit.run (dispatchAndRun (.stepFailed "export failed"))).request.status.phase =
        .failed ∧
      (nightlyInit.run exportFails).request.status.phase = .completed ∧
      (nightlyInit.run (dispatchAndRun .succeeded)).request.status.phase = .completed ∧
      (nightlyInit.run completedThenExpired).request.status.phase = .running :=
  ⟨rfl, rfl, rfl, rfl⟩

/-- The location `storeArtifact` returned to an exited worker, if any. -/
def WorkerState.stored : WorkerState → Option String
  | .exited _ _ stored => stored
  | _ => none

/-- The recorded phase does not follow what was stored. Another client updates the request while
the worker runs: the worker stores its artifact, its `Completed` write is refused, it returns the
conflict, the Job fails and the dispatcher records `Failed`. A worker whose export fails stores
nothing, and the request ends `Completed`. Both Jobs have finished and been observed. -/
theorem recorded_phase_ignores_stored :
    (nightlyInit.run touchedWhileRunning).jobs.map
        (fun e => (e.worker.stored, e.job.succeeded, e.job.failed)) =
        [(some nightlyLocation, 0, 1)] ∧
      (nightlyInit.run touchedWhileRunning).request.status.phase = .failed ∧
      (nightlyInit.run exportFails).jobs.map
        (fun e => (e.worker.stored, e.job.succeeded, e.job.failed)) = [(none, 1, 0)] ∧
      (nightlyInit.run exportFails).request.status.phase = .completed :=
  ⟨rfl, rfl, rfl, rfl⟩

/-- The artifact location does not follow the phase: the worker whose export failed leaves
`Completed` with no location, and the second dispatch of a completed backup leaves `Running`
with the first run's location. -/
theorem artifact_location_phase_mismatch :
    (nightlyInit.run exportFails).request.status.phase = .completed ∧
      (nightlyInit.run exportFails).request.status.artifactLocation = "" ∧
      (nightlyInit.run completedThenExpired).request.status.phase = .running ∧
      (nightlyInit.run completedThenExpired).request.status.artifactLocation = nightlyLocation :=
  ⟨rfl, rfl, rfl, rfl⟩

/-- Two reconciles with no cache update between them: the second finds no Job in the cache and
creates a second Job with the same owner labels while the first is still in the store. -/
theorem duplicate_jobs_from_stale_cache :
    (nightlyInit.run [.reconcile [primaryS3], .reconcile [primaryS3]]).jobs.map
        (fun e => (e.job.id, e.job.spec.labels)) =
      [(0, nightly.ownerLabels), (1, nightly.ownerLabels)] :=
  rfl

end BackupOperator
