import BackupOperator.Worker.Run

/-!
# The dispatcher / worker system

One request and everything that acts on it: the dispatcher's reconciles, the worker each Job
runs, the Job controller (counters, deadline, time-to-live), the controller's informer caches of
Jobs and of storage locations, and other clients editing the request, the storage locations, the
`Secret`s and the source backups. A run is any interleaving of these `Event`s; `step` applies one,
and an event that cannot happen in the current state (a worker of a Job that does not exist, a
listing that is not the cache's) leaves the state as it is.

What each party reads:
* a reconcile reads the request (its own status writes always go through), the Jobs in the
  informer cache, which only catches up on `syncJobCache`, and the storage locations as the
  manager's cache last saw them, which only catches up on `syncLocationCache`, in whatever order
  the cache lists them;
* a worker loads the request from the API server when it starts, keeps that object, and makes its
  final status write through it hours later: the write is refused if any other write has changed
  the object's `resourceVersion` since; it reads the credential `Secret` of an S3 location when it
  stores or loads the artifact;
* the Job controller records the pod's exit (`Succeeded` when the worker returned `nil`), kills an
  unfinished pod at its `activeDeadlineSeconds`, and deletes a finished Job after its TTL.

Two fields exist for stating properties and are read by nothing the system does: a Job entry's
`resolved` location (what the reconcile that created it resolved) and the `epoch` counters, which
count the edits to the request's storage reference and to the storage locations; a Job entry's
`epoch` is the count at which the location cache it was built from last caught up.
-/

namespace BackupOperator

/-- What a worker took from the store when it started. -/
structure Snapshot where
  /-- The request object as loaded, with its `resourceVersion` and status. -/
  loaded : Request
  /-- The storage locations the API server listed. -/
  listed : List BackupStorageLocation
  plan : WorkerPlan
  timestamp : String
  startedAt : Nat
  epoch : Nat
  deriving DecidableEq, Repr

/-- The worker process of a Job's pod. -/
inductive WorkerState where
  | pending
  | running (snap : Snapshot)
  /-- The run returned (`nil` or an error); `stored` is the location `storeArtifact` returned. -/
  | exited (snap : Snapshot) (returnedNil : Bool) (stored : Option String)
  | killed
  deriving DecidableEq, Repr

/-- A pod whose worker has not returned: not started, or still working. -/
def WorkerState.IsActive : WorkerState → Bool
  | .pending | .running _ => true
  | .exited .. | .killed => false

/-- The snapshot of a worker that has started. -/
def WorkerState.snapshot : WorkerState → Option Snapshot
  | .running snap | .exited snap _ _ => some snap
  | .pending | .killed => none

/-- A Job in the store, with its pod's worker. -/
structure JobEntry where
  job : Job
  worker : WorkerState
  resolved : BackupStorageLocation
  epoch : Nat
  deriving DecidableEq, Repr

/-- A Job whose counters record the end of its pod. -/
def JobEntry.IsFinished (e : JobEntry) : Prop := 0 < e.job.succeeded ∨ 0 < e.job.failed

instance (e : JobEntry) : Decidable e.IsFinished :=
  inferInstanceAs (Decidable (0 < e.job.succeeded ∨ 0 < e.job.failed))

/-- The environment of a worker container: its literal variables, and `POD_NAMESPACE` from the
downward API, which is the Job's namespace. -/
def JobSpec.containerEnv (spec : JobSpec) : Env :=
  spec.env.map fun v => match v.2 with
    | .value x => (v.1, x)
    | .fieldRef _ => (v.1, spec.ns)

/-- The identity `loadBackupObject` gives the worker: kind, name, and the namespace (`""` for a
`ClusterBackup`). -/
def Request.identity (r : Request) : BackupIdentity := ⟨r.kind.name, r.name, r.ownerNamespace⟩

/-- The state of the system. -/
structure System where
  /-- The dispatcher's process environment. -/
  env : Env
  request : Request
  backups : List SourceBackup
  registry : Registry
  jobs : List JobEntry
  jobCache : List Job
  /-- The storage locations the manager's cache holds, and the edit count when it last caught up. -/
  locationCache : List BackupStorageLocation
  cacheEpoch : Nat
  /-- The `Secret`s of the cluster, by namespace and name. -/
  secrets : List ((String × String) × SecretData)
  nextJob : Nat
  clock : Nat
  epoch : Nat

/-- The system before anything has happened: the caches hold the store, and no `Secret` exists. -/
def System.init (env : Env) (request : Request) (registry : Registry)
    (backups : List SourceBackup) : System :=
  ⟨env, request, backups, registry, [], [], registry.locations, 0, [], 0, 0, 0⟩

/-- What can happen next. -/
inductive Event where
  /-- The dispatcher reconciles the request, its cache listing the locations in this order. -/
  | reconcile (listed : List BackupStorageLocation)
  /-- The informer cache catches up with the Jobs in the store. -/
  | syncJobCache
  /-- The manager's cache catches up with the storage locations in the store. -/
  | syncLocationCache
  /-- The worker of a Job starts: it loads the request and resolves storage. -/
  | startWorker (job : Nat) (timestamp : String)
  /-- The worker's remaining work ends with this outcome, and it writes its status. -/
  | finishWorker (job : Nat) (outcome : Outcome)
  /-- The Job controller records the pod's exit in the counters. -/
  | completeJob (job : Nat)
  /-- The Job's `activeDeadlineSeconds` passes: the pod is killed and the Job fails. -/
  | expireDeadline (job : Nat)
  /-- `TTLSecondsAfterFinished` passes: the finished Job is deleted. -/
  | expireJob (job : Nat)
  /-- Another client updates the request object (labels, annotations, ...). -/
  | touchRequest
  /-- A client changes the request's `storageRef`. -/
  | editStorageRef (name : String)
  /-- The storage locations are replaced by these (refused if two share a name). -/
  | editRegistry (locations : List BackupStorageLocation)
  /-- The backup objects a restore can read from are replaced by these. -/
  | setBackups (backups : List SourceBackup)
  /-- The cluster's `Secret`s are replaced by these. -/
  | setSecrets (secrets : List ((String × String) × SecretData))
  /-- The clock advances. -/
  | tick
  deriving Repr

namespace System

/-- A status write that goes through: the status is replaced and the version advances. -/
def writeStatus (s : System) (st : Status) : System :=
  { s with
    request := { s.request with
      status := st
      resourceVersion := s.request.resourceVersion + 1 } }

/-- `Status().Update` through an object loaded at version `rv`: it goes through only if the
object has not changed since. -/
def updateStatus (s : System) (rv : Nat) (st : Status) : System × Bool :=
  if s.request.resourceVersion = rv then (s.writeStatus st, true) else (s, false)

/-- The store's entry for a Job. -/
def entry (s : System) (id : Nat) : Option JobEntry := s.jobs.find? (·.job.id == id)

/-- Change the entry of a Job. -/
def modifyEntry (s : System) (id : Nat) (f : JobEntry → JobEntry) : System :=
  { s with jobs := s.jobs.map fun e => if e.job.id = id then f e else e }

/-- Set the worker state of a Job's pod. -/
def setWorker (s : System) (id : Nat) (w : WorkerState) : System :=
  s.modifyEntry id fun e => { e with worker := w }

/-- One reconcile, reading the Job cache and the given listing, applied to the store. -/
def applyReconcile (s : System) (listed : List BackupStorageLocation) : System :=
  let out := reconcile s.env s.request s.jobCache listed s.backups s.clock
  let s₁ := match out.created with
    | some (spec, storage) =>
      { s with jobs := s.jobs ++ [⟨⟨s.nextJob, spec, 0, 0⟩, .pending, storage, s.cacheEpoch⟩],
               nextJob := s.nextJob + 1 }
    | none => s
  out.writes.foldl writeStatus s₁

/-- What a worker starting now loads: the request, the locations in the API server's order, and
the plan they give. -/
def startSnapshot (s : System) (timestamp : String) : Snapshot :=
  ⟨s.request, s.registry.locations, workerPlan s.registry.locations s.backups s.request, timestamp,
    s.clock, s.epoch⟩

/-- A worker starts: it loads the request and resolves storage; a failing plan is written at once
through the object just loaded. -/
def startWorker (s : System) (id : Nat) (timestamp : String) : System :=
  match s.entry id with
  | some { worker := .pending, .. } =>
    let snap := s.startSnapshot timestamp
    match snap.plan with
    | .fail msg =>
      (s.writeStatus (failedWorkerStatus s.request.status msg s.clock)).setWorker id
        (.exited snap true none)
    | _ => s.setWorker id (.running snap)
  | _ => s

/-- The ending a running worker reaches for an outcome, with the cluster's `Secret`s. -/
def finishOf (e : JobEntry) (snap : Snapshot) (secrets : List ((String × String) × SecretData))
    (now : Nat) (o : Outcome) : Finish :=
  match snap.plan with
  | .backup storage =>
    finishBackup e.job.spec.containerEnv (getSecretFrom secrets) storage snap.loaded.identity
      snap.timestamp snap.loaded.status snap.startedAt now o
  | .restore storage location =>
    finishRestore e.job.spec.containerEnv (getSecretFrom secrets) storage location
      snap.loaded.status now o
  | .fail _ => ⟨none, none⟩

/-- A worker finishes: it writes its final status through the object it loaded and returns that
write's error (or the temporary-directory error, without a write). -/
def finishWorker (s : System) (id : Nat) (o : Outcome) : System :=
  match s.entry id with
  | some e =>
    match e.worker with
    | .running snap =>
      let f := finishOf e snap s.secrets s.clock o
      match f.write with
      | none => s.setWorker id (.exited snap false f.stored)
      | some st =>
        let (s', ok) := s.updateStatus snap.loaded.resourceVersion st
        s'.setWorker id (.exited snap ok f.stored)
    | _ => s
  | none => s

/-- The Job controller records an exited pod: `Succeeded` if the worker returned `nil`. -/
def completeJob (s : System) (id : Nat) : System :=
  match s.entry id with
  | some { job := { succeeded := 0, failed := 0, .. }, worker := .exited _ ok _, .. } =>
    s.modifyEntry id fun e =>
      if ok then { e with job := { e.job with succeeded := 1 } }
      else { e with job := { e.job with failed := 1 } }
  | _ => s

/-- The deadline kills an unfinished pod; with `BackoffLimit` 0 the Job fails. -/
def expireDeadline (s : System) (id : Nat) : System :=
  match s.entry id with
  | some e =>
    if e.job.spec.activeDeadlineSeconds.isSome ∧ e.job.succeeded = 0 ∧ e.job.failed = 0 ∧
        e.worker.IsActive then
      s.modifyEntry id fun e => { e with worker := .killed, job := { e.job with failed := 1 } }
    else s
  | none => s

/-- One event. -/
def step (s : System) : Event → System
  | .reconcile listed => if listed.Perm s.locationCache then s.applyReconcile listed else s
  | .syncJobCache => { s with jobCache := s.jobs.map (·.job) }
  | .syncLocationCache => { s with locationCache := s.registry.locations, cacheEpoch := s.epoch }
  | .startWorker id ts => s.startWorker id ts
  | .finishWorker id o => s.finishWorker id o
  | .completeJob id => s.completeJob id
  | .expireDeadline id => s.expireDeadline id
  | .expireJob id => { s with jobs := s.jobs.filter fun e => !(e.job.id = id ∧ e.IsFinished) }
  | .touchRequest =>
    { s with request := { s.request with resourceVersion := s.request.resourceVersion + 1 } }
  | .editStorageRef name =>
    { s with
      request := { s.request with
        storageName := name
        generation := s.request.generation + 1
        resourceVersion := s.request.resourceVersion + 1 }
      epoch := s.epoch + 1 }
  | .editRegistry locations =>
    if h : (locations.map (·.name)).Nodup then
      { s with registry := ⟨locations, h⟩, epoch := s.epoch + 1 }
    else s
  | .setBackups backups => { s with backups := backups }
  | .setSecrets secrets => { s with secrets := secrets }
  | .tick => { s with clock := s.clock + 1 }

/-- A run: the events in order. -/
def run (s : System) (events : List Event) : System := events.foldl step s

@[simp] theorem run_nil (s : System) : s.run [] = s := rfl

@[simp] theorem run_cons (s : System) (e : Event) (es : List Event) :
    s.run (e :: es) = (s.step e).run es := rfl

theorem run_append (s : System) (es es' : List Event) :
    s.run (es ++ es') = (s.run es).run es' := List.foldl_append _ _ _ _

/-! ### What the operations leave alone

Status writes and Job updates never touch the request's identity and storage reference, the
storage locations, the location cache or the edit counts: together these are the `Config`, which
only the edit events and the cache's catching up change. A Job entry keeps its Job spec, its
resolved location and its epoch for its whole life; only its worker and counters move (`Kept`). -/

/-- The part of the state that only the edit events and the cache's catching up change. -/
structure Config where
  env : Env
  kind : RequestKind
  name : String
  ns : String
  uid : String
  timeout : Option Int
  storageName : String
  locations : List BackupStorageLocation
  locationCache : List BackupStorageLocation
  cacheEpoch : Nat
  epoch : Nat

/-- The state's `Config`. -/
def config (s : System) : Config :=
  ⟨s.env, s.request.kind, s.request.name, s.request.ns, s.request.uid, s.request.timeout,
    s.request.storageName, s.registry.locations, s.locationCache, s.cacheEpoch, s.epoch⟩

@[simp] theorem config_writeStatus (s : System) (st : Status) :
    (s.writeStatus st).config = s.config := rfl

@[simp] theorem config_modifyEntry (s : System) (id : Nat) (f : JobEntry → JobEntry) :
    (s.modifyEntry id f).config = s.config := rfl

@[simp] theorem jobs_writeStatus (s : System) (st : Status) : (s.writeStatus st).jobs = s.jobs := rfl

theorem foldl_writeStatus_frame (s : System) (sts : List Status) :
    (sts.foldl writeStatus s).config = s.config ∧ (sts.foldl writeStatus s).jobs = s.jobs := by
  induction sts generalizing s with
  | nil => exact ⟨rfl, rfl⟩
  | cons st sts ih => exact ih (s.writeStatus st)

theorem config_updateStatus (s : System) (rv : Nat) (st : Status) :
    (s.updateStatus rv st).1.config = s.config := by
  unfold updateStatus; split <;> rfl

theorem jobs_updateStatus (s : System) (rv : Nat) (st : Status) :
    (s.updateStatus rv st).1.jobs = s.jobs := by
  unfold updateStatus; split <;> rfl

@[simp] theorem request_modifyEntry (s : System) (id : Nat) (f : JobEntry → JobEntry) :
    (s.modifyEntry id f).request = s.request := rfl

theorem foldl_writeStatus_nextJob (s : System) (sts : List Status) :
    (sts.foldl writeStatus s).nextJob = s.nextJob := by
  induction sts generalizing s with
  | nil => rfl
  | cons st sts ih => exact ih (s.writeStatus st)

theorem config_applyReconcile (s : System) (listed : List BackupStorageLocation) :
    (s.applyReconcile listed).config = s.config := by
  unfold applyReconcile
  dsimp only
  split <;> exact (foldl_writeStatus_frame _ _).1

/-- A reconcile appends at most one Job, the one it creates, under the next id. -/
theorem applyReconcile_jobs (s : System) (listed : List BackupStorageLocation) :
    ((s.applyReconcile listed).jobs = s.jobs ∧ (s.applyReconcile listed).nextJob = s.nextJob) ∨
      ∃ spec storage, (reconcile s.env s.request s.jobCache listed s.backups s.clock).created =
        some (spec, storage) ∧ (s.applyReconcile listed).jobs =
          s.jobs ++ [⟨⟨s.nextJob, spec, 0, 0⟩, .pending, storage, s.cacheEpoch⟩] ∧
        (s.applyReconcile listed).nextJob = s.nextJob + 1 := by
  unfold applyReconcile
  dsimp only
  split
  · exact .inr ⟨_, _, ‹_›, (foldl_writeStatus_frame _ _).2, foldl_writeStatus_nextJob _ _⟩
  · exact .inl ⟨(foldl_writeStatus_frame _ _).2, foldl_writeStatus_nextJob _ _⟩

/-- A Job entry that has kept its spec, resolved location and epoch, and either kept its
worker's snapshot or lost it (the pod was killed). -/
def Kept (e e' : JobEntry) : Prop :=
  e'.job.spec = e.job.spec ∧ e'.resolved = e.resolved ∧ e'.epoch = e.epoch ∧
    (e'.worker.snapshot = e.worker.snapshot ∨ e'.worker.snapshot = none)

theorem Kept.refl (e : JobEntry) : Kept e e := ⟨rfl, rfl, rfl, .inl rfl⟩

theorem mem_modifyEntry {s : System} {id : Nat} {f : JobEntry → JobEntry} {e' : JobEntry}
    (h : e' ∈ (s.modifyEntry id f).jobs) : ∃ e ∈ s.jobs, e' = e ∨ (e.job.id = id ∧ e' = f e) := by
  obtain ⟨e, he, rfl⟩ := List.mem_map.mp h
  exact ⟨e, he, by split_ifs <;> simp_all⟩

/-- A reconcile changes only the Jobs and the status: the Jobs it leaves are the old ones and
the one it creates. -/
theorem applyReconcile_frame (s : System) (listed : List BackupStorageLocation) :
    (s.applyReconcile listed).config = s.config ∧
      ∀ e' ∈ (s.applyReconcile listed).jobs, e' ∈ s.jobs ∨ ∃ spec storage,
        (reconcile s.env s.request s.jobCache listed s.backups s.clock).created =
          some (spec, storage) ∧ e' = ⟨⟨s.nextJob, spec, 0, 0⟩, .pending, storage, s.cacheEpoch⟩ := by
  refine ⟨config_applyReconcile s listed, fun e' he' => ?_⟩
  rcases applyReconcile_jobs s listed with ⟨hj, -⟩ | ⟨spec, storage, hc, hj, -⟩ <;> rw [hj] at he'
  · exact .inl he'
  · rcases List.mem_append.mp he' with h | h
    · exact .inl h
    · exact .inr ⟨spec, storage, hc, List.mem_singleton.mp h⟩

/-- Every Job after the operation is a Job before it, kept. -/
def KeepsJobs (s s' : System) : Prop := ∀ e' ∈ s'.jobs, ∃ e ∈ s.jobs, Kept e e'

theorem KeepsJobs.refl (s : System) : KeepsJobs s s := fun e' he' => ⟨e', he', Kept.refl e'⟩

theorem keepsJobs_modifyEntry {s : System} {id : Nat} {f : JobEntry → JobEntry}
    (hf : ∀ e, Kept e (f e)) : KeepsJobs s (s.modifyEntry id f) := fun _ h' => by
  obtain ⟨e, he, h | ⟨-, h⟩⟩ := mem_modifyEntry h'
  exacts [⟨e, he, h ▸ Kept.refl e⟩, ⟨e, he, h ▸ hf e⟩]

/-- Setting a worker keeps every Job entry but the workers of that Job. -/
theorem mem_setWorker {s : System} {id : Nat} {w : WorkerState} {e' : JobEntry}
    (h : e' ∈ (s.setWorker id w).jobs) :
    ∃ e ∈ s.jobs, e' = e ∨ (e.job.id = id ∧ e'.job = e.job ∧ e'.resolved = e.resolved ∧
      e'.epoch = e.epoch ∧ e'.worker = w) := by
  obtain ⟨e, he, h | ⟨hid, h⟩⟩ := mem_modifyEntry h
  exacts [⟨e, he, .inl h⟩, ⟨e, he, .inr (by subst h; exact ⟨hid, rfl, rfl, rfl, rfl⟩)⟩]

theorem startWorker_frame (s : System) (id : Nat) (ts : String) :
    (s.startWorker id ts).config = s.config ∧
      ∀ e' ∈ (s.startWorker id ts).jobs, ∃ e ∈ s.jobs, Kept e e' ∨
        (e'.job.spec = e.job.spec ∧ e'.resolved = e.resolved ∧ e'.epoch = e.epoch ∧
          e'.worker.snapshot = some (s.startSnapshot ts)) := by
  have key : ∀ (s₀ : System) w, s₀.config = s.config → s₀.jobs = s.jobs →
      w.snapshot = some (s.startSnapshot ts) →
      (s₀.setWorker id w).config = s.config ∧ ∀ e' ∈ (s₀.setWorker id w).jobs, ∃ e ∈ s.jobs,
        Kept e e' ∨ (e'.job.spec = e.job.spec ∧ e'.resolved = e.resolved ∧ e'.epoch = e.epoch ∧
          e'.worker.snapshot = some (s.startSnapshot ts)) := by
    intro s₀ w hc hj hw
    refine ⟨hc, fun e' he' => ?_⟩
    obtain ⟨e, he, h | ⟨-, h1, h2, h3, h4⟩⟩ := mem_setWorker he'
    · exact ⟨e, hj ▸ he, .inl (h ▸ Kept.refl e)⟩
    · exact ⟨e, hj ▸ he, .inr ⟨by rw [h1], h2, h3, by rw [h4, hw]⟩⟩
  unfold startWorker
  split
  · dsimp only
    split
    · exact key _ _ rfl rfl rfl
    · exact key _ _ rfl rfl rfl
  · exact ⟨rfl, fun e' he' => ⟨e', he', .inl (Kept.refl e')⟩⟩

/-- With unique Job ids, the entry found for an id is the only one with that id. -/
theorem entry_unique {s : System} {id : Nat} {e₀ e : JobEntry}
    (hn : (s.jobs.map (·.job.id)).Nodup) (h₀ : s.entry id = some e₀) (he : e ∈ s.jobs)
    (hid : e.job.id = id) : e = e₀ :=
  List.inj_on_of_nodup_map hn he (List.mem_of_find?_eq_some h₀)
    (by have := List.find?_some h₀; simp_all)

/-- Finishing a worker keeps every Job entry, the finished worker's snapshot included. -/
theorem finishWorker_frame (s : System) (id : Nat) (o : Outcome)
    (hn : (s.jobs.map (·.job.id)).Nodup) :
    (s.finishWorker id o).config = s.config ∧ KeepsJobs s (s.finishWorker id o) := by
  have key : ∀ (s₀ : System) snap w, s₀.config = s.config → s₀.jobs = s.jobs →
      w.snapshot = some snap → (∀ e ∈ s.jobs, e.job.id = id → e.worker = .running snap) →
      (s₀.setWorker id w).config = s.config ∧ KeepsJobs s (s₀.setWorker id w) := by
    intro s₀ snap w hc hj hw hrun
    refine ⟨hc, fun e' he' => ?_⟩
    obtain ⟨e, he, h | ⟨hid, h1, h2, h3, h4⟩⟩ := mem_setWorker he'
    · exact ⟨e, hj ▸ he, h ▸ Kept.refl e⟩
    · have he₀ := hj ▸ he
      exact ⟨e, he₀, by rw [h1], h2, h3, .inl (by rw [h4, hw, hrun e he₀ hid]; rfl)⟩
  unfold finishWorker
  split
  · rename_i e₀ h₀
    split
    · rename_i snap hw
      have hrun : ∀ e ∈ s.jobs, e.job.id = id → e.worker = .running snap := fun e he hid =>
        (entry_unique hn h₀ he hid) ▸ hw
      dsimp only
      split
      · exact key s snap _ rfl rfl rfl hrun
      · exact key _ snap _ (config_updateStatus ..) (jobs_updateStatus ..) rfl hrun
    · exact ⟨rfl, KeepsJobs.refl s⟩
  · exact ⟨rfl, KeepsJobs.refl s⟩

/-- Recording a pod's exit changes only the Job's counters. -/
theorem completeJob_frame (s : System) (id : Nat) :
    (s.completeJob id).config = s.config ∧ KeepsJobs s (s.completeJob id) := by
  unfold completeJob
  split
  · refine ⟨rfl, keepsJobs_modifyEntry fun e => ?_⟩
    split_ifs <;> exact ⟨rfl, rfl, rfl, .inl rfl⟩
  · exact ⟨rfl, KeepsJobs.refl s⟩

/-- A deadline kills a pod (its snapshot is lost) and fails the Job. -/
theorem expireDeadline_frame (s : System) (id : Nat) :
    (s.expireDeadline id).config = s.config ∧ KeepsJobs s (s.expireDeadline id) := by
  unfold expireDeadline
  split
  · split_ifs
    · exact ⟨rfl, keepsJobs_modifyEntry fun e => ⟨rfl, rfl, rfl, .inr rfl⟩⟩
    · exact ⟨rfl, KeepsJobs.refl s⟩
  · exact ⟨rfl, KeepsJobs.refl s⟩

/-! ### Job ids are unique -/

/-- The ids of the Jobs in the store. -/
def jobIds (s : System) : List Nat := s.jobs.map (·.job.id)

/-- Job ids are unique and below the next id to hand out. -/
def IdsFresh (s : System) : Prop := s.jobIds.Nodup ∧ ∀ e ∈ s.jobs, e.job.id < s.nextJob

theorem jobIds_modifyEntry (s : System) (id : Nat) {f : JobEntry → JobEntry}
    (hf : ∀ e, (f e).job.id = e.job.id) : (s.modifyEntry id f).jobIds = s.jobIds := by
  simp only [jobIds, modifyEntry, List.map_map]
  exact List.map_congr_left fun e _ => by simp only [Function.comp]; split_ifs <;> simp [hf]

/-- The worker and Job-controller operations keep the ids and the next id. -/
theorem jobIds_of_worker_ops (s : System) (id : Nat) (ts : String) (o : Outcome) :
    ((s.startWorker id ts).jobIds = s.jobIds ∧ (s.startWorker id ts).nextJob = s.nextJob) ∧
    ((s.finishWorker id o).jobIds = s.jobIds ∧ (s.finishWorker id o).nextJob = s.nextJob) ∧
    ((s.completeJob id).jobIds = s.jobIds ∧ (s.completeJob id).nextJob = s.nextJob) ∧
    ((s.expireDeadline id).jobIds = s.jobIds ∧ (s.expireDeadline id).nextJob = s.nextJob) := by
  have hw : ∀ (s₀ : System) w, (s₀.setWorker id w).jobIds = s₀.jobIds ∧
      (s₀.setWorker id w).nextJob = s₀.nextJob := fun s₀ w => ⟨jobIds_modifyEntry _ _ fun _ => rfl, rfl⟩
  refine ⟨?_, ?_, ?_, ?_⟩
  · unfold startWorker; split
    · dsimp only; split <;> [exact hw _ _; exact hw _ _]
    · exact ⟨rfl, rfl⟩
  · unfold finishWorker; split
    · split
      · dsimp only; split
        · exact hw _ _
        · simp only [updateStatus]
          split_ifs <;> exact hw _ _
      · exact ⟨rfl, rfl⟩
    · exact ⟨rfl, rfl⟩
  · unfold completeJob; split
    · exact ⟨jobIds_modifyEntry _ _ fun e => by split_ifs <;> rfl, rfl⟩
    · exact ⟨rfl, rfl⟩
  · unfold expireDeadline; split
    · split_ifs
      · exact ⟨jobIds_modifyEntry _ _ fun _ => rfl, rfl⟩
      · exact ⟨rfl, rfl⟩
    · exact ⟨rfl, rfl⟩

theorem idsFresh_of_same {s s' : System} (h : IdsFresh s) (hi : s'.jobIds = s.jobIds)
    (hn : s'.nextJob = s.nextJob) : IdsFresh s' := by
  refine ⟨hi ▸ h.1, fun e he => hn ▸ ?_⟩
  have : e.job.id ∈ s.jobIds := hi ▸ List.mem_map_of_mem (·.job.id) he
  obtain ⟨e₀, he₀, hid⟩ := List.mem_map.mp this
  exact hid ▸ h.2 e₀ he₀

theorem applyReconcile_idsFresh {s : System} (h : IdsFresh s) (listed : List BackupStorageLocation) :
    IdsFresh (s.applyReconcile listed) := by
  rcases applyReconcile_jobs s listed with ⟨hj, hn⟩ | ⟨spec, storage, -, hj, hn⟩
  · exact idsFresh_of_same h (by simp only [jobIds, hj]) hn
  refine ⟨?_, fun e he => ?_⟩
  · have hfresh : ∀ e ∈ s.jobs, e.job.id ≠ s.nextJob := fun e he => (h.2 e he).ne
    simpa [jobIds, hj, List.nodup_append] using ⟨h.1, hfresh⟩
  · rw [hj] at he
    rw [hn]
    rcases List.mem_append.mp he with he | he
    · exact Nat.lt_succ_of_lt (h.2 e he)
    · simp [List.mem_singleton.mp he]

/-- **Job ids stay unique.** -/
theorem step_idsFresh {s : System} (h : IdsFresh s) (ev : Event) : IdsFresh (s.step ev) := by
  have ops := jobIds_of_worker_ops s
  cases ev with
  | reconcile listed =>
    simp only [step]; split_ifs
    · exact applyReconcile_idsFresh h listed
    · exact h
  | startWorker id ts => exact idsFresh_of_same h (ops id ts .succeeded).1.1 (ops id ts .succeeded).1.2
  | finishWorker id o => exact idsFresh_of_same h (ops id "" o).2.1.1 (ops id "" o).2.1.2
  | completeJob id => exact idsFresh_of_same h (ops id "" .succeeded).2.2.1.1 (ops id "" .succeeded).2.2.1.2
  | expireDeadline id => exact idsFresh_of_same h (ops id "" .succeeded).2.2.2.1 (ops id "" .succeeded).2.2.2.2
  | expireJob id =>
    exact ⟨(List.filter_sublist _).map _ |>.nodup h.1, fun e he => h.2 e (List.mem_of_mem_filter he)⟩
  | editRegistry locations => simp only [step]; split_ifs <;> exact h
  | _ => exact h

theorem run_idsFresh {s : System} (h : IdsFresh s) (es : List Event) : IdsFresh (s.run es) := by
  induction es generalizing s with
  | nil => exact h
  | cons ev es ih => exact ih (step_idsFresh h ev)

end System

end BackupOperator