import BackupOperator.Dispatcher.Job

/-!
# The dispatcher's reconcilers (`controllers/`)

One reconcile of a request: if no worker Job carries the owner's labels, resolve the storage
location, build the Job, create it and mark the request `Running`; if the Job exists, map its
success and failure counters to `Completed` and `Failed`. `BackupReconciler` and
`ClusterBackupReconciler` are one algorithm over the owner's kind and namespace
(`reconcileBackupKind`); `ClusterRestoreReconciler` has its own body, which first looks up the
source backup and waits while that backup has no artifact location.

A reconcile is a function of what it reads (the request, the Jobs the informer cache lists, the
storage locations the cache lists, the source backups, the clock) to what it does (`Reconciled`):
the Job it creates and the status writes it makes, in order. The system model applies them.

* `observeJob_phase` — when the Job exists, the only phases written are `Completed` (Job
  succeeded, phase not yet `Completed`) and `Failed` (Job failed, phase not yet `Failed`).
* `reconcileBackupKind_created`, `clusterRestoreReconcile_created` — a reconcile creates a Job
  only when the cache lists none for the owner, and the Job it creates is `buildBackupJob` /
  `buildRestoreJob` of the location the listing resolves the reference to.
-/

namespace BackupOperator

/-- What one reconcile does: the Job it creates, its status writes in order, and the requeue
delay it asks for. The created Job comes with the location it was built from, which is not
written anywhere and is kept for stating what the worker should use. -/
structure Reconciled where
  created : Option (JobSpec × BackupStorageLocation)
  writes : List Status
  requeueAfter : Option Nat
  deriving DecidableEq, Repr

/-- A reconcile that reads and writes nothing. -/
def Reconciled.idle : Reconciled := ⟨none, [], none⟩

/-- A reconcile whose only effect is status writes. -/
def Reconciled.writing (writes : List Status) : Reconciled := ⟨none, writes, none⟩

/-- `failBackup`, `failClusterBackup` and `failClusterRestore`: the request turns `Failed` with the
message and the completion time, observing the current generation. -/
def failRequest (r : Request) (status : Status) (message : String) (now : Nat) : Status :=
  { status with
    phase := .failed
    message := message
    completedAt := some now
    observedGeneration := r.generation }

/-- `BackupReconciler.failBackup`. -/
def BackupReconciler.failBackup (r : Request) (status : Status) (message : String) (now : Nat) :
    Status := failRequest r status message now

/-- `ClusterBackupReconciler.failClusterBackup`. -/
def ClusterBackupReconciler.failClusterBackup (r : Request) (status : Status) (message : String)
    (now : Nat) : Status := failRequest r status message now

/-- `ClusterRestoreReconciler.failClusterRestore`. -/
def ClusterRestoreReconciler.failClusterRestore (r : Request) (status : Status) (message : String)
    (now : Nat) : Status := failRequest r status message now

/-- The status write after a successful `Create`: `Running`, started now. -/
def runningStatus (r : Request) (now : Nat) : Status :=
  { r.status with phase := .running, startedAt := some now, observedGeneration := r.generation }

/-- `spec.timeout`, truncated to seconds, becomes the Job's deadline when positive. -/
def withTimeout (spec : JobSpec) (timeout : Option Int) : JobSpec :=
  match timeout with
  | some t => if 0 < t then { spec with activeDeadlineSeconds := some t.toNat } else spec
  | none => spec

/-- The tail of every `Reconcile` once the owner's Job is found: `Succeeded > 0` and not yet
`Completed` writes `Completed`; then `Failed > 0` and not yet `Failed` fails the request with
`failMessage`. The second test reads the status the first write left. -/
def observeJob (r : Request) (job : Job) (failMessage : String) (now : Nat) : List Status :=
  let completed : Status := { r.status with phase := .completed, observedGeneration := r.generation }
  let marks := 0 < job.succeeded ∧ r.status.phase ≠ .completed
  let current := if marks then completed else r.status
  let first := if marks then [completed] else []
  if 0 < job.failed ∧ current.phase ≠ .failed then first ++ [failRequest r current failMessage now]
  else first

/-- `BackupReconciler.Reconcile` and `ClusterBackupReconciler.Reconcile`, for the owner's kind and
the namespace its labels and arguments carry (`""` for a `ClusterBackup`). -/
def reconcileBackupKind (env : Env) (kind : RequestKind) (ownerNamespace : String) (r : Request)
    (jobs : List Job) (listed : List BackupStorageLocation) (now : Nat) : Reconciled :=
  if r.deleting then .idle else
  match findJob jobs kind.name r.name ownerNamespace r.uid with
  | none =>
    match storageLocation listed r.storageName with
    | .error e => .writing [failRequest r r.status ("storage location error: " ++ e.message) now]
    | .ok storage =>
      match buildBackupJob env kind.name r.name ownerNamespace r.uid storage with
      | .error msg => .writing [failRequest r r.status msg now]
      | .ok spec => ⟨some (withTimeout spec r.timeout, storage), [runningStatus r now], none⟩
  | some job => .writing (observeJob r job "backup job failed" now)

/-- `BackupReconciler.Reconcile`. -/
def BackupReconciler.reconcile (env : Env) (r : Request) (jobs : List Job)
    (listed : List BackupStorageLocation) (now : Nat) : Reconciled :=
  reconcileBackupKind env .backup r.ns r jobs listed now

/-- `ClusterBackupReconciler.Reconcile`. -/
def ClusterBackupReconciler.reconcile (env : Env) (r : Request) (jobs : List Job)
    (listed : List BackupStorageLocation) (now : Nat) : Reconciled :=
  reconcileBackupKind env .clusterBackup "" r jobs listed now

/-- A `Get` of a backup object by kind, name and namespace; `plural` names its resource in the
not-found error. -/
def getSourceBackup (backups : List SourceBackup) (kind plural name ns : String) :
    Except String SourceBackup :=
  match backups.find? fun b => b.kind == kind && b.name == name && b.ns == ns with
  | some b => .ok b
  | none => .error (plural ++ ".backup.example.com \"" ++ name ++ "\" not found")

/-- `ClusterRestoreReconciler.getBackupForRestore`. -/
def getBackupForRestore (backups : List SourceBackup) (ref : RestoreSourceRef) :
    Except String SourceBackup :=
  if ref.kind = "Backup" then
    if ref.ns = "" then .error "sourceRef.namespace is required for Backup"
    else getSourceBackup backups "Backup" "backups" ref.name ref.ns
  else if ref.kind = "ClusterBackup" then
    getSourceBackup backups "ClusterBackup" "clusterbackups" ref.name ""
  else .error ("unsupported sourceRef.kind \"" ++ ref.kind ++ "\"")

/-- `ClusterRestoreReconciler.Reconcile`. -/
def ClusterRestoreReconciler.reconcile (env : Env) (r : Request) (jobs : List Job)
    (listed : List BackupStorageLocation) (backups : List SourceBackup) (now : Nat) : Reconciled :=
  if r.deleting then .idle else
  match getBackupForRestore backups r.sourceRef with
  | .error msg => .writing [failRequest r r.status msg now]
  | .ok source =>
    if source.artifactLocation = "" then ⟨none, [], some 10⟩ else
    match findJob jobs "ClusterRestore" r.name "" r.uid with
    | none =>
      match storageLocation listed source.storageName with
      | .error e => .writing [failRequest r r.status ("storage location error: " ++ e.message) now]
      | .ok storage =>
        match buildRestoreJob env "ClusterRestore" r.name "" r.uid storage with
        | .error msg => .writing [failRequest r r.status msg now]
        | .ok spec => ⟨some (withTimeout spec r.timeout, storage), [runningStatus r now], none⟩
    | some job => .writing (observeJob r job "restore job failed" now)

/-- The reconciler registered for the request's kind. -/
def reconcile (env : Env) (r : Request) (jobs : List Job) (listed : List BackupStorageLocation)
    (backups : List SourceBackup) (now : Nat) : Reconciled :=
  match r.kind with
  | .backup => BackupReconciler.reconcile env r jobs listed now
  | .clusterBackup => ClusterBackupReconciler.reconcile env r jobs listed now
  | .clusterRestore => ClusterRestoreReconciler.reconcile env r jobs listed backups now

/-- The namespace a request's owner labels carry. -/
def Request.ownerNamespace (r : Request) : String :=
  match r.kind with
  | .backup => r.ns
  | .clusterBackup | .clusterRestore => ""

/-- For a `Backup` or a `ClusterBackup`, the registered reconciler is `reconcileBackupKind` for
the request's kind and owner namespace. -/
theorem reconcile_of_ne_clusterRestore {env : Env} {r : Request} {jobs : List Job}
    {listed : List BackupStorageLocation} {backups : List SourceBackup} {now : Nat}
    (hk : r.kind ≠ .clusterRestore) :
    reconcile env r jobs listed backups now =
      reconcileBackupKind env r.kind r.ownerNamespace r jobs listed now := by
  unfold reconcile Request.ownerNamespace
  cases h : r.kind
  · rfl
  · rfl
  · exact absurd h hk

/-- The labels of the request's worker Jobs. -/
def Request.ownerLabels (r : Request) : OwnerLabels :=
  buildOwnerLabels r.kind.name r.name r.ownerNamespace r.uid

/-! ### What a reconcile writes -/

/-- With the Job found, a reconcile writes only `Completed` after a success it has not yet
recorded and `Failed` after a failure it has not yet recorded. -/
theorem observeJob_phase {r : Request} {job : Job} {msg : String} {now : Nat} {st : Status}
    (h : st ∈ observeJob r job msg now) :
    (st.phase = .completed ∧ 0 < job.succeeded ∧ r.status.phase ≠ .completed) ∨
      (st.phase = .failed ∧ 0 < job.failed) := by
  simp only [observeJob] at h
  split_ifs at h <;>
    simp only [List.mem_append, List.mem_cons, List.mem_nil_iff, or_false, false_or] at h <;>
    rcases h with rfl | rfl <;> simp_all [failRequest]

/-- The timeout changes the deadline and nothing else. -/
theorem withTimeout_eq (spec : JobSpec) (t : Option Int) :
    ∃ d, withTimeout spec t = { spec with activeDeadlineSeconds := d } := by
  unfold withTimeout
  split
  · split_ifs <;> exact ⟨_, rfl⟩
  · exact ⟨_, rfl⟩

@[simp] theorem withTimeout_labels (spec : JobSpec) (t : Option Int) :
    (withTimeout spec t).labels = spec.labels := by
  obtain ⟨d, h⟩ := withTimeout_eq spec t; rw [h]

@[simp] theorem withTimeout_volume (spec : JobSpec) (t : Option Int) :
    (withTimeout spec t).volume = spec.volume := by
  obtain ⟨d, h⟩ := withTimeout_eq spec t; rw [h]

@[simp] theorem withTimeout_volumeMount (spec : JobSpec) (t : Option Int) :
    (withTimeout spec t).volumeMount = spec.volumeMount := by
  obtain ⟨d, h⟩ := withTimeout_eq spec t; rw [h]

@[simp] theorem withTimeout_env (spec : JobSpec) (t : Option Int) :
    (withTimeout spec t).env = spec.env := by
  obtain ⟨d, h⟩ := withTimeout_eq spec t; rw [h]

@[simp] theorem withTimeout_ns (spec : JobSpec) (t : Option Int) :
    (withTimeout spec t).ns = spec.ns := by
  obtain ⟨d, h⟩ := withTimeout_eq spec t; rw [h]

/-- The Job a backup reconcile creates: the cache lists no Job for the owner, the listing
resolves the reference, and the Job is `buildBackupJob` of that location with the timeout. -/
theorem reconcileBackupKind_created {env : Env} {kind : RequestKind} {ns : String} {r : Request}
    {jobs : List Job} {listed : List BackupStorageLocation} {now : Nat} {spec : JobSpec}
    {storage : BackupStorageLocation}
    (h : (reconcileBackupKind env kind ns r jobs listed now).created = some (spec, storage)) :
    ∃ built, findJob jobs kind.name r.name ns r.uid = none ∧
      storageLocation listed r.storageName = .ok storage ∧
      buildBackupJob env kind.name r.name ns r.uid storage = .ok built ∧
      spec = withTimeout built r.timeout := by
  unfold reconcileBackupKind at h
  by_cases hd : r.deleting
  · simp [hd, Reconciled.idle] at h
  cases hf : findJob jobs kind.name r.name ns r.uid with
  | some job => simp [hd, hf, Reconciled.writing] at h
  | none =>
    cases hs : storageLocation listed r.storageName with
    | error e => simp [hd, hf, hs, Reconciled.writing] at h
    | ok storage =>
      cases hb : buildBackupJob env kind.name r.name ns r.uid storage with
      | error m => simp [hd, hf, hs, hb, Reconciled.writing] at h
      | ok built =>
        simp only [hd, hf, hs, hb, Bool.false_eq_true, if_false, Option.some.injEq,
          Prod.mk.injEq] at h
        obtain ⟨rfl, rfl⟩ := h
        exact ⟨built, rfl, rfl, hb, rfl⟩

/-- The Job a cluster-restore reconcile creates: the source backup has an artifact location,
the cache lists no Job for the owner, and the Job is `buildRestoreJob` of the location the
source's reference resolves to. -/
theorem clusterRestoreReconcile_created {env : Env} {r : Request} {jobs : List Job}
    {listed : List BackupStorageLocation} {backups : List SourceBackup} {now : Nat}
    {spec : JobSpec} {storage : BackupStorageLocation}
    (h : (ClusterRestoreReconciler.reconcile env r jobs listed backups now).created =
      some (spec, storage)) :
    ∃ source built, getBackupForRestore backups r.sourceRef = .ok source ∧
      source.artifactLocation ≠ "" ∧
      findJob jobs "ClusterRestore" r.name "" r.uid = none ∧
      storageLocation listed source.storageName = .ok storage ∧
      buildRestoreJob env "ClusterRestore" r.name "" r.uid storage = .ok built ∧
      spec = withTimeout built r.timeout := by
  unfold ClusterRestoreReconciler.reconcile at h
  by_cases hd : r.deleting
  · simp [hd, Reconciled.idle] at h
  cases hg : getBackupForRestore backups r.sourceRef with
  | error m => simp [hd, hg, Reconciled.writing] at h
  | ok source =>
    by_cases ha : source.artifactLocation = ""
    · simp [hd, hg, ha] at h
    cases hf : findJob jobs "ClusterRestore" r.name "" r.uid with
    | some job => simp [hd, hg, ha, hf, Reconciled.writing] at h
    | none =>
      cases hs : storageLocation listed source.storageName with
      | error e => simp [hd, hg, ha, hf, hs, Reconciled.writing] at h
      | ok storage =>
        cases hb : buildRestoreJob env "ClusterRestore" r.name "" r.uid storage with
        | error m => simp [hd, hg, ha, hf, hs, hb, Reconciled.writing] at h
        | ok built =>
          simp only [hd, hg, ha, hf, hs, hb, Bool.false_eq_true, if_false,
            Option.some.injEq, Prod.mk.injEq] at h
          obtain ⟨rfl, rfl⟩ := h
          exact ⟨source, built, rfl, ha, rfl, hs, hb, rfl⟩

/-- A reconcile creates a Job only when its cache lists none with the owner's labels, and the
Job it creates carries them. -/
theorem reconcile_created {env : Env} {r : Request} {jobs : List Job}
    {listed : List BackupStorageLocation} {backups : List SourceBackup} {now : Nat}
    {spec : JobSpec} {storage : BackupStorageLocation}
    (h : (reconcile env r jobs listed backups now).created = some (spec, storage)) :
    findJob jobs r.kind.name r.name r.ownerNamespace r.uid = none ∧ spec.labels = r.ownerLabels := by
  unfold reconcile at h
  split at h <;> rename_i hk <;>
    simp only [Request.ownerLabels, Request.ownerNamespace, hk, RequestKind.name]
  · obtain ⟨built, hf, -, hb, rfl⟩ := reconcileBackupKind_created h
    exact ⟨hf, by rw [withTimeout_labels, buildWorkerJob_labels hb]; rfl⟩
  · obtain ⟨built, hf, -, hb, rfl⟩ := reconcileBackupKind_created h
    exact ⟨hf, by rw [withTimeout_labels, buildWorkerJob_labels hb]; rfl⟩
  · obtain ⟨-, built, -, -, hf, -, hb, rfl⟩ := clusterRestoreReconcile_created h
    exact ⟨hf, by rw [withTimeout_labels, buildWorkerJob_labels hb]⟩

/-- Every status a reconcile writes is a failure of the request, `Running` after a `Create`, or
what `observeJob` writes for the Job it found. -/
theorem reconcile_write_cases {env : Env} {r : Request} {jobs : List Job}
    {listed : List BackupStorageLocation} {backups : List SourceBackup} {now : Nat} {st : Status}
    (h : st ∈ (reconcile env r jobs listed backups now).writes) :
    (∃ m, st = failRequest r r.status m now) ∨ st = runningStatus r now ∨
      ∃ job m, st ∈ observeJob r job m now := by
  have hb : ∀ kind ns, st ∈ (reconcileBackupKind env kind ns r jobs listed now).writes →
      (∃ m, st = failRequest r r.status m now) ∨ st = runningStatus r now ∨
        ∃ job m, st ∈ observeJob r job m now := by
    intro kind ns h
    unfold reconcileBackupKind at h
    split_ifs at h
    · cases h
    split at h
    · split at h
      · exact .inl ⟨_, List.mem_singleton.mp h⟩
      split at h
      · exact .inl ⟨_, List.mem_singleton.mp h⟩
      · exact .inr (.inl (List.mem_singleton.mp h))
    · exact .inr (.inr ⟨_, _, h⟩)
  unfold reconcile at h
  split at h
  · exact hb _ _ h
  · exact hb _ _ h
  unfold ClusterRestoreReconciler.reconcile at h
  split_ifs at h
  · cases h
  split at h
  · exact .inl ⟨_, List.mem_singleton.mp h⟩
  split_ifs at h
  · cases h
  split at h
  · split at h
    · exact .inl ⟨_, List.mem_singleton.mp h⟩
    split at h
    · exact .inl ⟨_, List.mem_singleton.mp h⟩
    · exact .inr (.inl (List.mem_singleton.mp h))
  · exact .inr (.inr ⟨_, _, h⟩)

/-- No reconcile writes `Pending`. -/
theorem reconcile_write_phase {env : Env} {r : Request} {jobs : List Job}
    {listed : List BackupStorageLocation} {backups : List SourceBackup} {now : Nat} {st : Status}
    (h : st ∈ (reconcile env r jobs listed backups now).writes) : st.phase ≠ .pending := by
  rcases reconcile_write_cases h with ⟨m, rfl⟩ | rfl | ⟨job, m, h⟩
  · simp [failRequest]
  · simp [runningStatus]
  · rcases observeJob_phase h with ⟨h, -⟩ | ⟨h, -⟩ <;> simp [h]

end BackupOperator
