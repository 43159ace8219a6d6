import BackupOperator.Dispatcher.Reconcile
import BackupOperator.Storage.Artifact

/-!
# The workers' status logic (`runBackupWorker`, `runRestoreWorker`)

A worker loads its request, resolves storage (a restore first loads its source backup), does
its work, and ends with one `updateStatus` through the object it loaded: `Failed` with the error
of the first step that failed, or `Completed`. It returns that write's error, so a worker that
recorded a failure still returns `nil` when the write goes through, and its Job counts as
succeeded.

The work itself (export, snapshots, archive, upload; download, extract, decode, apply) talks to
the cluster, the object store and the disk; its result is an `Outcome` chosen by the
environment. What is modelled here is the part the status depends on: the two plans, the
`storeArtifact` call that produces the artifact location (with the `Get` of the S3 credential
`Secret`, whose result the environment gives), and the status each ending writes.

* `finishBackup_stored` — a backup worker reports a stored artifact exactly when it writes
  `Completed`, and then the status carries that location.
-/

namespace BackupOperator

/-- `failedBackupStatus` and `failedRestoreStatus`: the loaded status with phase `Failed`, the
message and the completion time (`ObservedGeneration` is assigned to itself). -/
def failedWorkerStatus (current : Status) (message : String) (now : Nat) : Status :=
  { current with phase := .failed, message := message, completedAt := some now }

/-- `failedBackupStatus`. -/
def failedBackupStatus (current : Status) (message : String) (now : Nat) : Status :=
  failedWorkerStatus current message now

/-- `failedRestoreStatus`. -/
def failedRestoreStatus (current : Status) (message : String) (now : Nat) : Status :=
  failedWorkerStatus current message now

/-- The `completed` status of `runBackupWorker`, stamped with the time the run started. -/
def completedBackupStatus (current : Status) (location : String) (startedAt : Nat) : Status :=
  { current with
    phase := .completed
    completedAt := some startedAt
    artifactLocation := location
    message := "backup completed" }

/-- The `completed` status of `runRestoreWorker`. -/
def completedRestoreStatus (current : Status) (now : Nat) : Status :=
  { current with phase := .completed, completedAt := some now, message := "restore completed" }

/-- `loadBackupReference`: unlike the dispatcher's `getBackupForRestore`, it does not insist on
a namespace for a `Backup` source. -/
def loadBackupReference (backups : List SourceBackup) (ref : RestoreSourceRef) :
    Except String SourceBackup :=
  if ref.kind = "Backup" then getSourceBackup backups "Backup" "backups" ref.name ref.ns
  else if ref.kind = "ClusterBackup" then
    getSourceBackup backups "ClusterBackup" "clusterbackups" ref.name ""
  else .error ("unsupported sourceRef.kind \"" ++ ref.kind ++ "\"")

/-- Where a worker stands once it has loaded its request and resolved storage: it fails at once
with a message, or it goes on with a location (and, for a restore, the artifact to load). -/
inductive WorkerPlan where
  | fail (message : String)
  | backup (storage : BackupStorageLocation)
  | restore (storage : BackupStorageLocation) (artifactLocation : String)
  deriving DecidableEq, Repr

/-- `runBackupWorker` up to `resolve.StorageLocation`, over the locations the API server lists. -/
def backupWorkerPlan (listed : List BackupStorageLocation) (r : Request) : WorkerPlan :=
  match storageLocation listed r.storageName with
  | .error e => .fail e.message
  | .ok storage => .backup storage

/-- `runRestoreWorker` up to `resolve.StorageLocation` of the source backup's reference. -/
def restoreWorkerPlan (listed : List BackupStorageLocation) (backups : List SourceBackup)
    (r : Request) : WorkerPlan :=
  match loadBackupReference backups r.sourceRef with
  | .error msg => .fail msg
  | .ok source =>
    if source.artifactLocation = "" then .fail "artifact location missing on source backup" else
    match storageLocation listed source.storageName with
    | .error e => .fail e.message
    | .ok storage => .restore storage source.artifactLocation

/-- The plan of the worker for the request's kind. -/
def workerPlan (listed : List BackupStorageLocation) (backups : List SourceBackup)
    (r : Request) : WorkerPlan :=
  match r.kind with
  | .backup | .clusterBackup => backupWorkerPlan listed r
  | .clusterRestore => restoreWorkerPlan listed backups r

/-- A backup worker's plan is the resolution of its request's reference. -/
theorem workerPlan_of_ne_clusterRestore {listed : List BackupStorageLocation}
    {backups : List SourceBackup} {r : Request} (hk : r.kind ≠ .clusterRestore) :
    workerPlan listed backups r = backupWorkerPlan listed r := by
  unfold workerPlan
  cases h : r.kind
  · rfl
  · rfl
  · exact absurd h hk

/-- How the external calls of the rest of a run turn out. -/
inductive Outcome where
  /-- `os.MkdirTemp` fails: the worker returns the error without writing status. -/
  | tempDirFailed
  /-- An export, snapshot, metadata, archive, upload, download, extract, decode, remote-config or
  apply call returns this error. -/
  | stepFailed (message : String)
  /-- Every step returns `nil`. -/
  | succeeded
  deriving DecidableEq, Repr

/-- The ending of a run: the status it writes, if any, and the location `storeArtifact` returned,
if it returned one. -/
structure Finish where
  write : Option Status
  stored : Option String
  deriving DecidableEq, Repr

/-- The rest of `runBackupWorker` after storage is resolved, from the loaded status. -/
def finishBackup (env : Env) (getSecret : String × String → Except String SecretData)
    (storage : BackupStorageLocation) (b : BackupIdentity) (timestamp : String) (current : Status)
    (startedAt now : Nat) : Outcome → Finish
  | .tempDirFailed => ⟨none, none⟩
  | .stepFailed msg => ⟨some (failedBackupStatus current msg now), none⟩
  | .succeeded =>
    match storeArtifact env getSecret storage b timestamp with
    | .error e => ⟨some (failedBackupStatus current e now), none⟩
    | .ok (location, _) => ⟨some (completedBackupStatus current location startedAt), some location⟩

/-- The rest of `runRestoreWorker` after storage is resolved. -/
def finishRestore (env : Env) (getSecret : String × String → Except String SecretData)
    (storage : BackupStorageLocation) (artifactLocation : String) (current : Status) (now : Nat) :
    Outcome → Finish
  | .tempDirFailed => ⟨none, none⟩
  | .stepFailed msg => ⟨some (failedRestoreStatus current msg now), none⟩
  | .succeeded =>
    match loadArtifact env getSecret storage artifactLocation with
    | .error e => ⟨some (failedRestoreStatus current e now), none⟩
    | .ok _ => ⟨some (completedRestoreStatus current now), none⟩

/-- A backup run writes `Failed` or `Completed`. -/
theorem finishBackup_write_phase {env : Env}
    {getSecret : String × String → Except String SecretData} {storage : BackupStorageLocation}
    {b : BackupIdentity} {ts : String} {current : Status} {startedAt now : Nat} {o : Outcome}
    {st : Status} (h : (finishBackup env getSecret storage b ts current startedAt now o).write = some st) :
    st.phase = .failed ∨ st.phase = .completed := by
  cases o with
  | tempDirFailed => cases h
  | stepFailed msg => cases h; exact .inl rfl
  | succeeded =>
    simp only [finishBackup] at h
    split at h <;> cases h
    exacts [.inl rfl, .inr rfl]

/-- A restore run writes `Failed` or `Completed`. -/
theorem finishRestore_write_phase {env : Env}
    {getSecret : String × String → Except String SecretData} {storage : BackupStorageLocation}
    {location : String} {current : Status} {now : Nat} {o : Outcome} {st : Status}
    (h : (finishRestore env getSecret storage location current now o).write = some st) :
    st.phase = .failed ∨ st.phase = .completed := by
  cases o with
  | tempDirFailed => cases h
  | stepFailed msg => cases h; exact .inl rfl
  | succeeded =>
    simp only [finishRestore] at h
    split at h <;> cases h
    exacts [.inl rfl, .inr rfl]

/-- A backup run reports a stored artifact exactly when it writes `Completed`, and that status
records the stored location. -/
theorem finishBackup_stored {env : Env} {getSecret : String × String → Except String SecretData}
    {storage : BackupStorageLocation} {b : BackupIdentity}
    {ts : String} {current : Status} {startedAt now : Nat} {o : Outcome} {f : Finish}
    (h : finishBackup env getSecret storage b ts current startedAt now o = f) :
    (∀ loc, f.stored = some loc ↔ ∃ st, f.write = some st ∧ st.phase = .completed ∧
      st.artifactLocation = loc) := by
  subst h
  cases o with
  | tempDirFailed => simp [finishBackup]
  | stepFailed msg => simp [finishBackup, failedBackupStatus, failedWorkerStatus]
  | succeeded =>
    cases hs : storeArtifact env getSecret storage b ts with
    | error e => simp [finishBackup, hs, failedBackupStatus, failedWorkerStatus]
    | ok p => simp [finishBackup, hs, completedBackupStatus]

end BackupOperator
