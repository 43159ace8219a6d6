import BackupOperator.Worker.Pipeline
import BackupOperator.Dispatcher.Validation
import BackupOperator.System.Step

/-!
# From a backup to a restore, through the artifact store

`runBackupWorker` ends by uploading its archive to the address `storeArtifact` names and
recording the location `storeArtifact` returns; `runRestoreWorker` reads that location back with
`loadArtifact`, downloads the archive, and applies what it decodes. The two workers run in pods of
their own Jobs. What one pod writes is seen by another only in shared storage: a bucket object, or
a file under a path where the container mounts the pod's NFS volume, which is then a file of that
export. Any other file lies in the pod's own filesystem and goes with the pod.

The calls the model does not compute (`os.MkdirTemp`, the archive write on local disk, the upload
and the download, the texts of the API server's errors) are the environment's, given as their
results; so is the `Secret` read of the S3 credentials.

* `runBackup_finish`, `runRestore_finish` — the two runs end as `finishBackup` and
  `finishRestore` say, for the outcome their steps produce, so that what `Worker.Run` and the
  operator's state machine prove of those endings holds of these runs.
* `eq_of_storeArtifact_address` — two admitted runs that write one address are the same identity
  at the same timestamp, whatever cluster IDs, credentials and storage locations they use.
* `read_runBackups_of_ne` — an object is read back after any backup runs of other identities or
  timestamps.
* `restore_after_backup` — a `yaml` backup to S3 that completes, followed by any backup runs of
  other identities or timestamps, is restored from the location its status records: the restore
  applies exactly the exported documents and then the snapshots kept, in that order, and records
  how the apply ended.
* `nfs_restore_never_completes` — a restore worker started from the Job the dispatcher builds for
  an NFS location never records `Completed` and leaves the target as it was: the Job's container
  mounts nothing, so the archive's file is looked for in the restore pod's own filesystem.
-/

namespace BackupOperator

open GoPath

/-! ### The artifact store, as each pod sees it -/

/-- What a worker's container sees of its pod's NFS volume: the export, when the pod has one, and
the path the container mounts it at, when it does. -/
structure PodMounts where
  volume : Option NFSVolumeSource
  mountPath : Option String
  deriving DecidableEq, Repr

/-- The mounts of a Job's pod. -/
def JobSpec.mounts (spec : JobSpec) : PodMounts := ⟨spec.volume, spec.volumeMount⟩

/-- A place in storage that outlives a pod and that every pod sees: a bucket object, or a file of
an NFS export by its elements below the export's root. -/
inductive SharedAddress where
  | object (bucket key : String)
  | exportFile (server path : String) (rel : List (List Char))
  deriving DecidableEq, Repr

/-- Where a pod's address lies in shared storage: an object is its bucket's; a file is the
export's when its path lies under the container's mount of the pod's NFS volume, and otherwise in
the pod's own filesystem (`none`). -/
def PodMounts.shared (p : PodMounts) : ArtifactAddress → Option SharedAddress
  | .object bucket key => some (.object bucket key)
  | .file path =>
    match p.volume, p.mountPath with
    | some v, some m =>
      if (elements m.data).isPrefixOf (elements path.data) then
        some (.exportFile v.server v.path ((elements path.data).drop (elements m.data).length))
      else none
    | _, _ => none

@[simp] theorem PodMounts.shared_object (p : PodMounts) (bucket key : String) :
    p.shared (.object bucket key) = some (.object bucket key) := rfl

/-- A container that mounts nothing keeps every file in its pod. -/
@[simp] theorem PodMounts.shared_file_of_unmounted {p : PodMounts} (h : p.mountPath = none)
    (path : String) : p.shared (.file path) = none := by
  unfold PodMounts.shared
  rw [h]
  split <;> simp_all

/-- Only an object address reaches shared storage as an object. -/
theorem PodMounts.eq_of_shared_object {p : PodMounts} {addr : ArtifactAddress}
    {bucket key : String} (h : p.shared addr = some (.object bucket key)) :
    addr = .object bucket key := by
  cases addr with
  | object => simpa using h
  | file path =>
    simp only [PodMounts.shared] at h
    split at h <;> (try split_ifs at h) <;> simp at h

/-- The bytes of shared storage, by place. -/
structure ArtifactStore where
  read : SharedAddress → Option Bytes

/-- An upload or a copy into shared storage: the archive at its place, every other as it was. -/
def ArtifactStore.write (s : ArtifactStore) (a : SharedAddress) (archive : Bytes) : ArtifactStore :=
  ⟨Function.update s.read a (some archive)⟩

/-- A pod's write of an address: shared storage changes only where the address is shared. -/
def ArtifactStore.writeFrom (s : ArtifactStore) (p : PodMounts) (addr : ArtifactAddress)
    (archive : Bytes) : ArtifactStore :=
  match p.shared addr with
  | some a => s.write a archive
  | none => s

/-- A pod's read of an address: shared storage where the address is shared; a fresh pod's own
filesystem holds no archive. -/
def ArtifactStore.readFrom (s : ArtifactStore) (p : PodMounts) (addr : ArtifactAddress) :
    Option Bytes :=
  (p.shared addr).bind s.read

@[simp] theorem ArtifactStore.read_write_self (s : ArtifactStore) (a : SharedAddress)
    (archive : Bytes) : (s.write a archive).read a = some archive :=
  Function.update_same _ _ _

/-- A pod's write leaves every place of shared storage but the one its address names. -/
theorem ArtifactStore.read_writeFrom_of_ne {s : ArtifactStore} {p : PodMounts}
    {addr : ArtifactAddress} {a : SharedAddress} (archive : Bytes) (h : p.shared addr ≠ some a) :
    (s.writeFrom p addr archive).read a = s.read a := by
  unfold ArtifactStore.writeFrom
  split
  · exact Function.update_noteq (fun he => h (by simp_all)) _ _
  · rfl

/-- The path of an address: the object key, or the file path. -/
def ArtifactAddress.path : ArtifactAddress → List Char
  | .object _ key => key.data
  | .file path => path.data

/-! ### The libraries and the environment -/

/-- What both workers link: the YAML encoder, the parsers, the text encoding, gzip and the tar
header format. -/
structure Libraries where
  yamlMarshal : Object → List Char
  decoders : Decoders
  codec : TextCodec
  gz : Compression
  fmt : TarFormat

/-- How the calls of a backup run that the model does not compute turn out: whether
`os.MkdirTemp` fails, and the error, if any, of the archive write on local disk and of the upload
(`uploadToS3`, or the `MkdirAll` and copy of `storeToNFS`). -/
structure BackupIO where
  tempDirFails : Bool
  archiveWrite : Option String
  upload : Option String

/-- How the calls of a restore run that the model does not compute turn out: whether
`os.MkdirTemp` fails, the error, if any, of the download of an archive that is stored, the error of
a download of one that is not, and the text of each error of the apply. -/
structure RestoreIO where
  tempDirFails : Bool
  download : Option String
  missing : String
  apiMessage : ApiError → String

/-! ### The backup run -/

/-- The end of a backup run: its status write and stored location, and the snapshot and artifact
stores it leaves. -/
structure BackupRun where
  finish : Finish
  snapshots : SnapshotStore
  artifacts : ArtifactStore

/-- `runBackupWorker` once it has loaded its request and resolved storage, in a pod with the given
mounts: export, snapshots and metadata into the archive, the archive written to disk, then
`storeArtifact` and the upload. A snapshot taken before a later step fails stays in the cluster. -/
def runBackup (lib : Libraries) (io : BackupIO) (env : Env)
    (getSecret : String × String → Except String SecretData) (mounts : PodMounts)
    (storage : BackupStorageLocation)
    (r : SnapshotRequest) (c : Cluster) (snapshots : SnapshotStore) (artifacts : ArtifactStore)
    (timestamp snapshotTimestamp : String) (order : MemberOrder) (current : Status)
    (startedAt now : Nat) : BackupRun :=
  let failed (msg : String) (snapshots : SnapshotStore) : BackupRun :=
    ⟨⟨some (failedBackupStatus current msg now), none⟩, snapshots, artifacts⟩
  if io.tempDirFails then ⟨⟨none, none⟩, snapshots, artifacts⟩ else
  match backupArchive lib.yamlMarshal lib.codec lib.gz lib.fmt env storage r c snapshots timestamp
      snapshotTimestamp order with
  | .error e => failed e snapshots
  | .ok (archive, snapshots') =>
    match io.archiveWrite with
    | some e => failed e snapshots'
    | none =>
      match storeArtifact env getSecret storage r.identity timestamp with
      | .error e => failed e snapshots'
      | .ok (location, addr) =>
        match io.upload with
        | some e => failed e snapshots'
        | none => ⟨⟨some (completedBackupStatus current location startedAt), some location⟩,
            snapshots', artifacts.writeFrom mounts addr archive⟩

/-- The outcome of a backup run's steps, as `Worker.Run` abstracts them: `finishBackup` makes the
`storeArtifact` call itself, so a run that fails there counts as succeeded. -/
def backupOutcome (lib : Libraries) (io : BackupIO) (env : Env)
    (getSecret : String × String → Except String SecretData) (storage : BackupStorageLocation)
    (r : SnapshotRequest) (c : Cluster) (snapshots : SnapshotStore)
    (timestamp snapshotTimestamp : String) (order : MemberOrder) : Outcome :=
  if io.tempDirFails then .tempDirFailed else
  match backupArchive lib.yamlMarshal lib.codec lib.gz lib.fmt env storage r c snapshots timestamp
      snapshotTimestamp order with
  | .error e => .stepFailed e
  | .ok _ =>
    match io.archiveWrite, storeArtifact env getSecret storage r.identity timestamp, io.upload with
    | some e, _, _ => .stepFailed e
    | none, .ok _, some e => .stepFailed e
    | _, _, _ => .succeeded

section Backup

variable {lib : Libraries} {io : BackupIO} {env : Env}
  {getSecret : String × String → Except String SecretData} {mounts : PodMounts}
  {storage : BackupStorageLocation} {r : SnapshotRequest} {c : Cluster}
  {snapshots : SnapshotStore} {artifacts : ArtifactStore} {timestamp snapshotTimestamp : String}
  {order : MemberOrder} {current : Status}
  {startedAt now : Nat}

/-- **The backup run refines the status model.** Its ending is `finishBackup`'s for the outcome
of its steps. -/
theorem runBackup_finish :
    (runBackup lib io env getSecret mounts storage r c snapshots artifacts timestamp
      snapshotTimestamp order current startedAt now).finish =
      finishBackup env getSecret storage r.identity timestamp current startedAt now
        (backupOutcome lib io env getSecret storage r c snapshots timestamp snapshotTimestamp
          order) := by
  unfold runBackup backupOutcome finishBackup
  split_ifs
  · rfl
  cases backupArchive lib.yamlMarshal lib.codec lib.gz lib.fmt env storage r c snapshots timestamp
    snapshotTimestamp order with
  | error e => rfl
  | ok p =>
    cases io.archiveWrite <;> cases storeArtifact env getSecret storage r.identity timestamp <;>
      cases io.upload <;> rfl

/-- **What a backup run can do.** It stops before any write, or records a failure, and leaves the
artifact store as it was; or it built its archive, stored it at the address `storeArtifact` names,
and records `Completed` with the location. -/
theorem runBackup_cases :
    let run := runBackup lib io env getSecret mounts storage r c snapshots artifacts timestamp
      snapshotTimestamp order current startedAt now
    run.artifacts = artifacts ∧
      (run.finish.write = none ∨
        ∃ msg, run.finish.write = some (failedBackupStatus current msg now)) ∨
    ∃ archive snapshots' location addr,
      backupArchive lib.yamlMarshal lib.codec lib.gz lib.fmt env storage r c snapshots timestamp
        snapshotTimestamp order = .ok (archive, snapshots') ∧
      storeArtifact env getSecret storage r.identity timestamp = .ok (location, addr) ∧
      run.finish.write = some (completedBackupStatus current location startedAt) ∧
      run.artifacts = artifacts.writeFrom mounts addr archive := by
  intro run
  unfold run runBackup
  split_ifs
  · exact .inl ⟨rfl, .inl rfl⟩
  cases backupArchive lib.yamlMarshal lib.codec lib.gz lib.fmt env storage r c snapshots timestamp
    snapshotTimestamp order with
  | error e => exact .inl ⟨rfl, .inr ⟨e, rfl⟩⟩
  | ok p =>
    obtain ⟨archive, snapshots'⟩ := p
    cases io.archiveWrite with
    | some e => exact .inl ⟨rfl, .inr ⟨e, rfl⟩⟩
    | none =>
      cases storeArtifact env getSecret storage r.identity timestamp with
      | error e => exact .inl ⟨rfl, .inr ⟨e, rfl⟩⟩
      | ok q =>
        obtain ⟨location, addr⟩ := q
        cases io.upload with
        | some e => exact .inl ⟨rfl, .inr ⟨e, rfl⟩⟩
        | none => exact .inr ⟨archive, snapshots', location, addr, rfl, rfl, rfl, rfl⟩

/-- A backup run leaves the artifact store as it was, or writes its archive at the address
`storeArtifact` names. -/
theorem runBackup_artifacts :
    (runBackup lib io env getSecret mounts storage r c snapshots artifacts timestamp
      snapshotTimestamp order current startedAt now).artifacts = artifacts ∨
    ∃ location addr archive,
      storeArtifact env getSecret storage r.identity timestamp = .ok (location, addr) ∧
      (runBackup lib io env getSecret mounts storage r c snapshots artifacts timestamp
        snapshotTimestamp order current startedAt now).artifacts =
        artifacts.writeFrom mounts addr archive := by
  rcases runBackup_cases with ⟨h, -⟩ | ⟨archive, -, location, addr, -, hstore, -, h⟩
  · exact .inl h
  · exact .inr ⟨location, addr, archive, hstore, h⟩

/-- A backup run that writes `Completed` built its archive, stored it at the address of the
location it records, and left its snapshots. -/
theorem runBackup_completed {st : Status}
    (h : (runBackup lib io env getSecret mounts storage r c snapshots artifacts timestamp
      snapshotTimestamp order current startedAt now).finish.write = some st)
    (hst : st.phase = .completed) :
    ∃ archive snapshots' addr,
      backupArchive lib.yamlMarshal lib.codec lib.gz lib.fmt env storage r c snapshots timestamp
        snapshotTimestamp order = .ok (archive, snapshots') ∧
      storeArtifact env getSecret storage r.identity timestamp = .ok (st.artifactLocation, addr) ∧
      (runBackup lib io env getSecret mounts storage r c snapshots artifacts timestamp
        snapshotTimestamp order current startedAt now).artifacts =
        artifacts.writeFrom mounts addr archive := by
  rcases runBackup_cases with
    ⟨-, hw | ⟨msg, hw⟩⟩ | ⟨archive, snapshots', location, addr, ha, hs, hw, h'⟩
  · cases h.symm.trans hw
  · cases h.symm.trans hw
    cases hst
  · cases h.symm.trans hw
    exact ⟨archive, snapshots', addr, ha, hs, h'⟩

end Backup

/-! ### Addresses name their run -/

/-- The address a run writes ends with the run's segments and the file name. -/
theorem suffix_storeArtifact_address {env : Env}
    {getSecret : String × String → Except String SecretData} {storage : BackupStorageLocation}
    {b : BackupIdentity} {timestamp location : String} {addr : ArtifactAddress}
    (hb : b.Admitted) (ht : IsPathElement timestamp.data)
    (h : storeArtifact env getSecret storage b timestamp = .ok (location, addr)) :
    artifactSegments b timestamp ++ [artifactFileName.data] <:+ elements addr.path := by
  cases hty : storage.type with
  | s3 =>
    obtain ⟨s3, -, -, -, rfl⟩ := storeArtifact_s3 hty h
    exact suffix_join_relativeBase hb ht env [(S3Config.ofSpec s3).keyPrefix.data]
  | nfs =>
    unfold storeArtifact at h
    rw [hty] at h
    cases hn : storeToNFS env storage (relativeBase env b timestamp) with
    | error e => simp [hn, bind, Except.bind] at h
    | ok p =>
      simp only [hn, bind, Except.bind, pure, Except.pure, Except.ok.injEq, Prod.mk.injEq] at h
      obtain ⟨-, rfl⟩ := h
      unfold storeToNFS at hn
      split at hn
      · cases hn
      cases hn
      exact suffix_storeToNFS_dest hb ht env _
  | other t => simp [storeArtifact, hty] at h

/-- **One address, one run.** Two admitted runs with path-element timestamps that write one
address are the same identity at the same timestamp, whatever their cluster IDs, credentials and
storage locations. Runs of one identity and timestamp in two clusters can meet at one address
(`prefixed_and_nested_cluster_share_address`); runs that differ in identity or timestamp never
do. -/
theorem eq_of_storeArtifact_address {env env' : Env}
    {getSecret getSecret' : String × String → Except String SecretData}
    {storage storage' : BackupStorageLocation} {b b' : BackupIdentity}
    {timestamp timestamp' location location' : String} {addr : ArtifactAddress}
    (hb : b.Admitted) (hb' : b'.Admitted)
    (ht : IsPathElement timestamp.data) (ht' : IsPathElement timestamp'.data)
    (h : storeArtifact env getSecret storage b timestamp = .ok (location, addr))
    (h' : storeArtifact env' getSecret' storage' b' timestamp' = .ok (location', addr)) :
    b = b' ∧ timestamp = timestamp' :=
  eq_of_suffix_artifactSegments hb hb' (suffix_storeArtifact_address hb ht h)
    (suffix_storeArtifact_address hb' ht' h')

/-- An S3 location on the bucket `backups` under the prefix `x`. -/
def prefixedS3 : BackupStorageLocation :=
  ⟨"prefixed", .s3, some ⟨"backups", "x", "", ⟨"", ""⟩⟩, none, false⟩

/-- Cluster `c` storing under the prefix `x`, and cluster `x/c` storing without one, write one
object for the same run, and only for the same run. -/
theorem prefixed_and_nested_cluster_share_address :
    storeArtifact [("CLUSTER_ID", "c")] (getSecretFrom []) prefixedS3 ⟨"Backup", "b", "n"⟩
        "20260101T000000Z" =
        .ok ("s3://backups/x/c/backup/n/b/20260101T000000Z/backup.tar.gz",
          .object "backups" "x/c/backup/n/b/20260101T000000Z/backup.tar.gz") ∧
      storeArtifact [("CLUSTER_ID", "x/c")] (getSecretFrom []) backupsS3 ⟨"Backup", "b", "n"⟩
        "20260101T000000Z" =
        .ok ("s3://backups/x/c/backup/n/b/20260101T000000Z/backup.tar.gz",
          .object "backups" "x/c/backup/n/b/20260101T000000Z/backup.tar.gz") ∧
      ((⟨"Backup", "b", "n"⟩ : BackupIdentity) = ⟨"Backup", "b", "n"⟩ ∧
        "20260101T000000Z" = "20260101T000000Z") :=
  have h : storeArtifact [("CLUSTER_ID", "c")] (getSecretFrom []) prefixedS3 ⟨"Backup", "b", "n"⟩
      "20260101T000000Z" =
      .ok ("s3://backups/x/c/backup/n/b/20260101T000000Z/backup.tar.gz",
        .object "backups" "x/c/backup/n/b/20260101T000000Z/backup.tar.gz") := rfl
  have h' : storeArtifact [("CLUSTER_ID", "x/c")] (getSecretFrom []) backupsS3 ⟨"Backup", "b", "n"⟩
      "20260101T000000Z" =
      .ok ("s3://backups/x/c/backup/n/b/20260101T000000Z/backup.tar.gz",
        .object "backups" "x/c/backup/n/b/20260101T000000Z/backup.tar.gz") := rfl
  ⟨h, h', eq_of_storeArtifact_address ⟨.inl ⟨rfl, by decide⟩, by decide⟩
    ⟨.inl ⟨rfl, by decide⟩, by decide⟩ (by decide) (by decide) h h'⟩

/-! ### Runs of backups -/

/-- One backup run's inputs besides the libraries and the stores: among them the container's
environment, its `Secret` reader and its pod's mounts. The API server admits only valid
identities, and the timestamp is `time.Now` in the layout `20060102T150405Z`, a path element. -/
structure BackupCall where
  io : BackupIO
  env : Env
  getSecret : String × String → Except String SecretData
  mounts : PodMounts
  storage : BackupStorageLocation
  request : SnapshotRequest
  cluster : Cluster
  timestamp : String
  snapshotTimestamp : String
  order : MemberOrder
  current : Status
  startedAt : Nat
  now : Nat
  admitted : request.identity.Admitted
  timestamp_isPathElement : IsPathElement timestamp.data

/-- The run of a call from the given stores. -/
def BackupCall.run (lib : Libraries) (call : BackupCall) (snapshots : SnapshotStore)
    (artifacts : ArtifactStore) : BackupRun :=
  runBackup lib call.io call.env call.getSecret call.mounts call.storage call.request call.cluster
    snapshots artifacts call.timestamp call.snapshotTimestamp call.order call.current
    call.startedAt call.now

/-- Backup runs one after another, each from the stores the one before left. -/
def runBackups (lib : Libraries) :
    List BackupCall → SnapshotStore → ArtifactStore → SnapshotStore × ArtifactStore
  | [], snapshots, artifacts => (snapshots, artifacts)
  | call :: calls, snapshots, artifacts =>
    let run := call.run lib snapshots artifacts
    runBackups lib calls run.snapshots run.artifacts

section Frame

variable {lib : Libraries} {env : Env} {getSecret : String × String → Except String SecretData}
  {storage : BackupStorageLocation} {b : BackupIdentity} {timestamp location bucket key : String}
  (hb : b.Admitted) (ht : IsPathElement timestamp.data)
  (hstore : storeArtifact env getSecret storage b timestamp = .ok (location, .object bucket key))
include hb ht hstore

/-- A run of another identity or timestamp, whatever its pod mounts, leaves an admitted run's
object as it was. -/
theorem read_run_of_ne {call : BackupCall}
    (hne : (call.request.identity, call.timestamp) ≠ (b, timestamp))
    (snapshots : SnapshotStore) (artifacts : ArtifactStore) :
    (call.run lib snapshots artifacts).artifacts.read (.object bucket key) =
      artifacts.read (.object bucket key) := by
  rcases runBackup_artifacts with h | ⟨location', addr', archive, hstore', h⟩
  · rw [BackupCall.run, h]
  · rw [BackupCall.run, h]
    refine ArtifactStore.read_writeFrom_of_ne archive fun he => hne ?_
    obtain rfl := PodMounts.eq_of_shared_object he
    obtain ⟨hid, hts⟩ := eq_of_suffix_artifactSegments call.admitted hb
      (suffix_storeArtifact_address call.admitted call.timestamp_isPathElement hstore')
      (suffix_storeArtifact_address hb ht hstore)
    rw [hid, hts]

/-- **Later runs keep an archive.** After any backup runs of other identities or timestamps, an
admitted run's object reads as before them. -/
theorem read_runBackups_of_ne (calls : List BackupCall)
    (hne : ∀ call ∈ calls, (call.request.identity, call.timestamp) ≠ (b, timestamp))
    (snapshots : SnapshotStore) (artifacts : ArtifactStore) :
    (runBackups lib calls snapshots artifacts).2.read (.object bucket key) =
      artifacts.read (.object bucket key) := by
  induction calls generalizing snapshots artifacts with
  | nil => rfl
  | cons call calls ih =>
    rw [runBackups, ih (fun c hc => hne c (List.mem_cons_of_mem _ hc)),
      read_run_of_ne hb ht hstore (hne call (List.mem_cons_self _ _))]

end Frame

/-! ### The restore run -/

/-- How a restore that reached the apply ends: `Completed`, or `Failed` with the apply's error;
the target's store is the apply's either way. -/
def restoreEnding (io : RestoreIO) (applied : Except ApiError Unit × Store) (current : Status)
    (now : Nat) : Finish × Store :=
  match applied with
  | (.error e, target') =>
    (⟨some (failedRestoreStatus current (io.apiMessage e) now), none⟩, target')
  | (.ok (), target') => (⟨some (completedRestoreStatus current now), none⟩, target')

/-- `runRestoreWorker` once it has loaded its request and source backup and resolved storage, in
a pod with the given mounts: load and download the archive, unpack and decode it, build the remote
config when the restore names a target cluster (`targetConfig`, the result of
`buildRemoteConfigForRestore`), and apply the documents to `target`, the store of the cluster the
config reaches. -/
def runRestore (lib : Libraries) (io : RestoreIO) (env : Env)
    (getSecret : String × String → Except String SecretData) (mounts : PodMounts)
    (storage : BackupStorageLocation) (artifactLocation : String) (artifacts : ArtifactStore)
    (targetConfig : Option (Except String RestConfig)) (target : Store) (failAt : Option Nat)
    (mapping : List (String × String)) (defaultNamespace : String) (current : Status) (now : Nat) :
    Finish × Store :=
  let failed (msg : String) : Finish × Store :=
    (⟨some (failedRestoreStatus current msg now), none⟩, target)
  if io.tempDirFails then (⟨none, none⟩, target) else
  match loadArtifact env getSecret storage artifactLocation with
  | .error e => failed e
  | .ok addr =>
    match io.download, artifacts.readFrom mounts addr with
    | some e, _ => failed e
    | none, none => failed io.missing
    | none, some archive =>
      match restoreDocuments lib.codec lib.gz lib.fmt lib.decoders archive with
      | .error e => failed e
      | .ok docs =>
        match targetConfig with
        | some (.error e) => failed e
        | _ => restoreEnding io (restoreRun target failAt docs mapping defaultNamespace) current now

/-- The outcome of a restore run's steps, as `Worker.Run` abstracts them: `finishRestore` makes
the `loadArtifact` call itself, so a run that fails there counts as succeeded. -/
def restoreOutcome (lib : Libraries) (io : RestoreIO) (env : Env)
    (getSecret : String × String → Except String SecretData) (mounts : PodMounts)
    (storage : BackupStorageLocation) (artifactLocation : String) (artifacts : ArtifactStore)
    (targetConfig : Option (Except String RestConfig)) (target : Store) (failAt : Option Nat)
    (mapping : List (String × String)) (defaultNamespace : String) : Outcome :=
  if io.tempDirFails then .tempDirFailed else
  match loadArtifact env getSecret storage artifactLocation with
  | .error _ => .succeeded
  | .ok addr =>
    match io.download, artifacts.readFrom mounts addr with
    | some e, _ => .stepFailed e
    | none, none => .stepFailed io.missing
    | none, some archive =>
      match restoreDocuments lib.codec lib.gz lib.fmt lib.decoders archive with
      | .error e => .stepFailed e
      | .ok docs =>
        match targetConfig with
        | some (.error e) => .stepFailed e
        | _ =>
          match (restoreRun target failAt docs mapping defaultNamespace).1 with
          | .error e => .stepFailed (io.apiMessage e)
          | .ok () => .succeeded

section Restore

variable {lib : Libraries} {io : RestoreIO} {env : Env}
  {getSecret : String × String → Except String SecretData} {mounts : PodMounts}
  {storage : BackupStorageLocation} {artifactLocation : String} {artifacts : ArtifactStore}
  {targetConfig : Option (Except String RestConfig)} {target : Store} {failAt : Option Nat}
  {mapping : List (String × String)} {defaultNamespace : String} {current : Status} {now : Nat}

/-- **The restore run refines the status model.** Its ending is `finishRestore`'s for the outcome
of its steps. -/
theorem runRestore_finish :
    (runRestore lib io env getSecret mounts storage artifactLocation artifacts targetConfig target
      failAt mapping defaultNamespace current now).1 =
      finishRestore env getSecret storage artifactLocation current now
        (restoreOutcome lib io env getSecret mounts storage artifactLocation artifacts targetConfig
          target failAt mapping defaultNamespace) := by
  unfold runRestore restoreOutcome
  split_ifs
  · rfl
  split
  · simp_all [finishRestore]
  rename_i addr haddr
  split
  · rfl
  · rfl
  split
  · rfl
  split
  · rfl
  · obtain ⟨res, target'⟩ := restoreRun target failAt _ mapping defaultNamespace
    rcases res with e | ⟨⟩ <;> simp [restoreEnding, finishRestore, haddr]

/-- A restore run whose pod finds no archive at the address it loads stops before the apply: it
leaves the target as it was and records no write or a failure. -/
theorem runRestore_of_readFrom_none
    (hnone : ∀ addr, loadArtifact env getSecret storage artifactLocation = .ok addr →
      artifacts.readFrom mounts addr = none) :
    let run := runRestore lib io env getSecret mounts storage artifactLocation artifacts
      targetConfig target failAt mapping defaultNamespace current now
    run.2 = target ∧
      (run.1.write = none ∨ ∃ msg, run.1.write = some (failedRestoreStatus current msg now)) := by
  intro run
  unfold run runRestore
  split_ifs
  · exact ⟨rfl, .inl rfl⟩
  cases hload : loadArtifact env getSecret storage artifactLocation with
  | error e => exact ⟨rfl, .inr ⟨e, rfl⟩⟩
  | ok addr =>
    simp only [hnone addr hload]
    cases io.download with
    | some e => exact ⟨rfl, .inr ⟨e, rfl⟩⟩
    | none => exact ⟨rfl, .inr ⟨io.missing, rfl⟩⟩

end Restore

/-! ### A backup to S3, restored -/

/-- **A completed backup is restored as it was exported.** Take a `yaml` backup of a cluster whose
stored objects have a kind, from a snapshot store that holds `VolumeSnapshot`s, whose snapshot
step keeps `snaps`, with parsers that read each encoding back, to an S3 location whose bucket has
no slash. If its run writes `Completed`, then after any backup runs of other identities or
timestamps, a restore from the location that status records, in a pod of any mounts, that can read
the location's credentials, whose temporary directory and download succeed and whose target
cluster's config builds, runs the apply over exactly the exported documents followed by `snaps`,
in that order, and records how the apply ended. -/
theorem restore_after_backup {lib : Libraries} (hy : YamlOutput lib.yamlMarshal)
    (call : BackupCall) (later : List BackupCall) {snapshots snapshots' : SnapshotStore}
    {artifacts : ArtifactStore} {snaps : List Object} {st : Status} {env : Env}
    {getSecret : String × String → Except String SecretData} {mounts : PodMounts}
    (hf : call.request.backup.exportFormat ≠ "json")
    (hkind : ∀ so ∈ call.cluster.objects, so.object.kind ≠ "")
    (hholds : snapshots.HoldsSnapshots)
    (hsnap : snapshotDocuments call.request call.cluster snapshots call.snapshotTimestamp =
      .ok (snaps, snapshots'))
    (hdec : ∀ o ∈ exportSelection call.request.backup call.cluster ++ snaps,
      lib.decoders.yamlUnmarshal (lib.yamlMarshal o) = .ok o ∧
        lib.decoders.yamlUnmarshal ("---\n".data ++ lib.yamlMarshal o) = .ok o)
    (hty : call.storage.type = .s3)
    (hbucket : ∀ s3, call.storage.s3 = some s3 → '/' ∉ s3.bucket.data)
    (hcreds : ∀ s3, call.storage.s3 = some s3 → S3CredentialsReadable env getSecret s3)
    (hdone : (call.run lib snapshots artifacts).finish.write = some st)
    (hst : st.phase = .completed)
    (hlater : ∀ c ∈ later,
      (c.request.identity, c.timestamp) ≠ (call.request.identity, call.timestamp))
    (io : RestoreIO) (hio : io.tempDirFails = false) (hdownload : io.download = none)
    (targetConfig : Option (Except String RestConfig))
    (htarget : ∀ e, targetConfig ≠ some (.error e)) (target : Store) (failAt : Option Nat)
    (mapping : List (String × String)) (defaultNamespace : String) (current : Status) (now : Nat) :
    let stored := (runBackups lib later (call.run lib snapshots artifacts).snapshots
      (call.run lib snapshots artifacts).artifacts).2
    let applied := (applyDocuments mapping defaultNamespace
      (exportSelection call.request.backup call.cluster ++ snaps)).run.run
        ⟨target, none, 0, failAt⟩
    runRestore lib io env getSecret mounts call.storage st.artifactLocation stored targetConfig
      target failAt mapping defaultNamespace current now =
      restoreEnding io (applied.1, applied.2.store) current now := by
  intro stored applied
  obtain ⟨archive, snapshots'', addr, harchive, hstore, hartifacts⟩ :=
    runBackup_completed hdone hst
  -- the archive decodes to the exported documents and the snapshots, and its order is the apply's
  obtain ⟨archive', harchive', hdocs, horder⟩ := restoreDocuments_backupArchive hy lib.codec lib.gz
    lib.fmt lib.decoders call.env call.storage call.request call.cluster snapshots snapshots'
    call.timestamp call.snapshotTimestamp call.order snaps hf hkind hholds hsnap hdec
  obtain ⟨rfl, -⟩ := Prod.mk.inj (Except.ok.inj (harchive.symm.trans harchive'))
  -- the location leads back to the object, which later runs leave alone
  have hload := loadArtifact_storeArtifact_s3 hty hbucket hcreds hstore
  obtain ⟨bucket, key, rfl⟩ : ∃ bucket key, addr = .object bucket key :=
    let ⟨_, _, _, _, h⟩ := storeArtifact_s3 hty hstore; ⟨_, _, h⟩
  have hread : stored.readFrom mounts (.object bucket key) = some archive := by
    rw [ArtifactStore.readFrom, PodMounts.shared_object, Option.some_bind,
      read_runBackups_of_ne call.admitted call.timestamp_isPathElement hstore later hlater]
    simp [BackupCall.run, hartifacts, ArtifactStore.writeFrom]
  simp only [runRestore, hio, hload, hdownload, hread, hdocs, Bool.false_eq_true, if_false]
  simp only [restoreRun, horder]

/-- The libraries of the plain archive format: a line per document, UTF-32BE, streams stored as
they are. -/
def plainLibraries : Libraries := ⟨kindLineMarshal, appsDecoders, utf32, storedStream, plainTar⟩

/-- An S3 location on the bucket `backups` whose credentials are the `Secret` `s3-credentials` of
the operator's namespace. -/
def backupsS3Keyed : BackupStorageLocation :=
  ⟨"backups", .s3, some ⟨"backups", "", "", ⟨"s3-credentials", ""⟩⟩, none, true⟩

/-- The operator's `Secret`s: the S3 credentials. -/
def operatorSecrets : List ((String × String) × SecretData) :=
  [(("backup-operator-system", "s3-credentials"), [("accessKey", [97]), ("secretKey", [98])])]

/-- The nightly backup of `apps` in cluster `c`, to the bucket, with every call succeeding. -/
def nightlyToS3 : BackupCall where
  io := ⟨false, none, none⟩
  env := [("CLUSTER_ID", "c")]
  getSecret := getSecretFrom operatorSecrets
  mounts := ⟨none, none⟩
  storage := backupsS3Keyed
  request := nightlySnapshots
  cluster := appsWithClaim
  timestamp := "20260101T000000Z"
  snapshotTimestamp := "20260101T000000Z"
  order := ⟨memberNames, List.Perm.refl _⟩
  current := Status.initial
  startedAt := 0
  now := 0
  admitted := ⟨.inl ⟨rfl, by decide⟩, by decide⟩
  timestamp_isPathElement := by decide

/-- The same backup a day later. -/
def nextNightlyToS3 : BackupCall :=
  { nightlyToS3 with timestamp := "20260102T000000Z", timestamp_isPathElement := by decide }

/-- A restore whose calls succeed. -/
def plainRestoreIO : RestoreIO := ⟨false, none, "not found", fun _ => "apply failed"⟩

/-- The nightly backup, completed and followed by the next night's, is restored into a cluster with
a `team` namespace from the location it recorded: the `ConfigMap`, then the snapshot. -/
theorem nightly_s3_restored_after_next :
    let first := nightlyToS3.run plainLibraries ⟨[]⟩ ⟨fun _ => none⟩
    let stored := (runBackups plainLibraries [nextNightlyToS3] first.snapshots first.artifacts).2
    let applied := (applyDocuments [] "" (exportSelection nightlySnapshots.backup appsWithClaim ++
      [sanitizeObject dataSnapshot])).run.run ⟨teamCluster, none, 0, none⟩
    runRestore plainLibraries plainRestoreIO [] (getSecretFrom operatorSecrets) ⟨none, none⟩
        backupsS3Keyed "s3://backups/c/backup/apps/nightly/20260101T000000Z/backup.tar.gz"
        stored none teamCluster none [] "" Status.initial 1 =
      restoreEnding plainRestoreIO (applied.1, applied.2.store) Status.initial 1 :=
  have hsel : exportSelection nightlyToS3.request.backup nightlyToS3.cluster =
      [sanitizeObject (settingsIn "apps")] := rfl
  have hcreds : ∀ s3, backupsS3Keyed.s3 = some s3 →
      S3CredentialsReadable [] (getSecretFrom operatorSecrets) s3 := by
    rintro s3 ⟨⟩
    exact fun _ => ⟨_, rfl⟩
  @restore_after_backup plainLibraries kindLineMarshal_yamlOutput nightlyToS3
    [nextNightlyToS3] ⟨[]⟩ ⟨[("apps", dataSnapshot)]⟩ ⟨fun _ => none⟩
    [sanitizeObject dataSnapshot]
    (completedBackupStatus Status.initial
      "s3://backups/c/backup/apps/nightly/20260101T000000Z/backup.tar.gz" 0)
    [] (getSecretFrom operatorSecrets) ⟨none, none⟩ (by decide) (by decide) (fun _ h => nomatch h)
    rfl
    (fun o ho => by
      simp only [hsel, List.singleton_append, List.mem_cons, List.mem_singleton,
        List.not_mem_nil, or_false] at ho
      rcases ho with rfl | rfl <;> exact ⟨rfl, rfl⟩)
    rfl (by rintro s3 ⟨⟩; decide) hcreds rfl rfl (by decide) plainRestoreIO rfl rfl none
    (fun _ h => nomatch h) teamCluster none [] "" Status.initial 1

/-! ### A backup to NFS is never restored -/

/-- `loadArtifact` reads the location of an NFS location as a file. -/
theorem loadArtifact_nfs_file {env : Env} {getSecret : String × String → Except String SecretData}
    {storage : BackupStorageLocation} {artifactLocation : String} {addr : ArtifactAddress}
    (hty : storage.type = .nfs)
    (h : loadArtifact env getSecret storage artifactLocation = .ok addr) :
    ∃ path, addr = .file path := by
  unfold loadArtifact at h
  rw [hty] at h
  cases hn : loadFromNFS env storage artifactLocation <;>
    simp_all [Functor.map, Except.map, eq_comm]

/-- **A restore from NFS never completes.** A restore worker started from the Job the dispatcher
builds for an NFS location, whatever location its source records and whatever shared storage
holds, never records `Completed` and leaves the target cluster as it was: the Job's container
mounts nothing, so the file the location names is looked for in the restore pod's own filesystem,
which holds no archive. -/
theorem nfs_restore_never_completes {env : Env} {k n ns uid : String}
    {storage : BackupStorageLocation} {spec : JobSpec}
    (hjob : buildRestoreJob env k n ns uid storage = .ok spec) (hty : storage.type = .nfs)
    (lib : Libraries) (io : RestoreIO) (getSecret : String × String → Except String SecretData)
    (artifactLocation : String) (artifacts : ArtifactStore)
    (targetConfig : Option (Except String RestConfig)) (target : Store) (failAt : Option Nat)
    (mapping : List (String × String)) (defaultNamespace : String) (current : Status) (now : Nat) :
    let run := runRestore lib io spec.containerEnv getSecret spec.mounts storage artifactLocation
      artifacts targetConfig target failAt mapping defaultNamespace current now
    run.2 = target ∧
      (run.1.write = none ∨ ∃ msg, run.1.write = some (failedRestoreStatus current msg now)) :=
  runRestore_of_readFrom_none fun _ hload => by
    obtain ⟨path, rfl⟩ := loadArtifact_nfs_file hty hload
    simp [ArtifactStore.readFrom, JobSpec.mounts, (buildWorkerJob_container hjob).1]

/-- A restore worker of the Job built for the NFS export `backupsExport`, given the location the
nightly backup records, leaves the `team` cluster as it was and records at most `Failed`. -/
theorem nightly_export_restore_fails :
    ∃ spec, buildRestoreJob [] "Restore" "nightly-restore" "apps" "u2" backupsExport = .ok spec ∧
      backupsExport.type = .nfs ∧
      let run := runRestore plainLibraries plainRestoreIO spec.containerEnv (getSecretFrom [])
        spec.mounts backupsExport
        "nfs://nfs.local/exports/backups/c/backup/apps/nightly/20260101T000000Z/backup.tar.gz"
        ⟨fun _ => none⟩ none teamCluster none [] "" Status.initial 1
      run.2 = teamCluster ∧
        (run.1.write = none ∨
          ∃ msg, run.1.write = some (failedRestoreStatus Status.initial msg 1)) :=
  ⟨_, rfl, rfl, @nfs_restore_never_completes [] "Restore" "nightly-restore" "apps" "u2"
    backupsExport _ rfl rfl plainLibraries plainRestoreIO (getSecretFrom []) _ _ none teamCluster
    none [] "" Status.initial 1⟩

end BackupOperator
