import BackupOperator.Resolve.StorageLocation

/-!
# Worker Jobs: owner labels, `findJob`, `buildBackupJob` and `buildRestoreJob`

The dispatcher binds each request to its worker `Job` by four owner labels and finds it again by
listing Jobs with the owner's UID label and comparing the other three. `buildBackupJob` and
`buildRestoreJob` differ only in the role word of the name, container and mode, so both are
`buildWorkerJob` applied to their role. The NFS branch adds the export as a volume of the pod; it
also appends the `/data` mount and the `NFS_MOUNT_PATH` variable to the local `container`, but
`PodSpec.Containers` holds a copy of that container taken before, so the Job's container gets
neither.

Process environment (`POD_NAMESPACE`, `OPERATOR_IMAGE`, `CLUSTER_ID`, ...) is an explicit
`Env`: `os.Getenv` answers `""` for an unset variable, and `getEnvOrDefault` falls back on `""`.

* `findJob_some` — a found Job carries the owner's UID, kind, name and namespace labels.
* `buildWorkerJob_container` — for every location, the Job's container mounts no volume and sets
  only `CLUSTER_ID` and `POD_NAMESPACE`, never `NFS_MOUNT_PATH`.
* `buildWorkerJob_nfs` — for an NFS location the pod has exactly the export as its volume, which
  no container mounts; `buildWorkerJob_not_nfs` — other types have no volume.
-/

namespace BackupOperator

/-- A process environment: variable names to values, unset variables absent. -/
abbrev Env := List (String × String)

/-- `os.Getenv`. -/
def getenv (env : Env) (key : String) : String := (env.lookup key).getD ""

/-- `getEnvOrDefault`: the variable's value unless it is unset or empty. -/
def getEnvOrDefault (env : Env) (key fallback : String) : String :=
  if getenv env key ≠ "" then getenv env key else fallback

/-- `operatorNamespace`. -/
def operatorNamespace (env : Env) : String :=
  getEnvOrDefault env "POD_NAMESPACE" "backup-operator-system"

/-- `operatorServiceAccount`. -/
def operatorServiceAccount (env : Env) : String :=
  getEnvOrDefault env "POD_SERVICE_ACCOUNT" "controller-manager"

/-- `operatorImage`. -/
def operatorImage (env : Env) : String :=
  getEnvOrDefault env "OPERATOR_IMAGE" "controller:latest"

/-- `clusterID`. -/
def clusterID (env : Env) : String :=
  getEnvOrDefault env "CLUSTER_ID" "cluster-unknown"

/-! ### Owner labels and `findJob` -/

/-- `buildOwnerLabels`: `backup.example.com/owner-{uid,kind,name,namespace}`; the namespace label
is set only for a namespaced owner. -/
structure OwnerLabels where
  uid : String
  kind : String
  name : String
  ns : Option String
  deriving DecidableEq, Repr

/-- `buildOwnerLabels(kind, name, namespace, uid)`. -/
def buildOwnerLabels (kind name ns uid : String) : OwnerLabels :=
  { uid := uid, kind := kind, name := name, ns := if ns = "" then none else some ns }

/-- `job.Labels[labelOwnerNamespace]`: a missing label reads as `""`. -/
def OwnerLabels.nsValue (l : OwnerLabels) : String := l.ns.getD ""

@[simp] theorem buildOwnerLabels_nsValue (kind name ns uid : String) :
    (buildOwnerLabels kind name ns uid).nsValue = ns := by
  unfold buildOwnerLabels OwnerLabels.nsValue; split_ifs with h <;> simp [h]

/-- The `nfs-storage` volume source of a worker pod. -/
structure NFSVolumeSource where
  server : String
  path : String
  readOnly : Bool
  deriving DecidableEq, Repr

/-- A container environment variable: a literal value, or a downward-API field reference. -/
inductive EnvVarSource where
  | value (v : String)
  | fieldRef (fieldPath : String)
  deriving DecidableEq, Repr

/-- The parts of a worker `batchv1.Job` that `buildBackupJob` / `buildRestoreJob` set. -/
structure JobSpec where
  generateName : String
  ns : String
  labels : OwnerLabels
  containerName : String
  image : String
  args : List String
  env : List (String × EnvVarSource)
  serviceAccountName : String
  /-- The pod's `nfs-storage` volume. -/
  volume : Option NFSVolumeSource
  /-- The path at which the Job's container mounts `nfs-storage`, if it does. -/
  volumeMount : Option String
  backoffLimit : Nat
  ttlSecondsAfterFinished : Nat
  activeDeadlineSeconds : Option Nat
  deriving DecidableEq, Repr

/-- A Job object as the store holds it: its generated identity, its spec and the success and
failure counters of `Job.Status`. -/
structure Job where
  id : Nat
  spec : JobSpec
  succeeded : Nat
  failed : Nat
  deriving DecidableEq, Repr

/-- The `for` loop of `findJob` over the Jobs listed with the owner's UID label: the first whose
kind, name and (possibly missing) namespace labels match. -/
def findJob (jobs : List Job) (kind name ns uid : String) : Option Job :=
  jobs.find? fun j => j.spec.labels.uid == uid && j.spec.labels.kind == kind &&
    j.spec.labels.name == name && j.spec.labels.nsValue == ns

/-- A Job that `findJob` returns is one of the listed Jobs and carries the owner's labels. -/
theorem findJob_some {jobs : List Job} {kind name ns uid : String} {j : Job}
    (h : findJob jobs kind name ns uid = some j) :
    j ∈ jobs ∧ j.spec.labels.uid = uid ∧ j.spec.labels.kind = kind ∧
      j.spec.labels.name = name ∧ j.spec.labels.nsValue = ns := by
  have hp := List.find?_some h
  simp only [Bool.and_eq_true, beq_iff_eq] at hp
  exact ⟨List.mem_of_find?_eq_some h, hp.1.1.1, hp.1.1.2, hp.1.2, hp.2⟩

/-- `findJob` finds any listed Job that carries the owner's labels. -/
theorem findJob_isSome {jobs : List Job} {kind name ns uid : String} {j : Job} (hj : j ∈ jobs)
    (hl : j.spec.labels = buildOwnerLabels kind name ns uid) :
    (findJob jobs kind name ns uid).isSome := by
  rw [findJob, List.find?_isSome]
  refine ⟨j, hj, ?_⟩
  rw [hl]; unfold buildOwnerLabels OwnerLabels.nsValue
  split_ifs with h <;> simp [h]

/-- `findJob` finds nothing exactly when no listed Job carries all four owner labels. -/
theorem findJob_none {jobs : List Job} {kind name ns uid : String} :
    findJob jobs kind name ns uid = none ↔
      ∀ j ∈ jobs, ¬(j.spec.labels.uid = uid ∧ j.spec.labels.kind = kind ∧
        j.spec.labels.name = name ∧ j.spec.labels.nsValue = ns) := by
  simp [findJob, List.find?_eq_none, and_assoc]

/-! ### Building the worker Job -/

/-- `buildBackupJob` / `buildRestoreJob` with the role word (`backup` or `restore`) as a
parameter: container args encode mode, kind, name and namespace, and the container is copied into
the pod spec. An NFS location without server or path is refused; one with both adds the
`nfs-storage` volume to the pod spec, while the `/data` mount and `NFS_MOUNT_PATH` go to the local
container, after the copy, and are lost. -/
def buildWorkerJob (role : String) (env : Env) (ownerKind ownerName ownerNamespace ownerUID : String)
    (storage : BackupStorageLocation) : Except String JobSpec :=
  let base : JobSpec :=
    { generateName := (role ++ "-" ++ ownerName ++ "-").toLower
      ns := operatorNamespace env
      labels := buildOwnerLabels ownerKind ownerName ownerNamespace ownerUID
      containerName := role ++ "-worker"
      image := operatorImage env
      args := ["--mode=" ++ role ++ "-worker", "--worker-kind=" ++ ownerKind,
        "--worker-name=" ++ ownerName, "--worker-namespace=" ++ ownerNamespace]
      env := [("CLUSTER_ID", .value (clusterID env)),
        ("POD_NAMESPACE", .fieldRef "metadata.namespace")]
      serviceAccountName := operatorServiceAccount env
      volume := none
      volumeMount := none
      backoffLimit := 0
      ttlSecondsAfterFinished := 3600
      activeDeadlineSeconds := none }
  if storage.type = .nfs then
    match storage.nfs with
    | some nfs =>
      if nfs.server = "" ∨ nfs.path = "" then .error "nfs storage location missing server/path"
      else .ok { base with volume := some ⟨nfs.server, nfs.path, nfs.readOnly⟩ }
    | none => .error "nfs storage location missing server/path"
  else .ok base

/-- `buildBackupJob`. -/
def buildBackupJob (env : Env) (ownerKind ownerName ownerNamespace ownerUID : String)
    (storage : BackupStorageLocation) : Except String JobSpec :=
  buildWorkerJob "backup" env ownerKind ownerName ownerNamespace ownerUID storage

/-- `buildRestoreJob`. -/
def buildRestoreJob (env : Env) (ownerKind ownerName ownerNamespace ownerUID : String)
    (storage : BackupStorageLocation) : Except String JobSpec :=
  buildWorkerJob "restore" env ownerKind ownerName ownerNamespace ownerUID storage

/-- The Job built for an owner carries that owner's labels. -/
theorem buildWorkerJob_labels {role : String} {env : Env} {k n ns uid : String}
    {storage : BackupStorageLocation} {spec : JobSpec}
    (h : buildWorkerJob role env k n ns uid storage = .ok spec) :
    spec.labels = buildOwnerLabels k n ns uid := by
  unfold buildWorkerJob at h
  split_ifs at h
  · split at h
    · split_ifs at h; cases h; rfl
    · cases h
  · cases h; rfl

/-- **No worker container mounts anything.** For every location, the built Job's container has
no volume mount and only the `CLUSTER_ID` and `POD_NAMESPACE` variables: no `NFS_MOUNT_PATH`. -/
theorem buildWorkerJob_container {role : String} {env : Env} {k n ns uid : String}
    {storage : BackupStorageLocation} {spec : JobSpec}
    (h : buildWorkerJob role env k n ns uid storage = .ok spec) :
    spec.volumeMount = none ∧ spec.env = [("CLUSTER_ID", .value (clusterID env)),
      ("POD_NAMESPACE", .fieldRef "metadata.namespace")] := by
  unfold buildWorkerJob at h
  split_ifs at h
  · split at h
    · split_ifs at h; cases h; exact ⟨rfl, rfl⟩
    · cases h
  · cases h; exact ⟨rfl, rfl⟩

/-- For an NFS location, the built Job's pod has exactly the export as its volume. -/
theorem buildWorkerJob_nfs {role : String} {env : Env} {k n ns uid : String}
    {storage : BackupStorageLocation} {spec : JobSpec}
    (h : buildWorkerJob role env k n ns uid storage = .ok spec) (ht : storage.type = .nfs) :
    ∃ nfs, storage.nfs = some nfs ∧ nfs.server ≠ "" ∧ nfs.path ≠ "" ∧
      spec.volume = some ⟨nfs.server, nfs.path, nfs.readOnly⟩ := by
  unfold buildWorkerJob at h
  rw [if_pos ht] at h
  split at h
  · rename_i nfs hn
    split_ifs at h with hsp
    cases h
    exact ⟨nfs, hn, fun e => hsp (.inl e), fun e => hsp (.inr e), rfl⟩
  · cases h

/-- For any other location type the built Job has no volume. -/
theorem buildWorkerJob_not_nfs {role : String} {env : Env} {k n ns uid : String}
    {storage : BackupStorageLocation} {spec : JobSpec}
    (h : buildWorkerJob role env k n ns uid storage = .ok spec) (ht : storage.type ≠ .nfs) :
    spec.volume = none := by
  unfold buildWorkerJob at h
  rw [if_neg ht] at h
  cases h
  rfl

end BackupOperator
