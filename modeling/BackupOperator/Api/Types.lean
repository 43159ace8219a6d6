import Mathlib.Data.List.Nodup

/-!
# The `backup.example.com/v1alpha1` data model

The request objects, their status and the storage-location registry, as far as the dispatcher
(`controllers/`), the workers (`cmd/worker_*.go`) and `internal/resolve` read and write them.
Everything is a plain record with decidable equality, so that a run of the system can be
evaluated on concrete objects.

Go names are kept where Lean allows: `BackupPhase` and `RestorePhase` share the four values of
`Phase`; the `Spec` nesting of `BackupStorageLocation` is flattened into one record; the S3 field
`Prefix` is `keyPrefix`.

Fields that no modelled function reads are left out: the status conditions; of an S3 location the
endpoint, the CA bundle and the path-style and TLS switches, which only the S3 client reads; of an
NFS location the claim reference, the mount options and the credentials reference; a restore's
overwrite policy and execution mode, and a backup's execution mode, `TTL` and `RetainUntil`, which
no function reads at all. A backup's `export`, `resources` and `snapshot` settings are the records
the export steps read (`BackupObject`, `SnapshotRequest`), and a restore's target cluster and
namespace mapping are arguments of the restore run.
-/

namespace BackupOperator

/-- `BackupPhase` / `RestorePhase`: `Pending`, `Running`, `Completed`, `Failed`. -/
inductive Phase where
  | pending
  | running
  | completed
  | failed
  deriving DecidableEq, Repr

/-- A phase from which the lifecycle `Pending → Running → {Completed, Failed}` has no successor. -/
def Phase.IsTerminal (p : Phase) : Prop := p = .completed ∨ p = .failed

instance : DecidablePred Phase.IsTerminal := fun p =>
  inferInstanceAs (Decidable (p = .completed ∨ p = .failed))

/-- `StorageLocationType`: `s3`, `nfs`, or a value the CRD enum would reject but the code still
meets in its `default:` branches. -/
inductive StorageLocationType where
  | s3
  | nfs
  | other (value : String)
  deriving DecidableEq, Repr

/-- `corev1.SecretReference`: a `Secret` by name, and by namespace (`ns`, `""` when unset). -/
structure SecretReference where
  name : String
  ns : String
  deriving DecidableEq, Repr

/-- `S3LocationSpec`, reduced to the fields that locate an artifact and the reference to the
credential `Secret`. -/
structure S3LocationSpec where
  bucket : String
  keyPrefix : String
  region : String
  secretRef : SecretReference
  deriving DecidableEq, Repr

/-- `NFSLocationSpec`: the export and how the worker pod mounts it. -/
structure NFSLocationSpec where
  server : String
  path : String
  readOnly : Bool
  deriving DecidableEq, Repr

/-- `BackupStorageLocation` with its `Spec` inlined. -/
structure BackupStorageLocation where
  name : String
  type : StorageLocationType
  s3 : Option S3LocationSpec
  nfs : Option NFSLocationSpec
  isDefault : Bool
  deriving DecidableEq, Repr

/-- The cluster-scoped `BackupStorageLocation` objects. They are keyed by name, so a `Get` by
name is a lookup and a `List` returns each name once, in an order the reader does not control. -/
structure Registry where
  locations : List BackupStorageLocation
  names_nodup : (locations.map (·.name)).Nodup

/-- At most one listed location carries `Spec.Default`. -/
def UniqueDefault (listed : List BackupStorageLocation) : Prop :=
  ∀ a ∈ listed, ∀ b ∈ listed, a.isDefault = true → b.isDefault = true → a = b

instance (listed : List BackupStorageLocation) : Decidable (UniqueDefault listed) :=
  inferInstanceAs (Decidable (∀ a ∈ listed, ∀ b ∈ listed,
    a.isDefault = true → b.isDefault = true → a = b))

/-- `BackupStatus` / `RestoreStatus`. A restore never sets `artifactLocation`, which stays `""`;
timestamps are readings of the system clock. -/
structure Status where
  phase : Phase
  startedAt : Option Nat
  completedAt : Option Nat
  artifactLocation : String
  observedGeneration : Nat
  message : String
  deriving DecidableEq, Repr

/-- The status a request is created with: the CRD defaults `phase` to `Pending`. -/
def Status.initial : Status :=
  { phase := .pending, startedAt := none, completedAt := none, artifactLocation := "",
    observedGeneration := 0, message := "" }

/-- The kinds the dispatcher reconciles in `controllers/` (the `Restore` reconciler is not part
of the sources). -/
inductive RequestKind where
  | backup
  | clusterBackup
  | clusterRestore
  deriving DecidableEq, Repr

/-- The kind string written into owner labels and worker arguments. -/
def RequestKind.name : RequestKind → String
  | .backup => "Backup"
  | .clusterBackup => "ClusterBackup"
  | .clusterRestore => "ClusterRestore"

/-- `RestoreSourceRef`: the backup a restore reads from (`ns` is the Go field `Namespace`). -/
structure RestoreSourceRef where
  kind : String
  name : String
  ns : String
  deriving DecidableEq, Repr

/-- A request object as the store holds it. `storageName` is `spec.storageRef.name` (`""` when the
reference is absent) and is read for the backup kinds; `sourceRef` is read for restores;
`timeout` is `spec.timeout` in whole seconds; `deleting` is a set `DeletionTimestamp`. -/
structure Request where
  kind : RequestKind
  name : String
  ns : String
  uid : String
  generation : Nat
  resourceVersion : Nat
  deleting : Bool
  storageName : String
  sourceRef : RestoreSourceRef
  timeout : Option Int
  status : Status
  deriving DecidableEq, Repr

/-- A `Backup` or `ClusterBackup` as a restore reads it: its identity, the storage it names and
the artifact location its status records. -/
structure SourceBackup where
  kind : String
  name : String
  ns : String
  storageName : String
  artifactLocation : String
  deriving DecidableEq, Repr

end BackupOperator
