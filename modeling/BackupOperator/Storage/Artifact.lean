import BackupOperator.Dispatcher.Job
import BackupOperator.Api.Names
import BackupOperator.Archive.TarGz

/-!
# Storing and loading artifacts (`cmd/worker_storage.go`)

`storeArtifact` places the archive under
`<prefix>/<clusterID>/<lower(kind)>/<namespace or "cluster">/<name>/<timestamp>/backup.tar.gz`, in
a bucket (`s3://<bucket>/<key>`) or under the worker's NFS mount (`nfs://<server><export path>/…`),
and `loadArtifact` turns such a location back into an object or a file. The byte transfers
(upload, download, copy) are the environment's; what is modelled is which object or file each
side addresses, and the configuration errors each side raises, among them the `Get` of an S3
location's credential `Secret`, whose result is the cluster's.

* `loadS3Config_ok` — an S3 configuration loads exactly when the location has S3 settings and its
  credential `Secret`, if it names one, can be read.
* `loadArtifact_storeArtifact_s3` — for S3, the location leads back to the object written, for a
  worker that can read the credential `Secret`.
* `storeArtifact_loadArtifact_nfs_unclean_export` — for an NFS export path that `path.Clean`
  changes, the file read is not the file written: the store cleans the path, the load strips the
  configured path verbatim.
* `loadArtifact_storeArtifact_nfs` — for an NFS export path that is absolute and clean, and a
  mount path that is too, the location leads back to the path of the file written. Whether the
  reading pod sees that file is `System.BackupRestore`'s question: only a mounted export is shared.
* **`storeArtifact_distinct_runs`** — for one cluster ID and one storage location, two runs whose
  kind, namespace, name or timestamp differ write to different objects or files and report
  different locations, whatever the cluster ID, the key prefix, the export path and the mount path:
  `path.Join` keeps the last elements of a path that are names the server admitted.
-/

namespace BackupOperator

open GoPath

/-- `artifactFileName`. -/
def artifactFileName : String := "backup.tar.gz"

/-- The fields of `backupObject` that `storeArtifact` reads. -/
structure BackupIdentity where
  kind : String
  name : String
  ns : String
  deriving DecidableEq, Repr

/-- `namespaceSegment`. -/
def namespaceSegment (ns : String) : String := if ns = "" then "cluster" else ns

/-- `s3Config`, reduced to the fields that place an object. -/
structure S3Config where
  bucket : String
  keyPrefix : String
  region : String
  deriving DecidableEq, Repr

/-- A `Secret`'s `Data`. -/
abbrev SecretData := List (String × Bytes)

/-- `c.Get` of a `Secret` from a cluster that holds these, by namespace and name: any other is
`NotFound`. -/
def getSecretFrom (secrets : List ((String × String) × SecretData)) (key : String × String) :
    Except String SecretData :=
  match secrets.lookup key with
  | some data => .ok data
  | none => .error ("secrets \"" ++ key.2 ++ "\" not found")

/-- The namespace and name under which a worker or a controller reads a referenced `Secret`: the
reference's, in the operator's namespace when the reference names none. -/
def secretObjectKey (env : Env) (name ns : String) : String × String :=
  (if ns = "" then operatorNamespace env else ns, name)

/-- The fields of `s3Config` that `loadS3Config` takes from the location's S3 settings: the
prefix loses its outer slashes and the region defaults to `us-east-1`. -/
def S3Config.ofSpec (s3 : S3LocationSpec) : S3Config :=
  { bucket := s3.bucket
    keyPrefix := String.mk (trim s3.keyPrefix.data '/')
    region := if s3.region = "" then "us-east-1" else s3.region }

/-- `loadS3Config`: the settings of the location, after a `Get` of the credential `Secret` when
the location names one; a failed `Get` is the error. The secret's keys are read by the S3 client
only. -/
def loadS3Config (env : Env) (getSecret : String × String → Except String SecretData)
    (storage : BackupStorageLocation) : Except String S3Config :=
  match storage.s3 with
  | none => .error "s3 configuration is missing"
  | some s3 =>
    if s3.secretRef.name = "" then .ok (S3Config.ofSpec s3)
    else (getSecret (secretObjectKey env s3.secretRef.name s3.secretRef.ns)).map
      fun _ => S3Config.ofSpec s3

/-- The credential `Secret` of an S3 location, if it names one, can be read. -/
def S3CredentialsReadable (env : Env) (getSecret : String × String → Except String SecretData)
    (s3 : S3LocationSpec) : Prop :=
  s3.secretRef.name ≠ "" → ∃ data, getSecret (secretObjectKey env s3.secretRef.name s3.secretRef.ns) =
    .ok data

/-- **When an S3 configuration loads.** Exactly when the location has S3 settings whose
credential `Secret` can be read; the configuration is then that of the settings. -/
theorem loadS3Config_ok {env : Env} {getSecret : String × String → Except String SecretData}
    {storage : BackupStorageLocation} {cfg : S3Config} :
    loadS3Config env getSecret storage = .ok cfg ↔
      ∃ s3, storage.s3 = some s3 ∧ S3CredentialsReadable env getSecret s3 ∧
        cfg = S3Config.ofSpec s3 := by
  unfold loadS3Config S3CredentialsReadable
  rcases storage.s3 with _ | s3
  · simp
  by_cases hn : s3.secretRef.name = ""
  · simp [hn, eq_comm]
  · cases hg : getSecret (secretObjectKey env s3.secretRef.name s3.secretRef.ns) <;>
      simp [hn, hg, Except.map, eq_comm, Ne.symm hn]

/-- Where an artifact's bytes are: an object of a bucket, or a file of the worker's filesystem. -/
inductive ArtifactAddress where
  | object (bucket key : String)
  | file (path : String)
  deriving DecidableEq, Repr

/-- `relativeBase` of `storeArtifact`. -/
def relativeBase (env : Env) (b : BackupIdentity) (timestamp : String) : List Char :=
  join [(clusterID env).data, toLower b.kind.data, (namespaceSegment b.ns).data, b.name.data,
    timestamp.data]

/-- `storeToNFS`: the exported path it reports, and the file under `NFS_MOUNT_PATH` (default
`/data`) it copies the archive to. -/
def storeToNFS (env : Env) (storage : BackupStorageLocation) (rel : List Char) :
    Except String (List Char × List Char) :=
  match storage.nfs with
  | none => .error "nfs configuration is missing"
  | some nfs =>
    let mountPath := getEnvOrDefault env "NFS_MOUNT_PATH" "/data"
    let destDir := join [mountPath.data, rel]
    .ok (join [nfs.path.data, rel, artifactFileName.data], join [destDir, artifactFileName.data])

/-- `storeArtifact`: the location string it returns, with the address it wrote. -/
def storeArtifact (env : Env) (getSecret : String × String → Except String SecretData)
    (storage : BackupStorageLocation) (b : BackupIdentity) (timestamp : String) :
    Except String (String × ArtifactAddress) :=
  let rel := relativeBase env b timestamp
  match storage.type with
  | .s3 => do
    let cfg ← loadS3Config env getSecret storage
    let key := String.mk (join [cfg.keyPrefix.data, rel, artifactFileName.data])
    pure ("s3://" ++ cfg.bucket ++ "/" ++ key, .object cfg.bucket key)
  | .nfs => do
    let (nfsPath, dest) ← storeToNFS env storage rel
    -- `storeToNFS` refused a location without NFS settings, so this is their server
    let server := (storage.nfs.map (·.server)).getD ""
    pure ("nfs://" ++ server ++ String.mk nfsPath, .file (String.mk dest))
  | .other t => .error ("unsupported storage type \"" ++ t ++ "\"")

/-- `parseS3Location`. -/
def parseS3Location (location : String) : Except String (String × String) :=
  match splitN2 (trimPrefix location.data "s3://".data) '/' with
  | [bucket, key] => .ok (String.mk bucket, String.mk key)
  | _ => .error ("invalid s3 location \"" ++ location ++ "\"")

/-- `loadFromNFS`: the file under `NFS_MOUNT_PATH` that the location denotes once the configured
export path (without trailing slashes) is stripped from it. -/
def loadFromNFS (env : Env) (storage : BackupStorageLocation) (artifactLocation : String) :
    Except String String :=
  match storage.nfs with
  | none => .error "nfs configuration is missing"
  | some nfs =>
    let mountPath := getEnvOrDefault env "NFS_MOUNT_PATH" "/data"
    match splitN2 (trimPrefix artifactLocation.data "nfs://".data) '/' with
    | [_, rest] =>
      let fullPath := '/' :: rest
      let basePath := trimRight nfs.path.data '/'
      let relPath := trimPrefix (trimPrefix fullPath basePath) ['/']
      .ok (String.mk (join [mountPath.data, relPath]))
    | _ => .error "invalid nfs artifact location"

/-- `loadArtifact`: the address a location string denotes for a storage location. -/
def loadArtifact (env : Env) (getSecret : String × String → Except String SecretData)
    (storage : BackupStorageLocation) (artifactLocation : String) : Except String ArtifactAddress :=
  match storage.type with
  | .s3 => do
    let _ ← loadS3Config env getSecret storage
    let (bucket, key) ← parseS3Location artifactLocation
    pure (.object bucket key)
  | .nfs => .file <$> loadFromNFS env storage artifactLocation
  | .other t => .error ("unsupported storage type \"" ++ t ++ "\"")

/-! ### S3 locations lead back to the object written -/

/-- `parseS3Location` undoes the `s3://%s/%s` formatting when the bucket has no slash. -/
theorem parseS3Location_format {bucket : String} (hb : '/' ∉ bucket.data) (key : String) :
    parseS3Location ("s3://" ++ bucket ++ "/" ++ key) = .ok (bucket, key) := by
  have h : ("s3://" ++ bucket ++ "/" ++ key).data = "s3://".data ++ (bucket.data ++ '/' :: key.data) := by
    simp [String.data_append, List.append_assoc]
  simp only [parseS3Location, h, trimPrefix_append, splitN2_append hb]

/-- What `storeArtifact` returns for an S3 location: the object of the settings' bucket under the
prefix and `relativeBase`, and its `s3://` location; the credential `Secret` was read. -/
theorem storeArtifact_s3 {env : Env} {getSecret : String × String → Except String SecretData}
    {storage : BackupStorageLocation} {b : BackupIdentity} {timestamp location : String}
    {addr : ArtifactAddress} (ht : storage.type = .s3)
    (h : storeArtifact env getSecret storage b timestamp = .ok (location, addr)) :
    ∃ s3, storage.s3 = some s3 ∧ S3CredentialsReadable env getSecret s3 ∧
      location = "s3://" ++ s3.bucket ++ "/" ++ String.mk (join [(S3Config.ofSpec s3).keyPrefix.data,
        relativeBase env b timestamp, artifactFileName.data]) ∧
      addr = .object s3.bucket (String.mk (join [(S3Config.ofSpec s3).keyPrefix.data,
        relativeBase env b timestamp, artifactFileName.data])) := by
  unfold storeArtifact at h
  rw [ht] at h
  cases hc : loadS3Config env getSecret storage with
  | error e => simp [hc, bind, Except.bind] at h
  | ok cfg =>
    obtain ⟨s3, hs, hr, rfl⟩ := loadS3Config_ok.mp hc
    simp only [hc, bind, Except.bind, pure, Except.pure, Except.ok.injEq, Prod.mk.injEq] at h
    exact ⟨s3, hs, hr, h.1.symm, h.2.symm⟩

/-- **S3 round trip.** Whatever the prefix, cluster ID, identity and timestamp, the location
`storeArtifact` returns for an S3 location whose bucket has no slash is read back by
`loadArtifact` as the object it wrote, by any worker that can read the credential `Secret`. -/
theorem loadArtifact_storeArtifact_s3 {env env' : Env}
    {getSecret getSecret' : String × String → Except String SecretData}
    {storage : BackupStorageLocation} {b : BackupIdentity} {timestamp location : String}
    {addr : ArtifactAddress} (ht : storage.type = .s3)
    (hb : ∀ s3, storage.s3 = some s3 → '/' ∉ s3.bucket.data)
    (hread : ∀ s3, storage.s3 = some s3 → S3CredentialsReadable env' getSecret' s3)
    (h : storeArtifact env getSecret storage b timestamp = .ok (location, addr)) :
    loadArtifact env' getSecret' storage location = .ok addr := by
  obtain ⟨s3, hs, -, rfl, rfl⟩ := storeArtifact_s3 ht h
  simp only [loadArtifact, ht, loadS3Config_ok.mpr ⟨s3, hs, hread s3 hs, rfl⟩, bind, Except.bind,
    parseS3Location_format (hb s3 hs), pure, Except.pure]

/-! ### NFS export paths that `path.Clean` changes -/

/-- An export path with a doubled slash: the archive is copied to
`/data/c/backup/n/b/<timestamp>/backup.tar.gz`, but the location it reports is read back from
`/data/exports/backups/c/backup/n/b/<timestamp>/backup.tar.gz`, because `path.Join` cleaned
`/exports//backups` in the location while `loadFromNFS` strips it as written. -/
theorem storeArtifact_loadArtifact_nfs_unclean_export :
    storeArtifact [("CLUSTER_ID", "c"), ("NFS_MOUNT_PATH", "/data")] (getSecretFrom [])
        ⟨"exports", .nfs, none, some ⟨"nfs.local", "/exports//backups", false⟩, true⟩
        ⟨"Backup", "b", "n"⟩ "20260101T000000Z" =
      .ok ("nfs://nfs.local/exports/backups/c/backup/n/b/20260101T000000Z/backup.tar.gz",
        .file "/data/c/backup/n/b/20260101T000000Z/backup.tar.gz") ∧
    loadArtifact [("CLUSTER_ID", "c"), ("NFS_MOUNT_PATH", "/data")] (getSecretFrom [])
        ⟨"exports", .nfs, none, some ⟨"nfs.local", "/exports//backups", false⟩, true⟩
        "nfs://nfs.local/exports/backups/c/backup/n/b/20260101T000000Z/backup.tar.gz" =
      .ok (.file "/data/exports/backups/c/backup/n/b/20260101T000000Z/backup.tar.gz") :=
  ⟨rfl, rfl⟩

/-! ### Distinct runs, distinct artifacts -/

/-- What the API server guarantees of a request's identity: a `Backup` lives in a namespace and a
`ClusterBackup` in none; a namespace is a DNS-1123 label and a name a DNS-1123 subdomain. -/
structure BackupIdentity.Admitted (b : BackupIdentity) : Prop where
  scope : (b.kind = "Backup" ∧ isDNS1123Label b.ns) ∨ (b.kind = "ClusterBackup" ∧ b.ns = "")
  name : isDNS1123Subdomain b.name

/-- The elements of `relativeBase` after the cluster ID: the lower-cased kind, the namespace
segment, the name and the timestamp. -/
def artifactSegments (b : BackupIdentity) (timestamp : String) : List (List Char) :=
  [toLower b.kind.data, (namespaceSegment b.ns).data, b.name.data, timestamp.data]

section Layout

variable {b : BackupIdentity} {timestamp : String} (hb : b.Admitted)
  (ht : IsPathElement timestamp.data)
include hb ht

/-- The segments of an admitted identity, and the file name, are path elements. -/
theorem artifactSegments_isPathElement :
    ∀ e ∈ artifactSegments b timestamp ++ [artifactFileName.data], IsPathElement e := by
  intro e he
  simp only [artifactSegments, List.cons_append, List.nil_append, List.mem_cons,
    List.not_mem_nil, or_false] at he
  rcases he with rfl | rfl | rfl | rfl | rfl
  · rcases hb.scope with ⟨hk, -⟩ | ⟨hk, -⟩ <;> rw [hk] <;> decide
  · unfold namespaceSegment
    split_ifs with hns
    · decide
    · rcases hb.scope with ⟨-, hl⟩ | ⟨-, he⟩
      · exact isPathElement_of_isDNS1123Label hl
      · exact absurd he hns
  · exact isPathElement_of_isDNS1123Subdomain hb.name
  · exact ht
  · decide

/-- `relativeBase` ends with the segments, whatever the cluster ID. -/
theorem suffix_relativeBase (env : Env) :
    artifactSegments b timestamp <:+ elements (relativeBase env b timestamp) := by
  have hpath := artifactSegments_isPathElement hb ht
  have hkind : [toLower b.kind.data] <:+ elements (toLower b.kind.data) :=
    (elements_of_slash_not_mem (hpath (toLower b.kind.data) (by simp [artifactSegments])).2.1) ▸
      List.suffix_refl _
  simpa using suffix_elements_join [(clusterID env).data] _ hkind (List.cons_ne_nil _ _)
    fun e he => hpath e (List.mem_append_left _ he)

/-- A join of `relativeBase` and the file name ends with the segments and the file name, whatever
comes before them. -/
theorem suffix_join_relativeBase (env : Env) (pre : List (List Char)) :
    artifactSegments b timestamp ++ [artifactFileName.data] <:+
      elements (join (pre ++ [relativeBase env b timestamp, artifactFileName.data])) :=
  suffix_elements_join pre _ (suffix_relativeBase hb ht env) (List.cons_ne_nil _ _)
    (artifactSegments_isPathElement hb ht)

/-- The file `storeToNFS` copies the archive to ends with the segments and the file name. -/
theorem suffix_storeToNFS_dest (env : Env) (mountPath : List Char) :
    artifactSegments b timestamp ++ [artifactFileName.data] <:+
      elements (join [join [mountPath, relativeBase env b timestamp], artifactFileName.data]) := by
  have hpath := artifactSegments_isPathElement hb ht
  have hdir := suffix_elements_join [mountPath] [] (suffix_relativeBase hb ht env)
    (List.cons_ne_nil _ _) fun e he => hpath e (List.mem_append_left _ (by simpa using he))
  rw [List.append_nil] at hdir
  exact suffix_elements_join [] _ hdir (List.cons_ne_nil _ _) hpath

end Layout

/-- Paths ending with the segments of two admitted runs and one file name are the same run's. -/
theorem eq_of_suffix_artifactSegments {b b' : BackupIdentity} {timestamp timestamp' : String}
    {E : List (List Char)} {file : List Char} (hb : b.Admitted) (hb' : b'.Admitted)
    (h : artifactSegments b timestamp ++ [file] <:+ E)
    (h' : artifactSegments b' timestamp' ++ [file] <:+ E) : b = b' ∧ timestamp = timestamp' := by
  have hsegs : artifactSegments b timestamp = artifactSegments b' timestamp' :=
    List.append_cancel_right ((List.suffix_of_suffix_length_le h h'
      (by simp [artifactSegments])).eq_of_length (by simp [artifactSegments]))
  simp only [artifactSegments, List.cons.injEq, and_true] at hsegs
  obtain ⟨hkind, hns, hname, hts⟩ := hsegs
  obtain ⟨kind, name, ns⟩ := b
  obtain ⟨kind', name', ns'⟩ := b'
  obtain ⟨hscope, -⟩ := hb
  obtain ⟨hscope', -⟩ := hb'
  simp only at hkind hns hname hscope hscope' ⊢
  refine ⟨?_, String.ext hts⟩
  rw [String.ext hname]
  -- the kind segments tell the kinds apart, and then the namespace segments the namespaces
  rcases hscope with ⟨rfl, hl⟩ | ⟨rfl, rfl⟩ <;> rcases hscope' with ⟨rfl, hl'⟩ | ⟨rfl, rfl⟩
  · have hne : ∀ {s}, isDNS1123Label s = true → s ≠ "" := by rintro s hs rfl; cases hs
    simp only [namespaceSegment, hne hl, hne hl', if_false] at hns
    rw [String.ext hns]
  all_goals first | rfl | exact absurd hkind (by decide)

/-- **Distinct runs are stored apart.** For one cluster ID and one storage location, two runs of
admitted identities with path-element timestamps, which differ in kind, namespace, name or
timestamp, write to different objects or files and report different locations. -/
theorem storeArtifact_distinct_runs {env : Env}
    {getSecret getSecret' : String × String → Except String SecretData}
    {storage : BackupStorageLocation} {b b' : BackupIdentity}
    {timestamp timestamp' location location' : String} {addr addr' : ArtifactAddress}
    (hb : b.Admitted) (hb' : b'.Admitted) (ht : IsPathElement timestamp.data)
    (ht' : IsPathElement timestamp'.data)
    (h : storeArtifact env getSecret storage b timestamp = .ok (location, addr))
    (h' : storeArtifact env getSecret' storage b' timestamp' = .ok (location', addr'))
    (hne : (b, timestamp) ≠ (b', timestamp')) : location ≠ location' ∧ addr ≠ addr' := by
  have apart : ∀ {E}, artifactSegments b timestamp ++ [artifactFileName.data] <:+ E →
      artifactSegments b' timestamp' ++ [artifactFileName.data] <:+ E → False := fun h1 h2 => by
    obtain ⟨rfl, rfl⟩ := eq_of_suffix_artifactSegments hb hb' h1 h2
    exact hne rfl
  have hjoin : ∀ pre, join (pre ++ [relativeBase env b timestamp, artifactFileName.data]) ≠
      join (pre ++ [relativeBase env b' timestamp', artifactFileName.data]) := fun pre he =>
    apart (suffix_join_relativeBase hb ht env pre) (he ▸ suffix_join_relativeBase hb' ht' env pre)
  cases hty : storage.type with
  | s3 =>
    obtain ⟨s3, hs, -, rfl, rfl⟩ := storeArtifact_s3 hty h
    obtain ⟨s3', hs', -, rfl, rfl⟩ := storeArtifact_s3 hty h'
    obtain rfl : s3 = s3' := Option.some.inj (hs.symm.trans hs')
    refine ⟨fun hl => hjoin [(S3Config.ofSpec s3).keyPrefix.data] ?_,
      fun ha => hjoin [(S3Config.ofSpec s3).keyPrefix.data] ?_⟩
    · simpa [String.data_append] using congrArg String.data hl
    · injection ha with _ hk
      exact congrArg String.data hk
  | nfs =>
    unfold storeArtifact at h h'
    cases hn : storage.nfs with
    | none => simp [hty, storeToNFS, hn, bind, Except.bind] at h
    | some nfs =>
      simp only [hty, storeToNFS, hn, bind, Except.bind, pure, Except.pure, Option.map_some',
        Option.getD_some, Except.ok.injEq, Prod.mk.injEq] at h h'
      obtain ⟨rfl, rfl⟩ := h
      obtain ⟨rfl, rfl⟩ := h'
      refine ⟨fun hl => hjoin [nfs.path.data] ?_, fun ha => apart
        (suffix_storeToNFS_dest hb ht env (getEnvOrDefault env "NFS_MOUNT_PATH" "/data").data) ?_⟩
      · simpa [String.data_append] using congrArg String.data hl
      · injection ha with hd
        injection hd with hd
        rw [hd]
        exact suffix_storeToNFS_dest hb' ht' env _
  | other t => simp [storeArtifact, hty] at h

/-- An S3 location in the bucket `backups`. -/
def backupsS3 : BackupStorageLocation :=
  ⟨"backups", .s3, some ⟨"backups", "", "", ⟨"", ""⟩⟩, none, true⟩

/-- A `Backup` in a namespace named `cluster` and a `ClusterBackup` of the same name and second
share their namespace segment, and are still stored apart by their kind segment. -/
theorem namespace_cluster_stored_apart :
    storeArtifact [("CLUSTER_ID", "c")] (getSecretFrom []) backupsS3 ⟨"Backup", "nightly", "cluster"⟩
        "20260101T000000Z" =
      .ok ("s3://backups/c/backup/cluster/nightly/20260101T000000Z/backup.tar.gz",
        .object "backups" "c/backup/cluster/nightly/20260101T000000Z/backup.tar.gz") ∧
    storeArtifact [("CLUSTER_ID", "c")] (getSecretFrom []) backupsS3 ⟨"ClusterBackup", "nightly", ""⟩
        "20260101T000000Z" =
      .ok ("s3://backups/c/clusterbackup/cluster/nightly/20260101T000000Z/backup.tar.gz",
        .object "backups" "c/clusterbackup/cluster/nightly/20260101T000000Z/backup.tar.gz") ∧
    "s3://backups/c/backup/cluster/nightly/20260101T000000Z/backup.tar.gz" ≠
        "s3://backups/c/clusterbackup/cluster/nightly/20260101T000000Z/backup.tar.gz" ∧
      ArtifactAddress.object "backups" "c/backup/cluster/nightly/20260101T000000Z/backup.tar.gz" ≠
        .object "backups" "c/clusterbackup/cluster/nightly/20260101T000000Z/backup.tar.gz" :=
  have h : storeArtifact [("CLUSTER_ID", "c")] (getSecretFrom []) backupsS3 ⟨"Backup", "nightly", "cluster"⟩
      "20260101T000000Z" =
      .ok ("s3://backups/c/backup/cluster/nightly/20260101T000000Z/backup.tar.gz",
        .object "backups" "c/backup/cluster/nightly/20260101T000000Z/backup.tar.gz") := rfl
  have h' : storeArtifact [("CLUSTER_ID", "c")] (getSecretFrom []) backupsS3 ⟨"ClusterBackup", "nightly", ""⟩
      "20260101T000000Z" =
      .ok ("s3://backups/c/clusterbackup/cluster/nightly/20260101T000000Z/backup.tar.gz",
        .object "backups" "c/clusterbackup/cluster/nightly/20260101T000000Z/backup.tar.gz") := rfl
  ⟨h, h', storeArtifact_distinct_runs ⟨.inl ⟨rfl, by decide⟩, by decide⟩
    ⟨.inr ⟨rfl, rfl⟩, by decide⟩ (by decide) (by decide) h h' (by decide)⟩

/-! ### NFS locations lead back to the file written, for a clean export path -/

/-- The artifact's file name is one path element. -/
theorem elements_artifactFileName : elements artifactFileName.data = [artifactFileName.data] :=
  elements_of_slash_not_mem (by decide)

section CleanLayout

variable {env : Env} {b : BackupIdentity} {timestamp : String}
  (hcluster : ∀ e ∈ elements (clusterID env).data, IsPathElement e) (hb : b.Admitted)
  (ht : IsPathElement timestamp.data)
include hcluster hb ht

/-- The elements below the export or the mount path, the cluster ID's then the segments and the
file name, are path elements. -/
theorem relativeElements_isPathElement :
    ∀ e ∈ elements (clusterID env).data ++ (artifactSegments b timestamp ++ [artifactFileName.data]),
      IsPathElement e := fun e he => by
  rcases List.mem_append.mp he with he | he
  · exact hcluster e he
  · exact artifactSegments_isPathElement hb ht e he

/-- `relativeBase` is the cluster ID's elements and the segments, joined by slashes. -/
theorem relativeBase_eq_intercalate :
    relativeBase env b timestamp =
      ['/'].intercalate (elements (clusterID env).data ++ artifactSegments b timestamp) := by
  have hpath := relativeElements_isPathElement hcluster hb ht
  have hsegs : ∀ e ∈ artifactSegments b timestamp, IsPathElement e := fun e he =>
    hpath e (by simp [he])
  rw [relativeBase, join_of_isPathElement (List.cons_ne_nil _ _)]
  · simp only [List.flatMap_cons, List.flatMap_nil, List.append_nil]
    rw [← flatMap_elements hsegs]
    simp [artifactSegments]
  · intro x hx e he
    simp only [List.mem_cons, List.not_mem_nil, or_false] at hx
    rcases hx with rfl | hx
    · exact hcluster e he
    · have hx' : x ∈ artifactSegments b timestamp := by simpa [artifactSegments] using hx
      rw [elements_of_slash_not_mem (hsegs x hx').2.1, List.mem_singleton] at he
      exact he ▸ hsegs x hx'

/-- Below an absolute clean path, the artifact's file is the path of the elements
`relativeElements_isPathElement` names, however the join is grouped. -/
theorem join_relativeBase_file {es : List (List Char)} (hes : ∀ e ∈ es, IsPathElement e) :
    join [rootedPath es, relativeBase env b timestamp, artifactFileName.data] =
        rootedPath (es ++ (elements (clusterID env).data ++
          (artifactSegments b timestamp ++ [artifactFileName.data]))) ∧
      join [join [rootedPath es, relativeBase env b timestamp], artifactFileName.data] =
        rootedPath (es ++ (elements (clusterID env).data ++
          (artifactSegments b timestamp ++ [artifactFileName.data]))) := by
  have hpath := relativeElements_isPathElement hcluster hb ht
  have hR : ∀ e ∈ elements (clusterID env).data ++ artifactSegments b timestamp,
      IsPathElement e := fun e he => hpath e (by
    rw [← List.append_assoc]; exact List.mem_append_left _ he)
  have hRne : elements (clusterID env).data ++ artifactSegments b timestamp ≠ [] := by
    simp [artifactSegments]
  have hel := elements_intercalate (fun e he => (hR e he).2.1) hRne
  have hfile : ∀ x ∈ [artifactFileName.data], ∀ e ∈ elements x, IsPathElement e := by
    simp only [List.mem_singleton, forall_eq, elements_artifactFileName]
    exact hpath _ (by simp)
  rw [relativeBase_eq_intercalate hcluster hb ht, join_rootedPath_intercalate hes hR hRne]
  constructor
  · rw [join_rootedPath hes _ (fun x hx => by
        rcases List.mem_cons.mp hx with rfl | hx
        · rw [hel]; exact hR
        · exact hfile x hx)]
    simp [hel, elements_artifactFileName]
  · rw [join_rootedPath (fun e he => by
        rcases List.mem_append.mp he with he | he
        · exact hes e he
        · exact hR e he) _ hfile]
    simp [elements_artifactFileName]

end CleanLayout

/-- **NFS round trip.** For an NFS location whose export path is absolute and clean and whose
server has no slash, a worker whose mount path is absolute and clean, and a run whose cluster ID is
made of path elements, the location `storeArtifact` returns is read back by `loadArtifact` as the
file it wrote, by any worker that mounts the export at the same path. -/
theorem loadArtifact_storeArtifact_nfs {env env' : Env}
    {getSecret getSecret' : String × String → Except String SecretData}
    {storage : BackupStorageLocation}
    {nfs : NFSLocationSpec} {b : BackupIdentity} {timestamp location : String}
    {addr : ArtifactAddress} (hty : storage.type = .nfs) (hnfs : storage.nfs = some nfs)
    (hserver : '/' ∉ nfs.server.data) (hpath : IsCleanRooted nfs.path.data)
    (hmount : IsCleanRooted (getEnvOrDefault env "NFS_MOUNT_PATH" "/data").data)
    (hmount' : getEnvOrDefault env' "NFS_MOUNT_PATH" "/data" =
      getEnvOrDefault env "NFS_MOUNT_PATH" "/data")
    (hcluster : ∀ e ∈ elements (clusterID env).data, IsPathElement e) (hb : b.Admitted)
    (ht : IsPathElement timestamp.data)
    (h : storeArtifact env getSecret storage b timestamp = .ok (location, addr)) :
    loadArtifact env' getSecret' storage location = .ok addr := by
  obtain ⟨P, hP, hPeq⟩ := hpath
  obtain ⟨M, hM, hMeq⟩ := hmount
  have hrel := relativeElements_isPathElement hcluster hb ht
  -- the location reports the export path and the relative elements; the file is below the mount
  simp only [storeArtifact, hty, storeToNFS, hnfs, bind, Except.bind, pure, Except.pure,
    Option.map_some', Option.getD_some, Except.ok.injEq, Prod.mk.injEq] at h
  obtain ⟨rfl, rfl⟩ := h
  rw [hPeq, hMeq, (join_relativeBase_file hcluster hb ht hP).1,
    (join_relativeBase_file hcluster hb ht hM).2]
  -- `loadFromNFS` strips the scheme, the server and the export path, and joins the rest
  have hdata : ("nfs://" ++ nfs.server ++ String.mk (rootedPath (P ++ (elements (clusterID env).data ++
      (artifactSegments b timestamp ++ [artifactFileName.data]))))).data =
      "nfs://".data ++ (nfs.server.data ++ '/' :: ['/'].intercalate (P ++ (elements (clusterID env).data ++
      (artifactSegments b timestamp ++ [artifactFileName.data])))) := by
    simp [String.data_append, rootedPath]
  simp only [loadArtifact, hty, loadFromNFS, hnfs, hdata, trimPrefix_append, splitN2_append hserver,
    hmount', hMeq, hPeq]
  rw [show ∀ xs, '/' :: ['/'].intercalate xs = rootedPath xs from fun _ => rfl,
    trimPrefix_rootedPath hP (by simp), join_rootedPath_intercalate hM hrel (by simp)]
  rfl

/-- The export `/exports/backups` of `nfs.local`. -/
def backupsExport : BackupStorageLocation :=
  ⟨"exports", .nfs, none, some ⟨"nfs.local", "/exports/backups", false⟩, true⟩

/-- A `Backup` stored on a clean export, mounted at `/data`, is read back from the file written. -/
example :
    storeArtifact [("CLUSTER_ID", "c")] (getSecretFrom []) backupsExport ⟨"Backup", "b", "n"⟩
        "20260101T000000Z" =
        .ok ("nfs://nfs.local/exports/backups/c/backup/n/b/20260101T000000Z/backup.tar.gz",
          .file "/data/c/backup/n/b/20260101T000000Z/backup.tar.gz") ∧
      loadArtifact [] (getSecretFrom []) backupsExport
          "nfs://nfs.local/exports/backups/c/backup/n/b/20260101T000000Z/backup.tar.gz" =
        .ok (.file "/data/c/backup/n/b/20260101T000000Z/backup.tar.gz") :=
  ⟨rfl, rfl⟩

end BackupOperator
