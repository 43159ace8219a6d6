import BackupOperator.Storage.Artifact
import BackupOperator.Archive.TarGz

/-!
# The validating controllers, and the restore's target config

`BackupStorageLocationReconciler` and `RemoteClusterReconciler` only write status: a phase and a
message for a storage location, a message for a remote cluster, each stamped with the time of the
check and the generation checked. The restore worker connects to a target cluster with
`buildRemoteConfigForRestore`, a copy of the controller's `buildRemoteConfig` that first reads
the `RemoteCluster` and its secret itself and whose messages name the secret "remote secret".

The API calls (`Get` of the remote and of its secret, `kubernetes.NewForConfig`, the probing
`List` under its ten-second timeout) and the kubeconfig parser `clientcmd.RESTConfigFromKubeConfig`
are the environment's: their results are parameters.

* `settings_of_available` — a location the controller reports `Available` has the settings of its
  type; the workers never read the phase.
* `checkRemote_eq_reachable` — a remote is reported reachable with a config exactly when its
  secret reads, the config builds from it, and a client and the probe succeed with that config.
  With `remoteConfig_ok_iff`, the restore worker that reads the same remote and secret builds the
  same config: the two switches differ in their messages only.
-/

namespace BackupOperator

/-! ### `BackupStorageLocationReconciler` -/

/-- `StorageLocationPhase`. -/
inductive StorageLocationPhase where
  | available
  | unavailable
  deriving DecidableEq, Repr

/-- `BackupStorageLocationStatus`; the phase is `none` until the first check. -/
structure StorageLocationStatus where
  phase : Option StorageLocationPhase
  message : String
  lastValidated : Option Nat
  observedGeneration : Nat
  deriving DecidableEq, Repr

/-- The `switch` of `Reconcile` on the location's type: the phase and the message. -/
def validateStorageLocation (l : BackupStorageLocation) : StorageLocationPhase × String :=
  match l.type with
  | .s3 =>
    let incomplete := match l.s3 with
      | none => true
      | some s3 => s3.bucket == ""
    if incomplete then (.unavailable, "s3 storage location requires bucket")
    else (.available, "s3 storage location configured")
  | .nfs =>
    let incomplete := match l.nfs with
      | none => true
      | some nfs => nfs.server == "" || nfs.path == ""
    if incomplete then (.unavailable, "nfs storage location requires server and path")
    else (.available, "nfs storage location configured")
  | .other _ => (.unavailable, "unsupported storage location type")

/-- `BackupStorageLocationReconciler.Reconcile` on the location it read, of the given generation
and status: the status it writes. -/
def reconcileStorageLocation (l : BackupStorageLocation) (status : StorageLocationStatus)
    (generation now : Nat) : StorageLocationStatus :=
  { status with
    lastValidated := some now
    observedGeneration := generation
    phase := some (validateStorageLocation l).1
    message := (validateStorageLocation l).2 }

/-- An `Available` location has the settings of its type. -/
theorem settings_of_available {l : BackupStorageLocation}
    (h : (validateStorageLocation l).1 = .available) :
    (l.type = .s3 ∧ ∃ s3, l.s3 = some s3 ∧ s3.bucket ≠ "") ∨
      (l.type = .nfs ∧ ∃ nfs, l.nfs = some nfs ∧ nfs.server ≠ "" ∧ nfs.path ≠ "") := by
  -- one case per type, and per presence of its settings
  rcases l with ⟨_, _ | _ | _, _ | s3, _ | nfs, _⟩ <;>
    simp_all [validateStorageLocation, Bool.or_eq_true, beq_iff_eq, not_or] <;>
    split_ifs at h <;> simp_all

/-! ### Remote clusters -/

/-- `RemoteClusterSpec` with its `Auth` inlined: the API server, the auth method (`""` when unset),
the secret reference, the CA bundle and whether TLS is checked. -/
structure RemoteClusterSpec where
  apiServer : String
  method : String
  secretName : String
  secretNamespace : String
  caBundle : Bytes
  insecureSkipTLS : Bool
  deriving DecidableEq, Repr

/-- The fields of `rest.Config` the authenticators set; the token is kept as the secret's bytes. -/
structure RestConfig where
  host : String
  bearerToken : Bytes
  insecure : Bool
  caData : Bytes
  deriving DecidableEq, Repr

/-- The namespace and name under which both authenticators read the secret: the reference's, in
the operator's namespace when the reference names none. -/
def remoteSecretKey (env : Env) (remote : RemoteClusterSpec) : String × String :=
  secretObjectKey env remote.secretName remote.secretNamespace

/-- The `switch` on the auth method that both authenticators run on a remote and its secret's
data; `secretWord` is how their messages name the secret. An unset method is the token method, and
the remote's CA bundle, when not empty, replaces the secret's `ca.crt`. -/
def remoteConfig (fromKubeconfig : Bytes → Except String RestConfig) (secretWord : String)
    (remote : RemoteClusterSpec) (data : SecretData) : Except String RestConfig :=
  if remote.method = "Kubeconfig" then
    match data.lookup "kubeconfig" with
    | some raw => fromKubeconfig raw
    | none => .error ("kubeconfig key not found in " ++ secretWord)
  else if remote.method = "ServiceAccountToken" ∨ remote.method = "" then
    match data.lookup "token" with
    | some token => .ok
        { host := remote.apiServer
          bearerToken := token
          insecure := remote.insecureSkipTLS
          caData := if remote.caBundle.length > 0 then remote.caBundle
            else (data.lookup "ca.crt").getD [] }
    | none => .error ("token key not found in " ++ secretWord)
  else .error ("unsupported auth method \"" ++ remote.method ++ "\"")

/-- `buildRemoteConfig`. -/
def buildRemoteConfig (fromKubeconfig : Bytes → Except String RestConfig)
    (remote : RemoteClusterSpec) (data : SecretData) : Except String RestConfig :=
  remoteConfig fromKubeconfig "secret" remote data

/-- `buildRemoteConfigForRestore`: `Get` the remote by name, then its secret, then the switch. -/
def buildRemoteConfigForRestore (env : Env) (fromKubeconfig : Bytes → Except String RestConfig)
    (getRemote : String → Except String RemoteClusterSpec)
    (getSecret : String × String → Except String SecretData) (remoteName : String) :
    Except String RestConfig := do
  let remote ← getRemote remoteName
  let data ← getSecret (remoteSecretKey env remote)
  remoteConfig fromKubeconfig "remote secret" remote data

/-- The word naming the secret changes the messages only. -/
theorem remoteConfig_ok_iff {fromKubeconfig : Bytes → Except String RestConfig}
    {remote : RemoteClusterSpec} {data : SecretData} {cfg : RestConfig} (word word' : String) :
    remoteConfig fromKubeconfig word remote data = .ok cfg ↔
      remoteConfig fromKubeconfig word' remote data = .ok cfg := by
  unfold remoteConfig
  split_ifs <;> (try split) <;> simp

/-- How the checks of `RemoteClusterReconciler.Reconcile` end. -/
inductive RemoteCheck where
  | secretUnreadable (err : String)
  | configInvalid (err : String)
  | clientFailed (err : String)
  | unreachable (err : String)
  | reachable (cfg : RestConfig)
  deriving DecidableEq, Repr

/-- The checks of `Reconcile` on the remote it read: read the secret, build the config, build a
clientset, list one namespace. -/
def checkRemote (env : Env) (fromKubeconfig : Bytes → Except String RestConfig)
    (getSecret : String × String → Except String SecretData)
    (newClient probe : RestConfig → Except String Unit) (remote : RemoteClusterSpec) :
    RemoteCheck :=
  match getSecret (remoteSecretKey env remote) with
  | .error e => .secretUnreadable e
  | .ok data =>
    match buildRemoteConfig fromKubeconfig remote data with
    | .error e => .configInvalid e
    | .ok cfg =>
      match newClient cfg with
      | .error e => .clientFailed e
      | .ok () =>
        match probe cfg with
        | .error e => .unreachable e
        | .ok () => .reachable cfg

/-- The message `Reconcile` writes for each ending. -/
def RemoteCheck.message : RemoteCheck → String
  | .secretUnreadable e => "unable to read auth secret: " ++ e
  | .configInvalid e => e
  | .clientFailed e => "failed to build remote client: " ++ e
  | .unreachable e => "remote cluster not reachable: " ++ e
  | .reachable _ => "remote cluster reachable"

/-- `RemoteClusterStatus`. -/
structure RemoteClusterStatus where
  message : String
  lastValidated : Option Nat
  observedGeneration : Nat
  deriving DecidableEq, Repr

/-- `RemoteClusterReconciler.Reconcile` on the remote it read, of the given generation and status:
the status it writes, and the error it returns. A failed check is only a message: the status write
that records it has its error dropped, and only the write after a successful probe returns one. -/
def reconcileRemoteCluster (env : Env) (fromKubeconfig : Bytes → Except String RestConfig)
    (getSecret : String × String → Except String SecretData)
    (newClient probe : RestConfig → Except String Unit) (remote : RemoteClusterSpec)
    (status : RemoteClusterStatus) (generation now : Nat) (writeError : Option String) :
    RemoteClusterStatus × Option String :=
  let check := checkRemote env fromKubeconfig getSecret newClient probe remote
  ({ status with
      lastValidated := some now
      observedGeneration := generation
      message := check.message },
    match check with
    | .reachable _ => writeError
    | _ => none)

/-- A check ends reachable with a config exactly when the secret reads, the config builds, a
client builds and the probe succeeds, all with that config. -/
theorem checkRemote_eq_reachable {env : Env} {fromKubeconfig : Bytes → Except String RestConfig}
    {getSecret : String × String → Except String SecretData}
    {newClient probe : RestConfig → Except String Unit} {remote : RemoteClusterSpec}
    {cfg : RestConfig} :
    checkRemote env fromKubeconfig getSecret newClient probe remote = .reachable cfg ↔
      ∃ data, getSecret (remoteSecretKey env remote) = .ok data ∧
        buildRemoteConfig fromKubeconfig remote data = .ok cfg ∧ newClient cfg = .ok () ∧
        probe cfg = .ok () := by
  constructor
  · intro h
    unfold checkRemote at h
    split at h
    · cases h
    rename_i data hdata
    split at h
    · cases h
    rename_i c hc
    split at h
    · cases h
    rename_i hn
    split at h
    · cases h
    rename_i hp
    cases h
    exact ⟨data, hdata, hc, hn, hp⟩
  · rintro ⟨data, hdata, hcfg, hn, hp⟩
    simp [checkRemote, hdata, hcfg, hn, hp]

end BackupOperator
