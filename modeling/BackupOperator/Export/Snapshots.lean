import BackupOperator.Export.Documents
import BackupOperator.Api.Names

/-!
# Volume snapshots (`exportSnapshots`)

For a backup with snapshots enabled, `exportSnapshots` lists the `PersistentVolumeClaim`s of
every namespace in scope that match the PVC selector, and for each one creates a
`VolumeSnapshot` named `sanitizeName(<backup>-<pvc>-<timestamp>)`, labelled with the backup's
name. When `Create` answers `AlreadyExists`, it fetches the object of that name instead and
keeps it; any other failure skips the PVC. The snapshots kept are sanitized and written as the
snapshot manifest, one document each.

The `VolumeSnapshot`s of the cluster are a store keyed by namespace and name: `Create` refuses a
name or a label value the server does not admit (`Invalid`), and a name in use in the namespace
(`AlreadyExists`); otherwise it stores the object.

* `collectSnapshots_of_fresh` — when the snapshot names of the listed PVCs are admitted, distinct
  and free, every PVC gets its own snapshot, in the order listed.
* `long_pvc_names_share_a_snapshot` — `sanitizeName` cuts names to 63 characters, so two PVCs
  whose names differ only past that point get one name: the second PVC's `Create` answers
  `AlreadyExists`, and the manifest holds the first PVC's snapshot twice and none of the second.
-/

namespace BackupOperator

/-! ### The request and the snapshot objects -/

/-- `spec.snapshot`, the fields `exportSnapshots` reads. The PVC selector is kept as
`metav1.LabelSelectorAsSelector` converts it: the selector as the server applies it, or the
conversion's error. -/
structure SnapshotSpec where
  enabled : Option Bool
  includeAllPVCs : Bool
  pvcSelector : Option (Except String (Object → Bool))
  volumeSnapshotClassName : Option String

/-- Whether snapshots are taken: the explicit flag if set, else whether all PVCs or a selector is
configured. -/
def SnapshotSpec.effectiveEnabled (s : SnapshotSpec) : Bool :=
  match s.enabled with
  | some enabled => enabled
  | none => s.includeAllPVCs || s.pvcSelector.isSome

/-- What `exportSnapshots` reads of `backupObject`: the scope `resolveNamespaces` reads, the
backup's name and `spec.snapshot`. -/
structure SnapshotRequest where
  backup : BackupObject
  name : String
  snapshot : Option SnapshotSpec

/-- `sanitizeName`: lower-cased, `_` replaced by `-`, cut to 63 characters. -/
def sanitizeName (name : String) : String :=
  let name := (GoPath.toLower name.data).map fun c => if c = '_' then '-' else c
  String.mk (if name.length > 63 then name.take 63 else name)

/-- The worker's `setNestedField`: set the field at the end of a path, replacing every field on the
way that is not a map by an empty one. -/
def setNestedField (m : Object) (v : Value) : List String → Object
  | [] => m
  | [key] => m.set key v
  | key :: path => m.set key (.obj (setNestedField ((m.getMap? key).getD []) v path))

/-- The `VolumeSnapshot` `exportSnapshots` builds for a PVC of a namespace. -/
def snapshotObject (backupName : String) (className : Option String) (timestamp ns pvc : String) :
    Object :=
  let obj : Object :=
    [("apiVersion", .str "snapshot.storage.k8s.io/v1"), ("kind", .str "VolumeSnapshot"),
      ("metadata", .obj [("name", .str (sanitizeName (backupName ++ "-" ++ pvc ++ "-" ++ timestamp))),
        ("namespace", .str ns), ("labels", .obj [("backup.example.com/backup-name", .str backupName)])]),
      ("spec", .obj [("source", .obj [("persistentVolumeClaimName", .str pvc)])])]
  match className with
  | some cls => setNestedField obj (.str cls) ["spec", "volumeSnapshotClassName"]
  | none => obj

/-- The claim a snapshot is taken of. -/
def Object.snapshotSource (m : Object) : String :=
  m.nestedString ["spec", "source", "persistentVolumeClaimName"]

/-- A snapshot names the PVC it is built for. -/
@[simp] theorem snapshotSource_snapshotObject (backupName : String) (className : Option String)
    (timestamp ns pvc : String) :
    (snapshotObject backupName className timestamp ns pvc).snapshotSource = pvc := by
  cases className <;> rfl

/-! ### The `VolumeSnapshot` store -/

/-- Why the server refuses a `Create`. -/
inductive CreateError where
  | alreadyExists
  | invalid
  deriving DecidableEq, Repr

/-- The `VolumeSnapshot`s of the cluster, each with its namespace. -/
structure SnapshotStore where
  snapshots : List (String × Object)

namespace SnapshotStore

/-- The snapshot of a name in a namespace: what `Get` returns. -/
def find? (s : SnapshotStore) (ns name : String) : Option Object :=
  (s.snapshots.find? fun p => p.1 == ns && p.2.name == name).map (·.2)

/-- Whether the server admits an object's name and label values. -/
def admits (obj : Object) : Bool :=
  isDNS1123Subdomain obj.name &&
    match obj.nested? ["metadata", "labels"] with
    | some (.obj labels) => labels.all fun p => match p.2 with
      | .str v => isValidLabelValue v
      | _ => false
    | _ => true

/-- `Create` in a namespace: a name or label value the server does not admit is `Invalid`, a name
in use is `AlreadyExists`; otherwise the object is stored and returned. -/
def create (s : SnapshotStore) (ns : String) (obj : Object) :
    Except CreateError (SnapshotStore × Object) :=
  if admits obj then
    match s.find? ns obj.name with
    | some _ => .error .alreadyExists
    | none => .ok (⟨s.snapshots ++ [(ns, obj)]⟩, obj)
  else .error .invalid

end SnapshotStore

/-! ### The loop -/

/-- One PVC of the loop: create its snapshot; on `AlreadyExists` keep what `Get` returns for the
name; any other failure skips the PVC. -/
def snapshotPVC (store : SnapshotStore) (ns : String) (snapshot : Object) :
    SnapshotStore × Option Object :=
  match store.create ns snapshot with
  | .ok (store', created) => (store', some created)
  | .error .alreadyExists => (store, store.find? ns snapshot.name)
  | .error .invalid => (store, none)

/-- The nested loops over the namespaces in scope and their PVCs, given as the pairs they visit:
the store after them and the snapshots kept, in order. -/
def collectSnapshots (mk : String → Object → Object) :
    SnapshotStore → List (String × Object) → SnapshotStore × List Object
  | store, [] => (store, [])
  | store, (ns, pvc) :: rest =>
    let step := snapshotPVC store ns (mk ns pvc)
    let after := collectSnapshots mk step.1 rest
    (after.1, step.2.toList ++ after.2)

/-- `exportSnapshots`, from a snapshot store and with the timestamp it reads: the snapshot manifest
and the store after the run. Nothing is done without snapshot settings or when snapshots are not
enabled; a selector that does not convert is the run's error. A namespace whose PVC list call
returns an error adds nothing. -/
def exportSnapshots (yamlMarshal : Object → List Char) (r : SnapshotRequest) (c : Cluster)
    (store : SnapshotStore) (timestamp : String) : Except String (List Char × SnapshotStore) :=
  match r.snapshot with
  | none => .ok ([], store)
  | some spec =>
    if !spec.effectiveEnabled then .ok ([], store) else
    match spec.pvcSelector.getD (.ok fun _ => true) with
    | .error e => .error e
    | .ok selector =>
      let pvcs := (resolveNamespaces r.backup c).flatMap fun ns =>
        ((c.list selector ("", "persistentvolumeclaims", ns)).getD []).map (ns, ·)
      let after := collectSnapshots
        (fun ns pvc => snapshotObject r.name spec.volumeSnapshotClassName timestamp ns pvc.name)
        store pvcs
      .ok (serializeDocuments yamlMarshal (after.2.map sanitizeObject), after.1)

/-! ### Names that do not collide -/

/-- A snapshot the server admits, under a name free in its namespace, is created as it is sent. -/
theorem snapshotPVC_fresh {store : SnapshotStore} {ns : String} {snapshot : Object}
    (ha : SnapshotStore.admits snapshot = true) (hf : store.find? ns snapshot.name = none) :
    snapshotPVC store ns snapshot = (⟨store.snapshots ++ [(ns, snapshot)]⟩, some snapshot) := by
  simp [snapshotPVC, SnapshotStore.create, ha, hf]

/-- After a snapshot is stored, the other names of the store are found as before. -/
theorem find?_append_of_ne {store : SnapshotStore} {ns ns' : String} {obj : Object} {name : String}
    (hne : (ns', name) ≠ (ns, obj.name)) :
    SnapshotStore.find? ⟨store.snapshots ++ [(ns, obj)]⟩ ns' name = store.find? ns' name := by
  simp only [SnapshotStore.find?, List.find?_append]
  cases store.snapshots.find? (fun p => p.1 == ns' && p.2.name == name) with
  | some p => rfl
  | none =>
    have : (ns == ns' && obj.name == name) = false := by
      cases h1 : (ns == ns') <;> cases h2 : (obj.name == name) <;> simp_all
    simp [List.find?, this]

/-- **Every PVC gets its own snapshot when the names do not collide.** When the snapshot names of
the visited PVCs are admitted, pairwise distinct within a namespace and free in the store, the loop
keeps each PVC's own snapshot, in the order visited. -/
theorem collectSnapshots_of_fresh (mk : String → Object → Object) (store : SnapshotStore)
    (pvcs : List (String × Object))
    (ha : ∀ p ∈ pvcs, SnapshotStore.admits (mk p.1 p.2) = true)
    (hf : ∀ p ∈ pvcs, store.find? p.1 (mk p.1 p.2).name = none)
    (hd : (pvcs.map fun p => (p.1, (mk p.1 p.2).name)).Nodup) :
    (collectSnapshots mk store pvcs).2 = pvcs.map fun p => mk p.1 p.2 := by
  induction pvcs generalizing store with
  | nil => rfl
  | cons p pvcs ih =>
    obtain ⟨ns, pvc⟩ := p
    rw [List.map_cons, List.nodup_cons] at hd
    have hstep := snapshotPVC_fresh (ha _ (List.mem_cons_self _ _)) (hf _ (List.mem_cons_self _ _))
    simp only [collectSnapshots, hstep, Option.toList_some, List.singleton_append, List.map_cons]
    refine congrArg _ (ih _ (fun q hq => ha q (List.mem_cons_of_mem _ hq)) (fun q hq => ?_) hd.2)
    rw [find?_append_of_ne fun he => hd.1 (List.mem_map.mpr ⟨q, hq, he⟩)]
    exact hf q (List.mem_cons_of_mem _ hq)

/-- Two claims `data` and `logs` of `apps`, from an empty store: each gets its own snapshot. -/
theorem data_and_logs_snapshotted :
    (collectSnapshots (fun ns pvc => snapshotObject "nightly" none "20260101T000000Z" ns pvc.name)
        ⟨[]⟩ [("apps", [("metadata", .obj [("name", .str "data")])]),
          ("apps", [("metadata", .obj [("name", .str "logs")])])]).2 =
      [snapshotObject "nightly" none "20260101T000000Z" "apps" "data",
        snapshotObject "nightly" none "20260101T000000Z" "apps" "logs"] :=
  collectSnapshots_of_fresh _ ⟨[]⟩ _ (by decide) (fun _ _ => rfl) (by decide)

/-! ### The store holds `VolumeSnapshot`s -/

/-- Every object of the store is a `VolumeSnapshot`, as every object the server keeps for the
resource `volumesnapshots` is. -/
def SnapshotStore.HoldsSnapshots (s : SnapshotStore) : Prop :=
  ∀ p ∈ s.snapshots, p.2.kind = "VolumeSnapshot"

/-- The snapshot built for a PVC is a `VolumeSnapshot`. -/
@[simp] theorem kind_snapshotObject (backupName : String) (className : Option String)
    (timestamp ns pvc : String) :
    (snapshotObject backupName className timestamp ns pvc).kind = "VolumeSnapshot" := by
  cases className <;> rfl

/-- What `Get` returns is an object of the store. -/
theorem SnapshotStore.mem_of_find? {s : SnapshotStore} {ns name : String} {o : Object}
    (h : s.find? ns name = some o) : ∃ p ∈ s.snapshots, p.2 = o := by
  obtain ⟨p, hp, rfl⟩ := Option.map_eq_some'.mp h
  exact ⟨p, List.mem_of_find?_eq_some hp, rfl⟩

/-- A created snapshot is stored as it is sent, after the others. -/
theorem SnapshotStore.create_ok {s s' : SnapshotStore} {ns : String} {obj o : Object}
    (h : s.create ns obj = .ok (s', o)) : s' = ⟨s.snapshots ++ [(ns, obj)]⟩ ∧ o = obj := by
  simp only [SnapshotStore.create] at h
  split_ifs at h
  split at h
  · cases h
  · cases h; exact ⟨rfl, rfl⟩

/-- One PVC keeps the store holding `VolumeSnapshot`s, and keeps one, if any. -/
theorem snapshotPVC_holds {store : SnapshotStore} {ns : String} {snapshot : Object}
    (hs : store.HoldsSnapshots) (hk : snapshot.kind = "VolumeSnapshot") :
    (snapshotPVC store ns snapshot).1.HoldsSnapshots ∧
      ∀ o ∈ (snapshotPVC store ns snapshot).2, o.kind = "VolumeSnapshot" := by
  unfold snapshotPVC
  split
  · rename_i store' created hc
    obtain ⟨rfl, rfl⟩ := SnapshotStore.create_ok hc
    refine ⟨fun p hp => ?_, fun o ho => Option.mem_some_iff.mp ho ▸ hk⟩
    rcases List.mem_append.mp hp with hp | hp
    · exact hs p hp
    · exact List.mem_singleton.mp hp ▸ hk
  · refine ⟨hs, fun o ho => ?_⟩
    obtain ⟨p, hp, rfl⟩ := SnapshotStore.mem_of_find? ho
    exact hs p hp
  · exact ⟨hs, fun o ho => nomatch ho⟩

/-- **The snapshot loop keeps only `VolumeSnapshot`s.** From a store that holds `VolumeSnapshot`s,
the loop leaves such a store, and every snapshot it keeps, created or fetched, is one. -/
theorem collectSnapshots_holds (mk : String → Object → Object)
    (hmk : ∀ ns pvc, (mk ns pvc).kind = "VolumeSnapshot") (pvcs : List (String × Object)) :
    ∀ store : SnapshotStore, store.HoldsSnapshots →
      (collectSnapshots mk store pvcs).1.HoldsSnapshots ∧
        ∀ o ∈ (collectSnapshots mk store pvcs).2, o.kind = "VolumeSnapshot" := by
  induction pvcs with
  | nil => exact fun store hs => ⟨hs, fun o ho => nomatch ho⟩
  | cons p pvcs ih =>
    intro store hs
    obtain ⟨hs', hkept⟩ := @snapshotPVC_holds store p.1 _ hs (hmk p.1 p.2)
    obtain ⟨hafter, hrest⟩ := ih _ hs'
    refine ⟨hafter, fun o ho => ?_⟩
    rcases List.mem_append.mp ho with ho | ho
    · exact hkept o (Option.mem_toList.mp ho)
    · exact hrest o ho

/-- The snapshots `exportSnapshots` writes to the manifest, sanitized, and the store after the
loop. -/
def snapshotDocuments (r : SnapshotRequest) (c : Cluster) (store : SnapshotStore)
    (timestamp : String) : Except String (List Object × SnapshotStore) :=
  match r.snapshot with
  | none => .ok ([], store)
  | some spec =>
    if !spec.effectiveEnabled then .ok ([], store) else
    match spec.pvcSelector.getD (.ok fun _ => true) with
    | .error e => .error e
    | .ok selector =>
      let pvcs := (resolveNamespaces r.backup c).flatMap fun ns =>
        ((c.list selector ("", "persistentvolumeclaims", ns)).getD []).map (ns, ·)
      let after := collectSnapshots
        (fun ns pvc => snapshotObject r.name spec.volumeSnapshotClassName timestamp ns pvc.name)
        store pvcs
      .ok (after.2.map sanitizeObject, after.1)

/-- `exportSnapshots` writes the documents of `snapshotDocuments`, one after the other. -/
theorem exportSnapshots_eq (yamlMarshal : Object → List Char) (r : SnapshotRequest) (c : Cluster)
    (store : SnapshotStore) (timestamp : String) :
    exportSnapshots yamlMarshal r c store timestamp =
      (snapshotDocuments r c store timestamp).map fun p => (serializeDocuments yamlMarshal p.1, p.2) := by
  obtain ⟨backup, name, _ | spec⟩ := r
  · rfl
  · simp only [exportSnapshots, snapshotDocuments]
    cases spec.effectiveEnabled
    · rfl
    · cases spec.pvcSelector.getD (.ok fun _ => true) <;> rfl

/-- The snapshot step keeps the store holding `VolumeSnapshot`s, and writes only `VolumeSnapshot`s
before sanitizing. -/
theorem snapshotDocuments_holds {r : SnapshotRequest} {c : Cluster} {store store' : SnapshotStore}
    {timestamp : String} {snaps : List Object} (hs : store.HoldsSnapshots)
    (h : snapshotDocuments r c store timestamp = .ok (snaps, store')) :
    store'.HoldsSnapshots ∧ ∃ kept : List Object, snaps = kept.map sanitizeObject ∧
      ∀ o ∈ kept, o.kind = "VolumeSnapshot" := by
  unfold snapshotDocuments at h
  split at h
  · cases h; exact ⟨hs, [], rfl, fun o ho => nomatch ho⟩
  · split at h
    · cases h; exact ⟨hs, [], rfl, fun o ho => nomatch ho⟩
    · split at h
      · cases h
      · cases h
        obtain ⟨hafter, hkept⟩ := collectSnapshots_holds _ (fun _ _ => kind_snapshotObject ..) _ _ hs
        exact ⟨hafter, _, rfl, hkept⟩

/-! ### Two long PVC names -/

/-- A PVC of namespace `apps`. -/
def pvcObject (name : String) : Object :=
  [("apiVersion", .str "v1"), ("kind", .str "PersistentVolumeClaim"),
    ("metadata", .obj [("name", .str name), ("namespace", .str "apps")])]

/-- Two claims of one `StatefulSet`, named by its volume claim template and their ordinals. -/
def ordersPVC0 : String := "data-orders-database-primary-replica-set-production-europe-west-0"

/-- The second claim. -/
def ordersPVC1 : String := "data-orders-database-primary-replica-set-production-europe-west-1"

/-- A cluster with namespace `apps` and its two claims. -/
def ordersCluster : Cluster :=
  ⟨[], ["apps"], [⟨"", "persistentvolumeclaims", "apps", pvcObject ordersPVC0⟩,
    ⟨"", "persistentvolumeclaims", "apps", pvcObject ordersPVC1⟩], fun _ => false⟩

/-- A `Backup` `apps/nightly` that snapshots all PVCs. -/
def nightlySnapshots : SnapshotRequest :=
  ⟨⟨"Backup", "apps", [], [], false, none, "yaml", fun _ => true, [], [], []⟩, "nightly",
    some ⟨none, true, none, none⟩⟩

/-- The snapshot built for the first claim. -/
def ordersSnapshot0 : Object := snapshotObject "nightly" none "20260101T000000Z" "apps" ordersPVC0

/-- Two PVCs whose names differ only in their last character get one snapshot name,
`nightly-data-orders-database-primary-replica-set-production-eur`. The first is created; the
second's `Create` answers `AlreadyExists`, and the loop keeps the first PVC's snapshot in its
place. The manifest holds the first PVC's snapshot twice and no snapshot of the second. -/
theorem long_pvc_names_share_a_snapshot (yamlMarshal : Object → List Char) :
    (snapshotObject "nightly" none "20260101T000000Z" "apps" ordersPVC1).name = ordersSnapshot0.name ∧
    exportSnapshots yamlMarshal nightlySnapshots ordersCluster ⟨[]⟩ "20260101T000000Z" =
      .ok (serializeDocuments yamlMarshal [sanitizeObject ordersSnapshot0, sanitizeObject ordersSnapshot0],
        ⟨[("apps", ordersSnapshot0)]⟩) ∧
    ordersSnapshot0.snapshotSource = ordersPVC0 :=
  ⟨by decide, rfl, rfl⟩

end BackupOperator
