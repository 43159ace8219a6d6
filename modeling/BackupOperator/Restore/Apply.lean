import BackupOperator.Export.Snapshots

/-!
# Applying a restore (`applyResources`)

The restore worker applies the decoded documents to the target cluster. It sorts them by
`resourcePriority`, skips the kinds a backup never restores, sanitizes each document, moves a
namespaced one to its target namespace (creating that namespace when it is missing), maps its
group, version and kind to a resource type, and creates it; when the object exists, it updates it
at the resource version the server holds. A document whose type does not map is skipped; any other
error ends the restore.

The target API server is a store of objects keyed by resource type, namespace and name, each with a
resource version: `Create` fails with `AlreadyExists` on a key in use, and `Update` replaces the
object when the resource version matches. It serves its built-in types and the types of the
`CustomResourceDefinition`s it stores. Any one call may be lost in transit.

The mapper is `restmapper.NewDeferredDiscoveryRESTMapper(memory.NewMemCacheClient(disco))`: its
first use fetches discovery and keeps it, and a miss in a filled cache is final, because
`memCacheClient.Fresh` holds once the cache is filled and the mapper then never resets. A type
served by a definition that the restore itself creates is therefore not mapped in the same run.

* `applyResources_applies_in_export_order` — the apply order is a permutation of the documents,
  sorted by priority and, within each priority, in the order given; on an export followed by
  `VolumeSnapshot` documents, which come last, it is the order of the archive.
* `restore_again_creates_skipped_widget` — a restore of a `CustomResourceDefinition` and an object
  of its type into an empty cluster skips the object; a second run creates it, so the second run
  does not leave the store the first one left.
* `restore_skips_widget_of_served_type` — the skipped object's type is served when the loop
  reaches it: what decides is the mapper's snapshot, not the server.
* `namespaced_restore_follows_mapping` — for a `Restore` living in a namespace, a namespace mapping
  that names a document's namespace overrides the restore's own namespace.

`Restore.Converge` and `Restore.Mapper` prove that this is the mapper's doing alone: the writes of
a restore converge under a rerun. `Restore.Namespaces` proves that every run keeps each stored
object's namespace stored.
-/

namespace BackupOperator

/-! ### The target API server -/

/-- A resource type as discovery lists it. -/
structure ServedType where
  group : String
  version : String
  kind : String
  resource : String
  namespaced : Bool
  deriving DecidableEq, Repr

/-- Where an object is stored: its type, its namespace (`""` for a cluster-scoped type) and its
name. -/
structure Key where
  group : String
  resource : String
  ns : String
  name : String
  deriving DecidableEq, Repr

/-- A stored object, and the resource version the server keeps beside it. -/
structure Entry where
  key : Key
  object : Object
  rv : Nat

/-- The target cluster's API server: its built-in types, its objects, and the next resource
version it hands out. -/
structure Store where
  builtin : List ServedType
  entries : List Entry
  nextRV : Nat

/-- The errors of a call: `IsNotFound`, `IsAlreadyExists`, a resource version conflict, a request
the server rejects, and a call lost in transit. -/
inductive ApiError where
  | notFound
  | alreadyExists
  | conflict
  | invalid
  | unavailable
  deriving DecidableEq, Repr

/-- Whether `Create` rejects a key: a namespaced type needs a namespace, and every object a name. -/
def Key.rejected (k : Key) (namespaced : Bool) : Bool := (namespaced && k.ns == "") || k.name == ""

namespace Store

/-- The entry at a key. -/
def find? (s : Store) (k : Key) : Option Entry := s.entries.find? (·.key == k)

/-- The stored objects, their resource versions forgotten. -/
def view (s : Store) (k : Key) : Option Object := (s.find? k).map (·.object)

/-- `Get`: the object, with its resource version. -/
def get (s : Store) (k : Key) : Except ApiError Object :=
  match s.find? k with
  | some e => .ok (e.object.setResourceVersion (toString e.rv))
  | none => .error .notFound

/-- `Create`: a key `Create` rejects is invalid; a key in use is `AlreadyExists`; otherwise the
object is stored under a fresh resource version. -/
def create (s : Store) (namespaced : Bool) (k : Key) (obj : Object) : Except ApiError Store :=
  if k.rejected namespaced then .error .invalid
  else match s.find? k with
    | some _ => .error .alreadyExists
    | none => .ok { s with entries := s.entries ++ [⟨k, obj.setResourceVersion "", s.nextRV⟩],
                           nextRV := s.nextRV + 1 }

/-- `Update`: the object at the key is replaced under a fresh resource version when the version
sent is the one held; an object sent without a version is updated unconditionally. -/
def update (s : Store) (k : Key) (obj : Object) : Except ApiError Store :=
  match s.find? k with
  | none => .error .notFound
  | some e =>
    if obj.resourceVersion ≠ "" ∧ obj.resourceVersion ≠ toString e.rv then .error .conflict
    else .ok { s with
      entries := s.entries.map fun e' =>
        if e'.key = k then ⟨k, obj.setResourceVersion "", s.nextRV⟩ else e'
      nextRV := s.nextRV + 1 }

end Store

/-! ### Discovery and the mapper -/

/-- Whether a value is `true`. -/
def Value.isTrue : Value → Bool
  | .bool true => true
  | _ => false

/-- The types a stored `CustomResourceDefinition` serves: one for each entry of `spec.versions`
marked `served`, of group `spec.group`, kind `spec.names.kind` and resource `spec.names.plural`,
namespaced when `spec.scope` is `Namespaced`. -/
def crdServedTypes (crd : Object) : List ServedType :=
  let versions := match crd.nested? ["spec", "versions"] with
    | some (.arr vs) => vs.filterMap fun (v : Value) => match v with
      | .obj v => if ((Object.get? v "served").map Value.isTrue).getD false then
          some (Object.nestedString v ["name"]) else none
      | _ => none
    | _ => []
  versions.map fun v =>
    ⟨crd.nestedString ["spec", "group"], v, crd.nestedString ["spec", "names", "kind"],
      crd.nestedString ["spec", "names", "plural"], crd.nestedString ["spec", "scope"] == "Namespaced"⟩

/-- Whether a key holds a `CustomResourceDefinition`. -/
def Key.isDefinition (k : Key) : Bool :=
  k.group == "apiextensions.k8s.io" && k.resource == "customresourcedefinitions"

/-- Discovery: the built-in types, then those of the stored definitions. -/
def Store.discovery (s : Store) : List ServedType :=
  s.builtin ++ (s.entries.filter (·.key.isDefinition)).flatMap fun e => crdServedTypes e.object

/-- `RESTMapping(groupKind, version)` over a discovery result: the type of that group and kind in
that version, or in any version when none is given. -/
def restMapping (types : List ServedType) (group version kind : String) : Option ServedType :=
  types.find? fun t => t.group == group && t.kind == kind && (version == "" || t.version == version)

/-! ### The session -/

/-- The restore's session with the target server: the server, the mapper's cached discovery
(`none` until its first use), the number of calls made, and the call that is lost in transit, if
any. -/
structure Session where
  store : Store
  mapper : Option (List ServedType)
  calls : Nat
  failAt : Option Nat

/-- The restore's computations: calls to the server, any of which may fail. -/
abbrev ApiM := ExceptT ApiError (StateM Session)

/-- One call to the server: unless it is the call lost in transit, it runs against the current
store. -/
def request {α : Type} (f : Store → Except ApiError (α × Store)) : ApiM α := do
  let s ← get
  set { s with calls := s.calls + 1 }
  if s.failAt = some s.calls then throw .unavailable
  match f s.store with
  | .ok (a, store) =>
    modify fun s => { s with store := store }
    pure a
  | .error e => throw e

/-- `Get` through the dynamic client. -/
def getObject (k : Key) : ApiM Object := request fun s => (s.get k).map fun obj => (obj, s)

/-- `Create` through the dynamic client. -/
def createObject (namespaced : Bool) (k : Key) (obj : Object) : ApiM Unit :=
  request fun s => (s.create namespaced k obj).map fun s' => ((), s')

/-- `Update` through the dynamic client. -/
def updateObject (k : Key) (obj : Object) : ApiM Unit :=
  request fun s => (s.update k obj).map fun s' => ((), s')

/-- `ServerGroupsAndResources`, the discovery call behind the mapper. -/
def fetchDiscovery : ApiM (List ServedType) := request fun s => .ok (s.discovery, s)

/-- `DeferredDiscoveryRESTMapper.RESTMapping`: the first use fetches discovery into the cache (a
failed fetch leaves it empty); a miss is `NoKindMatchError`, and final, since a filled cache is
`Fresh`. -/
def mapperRESTMapping (group version kind : String) : ApiM ServedType := do
  let types ← match (← get).mapper with
    | some types => pure types
    | none => do
      let types ← fetchDiscovery
      modify fun s => { s with mapper := some types }
      pure types
  match restMapping types group version kind with
  | some t => pure t
  | none => throw .notFound

/-! ### `applyResources` -/

/-- The `Namespace` object `ensureNamespace` creates. -/
def namespaceObject (ns : String) : Object :=
  [("apiVersion", .str "v1"), ("kind", .str "Namespace"), ("metadata", .obj [("name", .str ns)])]

/-- Where a namespace is stored. -/
def namespaceKey (ns : String) : Key := ⟨"", "namespaces", "", ns⟩

/-- `ensureNamespace`: nothing for `""`; otherwise `Get` the namespace, and `Create` it when it is
not found. -/
def ensureNamespace (ns : String) : ApiM Unit :=
  if ns = "" then pure ()
  else tryCatch (discard (getObject (namespaceKey ns))) fun e =>
    if e = .notFound then createObject false (namespaceKey ns) (namespaceObject ns) else throw e

/-- The namespace a namespaced document is restored to: the restore's default namespace if it has
one, else the document's own; the namespace mapping, when it names the document's own, overrides
both. -/
def targetNamespace (mapping : List (String × String)) (defaultNamespace ns : String) : String :=
  (mapping.lookup ns).getD (if defaultNamespace ≠ "" then defaultNamespace else ns)

/-- Where `Create` stores an object of a mapped type: under the type, in the object's namespace
for a namespaced type, by the object's name. -/
def objectKey (t : ServedType) (obj : Object) : Key :=
  ⟨t.group, t.resource, if t.namespaced then obj.ns else "", obj.name⟩

/-- The write of `applyResources`: `Create`; on `AlreadyExists`, `Get` the stored object and
`Update` at its resource version. -/
def createOrUpdate (namespaced : Bool) (key : Key) (obj : Object) : ApiM Unit :=
  tryCatch (createObject namespaced key obj) fun e => do
    if e = .alreadyExists then
      let existing ← getObject key
      updateObject key (obj.setResourceVersion existing.resourceVersion)
    else throw e

/-- The tail of an iteration of the loop of `applyResources`, once the document is in its target
namespace: map its group, version and kind (a document that does not map is skipped), and write it
without a resource version. -/
def applyObject (obj : Object) : ApiM Unit := do
  let (group, version, kind) := obj.groupVersionKind
  let some t ← tryCatch (some <$> mapperRESTMapping group version kind) fun _ => pure none
    | return
  createOrUpdate t.namespaced (objectKey t obj) (obj.setResourceVersion "")

/-- One iteration of the loop of `applyResources`: skip the kinds a restore never writes,
sanitize, move a namespaced document to its target namespace and ensure that namespace, then
write it. -/
def applyDocument (mapping : List (String × String)) (defaultNamespace : String) (doc : Object) :
    ApiM Unit := do
  if shouldSkipKind doc.kind then return
  let obj := sanitizeObject doc
  if obj.ns ≠ "" then
    let target := targetNamespace mapping defaultNamespace obj.ns
    let obj := obj.setNamespace target
    ensureNamespace target
    applyObject obj
  else applyObject obj

/-- The loop of `applyResources`, over the sorted documents. -/
def applyDocuments (mapping : List (String × String)) (defaultNamespace : String) :
    List Object → ApiM Unit
  | [] => pure ()
  | doc :: docs => do
    applyDocument mapping defaultNamespace doc
    applyDocuments mapping defaultNamespace docs

/-- `applyResources`. -/
def applyResources (resources : List Object) (mapping : List (String × String))
    (defaultNamespace : String) : ApiM Unit :=
  applyDocuments mapping defaultNamespace (sortByPriority resources)

/-- A restore against a store, in a fresh session (a new mapper, no call made yet) in which the
given call, if any, is lost: the error the restore ends with, if any, and the store it leaves. -/
def restoreRun (store : Store) (failAt : Option Nat) (resources : List Object)
    (mapping : List (String × String)) (defaultNamespace : String) :
    Except ApiError Unit × Store :=
  let r := (applyResources resources mapping defaultNamespace).run.run ⟨store, none, 0, failAt⟩
  (r.1, r.2.store)

/-! ### The apply order -/

/-- A `VolumeSnapshot` comes last. -/
theorem resourcePriority_volumeSnapshot {m : Object} (h : m.kind = "VolumeSnapshot") :
    resourcePriority m = 100 := by
  unfold resourcePriority
  rw [h]
  rfl

/-- **The apply order.** `applyResources` runs its loop over a permutation of the documents that is
sorted by priority and keeps, within each priority, the order given. On an export followed by
`VolumeSnapshot` documents, the order is the archive's own: the sort changes nothing. -/
theorem applyResources_applies_in_export_order (mapping : List (String × String))
    (defaultNamespace : String) (docs : List Object) (b : BackupObject) (c : Cluster)
    (S : List Object) (hS : ∀ s ∈ S, s.kind = "VolumeSnapshot") :
    (∃ order : List Object,
      applyResources docs mapping defaultNamespace = applyDocuments mapping defaultNamespace order ∧
      order.Perm docs ∧ order.Sorted (fun a b => resourcePriority a ≤ resourcePriority b) ∧
      ∀ p, order.filter (resourcePriority · == p) = docs.filter (resourcePriority · == p)) ∧
    applyResources (exportSelection b c ++ S) mapping defaultNamespace =
      applyDocuments mapping defaultNamespace (exportSelection b c ++ S) :=
  ⟨⟨sortByPriority docs, rfl, List.perm_insertionSort _ _, List.sorted_insertionSort _ _,
      fun p => sortByPriority_filter_priority p docs⟩,
    congrArg (applyDocuments mapping defaultNamespace) (sortByPriority_append_of_last
      (exportSelection_sorted b c) fun s hs => resourcePriority_volumeSnapshot (hS s hs))⟩

/-- The snapshot of the `orders` claim, restored after the export of its backup, is applied last,
after the export in its own order. -/
theorem orders_snapshot_applied_after_export :
    (∀ s ∈ [sanitizeObject ordersSnapshot0], s.kind = "VolumeSnapshot") ∧
      applyResources (exportSelection nightlySnapshots.backup ordersCluster ++
          [sanitizeObject ordersSnapshot0]) [] "" =
        applyDocuments [] "" (exportSelection nightlySnapshots.backup ordersCluster ++
          [sanitizeObject ordersSnapshot0]) :=
  have hS : ∀ s ∈ [sanitizeObject ordersSnapshot0], s.kind = "VolumeSnapshot" := fun s hs => by
    rw [List.mem_singleton.mp hs]
    rfl
  ⟨hS, (applyResources_applies_in_export_order [] "" [] nightlySnapshots.backup ordersCluster _
    hS).2⟩

/-! ### Restoring a definition and an object of its type -/

/-- The built-in types the runs below use. -/
def definitionType : ServedType :=
  ⟨"apiextensions.k8s.io", "v1", "CustomResourceDefinition", "customresourcedefinitions", false⟩

/-- An empty cluster serving namespaces and definitions. -/
def emptyCluster : Store :=
  ⟨[⟨"", "v1", "Namespace", "namespaces", false⟩, definitionType], [], 1⟩

/-- A definition of the cluster-scoped type `widgets.example.com`, served in `v1`. -/
def widgetDefinition : Object :=
  [("apiVersion", .str "apiextensions.k8s.io/v1"), ("kind", .str "CustomResourceDefinition"),
    ("metadata", .obj [("name", .str "widgets.example.com")]),
    ("spec", .obj [("group", .str "example.com"),
      ("names", .obj [("kind", .str "Widget"), ("plural", .str "widgets")]),
      ("scope", .str "Cluster"),
      ("versions", .arr [.obj [("name", .str "v1"), ("served", .bool true)]])])]

/-- A `Widget` named `w`. -/
def widget : Object :=
  [("apiVersion", .str "example.com/v1"), ("kind", .str "Widget"),
    ("metadata", .obj [("name", .str "w")])]

/-- The documents of a backup holding the definition and a widget. -/
def widgetDocuments : List Object := [widgetDefinition, widget]

/-- Where the widget is stored. -/
def widgetKey : Key := ⟨"example.com", "widgets", "", "w"⟩

/-- The store one uninterrupted restore of the widget backup leaves in the empty cluster. -/
def restoredOnce : Store := (restoreRun emptyCluster none widgetDocuments [] "").2

/-- Restoring the definition and the widget into the empty cluster succeeds without creating the
widget: the mapper fetched discovery for the definition, before the definition existed, and the
widget's type is a final miss. Restoring again from the store this left succeeds too, and creates
the widget. -/
theorem restore_again_creates_skipped_widget :
    (restoreRun emptyCluster none widgetDocuments [] "").1.isOk = true ∧
      restoredOnce.view widgetKey = none ∧
      (restoreRun restoredOnce none widgetDocuments [] "").1.isOk = true ∧
      ((restoreRun restoredOnce none widgetDocuments [] "").2.view widgetKey).isSome = true :=
  ⟨rfl, rfl, rfl, rfl⟩

/-- The session when the loop reaches the widget: the definition before it has been applied. -/
def reachingWidget : Session :=
  ((applyDocument [] "" widgetDefinition).run.run ⟨emptyCluster, none, 0, none⟩).2

/-- The widget follows its definition in the sorted documents, its kind is not one the restore
skips, and when the loop reaches it the server serves its type, since the definition is stored. The
mapper still holds the discovery it fetched before that, so the widget does not map: the run
succeeds and leaves no widget. -/
theorem restore_skips_widget_of_served_type :
    sortByPriority widgetDocuments = [widgetDefinition, widget] ∧
      shouldSkipKind widget.kind = false ∧
      (restMapping reachingWidget.store.discovery "example.com" "v1" "Widget").isSome = true ∧
      reachingWidget.mapper = some emptyCluster.discovery ∧
      (restoreRun emptyCluster none widgetDocuments [] "").1.isOk = true ∧
      restoredOnce.view widgetKey = none :=
  ⟨rfl, rfl, rfl, rfl, rfl, rfl⟩

/-! ### A namespaced restore with a namespace mapping -/

/-- The default namespace `runRestoreWorker` passes: the restore's own namespace for a `Restore`,
none for a `ClusterRestore`. -/
def restoreDefaultNamespace (kind ns : String) : String := if kind = "Restore" then ns else ""

/-- A cluster serving namespaces and `ConfigMap`s, holding the namespace `team`. -/
def teamCluster : Store :=
  ⟨[⟨"", "v1", "Namespace", "namespaces", false⟩, ⟨"", "v1", "ConfigMap", "configmaps", true⟩],
    [⟨namespaceKey "team", namespaceObject "team", 1⟩], 2⟩

/-- A `ConfigMap` `settings` backed up from namespace `apps`. -/
def appsSettings : Object :=
  [("apiVersion", .str "v1"), ("kind", .str "ConfigMap"),
    ("metadata", .obj [("name", .str "settings"), ("namespace", .str "apps")])]

/-- A `Restore` living in namespace `team`, with the mapping `apps → prod`, writes the `ConfigMap`
of `apps` into `prod`, not into `team`, and creates the namespace `prod`: the mapping is looked up
after the default namespace is chosen and overrides it. -/
theorem namespaced_restore_follows_mapping :
    targetNamespace [("apps", "prod")] (restoreDefaultNamespace "Restore" "team") "apps" = "prod" ∧
      (restoreRun teamCluster none [appsSettings] [("apps", "prod")]
        (restoreDefaultNamespace "Restore" "team")).1.isOk = true ∧
      ((restoreRun teamCluster none [appsSettings] [("apps", "prod")]
        (restoreDefaultNamespace "Restore" "team")).2.view ⟨"", "configmaps", "prod", "settings"⟩).isSome =
        true ∧
      (restoreRun teamCluster none [appsSettings] [("apps", "prod")]
        (restoreDefaultNamespace "Restore" "team")).2.view ⟨"", "configmaps", "team", "settings"⟩ = none ∧
      ((restoreRun teamCluster none [appsSettings] [("apps", "prod")]
        (restoreDefaultNamespace "Restore" "team")).2.view (namespaceKey "prod")).isSome = true :=
  ⟨rfl, rfl, rfl, rfl, rfl⟩

end BackupOperator
