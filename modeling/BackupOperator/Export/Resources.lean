import BackupOperator.Json.Value
import BackupOperator.Text.GoPath
import Mathlib.Data.List.Sort
import Mathlib.Data.List.Perm.Basic
import Mathlib.Algebra.Order.Ring.Nat

/-!
# Selecting the objects a backup exports (`exportResources`)

`exportResources` walks the discovered resource types, keeps those that pass its type filters,
lists each kept type in every namespace in scope (or, for a cluster-scoped type, once, when
cluster resources are included), keeps the listed objects that pass the annotation selector,
sanitizes them and sorts them by kind. The API server is the environment: its discovery answer,
its namespaces, its stored objects, each with a resource type (group and plural name) and a
namespace, and the list calls that return an error. A list call that succeeds returns the stored
objects of the type in the namespace that match the label selector; the label selector is the
server's, a predicate here. With the namespace `""` the dynamic client lists every namespace. The
loop `continue`s past a list call that returns an error.

The loop is split as the code is: `listCalls` is the sequence of list calls the nested loops make,
and `exportSelection` concatenates what each call returns.

* `sortByPriority_filter_priority` — the sort is stable: within each priority, the documents keep
  the order they were listed in.
* `exportSelection_perm` — as a multiset, the exported documents are `sanitizeObject o` repeated
  `exportCount o` times for every stored object `o`, where `exportCount` counts the selected
  discovery entries of `o`'s type and, for a namespaced type, the namespaces in scope that are
  `o`'s own or `""`, each only where its list call succeeds.
* `export_repeated_namespace_twice` — a `ClusterBackup` whose `namespaces.included` names a
  namespace twice exports each of its objects twice.
* `empty_selector_value_matches_missing_key` — an annotation selector entry with the value `""`
  selects the objects that lack the key but carry annotations, and not those without annotations.
-/

namespace BackupOperator

/-! ### Resource types -/

/-- `metav1.APIResource`, the fields `exportResources` reads. -/
structure APIResource where
  name : String
  kind : String
  namespaced : Bool
  verbs : List String
  deriving DecidableEq, Repr

/-- `metav1.APIResourceList`: the resource types of one group version. -/
structure APIResourceList where
  groupVersion : String
  resources : List APIResource
  deriving DecidableEq, Repr

/-- `resourceSupportsList`. -/
def resourceSupportsList (verbs : List String) : Bool := verbs.contains "list"

/-- `strings.ToLower` of a string. -/
def lower (s : String) : String := String.mk (GoPath.toLower s.data)

/-- `resourceIdentifiers`: lower-cased name and kind, and both qualified by the group. -/
def resourceIdentifiers (group : String) (res : APIResource) : List String :=
  let group := lower group
  let name := lower res.name
  let kind := lower res.kind
  if group = "" then [name, kind] else [name, kind, name ++ "." ++ group, kind ++ "." ++ group]

/-- `normalizeResourceNames`. -/
def normalizeResourceNames (values : List String) : List String :=
  values.map fun v => String.mk (GoPath.toLower (GoPath.trimSpace v.data))

/-- `matchesAny`. -/
def matchesAny (ids set : List String) : Bool := ids.any set.contains

/-- `defaultExcludedResources`. -/
def defaultExcludedResources : List String :=
  ["events", "events.events.k8s.io", "leases", "endpoints", "endpointslices", "bindings",
    "replicasets", "controllerrevisions", "pods"]

/-- `shouldSkipKind`. -/
def shouldSkipKind (kind : String) : Bool :=
  ["Event", "Lease", "ControllerRevision", "ReplicaSet", "Pod", "EndpointSlice", "Endpoints",
    "Binding"].contains kind

/-- `matchAnnotations`: every selector entry equals the object's annotation, a missing
annotation reading as `""`; an object without annotations passes only the empty selector. -/
def matchAnnotations (annotations : Option (List (String × String)))
    (selector : List (String × String)) : Bool :=
  selector.isEmpty || selector.all fun entry => match annotations with
    | none => false
    | some a => (a.lookup entry.1).getD "" == entry.2

/-- `resourcePriority`. -/
def resourcePriority (m : Object) : Nat :=
  match m.kind with
  | "Namespace" => 0
  | "CustomResourceDefinition" => 1
  | "ClusterRole" | "ClusterRoleBinding" | "Role" | "RoleBinding" => 2
  | "ServiceAccount" => 3
  | "PersistentVolume" | "StorageClass" | "VolumeSnapshotClass" => 4
  | "PersistentVolumeClaim" => 5
  | "ConfigMap" | "Secret" => 6
  | "Deployment" | "StatefulSet" | "DaemonSet" | "Job" | "CronJob" => 7
  | "Service" | "Ingress" | "Route" => 8
  | _ => 100

/-- `sort.SliceStable` by `resourcePriority`. Insertion sort is stable, and the result of a stable
sort is determined by the order it sorts by. -/
def sortByPriority (objs : List Object) : List Object :=
  objs.insertionSort fun a b => resourcePriority a ≤ resourcePriority b

/-- Kinds the table does not name come last. -/
theorem resourcePriority_le (m : Object) : resourcePriority m ≤ 100 := by
  unfold resourcePriority
  split <;> omega

instance : IsTotal Object fun a b => resourcePriority a ≤ resourcePriority b :=
  ⟨fun _ _ => Nat.le_total _ _⟩

instance : IsTrans Object fun a b => resourcePriority a ≤ resourcePriority b :=
  ⟨fun _ _ _ => Nat.le_trans⟩

/-- Inserting a document keeps, within each priority, the order of the list with the document in
front: it goes before every document of its own priority. -/
theorem filter_orderedInsert_priority (p : Nat) (a : Object) (l : List Object) :
    (l.orderedInsert (fun a b => resourcePriority a ≤ resourcePriority b) a).filter
      (resourcePriority · == p) = (a :: l).filter (resourcePriority · == p) := by
  induction l with
  | nil => rfl
  | cons b l ih =>
    by_cases hab : resourcePriority a ≤ resourcePriority b
    · simp only [List.orderedInsert, hab, if_true]
    · have hba : resourcePriority b ≠ resourcePriority a := by omega
      simp only [List.orderedInsert, hab, if_false, List.filter_cons, ih]
      by_cases hb : resourcePriority b = p
      · simp [hb, show resourcePriority a ≠ p by omega]
      · simp [hb]

/-- **The sort is stable**: within each priority, documents keep their order. -/
theorem sortByPriority_filter_priority (p : Nat) (l : List Object) :
    (sortByPriority l).filter (resourcePriority · == p) = l.filter (resourcePriority · == p) := by
  induction l with
  | nil => rfl
  | cons a l ih =>
    unfold sortByPriority at ih ⊢
    rw [List.insertionSort, filter_orderedInsert_priority, List.filter_cons, ih, List.filter_cons]

/-- Documents sorted by priority, followed by documents of the last priority, are sorted: the sort
leaves them as they are. -/
theorem sortByPriority_append_of_last {R S : List Object}
    (hR : R.Sorted fun a b => resourcePriority a ≤ resourcePriority b)
    (hS : ∀ s ∈ S, resourcePriority s = 100) : sortByPriority (R ++ S) = R ++ S := by
  refine List.Sorted.insertionSort_eq (List.pairwise_append.mpr ⟨hR, ?_, ?_⟩)
  · exact List.pairwise_of_forall_mem_list fun a ha b hb => by rw [hS a ha, hS b hb]
  · exact fun a _ b hb => hS b hb ▸ resourcePriority_le a

/-- `sanitizeObject`: drop `status`, the server-set metadata and the last-applied annotation, and
a `Service`'s allocated cluster IPs and health-check port. `NestedMap` reports a `metadata` that
is not a map as not found (with an error the code ignores), so only a `metadata` map is rewritten
and stored back by `SetNestedMap`. -/
def sanitizeObject (m : Object) : Object :=
  let m := m.removeNested ["status"]
  let m := match m.getMap? "metadata" with
    | some meta =>
      let meta := (((((meta.erase "uid").erase "resourceVersion").erase "generation").erase
        "managedFields").erase "selfLink").erase "creationTimestamp"
      let meta := match meta.getMap? "annotations" with
        | some ann =>
          meta.set "annotations" (.obj (ann.erase "kubectl.kubernetes.io/last-applied-configuration"))
        | none => meta
      m.set "metadata" (.obj meta)
    | none => m
  if m.kind = "Service" then
    ((m.removeNested ["spec", "clusterIP"]).removeNested ["spec", "clusterIPs"]).removeNested
      ["spec", "healthCheckNodePort"]
  else m

/-! ### The cluster and the request -/

/-- A stored object, with its resource type and its namespace (`""` when cluster-scoped). -/
structure StoredObject where
  group : String
  resource : String
  ns : String
  object : Object

/-- What the exporter reads of a cluster: the preferred resources discovery returns, the
namespaces, the stored objects, and the list calls (group, resource, namespace) that return an
error. -/
structure Cluster where
  discovery : List APIResourceList
  namespaces : List String
  objects : List StoredObject
  listFails : String × String × String → Bool

/-- Whether a list call of a type in a namespace that succeeds returns a stored object, before the
label selector. -/
def StoredObject.listedBy (o : StoredObject) (call : String × String × String) : Bool :=
  (call.1 == o.group && call.2.1 == o.resource) && (call.2.2 == "" || call.2.2 == o.ns)

/-- `dyn.Resource(gvr).Namespace(ns).List` with a label selector: the objects it returns, or
`none` when it returns an error. -/
def Cluster.list (c : Cluster) (selector : Object → Bool) (call : String × String × String) :
    Option (List Object) :=
  if c.listFails call then none
  else some ((c.objects.filter fun o => o.listedBy call && selector o.object).map (·.object))

/-- Whether a list call returns a stored object, before the label selector: it succeeds and lists
the object's type and namespace. -/
def Cluster.returns (c : Cluster) (call : String × String × String) (o : StoredObject) : Bool :=
  !c.listFails call && o.listedBy call

/-- What a loop that skips a failed list call takes from it: the objects the call returns. -/
theorem Cluster.list_getD (c : Cluster) (selector : Object → Bool)
    (call : String × String × String) :
    (c.list selector call).getD [] =
      (c.objects.filter fun o => c.returns call o && selector o.object).map (·.object) := by
  unfold Cluster.list Cluster.returns
  cases c.listFails call <;> simp

/-- The fields of `backupObject` that `exportResources` reads: the kind and namespace, the
`ClusterBackup` namespace selector and cluster-resources flag, `spec.export` and
`spec.resources` (the label selector as the server applies it). -/
structure BackupObject where
  kind : String
  ns : String
  included : List String
  excluded : List String
  includeClusterResources : Bool
  exportEnabled : Option Bool
  exportFormat : String
  labelSelector : Object → Bool
  annotationSelector : List (String × String)
  includedResources : List String
  excludedResources : List String

/-- `resolveNamespaces`: a `Backup`'s own namespace; for a `ClusterBackup`, `included` or else
every namespace, without `excluded`, sorted. -/
def resolveNamespaces (b : BackupObject) (c : Cluster) : List String :=
  if b.kind = "Backup" then [b.ns] else
  let namespaces := if b.included ≠ [] then b.included else c.namespaces
  let namespaces := if b.excluded ≠ [] then namespaces.filter fun n => !b.excluded.contains n
    else namespaces
  namespaces.insertionSort fun a b => GoPath.lessEq a.data b.data

/-- The type filters of the loop over discovered resources. -/
def typeSelected (b : BackupObject) (group : String) (res : APIResource) : Bool :=
  let includeSet := normalizeResourceNames b.includedResources
  let excludeSet := normalizeResourceNames (defaultExcludedResources ++ b.excludedResources)
  let ids := resourceIdentifiers group res
  !res.name.data.contains '/' && resourceSupportsList res.verbs &&
    (includeSet.isEmpty || matchesAny ids includeSet) && !matchesAny ids excludeSet &&
    !shouldSkipKind res.kind

/-- The discovered resource types that pass the type filters, with their group; a group version
that does not parse is skipped. -/
def selectedTypes (b : BackupObject) (c : Cluster) : List (String × APIResource) :=
  c.discovery.flatMap fun list =>
    match parseGroupVersion list.groupVersion with
    | some (group, _) => (list.resources.filter (typeSelected b group)).map (group, ·)
    | none => []

/-- Whether the loop lists cluster-scoped types. -/
def BackupObject.includeCluster (b : BackupObject) : Bool :=
  b.kind == "ClusterBackup" && b.includeClusterResources

/-- The list calls a selected type gets: one per namespace in scope, or one without a namespace
for a cluster-scoped type when cluster resources are included. -/
def typeCalls (b : BackupObject) (namespaces : List String) (t : String × APIResource) :
    List (String × String × String) :=
  if t.2.namespaced then namespaces.map fun ns => (t.1, t.2.name, ns)
  else if b.includeCluster then [(t.1, t.2.name, "")]
  else []

/-- The list calls of the nested loops, in order. -/
def listCalls (b : BackupObject) (c : Cluster) : List (String × String × String) :=
  (selectedTypes b c).flatMap (typeCalls b (resolveNamespaces b c))

/-- The documents `exportResources` serializes: nothing when export is disabled; otherwise what
every list call returns that passes the annotation selector, sanitized, sorted by kind. A list call
that returns an error adds nothing (`continue`). -/
def exportSelection (b : BackupObject) (c : Cluster) : List Object :=
  if b.exportEnabled = some false then [] else
  sortByPriority <| (listCalls b c).flatMap fun call =>
    (((c.list b.labelSelector call).getD []).filter fun m =>
      matchAnnotations m.annotations b.annotationSelector).map sanitizeObject

/-- The export is sorted by priority. -/
theorem exportSelection_sorted (b : BackupObject) (c : Cluster) :
    (exportSelection b c).Sorted fun a b => resourcePriority a ≤ resourcePriority b := by
  unfold exportSelection
  split
  · exact List.sorted_nil
  · exact List.sorted_insertionSort _ _

/-- Every exported document is a sanitized stored object that a list call of the loop returns and
that passes the annotation selector. -/
theorem mem_exportSelection {b : BackupObject} {c : Cluster} {o : Object}
    (h : o ∈ exportSelection b c) :
    ∃ call ∈ listCalls b c, ∃ so ∈ c.objects, c.returns call so = true ∧
      b.labelSelector so.object = true ∧
      matchAnnotations so.object.annotations b.annotationSelector = true ∧
      o = sanitizeObject so.object := by
  unfold exportSelection at h
  split at h
  · cases h
  · obtain ⟨call, hcall, ho⟩ := List.mem_flatMap.mp ((List.perm_insertionSort _ _).mem_iff.mp h)
    obtain ⟨m, hm, rfl⟩ := List.mem_map.mp ho
    obtain ⟨hm, hann⟩ := List.mem_filter.mp hm
    rw [Cluster.list_getD] at hm
    obtain ⟨so, hso, rfl⟩ := List.mem_map.mp hm
    obtain ⟨hso, hsel⟩ := List.mem_filter.mp hso
    obtain ⟨hl, hs⟩ := Bool.and_eq_true_iff.mp hsel
    exact ⟨call, hcall, so, hso, hl, hs, hann, rfl⟩

/-- The list calls of a `Backup`'s export are all in its namespace. -/
theorem listCalls_backup {b : BackupObject} {c : Cluster} {call : String × String × String}
    (hk : b.kind = "Backup") (h : call ∈ listCalls b c) : call.2.2 = b.ns := by
  obtain ⟨t, -, hcall⟩ := List.mem_flatMap.mp h
  have hcluster : b.includeCluster = false := by simp [BackupObject.includeCluster, hk]
  simp only [typeCalls, resolveNamespaces, hk, if_true, hcluster, List.map_cons, List.map_nil,
    Bool.false_eq_true, if_false] at hcall
  split_ifs at hcall
  · rw [List.mem_singleton.mp hcall]
  · cases hcall

/-- **A `Backup` exports only its own namespace.** Every document of the export of a `Backup` is a
sanitized object stored in the backup's namespace, which passes the label and the annotation
selectors: a namespaced type is listed in that namespace only, and a cluster-scoped type not at
all. -/
theorem exportSelection_backup_namespace {b : BackupObject} {c : Cluster} {o : Object}
    (hk : b.kind = "Backup") (hns : b.ns ≠ "") (h : o ∈ exportSelection b c) :
    ∃ so ∈ c.objects, so.ns = b.ns ∧ b.labelSelector so.object = true ∧
      matchAnnotations so.object.annotations b.annotationSelector = true ∧
      o = sanitizeObject so.object := by
  obtain ⟨call, hcall, so, hso, hl, hs, hann, rfl⟩ := mem_exportSelection h
  have hns' : call.2.2 = b.ns := listCalls_backup hk hcall
  refine ⟨so, hso, ?_, hs, hann, rfl⟩
  simp only [Cluster.returns, StoredObject.listedBy, hns', Bool.and_eq_true, Bool.or_eq_true,
    beq_iff_eq] at hl
  exact (hl.2.2.resolve_left hns).symm

/-- A `ConfigMap` named `settings` in a namespace. -/
def settingsIn (ns : String) : Object :=
  [("apiVersion", .str "v1"), ("kind", .str "ConfigMap"),
    ("metadata", .obj [("name", .str "settings"), ("namespace", .str ns)])]

/-- A cluster serving `configmaps` and `namespaces`, storing a `ConfigMap` in `apps`, one in `web`,
and the namespace `apps`. -/
def twoNamespaceCluster : Cluster :=
  ⟨[⟨"v1", [⟨"configmaps", "ConfigMap", true, ["get", "list"]⟩,
      ⟨"namespaces", "Namespace", false, ["get", "list"]⟩]⟩], ["apps", "web"],
    [⟨"", "configmaps", "apps", settingsIn "apps"⟩, ⟨"", "configmaps", "web", settingsIn "web"⟩,
      ⟨"", "namespaces", "", [("apiVersion", .str "v1"), ("kind", .str "Namespace"),
        ("metadata", .obj [("name", .str "apps")])]⟩], fun _ => false⟩

/-- A `Backup` of `apps` that asks for cluster resources, which a `Backup` never lists. -/
def appsBackup : BackupObject :=
  ⟨"Backup", "apps", [], [], true, none, "yaml", fun _ => true, [], [], []⟩

/-- The `Backup` of `apps` exports the `ConfigMap` of `apps` alone, which is stored there. -/
theorem appsBackup_exports_apps_only :
    exportSelection appsBackup twoNamespaceCluster = [sanitizeObject (settingsIn "apps")] ∧
      ∃ so ∈ twoNamespaceCluster.objects, so.ns = "apps" ∧
        appsBackup.labelSelector so.object = true ∧
        matchAnnotations so.object.annotations appsBackup.annotationSelector = true ∧
        sanitizeObject (settingsIn "apps") = sanitizeObject so.object :=
  have h : exportSelection appsBackup twoNamespaceCluster = [sanitizeObject (settingsIn "apps")] :=
    rfl
  ⟨h, exportSelection_backup_namespace rfl (by decide) (h ▸ List.mem_singleton_self _)⟩

/-! ### Every stored object, as often as it is listed -/

/-- How many list calls return a stored object `o` that passes both selectors: for each selected
discovery entry of its type, the namespaces in scope that are `o`'s own or `""` (namespaced type),
or one call when cluster resources are included (cluster-scoped type), counting only the calls
that succeed. -/
def exportCount (b : BackupObject) (c : Cluster) (o : StoredObject) : Nat :=
  if b.exportEnabled = some false then 0
  else if b.labelSelector o.object && matchAnnotations o.object.annotations b.annotationSelector then
    (((selectedTypes b c).filter fun t => t.1 == o.group && t.2.name == o.resource).map fun t =>
      if t.2.namespaced then (resolveNamespaces b c).countP fun ns =>
        (ns == "" || ns == o.ns) && !c.listFails (t.1, t.2.name, ns)
      else if b.includeCluster && !c.listFails (t.1, t.2.name, "") then 1 else 0).sum
  else 0

theorem filter_map_eq_flatMap_replicate {β γ : Type} (objs : List β) (q : β → Bool) (f : β → γ) :
    (objs.filter q).map f = objs.flatMap fun o => List.replicate (if q o then 1 else 0) (f o) := by
  induction objs with
  | nil => rfl
  | cons o objs ih => by_cases h : q o <;> simp [List.filter_cons, h, ih]

/-- Exchanging two loops: the objects a sequence of filters selects are, as a multiset, each
object repeated as many times as the filters that select it. -/
theorem flatMap_filter_perm {α β γ : Type} (calls : List α) (objs : List β) (p : α → β → Bool)
    (f : β → γ) :
    (calls.flatMap fun x => (objs.filter (p x)).map f).Perm
      (objs.flatMap fun o => List.replicate (calls.countP fun x => p x o) (f o)) := by
  induction calls with
  | nil => simp
  | cons x xs ih =>
    rw [List.flatMap_cons, filter_map_eq_flatMap_replicate]
    refine (ih.append_left _).trans ((List.flatMap_append_perm _ _ _).trans (.of_eq ?_))
    congr 1
    funext o
    rw [← List.replicate_add, List.countP_cons, Nat.add_comm]

theorem countP_flatMap {α β : Type} (l : List α) (f : α → List β) (p : β → Bool) :
    (l.flatMap f).countP p = (l.map fun a => (f a).countP p).sum := by
  induction l with
  | nil => rfl
  | cons a l ih => simp [List.flatMap_cons, ih]

theorem countP_typeCalls (b : BackupObject) (c : Cluster) (namespaces : List String)
    (t : String × APIResource) (o : StoredObject) :
    (typeCalls b namespaces t).countP (c.returns · o) =
      if t.1 == o.group && t.2.name == o.resource then
        (if t.2.namespaced then namespaces.countP fun ns =>
          (ns == "" || ns == o.ns) && !c.listFails (t.1, t.2.name, ns)
        else if b.includeCluster && !c.listFails (t.1, t.2.name, "") then 1 else 0)
      else 0 := by
  unfold typeCalls
  by_cases ht : (t.1 == o.group && t.2.name == o.resource) = true <;>
    split_ifs <;> simp_all [List.countP_map, Function.comp_def, Cluster.returns,
      StoredObject.listedBy, Bool.and_comm]

theorem sum_map_ite_eq_sum_filter {α : Type} (l : List α) (p : α → Bool) (f : α → Nat) :
    (l.map fun a => if p a then f a else 0).sum = ((l.filter p).map f).sum := by
  induction l with
  | nil => rfl
  | cons a l ih => by_cases h : p a <;> simp [List.filter_cons, h, ih]

/-- What each list call contributes, as a filter over the stored objects. -/
theorem list_filter_annotations (b : BackupObject) (c : Cluster) (call : String × String × String) :
    (((c.list b.labelSelector call).getD []).filter fun m =>
      matchAnnotations m.annotations b.annotationSelector).map sanitizeObject =
    (c.objects.filter fun o => c.returns call o && (b.labelSelector o.object &&
      matchAnnotations o.object.annotations b.annotationSelector)).map
      fun o => sanitizeObject o.object := by
  simp only [Cluster.list_getD, List.filter_map, List.map_map, List.filter_filter,
    Function.comp_def]
  congr 1
  exact List.filter_congr fun o _ => by cases c.returns call o <;> simp [Bool.and_comm]

/-- **What `exportResources` exports.** For every request and every cluster, whichever list calls
fail, the documents are, as a multiset, `sanitizeObject o` for every stored object `o`, repeated
`exportCount b c o` times. -/
theorem exportSelection_perm (b : BackupObject) (c : Cluster) :
    (exportSelection b c).Perm
      (c.objects.flatMap fun o => List.replicate (exportCount b c o) (sanitizeObject o.object)) := by
  unfold exportSelection exportCount
  by_cases he : b.exportEnabled = some false
  · simp [he]
  simp only [he, if_false, sortByPriority, list_filter_annotations]
  refine (List.perm_insertionSort _ _).trans ((flatMap_filter_perm _ _ _ _).trans (.of_eq ?_))
  congr 1
  funext o
  congr 1
  by_cases hs : (b.labelSelector o.object &&
      matchAnnotations o.object.annotations b.annotationSelector) = true
  · simp only [hs, Bool.and_true, if_true, listCalls, countP_flatMap, countP_typeCalls,
      sum_map_ite_eq_sum_filter]
  · simp only [Bool.not_eq_true] at hs
    simp [hs]

/-! ### A namespace named twice -/

/-- A `ConfigMap` in `apps`. -/
def appsConfig : Object :=
  [("apiVersion", .str "v1"), ("kind", .str "ConfigMap"),
    ("metadata", .obj [("name", .str "settings"), ("namespace", .str "apps")])]

/-- A cluster serving `configmaps` and storing `appsConfig`. -/
def appsCluster : Cluster :=
  ⟨[⟨"v1", [⟨"configmaps", "ConfigMap", true, ["get", "list"]⟩]⟩], ["apps"],
    [⟨"", "configmaps", "apps", appsConfig⟩], fun _ => false⟩

/-- A `ClusterBackup` whose namespace selector names `apps` twice. -/
def appsTwice : BackupObject :=
  ⟨"ClusterBackup", "", ["apps", "apps"], [], true, none, "yaml", fun _ => true, [], [], []⟩

/-- The one stored `ConfigMap` is exported twice: `resolveNamespaces` keeps both entries of
`included`, and the loop lists `configmaps` in `apps` once for each. -/
theorem export_repeated_namespace_twice :
    appsCluster.objects.length = 1 ∧
      exportSelection appsTwice appsCluster = [sanitizeObject appsConfig, sanitizeObject appsConfig] :=
  ⟨rfl, rfl⟩

/-! ### An empty selector value -/

/-- A `ConfigMap` in `apps` with further metadata fields after its name and namespace. -/
def appsConfigWith (name : String) (extra : Object) : Object :=
  [("apiVersion", .str "v1"), ("kind", .str "ConfigMap"),
    ("metadata", .obj ([("name", .str name), ("namespace", .str "apps")] ++ extra))]

/-- Annotated with an owner and no team. -/
def ownedConfig : Object := appsConfigWith "owned" [("annotations", .obj [("owner", .str "alice")])]

/-- Without annotations. -/
def bareConfig : Object := appsConfigWith "bare" []

/-- With an empty annotation map. -/
def emptyAnnotatedConfig : Object := appsConfigWith "empty" [("annotations", .obj [])]

/-- A cluster serving `configmaps` and storing the three `ConfigMap`s in `apps`. -/
def annotatedCluster : Cluster :=
  ⟨[⟨"v1", [⟨"configmaps", "ConfigMap", true, ["get", "list"]⟩]⟩], ["apps"],
    [⟨"", "configmaps", "apps", ownedConfig⟩, ⟨"", "configmaps", "apps", bareConfig⟩,
      ⟨"", "configmaps", "apps", emptyAnnotatedConfig⟩], fun _ => false⟩

/-- A `Backup` of `apps` whose annotation selector asks for the team `""`. -/
def emptyTeamBackup : BackupObject :=
  ⟨"Backup", "apps", [], [], false, none, "yaml", fun _ => true, [("team", "")], [], []⟩

/-- None of the three objects has a `team` annotation. `matchAnnotations` reads a missing key of a
present map as `""`, so the owned object and the one with an empty map are exported; the object
without annotations is not: a missing map and an empty one are told apart. -/
theorem empty_selector_value_matches_missing_key :
    ownedConfig.annotations = some [("owner", "alice")] ∧ bareConfig.annotations = none ∧
      emptyAnnotatedConfig.annotations = some [] ∧
      exportSelection emptyTeamBackup annotatedCluster =
        [sanitizeObject ownedConfig, sanitizeObject emptyAnnotatedConfig] :=
  ⟨rfl, rfl, rfl, rfl⟩

end BackupOperator
