import BackupOperator.Export.Resources

/-!
# What `sanitizeObject` removes

`sanitizeObject` removes `status`, six server-set fields of `metadata` (`uid`, `resourceVersion`,
`generation`, `managedFields`, `selfLink`, `creationTimestamp`), the annotation
`kubectl.kubernetes.io/last-applied-configuration` and, from a `Service`, `spec.clusterIP`,
`spec.clusterIPs` and `spec.healthCheckNodePort`. For `status` and `spec` it calls
`RemoveNestedField`; `metadata` it takes out with `NestedMap` and stores back with `SetNestedMap`,
which touches a `metadata` map only, as `RemoveNestedField` does.

The code is split into its three steps (`sanitizeObject_eq`): remove `status`, rewrite the
`metadata` field where it is a map, and strip a `Service`'s `spec`.

* `sanitizeObject_eq_removePaths` — for every document, `sanitizeObject` is `RemoveNestedField`
  of each of these paths in turn, and nothing else.
* `sanitizeObject_idempotent` — for every document, sanitizing twice is sanitizing once.
-/

namespace BackupOperator

namespace Object

/-- `NestedMap` of a field, then `SetNestedMap` of `f` of it: a field that is a map is rewritten;
a missing field, and one that is not a map, are left alone. -/
def modifyMap (m : Object) (key : String) (f : Object → Object) : Object :=
  match m.getMap? key with
  | some inner => m.set key (.obj (f inner))
  | none => m

/-- Rewriting a map twice by an idempotent function is rewriting it once. -/
theorem modifyMap_modifyMap {f : Object → Object} (hf : ∀ x, f (f x) = f x) (m : Object)
    (key : String) : (m.modifyMap key f).modifyMap key f = m.modifyMap key f := by
  unfold modifyMap
  cases h : m.getMap? key <;> simp [h, hf]

theorem get?_modifyMap_of_ne {m : Object} {key key' : String} (h : key ≠ key')
    (f : Object → Object) : (m.modifyMap key f).get? key' = m.get? key' := by
  unfold modifyMap
  split <;> simp [get?_set_of_ne h]

/-- `GetKind` reads only the `kind` field. -/
theorem kind_eq_of_get? {m m' : Object} (h : m.get? "kind" = m'.get? "kind") : m.kind = m'.kind := by
  simp [kind, nestedString, nested?, h]

theorem getMap?_eq_of_get? {m m' : Object} {key : String} (h : m.get? key = m'.get? key) :
    m.getMap? key = m'.getMap? key := by
  simp [getMap?, h]

end Object

open Object

/-! ### The three steps -/

/-- The metadata paths `sanitizeObject` removes, in the order it removes them. -/
def metadataPaths : List (List String) :=
  [["metadata", "uid"], ["metadata", "resourceVersion"], ["metadata", "generation"],
    ["metadata", "managedFields"], ["metadata", "selfLink"], ["metadata", "creationTimestamp"],
    ["metadata", "annotations", "kubectl.kubernetes.io/last-applied-configuration"]]

/-- The spec paths `sanitizeObject` removes from a document of a kind. -/
def specPaths (kind : String) : List (List String) :=
  if kind = "Service" then [["spec", "clusterIP"], ["spec", "clusterIPs"], ["spec", "healthCheckNodePort"]]
  else []

/-- The paths `sanitizeObject` removes from a document of a kind, in the order it removes them. -/
def sanitizedPaths (kind : String) : List (List String) :=
  ["status"] :: metadataPaths ++ specPaths kind

/-- A document with the given paths removed, one after the other, by `RemoveNestedField`. -/
def removePaths (m : Object) (paths : List (List String)) : Object :=
  paths.foldl Object.removeNested m

/-- What `sanitizeObject` keeps of a metadata map. -/
def sanitizeMetadata (meta : Object) : Object :=
  let meta := (((((meta.erase "uid").erase "resourceVersion").erase "generation").erase
    "managedFields").erase "selfLink").erase "creationTimestamp"
  match meta.getMap? "annotations" with
  | some ann =>
    meta.set "annotations" (.obj (ann.erase "kubectl.kubernetes.io/last-applied-configuration"))
  | none => meta

/-- What `sanitizeObject` keeps of a `Service`'s spec map. -/
def sanitizeSpec (spec : Object) : Object :=
  ((spec.erase "clusterIP").erase "clusterIPs").erase "healthCheckNodePort"

/-- The last step of `sanitizeObject`, on a `Service`. -/
def sanitizeServiceSpec (m : Object) : Object :=
  if m.kind = "Service" then
    ((m.removeNested ["spec", "clusterIP"]).removeNested ["spec", "clusterIPs"]).removeNested
      ["spec", "healthCheckNodePort"]
  else m

/-- **`sanitizeObject` in three steps.** -/
theorem sanitizeObject_eq (m : Object) :
    sanitizeObject m =
      sanitizeServiceSpec ((m.erase "status").modifyMap "metadata" sanitizeMetadata) := by
  unfold sanitizeObject sanitizeServiceSpec Object.modifyMap
  cases h : (m.erase "status").getMap? "metadata" <;> simp only [removeNested_singleton, h]
  rfl

/-- Removing a field from a map two maps deep. -/
theorem removeNested_pair (m : Object) (a b : String) :
    m.removeNested [a, b] = match m.getMap? a with
      | some inner => m.set a (.obj (inner.erase b))
      | none => m := rfl

/-- The `Service` step strips the spec where it is a map, and does nothing else. -/
theorem sanitizeServiceSpec_eq (m : Object) :
    sanitizeServiceSpec m = if m.kind = "Service" then
      match m.getMap? "spec" with
      | some spec => m.set "spec" (.obj (sanitizeSpec spec))
      | none => m
    else m := by
  unfold sanitizeServiceSpec
  split_ifs
  · cases h : m.getMap? "spec" <;> simp [removeNested_pair, h, sanitizeSpec]
  · rfl

theorem get?_sanitizeServiceSpec_of_ne {key : String} (h : "spec" ≠ key) (m : Object) :
    (sanitizeServiceSpec m).get? key = m.get? key := by
  rw [sanitizeServiceSpec_eq]
  split_ifs
  · split <;> simp [get?_set_of_ne h]
  · rfl

/-- Sanitizing keeps the kind. -/
theorem kind_sanitizeObject (m : Object) : (sanitizeObject m).kind = m.kind :=
  kind_eq_of_get? (by rw [sanitizeObject_eq, get?_sanitizeServiceSpec_of_ne (by decide),
    get?_modifyMap_of_ne (by decide), get?_erase_of_ne (by decide)])

/-! ### Sanitizing removes the paths -/

/-- `RemoveNestedField` of the metadata paths is the `metadata` step: both rewrite a `metadata`
map and leave any other `metadata` alone. -/
theorem removePaths_metadataPaths (m : Object) :
    removePaths m metadataPaths = m.modifyMap "metadata" sanitizeMetadata := by
  unfold Object.modifyMap
  rcases hm : m.getMap? "metadata" with _ | fs
  · simp [removePaths, metadataPaths, removeNested, hm]
  · simp only [removePaths, metadataPaths, List.foldl_cons, List.foldl_nil, removeNested_pair,
      hm, getMap?_set_obj, set_set_self, removeNested]
    rfl

/-- The `Service` step is `RemoveNestedField` of the spec paths of the document's kind. -/
theorem sanitizeServiceSpec_eq_removePaths (m : Object) :
    sanitizeServiceSpec m = removePaths m (specPaths m.kind) := by
  unfold sanitizeServiceSpec specPaths
  split_ifs <;> rfl

/-- **Sanitizing removes exactly the paths**, for every document. -/
theorem sanitizeObject_eq_removePaths (d : Object) :
    sanitizeObject d = removePaths d (sanitizedPaths d.kind) := by
  have hkind : ((d.erase "status").modifyMap "metadata" sanitizeMetadata).kind = d.kind :=
    kind_eq_of_get? (by rw [get?_modifyMap_of_ne (by decide), get?_erase_of_ne (by decide)])
  rw [sanitizeObject_eq, sanitizeServiceSpec_eq_removePaths, hkind, ← removePaths_metadataPaths]
  simp only [sanitizedPaths, removePaths, List.foldl_cons, List.foldl_append, removeNested_singleton]

/-! ### Sanitizing twice -/

theorem sanitizeSpec_idempotent (spec : Object) :
    sanitizeSpec (sanitizeSpec spec) = sanitizeSpec spec := by
  simp only [sanitizeSpec, erase, List.filter_filter]
  congr 1
  funext p
  cases p.1 != "clusterIP" <;> cases p.1 != "clusterIPs" <;> cases p.1 != "healthCheckNodePort" <;> rfl

/-- The fields `sanitizeMetadata` removes outright. -/
def serverSetFields : List String :=
  ["uid", "resourceVersion", "generation", "managedFields", "selfLink", "creationTimestamp"]

/-- Metadata without the server-set fields, whose annotations (if a map) lack the last-applied
one, is kept as it is. -/
theorem sanitizeMetadata_of_sanitized {r : Object} (hnone : ∀ k ∈ serverSetFields, r.get? k = none)
    (hann : ∀ ann, r.getMap? "annotations" = some ann →
      r.set "annotations" (.obj (ann.erase "kubectl.kubernetes.io/last-applied-configuration")) = r) :
    sanitizeMetadata r = r := by
  simp only [serverSetFields, List.mem_cons, List.mem_singleton, List.not_mem_nil, or_false,
    forall_eq_or_imp, forall_eq] at hnone
  obtain ⟨h1, h2, h3, h4, h5, h6⟩ := hnone
  unfold sanitizeMetadata
  simp only [erase_of_get?_eq_none h1, erase_of_get?_eq_none h2, erase_of_get?_eq_none h3,
    erase_of_get?_eq_none h4, erase_of_get?_eq_none h5, erase_of_get?_eq_none h6]
  split
  · exact hann _ ‹_›
  · rfl

theorem sanitizeMetadata_idempotent (meta : Object) :
    sanitizeMetadata (sanitizeMetadata meta) = sanitizeMetadata meta := by
  refine sanitizeMetadata_of_sanitized (fun k hk => ?_) fun ann hann => ?_
  · simp only [serverSetFields, List.mem_cons, List.mem_singleton, List.not_mem_nil,
      or_false] at hk
    unfold sanitizeMetadata
    dsimp only
    rcases hk with rfl | rfl | rfl | rfl | rfl | rfl <;> split <;>
      simp [get?_set_of_ne, get?_erase_of_ne]
  · unfold sanitizeMetadata at hann ⊢
    dsimp only at hann ⊢
    split at hann
    · rename_i h
      simp only [h, getMap?_set_obj, Option.some.injEq] at hann ⊢
      rw [← hann, set_set_self, erase_erase_self]
    · rename_i h
      rw [h] at hann
      cases hann

/-- The `Service` step before a rewrite of `metadata` is undone by the `Service` step after it. -/
theorem sanitizeServiceSpec_modifyMap_metadata (m : Object) (f : Object → Object) :
    sanitizeServiceSpec ((sanitizeServiceSpec m).modifyMap "metadata" f) =
      sanitizeServiceSpec (m.modifyMap "metadata" f) := by
  -- the metadata rewrite keeps the kind and the spec
  have hk1 : (m.modifyMap "metadata" f).kind = m.kind :=
    kind_eq_of_get? (get?_modifyMap_of_ne (by decide) f)
  have hs1 : (m.modifyMap "metadata" f).getMap? "spec" = m.getMap? "spec" :=
    getMap?_eq_of_get? (get?_modifyMap_of_ne (by decide) f)
  by_cases hk : m.kind = "Service"
  · rcases hs : m.getMap? "spec" with _ | spec
    · rw [show sanitizeServiceSpec m = m by rw [sanitizeServiceSpec_eq, if_pos hk, hs]]
    · have hk2 : ((m.set "spec" (.obj (sanitizeSpec spec))).modifyMap "metadata" f).kind = m.kind :=
        kind_eq_of_get? (by rw [get?_modifyMap_of_ne (by decide), get?_set_of_ne (by decide)])
      have hs2 : ((m.set "spec" (.obj (sanitizeSpec spec))).modifyMap "metadata" f).getMap? "spec" =
          some (sanitizeSpec spec) := by
        rw [getMap?_eq_of_get? (get?_modifyMap_of_ne (by decide) f), getMap?_set_obj]
      rw [show sanitizeServiceSpec m = m.set "spec" (.obj (sanitizeSpec spec)) by
          rw [sanitizeServiceSpec_eq, if_pos hk, hs],
        sanitizeServiceSpec_eq, sanitizeServiceSpec_eq (m.modifyMap "metadata" f)]
      simp only [hk2, hk1, hk, if_true, hs2, hs1, hs, sanitizeSpec_idempotent]
      -- setting the spec again after the metadata rewrite puts it back in place
      unfold Object.modifyMap
      rw [getMap?_eq_of_get? (get?_set_of_ne (by decide) _)]
      split
      · exact set_set_set_of_ne (by decide) _ _ _
      · exact set_set_self _ _ _ _
  · rw [show sanitizeServiceSpec m = m by rw [sanitizeServiceSpec_eq, if_neg hk]]

/-- **Sanitizing is idempotent**, for every document. -/
theorem sanitizeObject_idempotent (d : Object) : sanitizeObject (sanitizeObject d) = sanitizeObject d := by
  have hstatus : (sanitizeObject d).get? "status" = none := by
    rw [sanitizeObject_eq, get?_sanitizeServiceSpec_of_ne (by decide),
      get?_modifyMap_of_ne (by decide), get?_erase_self]
  rw [sanitizeObject_eq (sanitizeObject d), erase_of_get?_eq_none hstatus, sanitizeObject_eq,
    sanitizeServiceSpec_modifyMap_metadata, modifyMap_modifyMap sanitizeMetadata_idempotent]

/-! ### What sanitizing does -/

/-- **What sanitizing does, for every document.** It removes exactly the listed paths, as
`RemoveNestedField` of each in turn, and keeps every other path and value; so sanitizing twice is
sanitizing once. -/
theorem sanitizeObject_removes_paths :
    (∀ d : Object, sanitizeObject d = removePaths d (sanitizedPaths d.kind)) ∧
      ∀ d : Object, sanitizeObject (sanitizeObject d) = sanitizeObject d :=
  ⟨sanitizeObject_eq_removePaths, sanitizeObject_idempotent⟩

/-- A `ConfigMap` whose `metadata` is a string, which `NestedMap` does not report. -/
def textMetadataConfig : Object := [("kind", .str "ConfigMap"), ("metadata", .str "settings")]

example : sanitizeObject textMetadataConfig = textMetadataConfig := rfl

end BackupOperator
