import BackupOperator.Restore.Keeps

/-!
# Every restored object finds its namespace

`applyResources` moves a namespaced document to its target namespace and calls `ensureNamespace`
on that namespace before it writes the document. So a restore never leaves an object in a
namespace that does not exist: from a target in which every object stored in a namespace has its
`Namespace` object, every run, whichever call is lost, leaves a target in which it still does.
Since a run may be cut at any call, this holds after every call of every run.

The argument follows the calls of the loop, in the `Keeps` style of `Restore.Keeps`: keys only
grow under `Create` and `Update`; creating a `Namespace`, updating, and creating in a namespace
that is stored keep the invariant; `ensureNamespace` keeps it and, when it succeeds, leaves its
namespace stored; and `applyObject` writes an object in the namespace it was moved to, or in
none.

* **`restoreRun_namespacesExist`** — a restore keeps every namespaced object's namespace stored.
-/

namespace BackupOperator

namespace Store

/-- The keys of the stored objects. -/
def keys (s : Store) : List Key := s.entries.map (·.key)

/-- Every object stored in a namespace has its `Namespace` object. -/
def NamespacesExist (s : Store) : Prop :=
  ∀ k ∈ s.keys, k.ns ≠ "" → namespaceKey k.ns ∈ s.keys

instance (s : Store) : Decidable s.NamespacesExist :=
  inferInstanceAs (Decidable (∀ k ∈ s.keys, k.ns ≠ "" → namespaceKey k.ns ∈ s.keys))

theorem keys_create {s s' : Store} {namespaced : Bool} {k : Key} {obj : Object}
    (h : s.create namespaced k obj = .ok s') : s'.keys = s.keys ++ [k] := by
  unfold create at h
  split_ifs at h
  split at h
  · cases h
  · cases h
    simp [keys]

theorem keys_update {s s' : Store} {k : Key} {obj : Object} (h : s.update k obj = .ok s') :
    s'.keys = s.keys := by
  unfold update at h
  split at h
  · cases h
  · split_ifs at h
    cases h
    simp only [keys, List.map_map]
    exact List.map_congr_left fun e _ => by
      by_cases he : e.key = k <;> simp [he]

theorem mem_keys_of_get {s : Store} {k : Key} {obj : Object} (h : s.get k = .ok obj) :
    k ∈ s.keys := by
  unfold get at h
  split at h
  · rename_i e he
    exact List.mem_map.mpr ⟨e, List.mem_of_find?_eq_some he, find?_key he⟩
  · cases h

/-- `Create` outside namespaces, or in a namespace that is stored, keeps every namespace stored. -/
theorem NamespacesExist.create {s s' : Store} {namespaced : Bool} {k : Key} {obj : Object}
    (hs : s.NamespacesExist) (hk : k.ns ≠ "" → namespaceKey k.ns ∈ s.keys)
    (h : s.create namespaced k obj = .ok s') : s'.NamespacesExist := by
  intro k' hk' hns
  rw [keys_create h] at hk' ⊢
  rcases List.mem_append.mp hk' with hk' | hk'
  · exact List.mem_append_left _ (hs k' hk' hns)
  · rw [List.mem_singleton.mp hk'] at hns ⊢
    exact List.mem_append_left _ (hk hns)

theorem NamespacesExist.update {s s' : Store} {k : Key} {obj : Object}
    (hs : s.NamespacesExist) (h : s.update k obj = .ok s') : s'.NamespacesExist := by
  unfold NamespacesExist
  rw [keys_update h]
  exact hs

end Store

/-! ### The calls of the loop -/

/-- `ensureNamespace` keeps every namespace stored, and when it succeeds the namespace it ensured
is stored. -/
theorem ensureNamespace_namespacesExist (ns : String) (σ : Session)
    (hs : σ.store.NamespacesExist) :
    ((ensureNamespace ns).run.run σ).2.store.NamespacesExist ∧
      (((ensureNamespace ns).run.run σ).1 = .ok () → ns ≠ "" →
        namespaceKey ns ∈ ((ensureNamespace ns).run.run σ).2.store.keys) := by
  unfold ensureNamespace
  split_ifs with hns
  · exact ⟨hs, fun _ h => absurd hns h⟩
  -- the `Namespace` object sits outside namespaces
  have hcreate : ∀ {s s' : Store}, s.NamespacesExist →
      s.create false (namespaceKey ns) (namespaceObject ns) = .ok s' →
      s'.NamespacesExist ∧ namespaceKey ns ∈ s'.keys := fun hs h =>
    ⟨hs.create (fun h => absurd rfl h) h, by simp [Store.keys_create h]⟩
  rw [show discard (getObject (namespaceKey ns)) = (fun _ => ()) <$> getObject _ from rfl,
    run_tryCatch, run_map, getObject, run_request]
  split_ifs with hlost
  · exact ⟨hs, fun h => by cases h⟩
  cases hget : σ.store.get (namespaceKey ns) with
  | ok obj => exact ⟨hs, fun _ _ => Store.mem_keys_of_get hget⟩
  | error e =>
    simp only [Except.map]
    split_ifs with he
    · rw [createObject, run_request]
      split_ifs
      · exact ⟨hs, fun h => by cases h⟩
      cases hc : σ.store.create false (namespaceKey ns) (namespaceObject ns) with
      | error e' => exact ⟨hs, fun h => by cases h⟩
      | ok s' =>
        obtain ⟨h₁, h₂⟩ := hcreate hs hc
        exact ⟨h₁, fun _ _ => h₂⟩
    · exact ⟨hs, fun h => by cases h⟩

/-- `applyObject` writes an object in the namespace of the object it is given, or in none: so it
keeps every namespace stored when that namespace is. -/
theorem keeps_applyObject_in (obj : Object) :
    Keeps (fun s => s.NamespacesExist ∧ (obj.ns ≠ "" → namespaceKey obj.ns ∈ s.keys))
      (applyObject obj) := by
  unfold applyObject
  obtain ⟨group, version, kind⟩ := obj.groupVersionKind
  refine keeps_bind (keeps_tryCatch (keeps_map _ (keeps_mapperRESTMapping _ _ _))
    fun _ => keeps_pure _) fun t => ?_
  cases t with
  | none => exact keeps_pure _
  | some t =>
    refine keeps_createOrUpdate_of (fun ⟨hs, hobj⟩ hc => ⟨hs.create (fun hk => ?_) hc, fun h =>
      (Store.keys_create hc).symm ▸ List.mem_append_left _ (hobj h)⟩)
      fun ⟨hs, hobj⟩ hu => ⟨hs.update hu, (Store.keys_update hu).symm ▸ hobj⟩
    -- a key in a namespace is in the object's own
    simp only [objectKey] at hk ⊢
    split_ifs at hk ⊢
    · exact hobj hk
    · exact absurd rfl hk

/-- One document of the loop keeps every namespace stored. -/
theorem keeps_applyDocument_namespaces (mapping : List (String × String))
    (defaultNamespace : String) (doc : Object) :
    Keeps Store.NamespacesExist (applyDocument mapping defaultNamespace doc) := by
  unfold applyDocument
  by_cases hskip : shouldSkipKind doc.kind = true
  · simp only [hskip, if_true]
    exact keeps_pure _
  simp only [hskip, Bool.false_eq_true, if_false, pure_bind]
  split_ifs with hns
  · -- the document moves to its target namespace, which is ensured first
    intro σ hs
    set target := targetNamespace mapping defaultNamespace (sanitizeObject doc).ns
    obtain ⟨meta, hmeta⟩ := Object.getMap?_metadata_of_ns hns
    have hmoved : ((sanitizeObject doc).setNamespace target).ns = target :=
      Object.ns_setNamespace hmeta target
    have hens := ensureNamespace_namespacesExist target σ hs
    rw [run_bind]
    revert hens
    rcases (ensureNamespace target).run.run σ with ⟨_ | ⟨⟩, σ'⟩
    · exact fun h => h.1
    · exact fun h => (keeps_applyObject_in _ σ' ⟨h.1, by rw [hmoved]; exact h.2 rfl⟩).1
  · exact fun σ hs => (keeps_applyObject_in _ σ ⟨hs, fun h => absurd (not_not.mp hns) h⟩).1

/-- **A restore keeps every namespaced object's namespace stored.** From a target in which every
object stored in a namespace has its `Namespace` object, every run of the restore, whichever call
is lost, leaves a target in which every such object still has it. -/
theorem restoreRun_namespacesExist (store : Store) (failAt : Option Nat) (resources : List Object)
    (mapping : List (String × String)) (defaultNamespace : String)
    (h : store.NamespacesExist) :
    (restoreRun store failAt resources mapping defaultNamespace).2.NamespacesExist := by
  suffices hdocs : ∀ docs, Keeps Store.NamespacesExist (applyDocuments mapping defaultNamespace docs)
    from hdocs _ ⟨store, none, 0, failAt⟩ h
  intro docs
  induction docs with
  | nil => exact keeps_pure _
  | cons doc docs ih => exact keeps_bind (keeps_applyDocument_namespaces _ _ doc) fun _ => ih

/-- Restoring the `apps` settings into the cluster with the `team` namespace, with `apps` mapped
to `team`, keeps every namespaced object's namespace stored. -/
theorem team_restore_namespaces_exist :
    (restoreRun teamCluster none [appsSettings] [("apps", "team")] "").2.NamespacesExist :=
  restoreRun_namespacesExist teamCluster none [appsSettings] [("apps", "team")] "" (by decide)

end BackupOperator
