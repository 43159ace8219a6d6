import BackupOperator.Restore.Converge

/-!
# The mapper of each run

`applyResources` builds a new mapper in every run, and the mapper's first mapping fetches the
discovery the store has at that moment. While a restore writes no `CustomResourceDefinition`,
discovery does not change, so a run with the code's fresh mapper runs alike with a run whose
mapper holds the store's discovery from the start (`applyDocuments_runsAlike`). The convergence
proved for a fixed mapper then holds of the code's own runs:

* `restore_twice_of_no_definitions` — when no write of a restore is to a definition, restoring
  twice leaves the objects that restoring once leaves, up to resource versions.

With a definition among the documents it fails: the second run maps the types the first one
created (`restore_again_creates_skipped_widget`).
-/

namespace BackupOperator

/-- Whether a write leaves the stored definitions alone. -/
def Write.keepsDefinitions : Write → Bool
  | .ensure _ => true
  | .put key _ => !key.isDefinition

/-! ## Discovery under writes -/

theorem filter_isDefinition_replace (l : List Entry) {k : Key} (hk : k.isDefinition = false)
    {new : Entry} (hnew : new.key = k) :
    (l.map fun e => if e.key = k then new else e).filter (·.key.isDefinition) =
      l.filter (·.key.isDefinition) := by
  induction l with
  | nil => rfl
  | cons e l ih =>
    by_cases he : e.key = k
    · simp [he, hnew, hk, ih, List.filter_cons]
    · simp [he, ih, List.filter_cons]

theorem Store.discovery_create {s s' : Store} {namespaced : Bool} {k : Key} {obj : Object}
    (hk : k.isDefinition = false) (h : s.create namespaced k obj = .ok s') :
    s'.discovery = s.discovery := by
  unfold create at h
  split_ifs at h
  split at h
  · cases h
  · cases h
    simp [discovery, List.filter_append, hk]

theorem Store.discovery_update {s s' : Store} {k : Key} {obj : Object}
    (hk : k.isDefinition = false) (h : s.update k obj = .ok s') : s'.discovery = s.discovery := by
  unfold update at h
  split at h
  · cases h
  · split_ifs at h
    cases h
    simp only [discovery, filter_isDefinition_replace s.entries hk
      (show (⟨k, obj.setResourceVersion "", s.nextRV⟩ : Entry).key = k from rfl)]

/-! ## Two sessions that run alike -/

/-- A session with the code's mapper beside one whose mapper holds `types` from the start: the
same objects, whose discovery is `types`; the first mapper empty or holding `types`; no call
lost in either. -/
structure Beside (types : List ServedType) (σ τ : Session) : Prop where
  store : σ.store = τ.store
  discovery : σ.store.discovery = types
  mapper : σ.mapper = none ∨ σ.mapper = some types
  mapper_filled : τ.mapper = some types
  failAt : σ.failAt = none
  failAt_filled : τ.failAt = none

/-- `x` runs alike from sessions beside each other: it returns the same result from both, and
leaves them beside each other. -/
def RunsAlike (types : List ServedType) {α : Type} (x : ApiM α) : Prop :=
  ∀ σ τ, Beside types σ τ →
    (x.run.run σ).1 = (x.run.run τ).1 ∧ Beside types (x.run.run σ).2 (x.run.run τ).2

variable {types : List ServedType}

/-- Sessions beside each other stay so whatever calls they count. -/
theorem Beside.calls {σ τ : Session} (h : Beside types σ τ) (c c' : Nat) :
    Beside types { σ with calls := c } { τ with calls := c' } :=
  ⟨h.store, h.discovery, h.mapper, h.mapper_filled, h.failAt, h.failAt_filled⟩

/-- Sessions beside each other stay so when both write the same store, of the same discovery. -/
theorem Beside.write {σ τ : Session} (h : Beside types σ τ) {s : Store} (hs : s.discovery = types)
    (c c' : Nat) :
    Beside types { σ with calls := c, store := s } { τ with calls := c', store := s } :=
  ⟨rfl, hs, h.mapper, h.mapper_filled, h.failAt, h.failAt_filled⟩

theorem runsAlike_pure {α : Type} (a : α) : RunsAlike types (pure a : ApiM α) :=
  fun _ _ h => ⟨rfl, h⟩

theorem runsAlike_throw {α : Type} (e : ApiError) : RunsAlike types (throw e : ApiM α) :=
  fun _ _ h => ⟨rfl, h⟩

/-- Both runs of `x` end with the same result; the continuation runs alike from there. -/
theorem runsAlike_bind {α β : Type} {x : ApiM α} {f : α → ApiM β} (hx : RunsAlike types x)
    (hf : ∀ a, RunsAlike types (f a)) : RunsAlike types (x >>= f) := by
  intro σ τ h
  obtain ⟨hr, hb⟩ := hx σ τ h
  rw [run_bind, run_bind]
  revert hr hb
  rcases x.run.run σ with ⟨_ | a, σ'⟩ <;> rcases x.run.run τ with ⟨_ | b, τ'⟩ <;>
    intro hr hb <;> simp only [Except.error.injEq, Except.ok.injEq, reduceCtorEq] at hr
  · exact (by subst hr; exact ⟨rfl, hb⟩)
  · subst hr; exact hf a σ' τ' hb

/-- A continuation needed only at the value `x` returns. -/
theorem runsAlike_bind_value {α β : Type} {x : ApiM α} {f : α → ApiM β} {a : α}
    (hx : RunsAlike types x) (ha : ∀ τ : Session, τ.mapper = some types → (x.run.run τ).1 = .ok a)
    (hf : RunsAlike types (f a)) : RunsAlike types (x >>= f) := by
  intro σ τ h
  obtain ⟨hr, hb⟩ := hx σ τ h
  have hτ := ha τ h.mapper_filled
  rw [run_bind, run_bind]
  revert hr hb hτ
  rcases x.run.run σ with ⟨_ | a', σ'⟩ <;> rcases x.run.run τ with ⟨_ | b, τ'⟩ <;>
    intro hr hb hτ <;> simp only [Except.error.injEq, Except.ok.injEq, reduceCtorEq] at hr hτ
  subst hr hτ
  exact hf σ' τ' hb

/-- A computation that fails from every session with the filled mapper: nothing runs after it. -/
theorem runsAlike_bind_error {α β : Type} {x : ApiM α} {f : α → ApiM β} (hx : RunsAlike types x)
    (he : ∀ τ : Session, τ.mapper = some types → τ.failAt = none → (x.run.run τ).1.isOk = false) :
    RunsAlike types (x >>= f) := by
  intro σ τ h
  obtain ⟨hr, hb⟩ := hx σ τ h
  have hτ := he τ h.mapper_filled h.failAt_filled
  rw [run_bind, run_bind]
  revert hr hb hτ
  rcases x.run.run σ with ⟨_ | a, σ'⟩ <;> rcases x.run.run τ with ⟨_ | b, τ'⟩ <;>
    intro hr hb hτ <;> simp only [Except.error.injEq, reduceCtorEq, Except.isOk,
      Except.toBool] at hr hτ
  exact (by subst hr; exact ⟨rfl, hb⟩)

theorem runsAlike_map {α β : Type} {x : ApiM α} (f : α → β) (hx : RunsAlike types x) :
    RunsAlike types (f <$> x) := by
  intro σ τ h
  obtain ⟨hr, hb⟩ := hx σ τ h
  rw [run_map, run_map]
  revert hr hb
  rcases x.run.run σ with ⟨_ | a, σ'⟩ <;> rcases x.run.run τ with ⟨_ | b, τ'⟩ <;>
    intro hr hb <;> simp only [Except.error.injEq, Except.ok.injEq, reduceCtorEq] at hr
  · exact (by subst hr; exact ⟨rfl, hb⟩)
  · subst hr; exact ⟨rfl, hb⟩

theorem runsAlike_tryCatch {α : Type} {x : ApiM α} {h : ApiError → ApiM α}
    (hx : RunsAlike types x) (hh : ∀ e, RunsAlike types (h e)) : RunsAlike types (tryCatch x h) := by
  intro σ τ hs
  obtain ⟨hr, hb⟩ := hx σ τ hs
  rw [run_tryCatch, run_tryCatch]
  revert hr hb
  rcases x.run.run σ with ⟨_ | a, σ'⟩ <;> rcases x.run.run τ with ⟨_ | b, τ'⟩ <;>
    intro hr hb <;> simp only [Except.error.injEq, Except.ok.injEq, reduceCtorEq] at hr
  · subst hr; exact hh _ σ' τ' hb
  · exact (by subst hr; exact ⟨rfl, hb⟩)

/-- A call whose writes keep discovery. -/
theorem runsAlike_request {α : Type} {f : Store → Except ApiError (α × Store)}
    (hf : ∀ s a s', f s = .ok (a, s') → s'.discovery = s.discovery) :
    RunsAlike types (request f) := by
  intro σ τ h
  rw [run_request, run_request, if_neg (by simp [h.failAt]), if_neg (by simp [h.failAt_filled]),
    h.store]
  have hd : τ.store.discovery = types := h.store ▸ h.discovery
  cases hfs : f τ.store with
  | error e => exact ⟨rfl, h.write hd _ _⟩
  | ok p => exact ⟨rfl, h.write (by rw [hf _ _ _ hfs, hd]) _ _⟩

theorem runsAlike_getObject (k : Key) : RunsAlike types (getObject k) :=
  runsAlike_request fun s a s' h => by
    cases hg : s.get k <;>
      simp only [hg, Except.map, reduceCtorEq, Except.ok.injEq, Prod.mk.injEq] at h
    rw [← h.2]

theorem runsAlike_createObject {namespaced : Bool} {k : Key} (obj : Object)
    (hk : k.isDefinition = false) : RunsAlike types (createObject namespaced k obj) :=
  runsAlike_request fun s a s' h => by
    cases hc : s.create namespaced k obj with
    | error e => simp [hc, Except.map] at h
    | ok s'' =>
      simp only [hc, Except.map, Except.ok.injEq, Prod.mk.injEq] at h
      rw [← h.2]
      exact Store.discovery_create hk hc

theorem runsAlike_updateObject {k : Key} (obj : Object) (hk : k.isDefinition = false) :
    RunsAlike types (updateObject k obj) :=
  runsAlike_request fun s a s' h => by
    cases hc : s.update k obj with
    | error e => simp [hc, Except.map] at h
    | ok s'' =>
      simp only [hc, Except.map, Except.ok.injEq, Prod.mk.injEq] at h
      rw [← h.2]
      exact Store.discovery_update hk hc

/-- Mapping in a session beside one with a filled mapper: the first fetches the discovery its
store has, which is the other's. -/
theorem runsAlike_mapping (group version kind : String) :
    RunsAlike types (tryCatch (some <$> mapperRESTMapping group version kind) fun _ => pure none) := by
  intro σ τ h
  rw [run_mapping h.mapper_filled]
  rcases h.mapper with hσ | hσ
  · -- the cache is empty: fetch discovery
    rw [run_tryCatch, run_map, mapperRESTMapping, run_get_bind]
    simp only [hσ, run_bind, fetchDiscovery, run_request, h.failAt, reduceCtorEq, if_false,
      run_modify, run_pure]
    rw [h.discovery]
    exact ⟨by cases restMapping types group version kind <;> rfl,
      by cases restMapping types group version kind <;>
        exact ⟨h.store, h.discovery, .inr rfl, h.mapper_filled, rfl, h.failAt_filled⟩⟩
  · rw [run_mapping hσ]
    exact ⟨rfl, h⟩

/-! ## The loop runs alike -/

theorem runsAlike_ensureNamespace (ns : String) : RunsAlike types (ensureNamespace ns) := by
  unfold BackupOperator.ensureNamespace
  split_ifs
  · exact runsAlike_pure _
  · refine runsAlike_tryCatch (runsAlike_map _ (runsAlike_getObject _)) fun e => ?_
    split_ifs
    · exact runsAlike_createObject _ rfl
    · exact runsAlike_throw _

theorem runsAlike_createOrUpdate {namespaced : Bool} {key : Key} (obj : Object)
    (hk : key.rejected namespaced = false → key.isDefinition = false) :
    RunsAlike types (createOrUpdate namespaced key obj) := by
  cases hr : key.rejected namespaced
  · -- an accepted key: every call keeps discovery
    have hk := hk hr
    refine runsAlike_tryCatch (runsAlike_createObject _ hk) fun e => ?_
    split_ifs
    · exact runsAlike_bind (runsAlike_getObject _) fun _ => runsAlike_updateObject _ hk
    · exact runsAlike_throw _
  · -- a rejected key: `Create` fails, and nothing else runs
    intro σ τ h
    rw [BackupOperator.createOrUpdate, run_tryCatch, run_tryCatch, BackupOperator.createObject,
      run_request, run_request, if_neg (by simp [h.failAt]), if_neg (by simp [h.failAt_filled]),
      Store.create_of_rejected obj hr, Store.create_of_rejected obj hr]
    refine ⟨rfl, ?_⟩
    simp only [Except.map, ↓reduceIte, reduceCtorEq, run_throw]
    exact h.calls _ _

theorem runsAlike_applyObject {obj : Object}
    (hw : ∀ w ∈ (objectWrites types obj).1, w.keepsDefinitions) :
    RunsAlike types (applyObject obj) := by
  revert hw
  unfold BackupOperator.applyObject objectWrites
  obtain ⟨group, version, kind⟩ := obj.groupVersionKind
  dsimp only
  intro hw
  refine runsAlike_bind_value (runsAlike_mapping group version kind)
    (fun τ hτ => by rw [run_mapping hτ]) ?_
  cases hm : restMapping types group version kind with
  | none => exact runsAlike_pure _
  | some t =>
    rw [hm] at hw
    refine runsAlike_createOrUpdate _ fun hr => ?_
    simpa [hr, Write.keepsDefinitions] using hw

theorem runsAlike_applyDocument {mapping : List (String × String)} {defaultNamespace : String}
    {doc : Object} (hw : ∀ w ∈ (documentWrites types mapping defaultNamespace doc).1,
      w.keepsDefinitions) :
    RunsAlike types (applyDocument mapping defaultNamespace doc) := by
  unfold BackupOperator.applyDocument
  unfold documentWrites at hw
  by_cases hs : shouldSkipKind doc.kind = true
  · simp only [hs, if_true]
    exact runsAlike_pure _
  simp only [hs, Bool.false_eq_true, if_false, pure_bind] at hw ⊢
  by_cases hns : (sanitizeObject doc).ns = ""
  · simp only [hns, ne_eq, not_true_eq_false, if_false] at hw ⊢
    exact runsAlike_applyObject hw
  · simp only [hns, ne_eq, not_false_eq_true, if_true, List.mem_append] at hw ⊢
    exact runsAlike_bind (runsAlike_ensureNamespace _) fun _ =>
      runsAlike_applyObject fun w hw' => hw w (.inr hw')

/-- **The code's mapper runs alike with a filled one.** While the writes of a restore leave the
definitions alone, the loop run with the code's mapper returns what it returns with a mapper
holding the discovery from the start, and leaves the same store. -/
theorem applyDocuments_runsAlike {mapping : List (String × String)} {defaultNamespace : String}
    {docs : List Object}
    (hw : ∀ w ∈ (restoreWrites types mapping defaultNamespace docs).1, w.keepsDefinitions) :
    RunsAlike types (applyDocuments mapping defaultNamespace docs) := by
  induction docs with
  | nil => exact runsAlike_pure _
  | cons doc docs ih =>
    unfold restoreWrites at hw
    simp only [BackupOperator.applyDocuments]
    cases hstop : (documentWrites types mapping defaultNamespace doc).2
    · -- the document goes through: the loop goes on
      simp only [hstop, Bool.false_eq_true, if_false, List.mem_append] at hw
      exact runsAlike_bind (runsAlike_applyDocument fun w h => hw w (.inl h))
        fun _ => ih fun w h => hw w (.inr h)
    · -- the document stops the restore
      simp only [hstop, if_true] at hw
      refine runsAlike_bind_error (runsAlike_applyDocument hw) fun τ hτ hf => ?_
      rw [((applyDocument_performs mapping defaultNamespace doc τ hτ).2.2.2 hf).2, hstop]
      rfl

/-! ## Restoring twice -/

/-- **Restoring twice is restoring once, without definitions.** When no write of the restore is
to a `CustomResourceDefinition`, running the restore again from the store a complete run left
leaves the same objects, up to resource versions. -/
theorem restore_twice_of_no_definitions (store : Store) (resources : List Object)
    (mapping : List (String × String)) (defaultNamespace : String)
    (hw : ∀ w ∈ (restoreWrites store.discovery mapping defaultNamespace
      (sortByPriority resources)).1, w.keepsDefinitions) :
    (restoreRun (restoreRun store none resources mapping defaultNamespace).2 none resources mapping
        defaultNamespace).2.view =
      (restoreRun store none resources mapping defaultNamespace).2.view := by
  have hr := applyDocuments_runsAlike hw
  -- the first run leaves the store of the run with a filled mapper, and keeps discovery
  obtain ⟨-, h₁⟩ := hr ⟨store, none, 0, none⟩ ⟨store, some store.discovery, 0, none⟩
    ⟨rfl, rfl, .inl rfl, rfl, rfl, rfl⟩
  -- so does the second, from there
  obtain ⟨-, h₂⟩ := hr ⟨(restoreRun store none resources mapping defaultNamespace).2, none, 0, none⟩
    ⟨(restoreRun store none resources mapping defaultNamespace).2, some store.discovery, 0, none⟩
    ⟨rfl, h₁.discovery, .inl rfl, rfl, rfl, rfl⟩
  have e₁ : (restoreRun store none resources mapping defaultNamespace).2 =
      (restoreWithTypes store.discovery store none resources mapping defaultNamespace).2 := h₁.store
  rw [show (restoreRun (restoreRun store none resources mapping defaultNamespace).2 none resources
      mapping defaultNamespace).2 = _ from h₂.store, e₁]
  exact restore_rerun_converges store.discovery store none resources mapping defaultNamespace

/-- Restoring the `apps` settings twice into the cluster with the `team` namespace leaves the
objects of restoring them once. -/
theorem team_restore_twice :
    (restoreRun (restoreRun teamCluster none [appsSettings] [] "").2 none [appsSettings] []
        "").2.view =
      (restoreRun teamCluster none [appsSettings] [] "").2.view :=
  restore_twice_of_no_definitions teamCluster [appsSettings] [] "" (by decide)

end BackupOperator
