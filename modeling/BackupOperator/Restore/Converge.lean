import BackupOperator.Restore.Apply

/-!
# Restoring again: what a rerun converges to

A restore is meant to be re-runnable: every write is a create-or-update, so a restore run again
after a failed one should leave what one uninterrupted restore leaves. This module proves that
argument for the writes, which places the code's departure from it (`restore_again_creates_skipped_widget`)
in the mapper alone.

The abstract model is the writes a restore makes to the stored objects, resource versions
forgotten: a namespace created where it is missing (`Write.ensure`) and an object created or
updated (`Write.put`). At one key, any sequence of writes acts as one of three effects (keep, put,
fill where empty), and every effect is idempotent; so a prefix of a sequence of writes followed by
the whole sequence is the whole sequence (`applyWrites_take`).

`restoreWrites` lists the writes of a restore whose mapper holds a fixed discovery result. The
model's loop refines it (`applyDocuments_performs`): from any store, with any call lost, it leaves
the objects as after a prefix of those writes, and, when no call is lost, as after all of them.
Proved:

* `restore_rerun_converges` — with the mapper's discovery fixed, a restore interrupted at any call
  (or not at all), followed by an uninterrupted restore, leaves the objects one uninterrupted
  restore leaves.

The code's mapper is fixed only within a run: each run fetches discovery at its first mapping, so
a second run can map types the first one could not.
-/

namespace BackupOperator

/-! ## Writes and their effect at one key -/

/-- A write a restore makes, resource versions forgotten. -/
inductive Write where
  /-- `ensureNamespace`: the namespace is created where it is missing. -/
  | ensure (ns : String)
  /-- `Create`, or `Update` of the stored object. -/
  | put (key : Key) (obj : Object)

/-- What writes do at one key: nothing, store an object, or store an object where there is none. -/
inductive Effect where
  | keep
  | put (obj : Object)
  | fill (obj : Object)

namespace Effect

/-- An effect on what is stored at a key. -/
def apply : Effect → Option Object → Option Object
  | keep, x => x
  | put obj, _ => some obj
  | fill obj, none => some obj
  | fill _, some x => some x

/-- `e₁`, then `e₂`. -/
def andThen : Effect → Effect → Effect
  | e, keep => e
  | _, put obj => put obj
  | keep, fill obj => fill obj
  | put obj, fill _ => put obj
  | fill obj, fill _ => fill obj

theorem apply_andThen (e₁ e₂ : Effect) (x : Option Object) :
    (e₁.andThen e₂).apply x = e₂.apply (e₁.apply x) := by
  cases e₁ <;> cases e₂ <;> cases x <;> rfl

/-- Every effect is idempotent. -/
@[simp] theorem apply_apply (e : Effect) (x : Option Object) : e.apply (e.apply x) = e.apply x := by
  cases e <;> cases x <;> rfl

end Effect

/-- The effect of a write at a key. -/
def Write.effect (k : Key) : Write → Effect
  | .ensure ns => if k = namespaceKey ns then .fill (namespaceObject ns) else .keep
  | .put key obj => if k = key then .put obj else .keep

/-- A write applied to the stored objects. -/
def Write.apply (w : Write) (view : Key → Option Object) : Key → Option Object :=
  fun k => (w.effect k).apply (view k)

/-- Writes applied in order. -/
def applyWrites (view : Key → Option Object) : List Write → Key → Option Object
  | [] => view
  | w :: ws => applyWrites (w.apply view) ws

/-- The effect of a sequence of writes at one key. -/
def effectAt (k : Key) : List Write → Effect
  | [] => .keep
  | w :: ws => (w.effect k).andThen (effectAt k ws)

theorem applyWrites_eq (view : Key → Option Object) (ws : List Write) (k : Key) :
    applyWrites view ws k = (effectAt k ws).apply (view k) := by
  induction ws generalizing view with
  | nil => rfl
  | cons w ws ih => rw [applyWrites, ih, effectAt, Effect.apply_andThen]; rfl

theorem applyWrites_append (view : Key → Option Object) (ws₁ ws₂ : List Write) :
    applyWrites view (ws₁ ++ ws₂) = applyWrites (applyWrites view ws₁) ws₂ := by
  induction ws₁ generalizing view with
  | nil => rfl
  | cons w ws ih => exact ih _

/-- Writing a sequence twice is writing it once. -/
theorem applyWrites_applyWrites (view : Key → Option Object) (ws : List Write) :
    applyWrites (applyWrites view ws) ws = applyWrites view ws := by
  funext k
  simp only [applyWrites_eq, Effect.apply_apply]

/-- A prefix of a sequence of writes, then the whole sequence, is the whole sequence. -/
theorem applyWrites_take (view : Key → Option Object) (ws : List Write) (j : Nat) :
    applyWrites (applyWrites view (ws.take j)) ws = applyWrites view ws :=
  calc applyWrites (applyWrites view (ws.take j)) ws
      = applyWrites (applyWrites (applyWrites view (ws.take j)) (ws.take j)) (ws.drop j) := by
        rw [← applyWrites_append (applyWrites view (ws.take j)), List.take_append_drop]
    _ = applyWrites view ws := by
        rw [applyWrites_applyWrites, ← applyWrites_append, List.take_append_drop]

/-- Ensuring a namespace that exists writes nothing. -/
theorem Write.apply_ensure_of_isSome {view : Key → Option Object} {ns : String}
    (h : (view (namespaceKey ns)).isSome) : (Write.ensure ns).apply view = view := by
  funext k
  simp only [Write.apply, Write.effect]
  split_ifs with hk
  · subst hk
    obtain ⟨x, hx⟩ := Option.isSome_iff_exists.mp h
    rw [hx]; rfl
  · rfl

/-- Ensuring a missing namespace stores the `Namespace` object. -/
theorem Write.apply_ensure_of_none {view : Key → Option Object} {ns : String}
    (h : view (namespaceKey ns) = none) :
    (Write.ensure ns).apply view = (Write.put (namespaceKey ns) (namespaceObject ns)).apply view := by
  funext k
  simp only [Write.apply, Write.effect]
  split_ifs with hk
  · subst hk; rw [h]; rfl
  · rfl

/-! ## The writes of a restore under a fixed mapper -/

/-- The writes of a document once it is in its target namespace, under a mapper holding `types`,
and whether the restore stops there: a document that maps is created or updated without a
resource version, unless `Create` rejects its key. -/
def objectWrites (types : List ServedType) (obj : Object) : List Write × Bool :=
  let (group, version, kind) := obj.groupVersionKind
  match restMapping types group version kind with
  | none => ([], false)
  | some t =>
    if (objectKey t obj).rejected t.namespaced then ([], true)
    else ([.put (objectKey t obj) (obj.setResourceVersion "")], false)

/-- The writes of one document: nothing for a skipped kind; a namespaced document ensures its
target namespace first. -/
def documentWrites (types : List ServedType) (mapping : List (String × String))
    (defaultNamespace : String) (doc : Object) : List Write × Bool :=
  if shouldSkipKind doc.kind then ([], false) else
  let obj := sanitizeObject doc
  if obj.ns ≠ "" then
    let target := targetNamespace mapping defaultNamespace obj.ns
    let rest := objectWrites types (obj.setNamespace target)
    ((if target = "" then [] else [.ensure target]) ++ rest.1, rest.2)
  else objectWrites types obj

/-- The writes of the loop over the documents, up to the first document that stops it. -/
def restoreWrites (types : List ServedType) (mapping : List (String × String))
    (defaultNamespace : String) : List Object → List Write × Bool
  | [] => ([], false)
  | doc :: docs =>
    let first := documentWrites types mapping defaultNamespace doc
    if first.2 then first
    else
      let rest := restoreWrites types mapping defaultNamespace docs
      (first.1 ++ rest.1, rest.2)

/-! ## Running a session -/

theorem run_pure {α : Type} (a : α) (σ : Session) : (pure a : ApiM α).run.run σ = (.ok a, σ) := rfl

theorem run_bind {α β : Type} (x : ApiM α) (f : α → ApiM β) (σ : Session) :
    (x >>= f).run.run σ = match x.run.run σ with
      | (.ok a, σ') => (f a).run.run σ'
      | (.error e, σ') => (.error e, σ') := by
  simp only [ExceptT.run_bind, StateT.run_bind]
  rcases x.run.run σ with ⟨_ | _, _⟩ <;> rfl

theorem run_map {α β : Type} (f : α → β) (x : ApiM α) (σ : Session) :
    (f <$> x).run.run σ = match x.run.run σ with
      | (.ok a, σ') => (.ok (f a), σ')
      | (.error e, σ') => (.error e, σ') := by
  simp only [ExceptT.run_map, StateT.run_map]
  rcases x.run.run σ with ⟨_ | _, _⟩ <;> rfl

theorem run_tryCatch {α : Type} (x : ApiM α) (h : ApiError → ApiM α) (σ : Session) :
    (tryCatch x h).run.run σ = match x.run.run σ with
      | (.ok a, σ') => (.ok a, σ')
      | (.error e, σ') => (h e).run.run σ' := by
  show (ExceptT.tryCatch x h).run.run σ = _
  simp only [ExceptT.tryCatch, ExceptT.run_mk, StateT.run_bind]
  change (StateT.run x σ >>= _) = match StateT.run x σ with | (.ok a, σ') => _ | (.error e, σ') => _
  rcases StateT.run x σ with ⟨_ | _, _⟩ <;> rfl

theorem run_throw {α : Type} (e : ApiError) (σ : Session) :
    (throw e : ApiM α).run.run σ = (.error e, σ) := rfl

/-- A call: the lost call fails and changes nothing but the count; any other runs against the
store. -/
theorem run_request {α : Type} (f : Store → Except ApiError (α × Store)) (σ : Session) :
    (request f).run.run σ =
      if σ.failAt = some σ.calls then (.error .unavailable, { σ with calls := σ.calls + 1 })
      else match f σ.store with
        | .ok (a, store) => (.ok a, { σ with calls := σ.calls + 1, store := store })
        | .error e => (.error e, { σ with calls := σ.calls + 1 }) := by
  show (if σ.failAt = some σ.calls then (throw .unavailable : ApiM α) else
      match f σ.store with
      | .ok (a, store) => do modify fun s => { s with store := store }; pure a
      | .error e => throw e).run.run { σ with calls := σ.calls + 1 } = _
  split_ifs
  · rfl
  · rcases f σ.store with _ | ⟨a, store⟩ <;> rfl

theorem run_modify (f : Session → Session) (σ : Session) :
    (modify f : ApiM PUnit).run.run σ = (.ok (), f σ) := rfl

theorem run_get_bind {α : Type} (f : Session → ApiM α) (σ : Session) :
    ((get : ApiM Session) >>= f).run.run σ = (f σ).run.run σ := rfl

/-- With the mapper's cache filled, mapping reads it and calls nothing. -/
theorem run_mapping {types : List ServedType} {σ : Session} (hσ : σ.mapper = some types)
    (group version kind : String) :
    (tryCatch (some <$> mapperRESTMapping group version kind) fun _ => pure none).run.run σ =
      (.ok (restMapping types group version kind), σ) := by
  rw [run_tryCatch, run_map, mapperRESTMapping, run_get_bind]
  simp only [hσ, pure_bind]
  cases restMapping types group version kind <;> rfl

/-! ## The server's writes, resource versions forgotten -/

namespace Store

/-- Finding a key after `Create` appended its entry. -/
theorem find?_append_new {s : Store} {k : Key} (hk : s.find? k = none) {new : Entry}
    (hnew : new.key = k) (k' : Key) :
    (s.entries ++ [new]).find? (·.key == k') = if k' = k then some new else s.find? k' := by
  rw [List.find?_append]
  by_cases h : k' = k
  · subst h
    simp only [find?] at hk
    simp [hk, hnew]
  · simp [find?, hnew, Ne.symm h, h]

/-- The entry found at a key has that key. -/
theorem find?_key {s : Store} {k : Key} {e : Entry} (h : s.find? k = some e) : e.key = k := by
  simpa using List.find?_some h

/-- Finding a key after `Update` replaced the entries of its key. -/
theorem find?_map_replace (s : Store) {k : Key} {new : Entry} (hnew : new.key = k) (k' : Key) :
    (s.entries.map fun e => if e.key = k then new else e).find? (·.key == k') =
      (s.find? k').map fun e => if e.key = k then new else e := by
  rw [List.find?_map]
  congr 2
  funext e
  simp only [Function.comp]
  split_ifs with h <;> simp [h, hnew]

theorem view_create {s s' : Store} {namespaced : Bool} {k : Key} {obj : Object}
    (h : s.create namespaced k obj = .ok s') :
    s'.view = (Write.put k (obj.setResourceVersion "")).apply s.view := by
  unfold create at h
  split_ifs at h
  split at h
  · cases h
  · rename_i hk
    cases h
    funext k'
    simp only [view, find?,
      find?_append_new hk (show (⟨k, obj.setResourceVersion "", s.nextRV⟩ : Entry).key = k from rfl),
      Write.apply, Write.effect]
    split_ifs <;> rfl

theorem view_update {s s' : Store} {k : Key} {obj : Object} (h : s.update k obj = .ok s') :
    s'.view = (Write.put k (obj.setResourceVersion "")).apply s.view := by
  unfold update at h
  split at h
  · cases h
  · rename_i e he
    split_ifs at h
    cases h
    funext k'
    rw [view, find?, find?_map_replace s (show (⟨k, obj.setResourceVersion "", s.nextRV⟩ : Entry).key = k from rfl),
      Option.map_map]
    simp only [Write.apply, Write.effect, view]
    split_ifs with hk
    · subst hk
      simp [he, find?_key he, Effect.apply]
    · cases hf : s.find? k' with
      | none => rfl
      | some e' => simp [find?_key hf, hk, Effect.apply]

end Store

/-! ## Computations that perform writes -/

/-- What `Performs` asks of a run from `σ` that ends with `r`: the mapper and the lost call are
kept; the objects are as after a prefix of `ws`, all of it when the run succeeds (and then
`stops` is false); and when no call is lost, they are as after all of `ws`, and the run fails
exactly when `stops`. -/
def PerformsAt (types : List ServedType) (ws : List Write) (stops : Bool) (σ : Session)
    (r : Except ApiError Unit × Session) : Prop :=
  r.2.mapper = some types ∧ r.2.failAt = σ.failAt ∧
    (∃ j ≤ ws.length, r.2.store.view = applyWrites σ.store.view (ws.take j) ∧
      (r.1.isOk → j = ws.length ∧ stops = false)) ∧
    (σ.failAt = none → r.2.store.view = applyWrites σ.store.view ws ∧ r.1.isOk = !stops)

/-- `x` performs the writes `ws` under a mapper holding `types`, and stops the restore when
`stops`: every run from a session with that mapper is as `PerformsAt` says. -/
def Performs (types : List ServedType) (x : ApiM Unit) (ws : List Write) (stops : Bool) : Prop :=
  ∀ σ : Session, σ.mapper = some types → PerformsAt types ws stops σ (x.run.run σ)

variable {types : List ServedType}

theorem Performs.pure : Performs types (pure ()) [] false := fun _ hσ =>
  ⟨hσ, rfl, ⟨0, le_rfl, rfl, fun _ => ⟨rfl, rfl⟩⟩, fun _ => ⟨rfl, rfl⟩⟩

section Runs

variable {σ σ' : Session} {ws : List Write} {stops : Bool}

/-- A run that fails at the lost call, having written nothing. -/
theorem PerformsAt.lost (hσ : σ.mapper = some types) (hm : σ'.mapper = σ.mapper)
    (hf : σ'.failAt = σ.failAt) (hs : σ'.store = σ.store) (hlost : σ.failAt ≠ none)
    (e : ApiError) : PerformsAt types ws stops σ (.error e, σ') :=
  ⟨hm.trans hσ, hf, ⟨0, Nat.zero_le _, by rw [hs]; rfl, fun h => nomatch h⟩,
    fun hn => absurd hn hlost⟩

/-- A run that fails having written nothing, where the writes stop. -/
theorem PerformsAt.stop (hσ : σ.mapper = some types) (hm : σ'.mapper = σ.mapper)
    (hf : σ'.failAt = σ.failAt) (hs : σ'.store = σ.store) (e : ApiError) :
    PerformsAt types [] true σ (.error e, σ') :=
  ⟨hm.trans hσ, hf, ⟨0, le_rfl, by rw [hs]; rfl, fun h => nomatch h⟩,
    fun _ => ⟨by rw [hs]; rfl, rfl⟩⟩

/-- A run that succeeds having made all of its writes. -/
theorem PerformsAt.done (hσ : σ.mapper = some types) (hm : σ'.mapper = σ.mapper)
    (hf : σ'.failAt = σ.failAt) (hv : σ'.store.view = applyWrites σ.store.view ws) :
    PerformsAt types ws false σ (.ok (), σ') :=
  ⟨hm.trans hσ, hf, ⟨ws.length, le_rfl, by rw [List.take_length]; exact hv, fun _ => ⟨rfl, rfl⟩⟩,
    fun _ => ⟨hv, rfl⟩⟩

end Runs

theorem Performs.bind {x y : ApiM Unit} {ws₁ ws₂ : List Write} {s₁ s₂ : Bool}
    (hx : Performs types x ws₁ s₁) (hy : s₁ = false → Performs types y ws₂ s₂) :
    Performs types (x >>= fun _ => y) (ws₁ ++ if s₁ then [] else ws₂) (s₁ || s₂) := by
  intro σ hσ
  obtain ⟨hm, hf, ⟨j, hj, hv, hok⟩, hfree⟩ := hx σ hσ
  rw [run_bind]
  rcases hr : x.run.run σ with ⟨_ | u, σ'⟩ <;> rw [hr] at hm hf hv hok hfree
  · -- `x` failed: the writes stop where `x` stopped
    refine ⟨hm, hf, ⟨j, by simp only [List.length_append]; omega, ?_, fun h => nomatch h⟩,
      fun hn => ?_⟩
    · rwa [List.take_append_of_le_length hj]
    · obtain ⟨hv', hs⟩ := hfree hn
      have hs₁ : s₁ = true := by cases s₁ <;> simp_all [Except.isOk, Except.toBool]
      simp [hs₁, hv', Except.isOk, Except.toBool]
  · -- `x` succeeded with all of its writes: `y` runs next
    obtain ⟨rfl, rfl⟩ := hok rfl
    obtain ⟨hm₂, hf₂, ⟨j₂, hj₂, hv₂, hok₂⟩, hfree₂⟩ := hy rfl σ' hm
    refine ⟨hm₂, hf₂.trans hf, ⟨ws₁.length + j₂, by simp; omega, ?_, fun h => ?_⟩, fun hn => ?_⟩
    · rw [hv₂, hv, List.take_length, if_neg Bool.false_ne_true, List.take_append_eq_append_take,
        List.take_of_length_le (show ws₁.length ≤ ws₁.length + j₂ by omega), Nat.add_sub_cancel_left,
        applyWrites_append]
    · obtain ⟨rfl, rfl⟩ := hok₂ h
      exact ⟨by simp, rfl⟩
    · obtain ⟨hv', -⟩ := hfree hn
      obtain ⟨hv₂', hs₂⟩ := hfree₂ (hf.trans hn)
      simp [hv₂', hv', applyWrites_append, hs₂]

theorem Performs.seq {x y : ApiM Unit} {ws₁ ws₂ : List Write} {stops : Bool}
    (hx : Performs types x ws₁ false) (hy : Performs types y ws₂ stops) :
    Performs types (x >>= fun _ => y) (ws₁ ++ ws₂) stops := by
  simpa using hx.bind fun _ => hy

/-- `x` followed by a computation that always succeeds in place with `a`. -/
theorem Performs.bind_pure {α : Type} {x : ApiM α} {a : α} {f : α → ApiM Unit} {ws : List Write}
    {stops : Bool} (hx : ∀ σ : Session, σ.mapper = some types → x.run.run σ = (.ok a, σ))
    (hf : Performs types (f a) ws stops) : Performs types (x >>= f) ws stops := by
  intro σ hσ
  rw [run_bind, hx σ hσ]
  exact hf σ hσ

/-! ## The steps of the loop -/

theorem Store.create_of_rejected {s : Store} {namespaced : Bool} {k : Key} (obj : Object)
    (hr : k.rejected namespaced = true) : s.create namespaced k obj = .error .invalid := by
  simp [Store.create, hr]

theorem Store.create_of_find?_some {s : Store} {namespaced : Bool} {k : Key} {e : Entry}
    (obj : Object) (hr : k.rejected namespaced = false) (hk : s.find? k = some e) :
    s.create namespaced k obj = .error .alreadyExists := by
  simp [Store.create, hr, hk]

theorem Store.create_of_find?_none {s : Store} {namespaced : Bool} {k : Key} (obj : Object)
    (hr : k.rejected namespaced = false) (hk : s.find? k = none) :
    s.create namespaced k obj = .ok { s with
      entries := s.entries ++ [⟨k, obj.setResourceVersion "", s.nextRV⟩], nextRV := s.nextRV + 1 } := by
  simp [Store.create, hr, hk]

/-- `Update` at the resource version `Get` returned is accepted: the version sent is that one, or
none at all. -/
theorem Store.update_at_read {s : Store} {k : Key} {e : Entry} (hk : s.find? k = some e)
    (obj : Object) :
    ∃ s', s.update k (obj.setResourceVersion
      (e.object.setResourceVersion (toString e.rv)).resourceVersion) = .ok s' := by
  have hsent : ∀ v w : String, (v = w ∨ v = "") → (w = toString e.rv ∨ w = "") →
      ¬(v ≠ "" ∧ v ≠ toString e.rv) := by
    rintro v w (rfl | rfl) (rfl | rfl) <;> simp
  exact ⟨_, by
    simp only [Store.update, hk, if_neg (hsent _ _ (Object.resourceVersion_setResourceVersion ..)
      (Object.resourceVersion_setResourceVersion ..))]
    rfl⟩

/-- The `Namespace` object `ensureNamespace` creates has no resource version to remove. -/
@[simp] theorem namespaceObject_setResourceVersion (ns : String) :
    (namespaceObject ns).setResourceVersion "" = namespaceObject ns := rfl

theorem ensureNamespace_performs (ns : String) :
    Performs types (ensureNamespace ns) (if ns = "" then [] else [.ensure ns]) false := by
  intro σ hσ
  unfold ensureNamespace
  split_ifs with hns
  · exact Performs.pure σ hσ
  rw [run_tryCatch, show discard (getObject (namespaceKey ns)) = (fun _ => ()) <$> getObject _ from rfl,
    run_map, getObject, run_request]
  split_ifs with hlost
  · -- the `Get` is lost
    exact PerformsAt.lost hσ rfl rfl rfl (by simp [hlost]) _
  cases hk : σ.store.find? (namespaceKey ns) with
  | some e =>
    -- the namespace exists
    simp only [Store.get, hk, Except.map]
    refine PerformsAt.done hσ rfl rfl ?_
    have : (σ.store.view (namespaceKey ns)).isSome := by simp [Store.view, hk]
    rw [applyWrites, Write.apply_ensure_of_isSome this]; rfl
  | none =>
    -- `Get` is `NotFound`: `Create` the namespace
    simp only [Store.get, hk, Except.map, if_true, createObject, run_request]
    split_ifs with hlost'
    · exact PerformsAt.lost hσ rfl rfl rfl (by simp [hlost']) _
    have hr : (namespaceKey ns).rejected false = false := by simp [Key.rejected, namespaceKey, hns]
    have hc := Store.create_of_find?_none (namespaceObject ns) hr hk
    rw [hc]
    refine PerformsAt.done hσ rfl rfl ?_
    have hv : σ.store.view (namespaceKey ns) = none := by simp [Store.view, hk]
    rw [Store.view_create hc, applyWrites, applyWrites, Write.apply_ensure_of_none hv,
      namespaceObject_setResourceVersion]

/-- A key `Create` rejects stops the restore, and nothing is written. -/
theorem createOrUpdate_rejected {namespaced : Bool} {key : Key} (obj : Object)
    (hr : key.rejected namespaced = true) :
    Performs types (createOrUpdate namespaced key obj) [] true := by
  intro σ hσ
  rw [createOrUpdate, run_tryCatch, createObject, run_request]
  split_ifs with hlost
  · exact PerformsAt.lost hσ rfl rfl rfl (by simp [hlost]) _
  · rw [Store.create_of_rejected obj hr]
    exact PerformsAt.stop hσ rfl rfl rfl _

/-- Any other key is written: created when it is free, updated at the version read when it is
not. Both store the object without its resource version. -/
theorem createOrUpdate_performs {namespaced : Bool} {key : Key} {obj meta : Object}
    (hr : key.rejected namespaced = false) (hm : obj.getMap? "metadata" = some meta) :
    Performs types (createOrUpdate namespaced key obj) [.put key (obj.setResourceVersion "")] false := by
  intro σ hσ
  rw [createOrUpdate, run_tryCatch, createObject, run_request]
  split_ifs with hlost
  · exact PerformsAt.lost hσ rfl rfl rfl (by simp [hlost]) _
  cases hk : σ.store.find? key with
  | none =>
    -- `Create` stores it
    have hc := Store.create_of_find?_none obj hr hk
    rw [hc]
    exact PerformsAt.done hσ rfl rfl (by rw [Store.view_create hc]; rfl)
  | some e =>
    -- `AlreadyExists`: `Get`, then `Update` at the resource version read
    rw [Store.create_of_find?_some obj hr hk]
    simp only [Except.map, ↓reduceIte, run_bind, getObject, run_request]
    split_ifs with hlost'
    · exact PerformsAt.lost hσ rfl rfl rfl (by simp [hlost']) _
    simp only [Store.get, hk, Except.map, updateObject, run_request]
    split_ifs with hlost''
    · exact PerformsAt.lost hσ rfl rfl rfl (by simp [hlost'']) _
    obtain ⟨s', hs'⟩ := Store.update_at_read hk obj
    rw [hs']
    refine PerformsAt.done hσ rfl rfl ?_
    rw [Store.view_update hs', Object.setResourceVersion_set_empty hm]
    rfl

/-- Once a document is in its target namespace, `applyObject` makes the writes `objectWrites`
lists. -/
theorem applyObject_performs (obj : Object) :
    Performs types (applyObject obj) (objectWrites types obj).1 (objectWrites types obj).2 := by
  unfold applyObject objectWrites
  obtain ⟨group, version, kind⟩ := obj.groupVersionKind
  dsimp only
  refine Performs.bind_pure (fun σ hσ => run_mapping hσ group version kind) ?_
  cases restMapping types group version kind with
  | none => exact Performs.pure
  | some t =>
    dsimp only
    cases hr : (objectKey t obj).rejected t.namespaced
    · -- an accepted key has a name, so the object's `metadata` is a map
      have hname : obj.name ≠ "" := fun h => by simp [Key.rejected, objectKey, h] at hr
      obtain ⟨meta, hm⟩ := Object.getMap?_metadata_of_name hname
      have hm' : (obj.setResourceVersion "").getMap? "metadata" =
          some (meta.erase "resourceVersion") := by
        rw [Object.setResourceVersion_of_getMap hm]; simp
      simpa [hr] using createOrUpdate_performs hr hm'
    · simpa [hr] using createOrUpdate_rejected _ hr

/-- One document makes the writes `documentWrites` lists. -/
theorem applyDocument_performs (mapping : List (String × String)) (defaultNamespace : String)
    (doc : Object) :
    Performs types (applyDocument mapping defaultNamespace doc)
      (documentWrites types mapping defaultNamespace doc).1
      (documentWrites types mapping defaultNamespace doc).2 := by
  unfold applyDocument documentWrites
  by_cases hs : shouldSkipKind doc.kind = true
  · simp only [hs, if_true]
    exact Performs.pure
  simp only [hs, Bool.false_eq_true, if_false, pure_bind]
  by_cases hns : (sanitizeObject doc).ns = ""
  · simp only [hns, ne_eq, not_true_eq_false, if_false]
    exact applyObject_performs _
  · simp only [hns, ne_eq, not_false_eq_true, if_true]
    exact (ensureNamespace_performs _).seq (applyObject_performs _)

/-- **The loop refines the writes.** Under a fixed mapper, `applyDocuments` makes the writes
`restoreWrites` lists: from any store, it leaves the objects as after a prefix of them, and as
after all of them when no call is lost. -/
theorem applyDocuments_performs (mapping : List (String × String)) (defaultNamespace : String)
    (docs : List Object) :
    Performs types (applyDocuments mapping defaultNamespace docs)
      (restoreWrites types mapping defaultNamespace docs).1
      (restoreWrites types mapping defaultNamespace docs).2 := by
  induction docs with
  | nil => exact Performs.pure
  | cons doc docs ih =>
    have h := (applyDocument_performs mapping defaultNamespace doc).bind fun _ => ih
    simp only [applyDocuments, restoreWrites]
    cases hs : (documentWrites types mapping defaultNamespace doc).2 <;> simpa [hs] using h

/-! ## Restoring again -/

/-- A restore in a session whose mapper already holds `types`, with the given call lost: the
error it ends with, if any, and the store it leaves. -/
def restoreWithTypes (types : List ServedType) (store : Store) (failAt : Option Nat)
    (resources : List Object) (mapping : List (String × String)) (defaultNamespace : String) :
    Except ApiError Unit × Store :=
  let r := (applyResources resources mapping defaultNamespace).run.run ⟨store, some types, 0, failAt⟩
  (r.1, r.2.store)

/-- **A rerun converges, for a fixed mapper.** With the mapper's discovery fixed, a restore
interrupted at any call, or not interrupted, followed by an uninterrupted restore of the same
documents, leaves the same objects, up to resource versions, as one uninterrupted restore. -/
theorem restore_rerun_converges (types : List ServedType) (store : Store) (failAt : Option Nat)
    (resources : List Object) (mapping : List (String × String)) (defaultNamespace : String) :
    (restoreWithTypes types (restoreWithTypes types store failAt resources mapping
        defaultNamespace).2 none resources mapping defaultNamespace).2.view =
      (restoreWithTypes types store none resources mapping defaultNamespace).2.view := by
  have h := @applyDocuments_performs types mapping defaultNamespace (sortByPriority resources)
  -- the interrupted run leaves the objects as after a prefix of the writes
  obtain ⟨j, -, h₁, -⟩ := (h ⟨store, some types, 0, failAt⟩ rfl).2.2.1
  -- the uninterrupted runs, from that store and from the first, make all of them
  have h₂ := ((h ⟨(restoreWithTypes types store failAt resources mapping defaultNamespace).2,
    some types, 0, none⟩ rfl).2.2.2 rfl).1
  have h₃ := ((h ⟨store, some types, 0, none⟩ rfl).2.2.2 rfl).1
  simp only [restoreWithTypes, applyResources] at h₁ h₂ h₃ ⊢
  rw [h₂, h₃, h₁, applyWrites_take]

end BackupOperator
