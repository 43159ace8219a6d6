import BackupOperator.Restore.Converge

/-!
# Store invariants through the restore's calls

The target server is reached only through `Get`, `Create` and `Update`, and the restore's
computations are built from them with the monad's combinators. A store invariant that a restore
keeps is therefore proved call by call:

* `Keeps` — a computation keeps a store invariant on every run, interrupted or not. It is closed
  under the monad's combinators (`keeps_bind`, `keeps_tryCatch`, `keeps_map`), and a call keeps
  what its store function keeps (`keeps_request`);
* `keeps_getObject`, `keeps_mapperRESTMapping` — the reads leave the store as it was;
  `keeps_createOrUpdate_of` — `createOrUpdate` keeps what `Create` and `Update` keep.

`Restore.Namespaces` uses them for the invariant that every stored object's namespace is stored.
-/

namespace BackupOperator

/-- `x` keeps the store invariant `P`: every run from a store with `P` leaves a store with `P`. -/
def Keeps (P : Store → Prop) {α : Type} (x : ApiM α) : Prop :=
  ∀ σ : Session, P σ.store → P (x.run.run σ).2.store

/-! ## The combinators keep what their parts keep -/

section Combinators

variable {P : Store → Prop}

theorem keeps_pure {α : Type} (a : α) : Keeps P (pure a : ApiM α) := fun _ h => h

theorem keeps_throw {α : Type} (e : ApiError) : Keeps P (throw e : ApiM α) := fun _ h => h

theorem keeps_bind {α β : Type} {x : ApiM α} {f : α → ApiM β} (hx : Keeps P x)
    (hf : ∀ a, Keeps P (f a)) : Keeps P (x >>= f) := by
  intro σ h
  have h' := hx σ h
  rw [run_bind]
  revert h'
  rcases x.run.run σ with ⟨_ | a, σ'⟩
  · exact id
  · exact hf a σ'

theorem keeps_map {α β : Type} (g : α → β) {x : ApiM α} (hx : Keeps P x) : Keeps P (g <$> x) := by
  intro σ h
  have h' := hx σ h
  rw [run_map]
  revert h'
  rcases x.run.run σ with ⟨_ | a, σ'⟩ <;> exact id

theorem keeps_tryCatch {α : Type} {x : ApiM α} {h : ApiError → ApiM α} (hx : Keeps P x)
    (hh : ∀ e, Keeps P (h e)) : Keeps P (tryCatch x h) := by
  intro σ hσ
  have h' := hx σ hσ
  rw [run_tryCatch]
  revert h'
  rcases x.run.run σ with ⟨_ | a, σ'⟩
  · exact hh _ σ'
  · exact id

theorem keeps_get_bind {α : Type} {f : Session → ApiM α} (hf : ∀ σ, Keeps P (f σ)) :
    Keeps P ((get : ApiM Session) >>= f) := fun σ h => by
  rw [run_get_bind]
  exact hf σ σ h

theorem keeps_modify {f : Session → Session} (hf : ∀ σ, (f σ).store = σ.store) :
    Keeps P (modify f : ApiM PUnit) := fun σ h => by
  rw [run_modify, hf]
  exact h

/-- A call keeps what its store function keeps; a lost or failed call leaves the store. -/
theorem keeps_request {α : Type} {f : Store → Except ApiError (α × Store)}
    (hf : ∀ s a s', P s → f s = .ok (a, s') → P s') : Keeps P (request f) := by
  intro σ h
  rw [run_request]
  split_ifs
  · exact h
  cases hfs : f σ.store with
  | error e => exact h
  | ok p => exact hf _ p.1 p.2 h hfs

/-! ## Calls that leave the store -/

theorem keeps_getObject (k : Key) : Keeps P (getObject k) :=
  keeps_request fun s a s' h hg => by
    cases hs : s.get k <;>
      simp only [hs, Except.map, reduceCtorEq, Except.ok.injEq, Prod.mk.injEq] at hg
    exact hg.2 ▸ h

theorem keeps_mapperRESTMapping (group version kind : String) :
    Keeps P (mapperRESTMapping group version kind) := by
  have hmap : ∀ types, Keeps P (match restMapping types group version kind with
      | some t => pure t | none => throw .notFound : ApiM ServedType) := fun types => by
    split
    · exact keeps_pure _
    · exact keeps_throw _
  unfold mapperRESTMapping
  refine keeps_get_bind fun σ => ?_
  dsimp only
  split
  · exact keeps_bind (keeps_pure _) hmap
  · refine keeps_bind (keeps_request fun s a s' h hd => ?_) fun _ =>
      keeps_bind (keeps_modify fun _ => rfl) fun _ => keeps_bind (keeps_pure _) hmap
    cases hd
    exact h

/-- A `Create` keeps what its store change keeps. -/
theorem keeps_createObject_of {namespaced : Bool} {k : Key} {obj : Object}
    (hc : ∀ {s s' : Store}, P s → s.create namespaced k obj = .ok s' → P s') :
    Keeps P (createObject namespaced k obj) :=
  keeps_request fun s a s' h hc' => by
    cases hs : s.create namespaced k obj <;>
      simp only [hs, Except.map, reduceCtorEq, Except.ok.injEq, Prod.mk.injEq] at hc'
    exact hc'.2 ▸ hc h hs

/-- An `Update` keeps what its store change keeps. -/
theorem keeps_updateObject_of {k : Key} {obj : Object}
    (hu : ∀ {s s' : Store}, P s → s.update k obj = .ok s' → P s') :
    Keeps P (updateObject k obj) :=
  keeps_request fun s a s' h hu' => by
    cases hs : s.update k obj <;>
      simp only [hs, Except.map, reduceCtorEq, Except.ok.injEq, Prod.mk.injEq] at hu'
    exact hu'.2 ▸ hu h hs

/-- A create-or-update keeps what `Create` and `Update` at its key keep. -/
theorem keeps_createOrUpdate_of {namespaced : Bool} {key : Key} {obj : Object}
    (hc : ∀ {s s' : Store}, P s → s.create namespaced key obj = .ok s' → P s')
    (hu : ∀ {s s' : Store} {obj' : Object}, P s → s.update key obj' = .ok s' → P s') :
    Keeps P (createOrUpdate namespaced key obj) := by
  refine keeps_tryCatch (keeps_createObject_of hc) fun e => ?_
  split_ifs
  · exact keeps_bind (keeps_getObject _) fun _ => keeps_updateObject_of hu
  · exact keeps_throw _

end Combinators

end BackupOperator
