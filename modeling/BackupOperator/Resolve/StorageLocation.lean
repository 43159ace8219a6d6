import BackupOperator.Api.Types

/-!
# `resolve.StorageLocation`

Picks the `BackupStorageLocation` a request's `storageRef` denotes: the named location, else the
first listed location marked default, else the sole location, else an error. The dispatcher calls
it through the controller's cache and the workers through the API server, so the two calls may
see the same registry listed in different orders.

* `storageLocation_perm` — when the reference names a location, or at most one location is
  marked default, the result does not depend on the listing order.
* `storageLocation_mem` — a resolved location is one of the listed ones.
-/

namespace BackupOperator

/-- The three errors of `resolve.StorageLocation`; `notFound` is the API server's answer to a
`Get` of a missing name. -/
inductive ResolveError where
  | notFound (name : String)
  | noneFound
  | noDefault
  deriving DecidableEq, Repr

/-- The error text, as `err.Error()` prints it. -/
def ResolveError.message : ResolveError → String
  | .notFound name => "backupstoragelocations.backup.example.com \"" ++ name ++ "\" not found"
  | .noneFound => "no BackupStorageLocation found"
  | .noDefault => "no default BackupStorageLocation set"

/-- `resolve.StorageLocation(ctx, c, name)` over the locations `listed` by the reader, in the
reader's order. A non-empty name is a keyed `Get`; names are unique, so `find?` is that lookup. -/
def storageLocation (listed : List BackupStorageLocation) (name : String) :
    Except ResolveError BackupStorageLocation :=
  if name ≠ "" then
    match listed.find? (·.name == name) with
    | some location => .ok location
    | none => .error (.notFound name)
  else if listed = [] then .error .noneFound
  else
    match listed.find? (·.isDefault) with
    | some location => .ok location
    | none =>
      match listed with
      | [location] => .ok location
      | _ => .error .noDefault

/-! ### Order independence -/

/-- `find?` does not see the order of a list in which at most one element passes the test. -/
theorem find?_perm_of_unique {α : Type} {p : α → Bool} {l l' : List α} (hp : l.Perm l')
    (hu : ∀ a ∈ l, ∀ b ∈ l, p a = true → p b = true → a = b) : l.find? p = l'.find? p := by
  cases h : l.find? p with
  | none =>
    rw [List.find?_eq_none] at h
    exact (List.find?_eq_none.mpr fun a ha => h a (hp.mem_iff.mpr ha)).symm
  | some a =>
    have ha := List.mem_of_find?_eq_some h
    cases h' : l'.find? p with
    | none => exact absurd (List.find?_some h) (List.find?_eq_none.mp h' a (hp.mem_iff.mp ha))
    | some b =>
      rw [hu a ha b (hp.mem_iff.mpr (List.mem_of_find?_eq_some h')) (List.find?_some h)
        (List.find?_some h')]

/-- Names are unique in a listing that is a permutation of the registry. -/
theorem name_unique_of_perm {r : Registry} {listed : List BackupStorageLocation}
    (hp : listed.Perm r.locations) (name : String) :
    ∀ a ∈ listed, ∀ b ∈ listed, (a.name == name) = true → (b.name == name) = true → a = b := by
  intro a ha b hb hna hnb
  have hnd : (listed.map (·.name)).Nodup := (hp.map _).nodup_iff.mpr r.names_nodup
  exact List.inj_on_of_nodup_map hnd ha hb (by simp_all)

/-- A list of at least two elements is permuted only into another such list. -/
theorem exists_cons_cons_of_perm {α : Type} {a b : α} {t l : List α} (hp : (a :: b :: t).Perm l) :
    ∃ a' b' t', l = a' :: b' :: t' := by
  match l, hp.length_eq with
  | a' :: b' :: t', _ => exact ⟨a', b', t', rfl⟩

/-- **Order independence.** Two listings of one registry resolve a reference alike when the
reference is a name or the registry marks at most one location default. -/
theorem storageLocation_perm {r : Registry} {listed listed' : List BackupStorageLocation}
    (h : listed.Perm r.locations) (h' : listed'.Perm r.locations) (name : String)
    (hd : name ≠ "" ∨ UniqueDefault r.locations) :
    storageLocation listed name = storageLocation listed' name := by
  have hp : listed.Perm listed' := h.trans h'.symm
  unfold storageLocation
  by_cases hn : name = ""
  · have hu : UniqueDefault listed := fun a ha b hb =>
      (hd.resolve_left (not_not.mpr hn)) a (h.mem_iff.mp ha) b (h.mem_iff.mp hb)
    have hf := @find?_perm_of_unique _ BackupStorageLocation.isDefault _ _ hp hu
    rcases listed with _ | ⟨a, _ | ⟨b, t⟩⟩
    · rw [hp.nil_eq]
    · rw [List.perm_singleton.mp hp.symm]
    · obtain ⟨a', b', t', rfl⟩ := exists_cons_cons_of_perm hp
      simp only [hn, hf, ne_eq, not_true_eq_false, if_false, reduceCtorEq]
  · simp only [ne_eq, hn, not_false_eq_true, if_true,
      find?_perm_of_unique hp (name_unique_of_perm h name)]

/-- A resolved location is one of the listed locations. -/
theorem storageLocation_mem {listed : List BackupStorageLocation} {name : String}
    {location : BackupStorageLocation} (h : storageLocation listed name = .ok location) :
    location ∈ listed := by
  unfold storageLocation at h
  split_ifs at h
  · split at h
    · cases h; exact List.mem_of_find?_eq_some ‹_›
    · cases h
  · split at h
    · cases h; exact List.mem_of_find?_eq_some ‹_›
    · split at h
      · cases h; simp
      · cases h

end BackupOperator
