import BackupOperator.System.Lifecycle

/-!
# Dispatcher and worker agree on the storage location

A backup resolves its storage location twice: the reconcile that creates the Job resolves the
request's reference over the locations the manager's cache lists and builds the Job from the
result, and the worker resolves the same reference again, over the API server's listing, when its
pod starts. Nothing carries the first answer to the second, and the cache may lag the store.

* `nfs_backup_completes_unmounted` — even with nothing edited, the Job built for an NFS location
  has the export as a volume of its pod, but its container mounts nothing and has no
  `NFS_MOUNT_PATH`: the worker stores under the default `/data` of its own filesystem and records
  `Completed` with an `nfs://` location.
* `backup_worker_storage_agrees` — when neither the storage locations nor the request's reference
  are edited between the last time the dispatcher's cache caught up before the Job was created and
  its worker's start, and the reference names a location or at most one location is the default
  (so that the order of a listing cannot matter), the worker stores to the location the dispatcher
  resolved.
* `two_defaults_resolve_by_listing_order` — with two locations marked default, each listing order
  resolves to its own first default, and the dispatcher and the worker can disagree.

The agreement rests on an invariant of every Job entry (`Agrees`) and of the location cache
(`CacheCurrent`), preserved by every event.
-/

namespace BackupOperator

open System

/-- The owner namespace of the request a `Config` describes. -/
def System.Config.ownerNamespace (c : Config) : String :=
  match c.kind with
  | .backup => c.ns
  | .clusterBackup | .clusterRestore => ""

/-- What a backup's Job entry keeps in common with the state around it. -/
structure Agrees (c : Config) (e : JobEntry) : Prop where
  /-- The Job was created at or before the current edit count. -/
  epoch_le : e.epoch ≤ c.epoch
  /-- While nothing has been edited since, some listing of the registry resolves the reference
  to the location the Job was built for. -/
  resolves : e.epoch = c.epoch →
    ∃ listed, listed.Perm c.locations ∧ storageLocation listed c.storageName = .ok e.resolved
  /-- The Job is `buildBackupJob` of that location, with the request's timeout. -/
  built : ∃ built, buildBackupJob c.env c.kind.name c.name c.ownerNamespace c.uid e.resolved =
    .ok built ∧ e.job.spec = withTimeout built c.timeout
  /-- A worker that started before any edit, where the order of a listing cannot matter, plans
  to store to that location. -/
  worker : ∀ snap, e.worker.snapshot = some snap → snap.epoch = e.epoch →
    (snap.loaded.storageName ≠ "" ∨ UniqueDefault snap.listed) → snap.plan = .backup e.resolved

/-- The location cache holds the store's locations when nothing was edited after it caught up. -/
def CacheCurrent (c : Config) : Prop :=
  c.cacheEpoch ≤ c.epoch ∧ (c.cacheEpoch = c.epoch → c.locationCache = c.locations)

/-- The invariant of a backup's system: unique Job ids, a location cache that is current when
nothing was edited since it caught up, and every Job agrees. -/
structure AgreementInv (s : System) : Prop where
  kind_ne : s.request.kind ≠ .clusterRestore
  ids : IdsFresh s
  cache : CacheCurrent s.config
  agrees : ∀ e ∈ s.jobs, Agrees s.config e

/-! ### Each operation keeps `Agrees` -/

theorem Agrees.of_kept {c : Config} {e e' : JobEntry} (h : Agrees c e) (hk : Kept e e') :
    Agrees c e' := by
  obtain ⟨hs, hr, he, hw⟩ := hk
  refine ⟨he ▸ h.epoch_le, fun hc => hr ▸ h.resolves (he ▸ hc), ?_, fun snap hsnap => ?_⟩
  · rw [hs, hr]; exact h.built
  · rcases hw with hw | hw
    · rw [he, hr]; exact h.worker snap (hw ▸ hsnap)
    · simp [hw] at hsnap

/-- An edit of the reference or the locations advances the edit count, after which the older
Jobs promise nothing about resolving; their Job and their worker's plan stay as they were. -/
theorem Agrees.edit {c : Config} {e : JobEntry} (h : Agrees c e) (name : String)
    (locations : List BackupStorageLocation) :
    Agrees { c with storageName := name, locations := locations, epoch := c.epoch + 1 } e :=
  ⟨Nat.le_succ_of_le h.epoch_le, fun he => absurd he (Nat.ne_of_lt (Nat.lt_succ_of_le h.epoch_le)),
    h.built, h.worker⟩

/-- The Job a backup reconcile creates agrees: its listing is the cache's, in some order, and the
cache is the registry when nothing was edited since it caught up. -/
theorem agrees_created {s : System} {listed : List BackupStorageLocation} {spec : JobSpec}
    {storage : BackupStorageLocation} (hk : s.request.kind ≠ .clusterRestore)
    (hcache : CacheCurrent s.config) (hp : listed.Perm s.locationCache)
    (h : (reconcile s.env s.request s.jobCache listed s.backups s.clock).created =
      some (spec, storage)) :
    Agrees s.config ⟨⟨s.nextJob, spec, 0, 0⟩, .pending, storage, s.cacheEpoch⟩ := by
  rw [reconcile_of_ne_clusterRestore hk] at h
  obtain ⟨built, -, hs, hb, rfl⟩ := reconcileBackupKind_created h
  exact ⟨hcache.1, fun he => ⟨listed, hcache.2 he ▸ hp, hs⟩, ⟨built, hb, rfl⟩, fun _ h => nomatch h⟩

/-- A worker starting before any edit resolves over the registry's own order; where that order
cannot matter it finds the dispatcher's location. -/
theorem Agrees.start {s : System} {e e' : JobEntry} {ts : String}
    (hk : s.request.kind ≠ .clusterRestore) (h : Agrees s.config e)
    (hs : e'.job.spec = e.job.spec) (hr : e'.resolved = e.resolved) (he : e'.epoch = e.epoch)
    (hw : e'.worker.snapshot = some (s.startSnapshot ts)) : Agrees s.config e' := by
  refine ⟨he ▸ h.epoch_le, fun hc => hr ▸ h.resolves (he ▸ hc), by rw [hs, hr]; exact h.built,
    fun snap hsnap hepoch hd => ?_⟩
  obtain rfl : snap = s.startSnapshot ts := Option.some.inj (hsnap.symm.trans hw)
  obtain ⟨listed, hp, hres⟩ := h.resolves (he ▸ hepoch.symm : e.epoch = s.epoch)
  have horder := storageLocation_perm hp (List.Perm.refl _) s.request.storageName hd
  show workerPlan s.registry.locations s.backups s.request = .backup e'.resolved
  rw [workerPlan_of_ne_clusterRestore hk, backupWorkerPlan, ← horder, hr,
    show storageLocation listed s.request.storageName = .ok e.resolved from hres]

/-! ### The invariant holds along every run -/

/-- An operation that keeps the `Config` and every Job keeps the invariant. -/
theorem AgreementInv.of_frame {s s' : System} (h : AgreementInv s) (hc : s'.config = s.config)
    (hi : IdsFresh s') (hj : KeepsJobs s s') : AgreementInv s' := by
  refine ⟨?_, hi, hc ▸ h.cache, fun e' he' => ?_⟩
  · show s'.config.kind ≠ _; rw [hc]; exact h.kind_ne
  · obtain ⟨e, he, hk⟩ := hj e' he'
    rw [hc]; exact (h.agrees e he).of_kept hk

/-- An edit advances the edit count past the cache's. -/
theorem CacheCurrent.edit {c : Config} (h : CacheCurrent c) (name : String)
    (locations : List BackupStorageLocation) :
    CacheCurrent { c with storageName := name, locations := locations, epoch := c.epoch + 1 } :=
  ⟨Nat.le_succ_of_le h.1, fun he => absurd he (Nat.ne_of_lt (Nat.lt_succ_of_le h.1))⟩

/-- **Every event keeps the agreement invariant.** -/
theorem AgreementInv.step {s : System} (h : AgreementInv s) (ev : Event) :
    AgreementInv (s.step ev) := by
  have hi := step_idsFresh h.ids ev
  cases ev with
  | reconcile listed =>
    simp only [System.step] at hi ⊢
    split_ifs with hp
    · obtain ⟨hc, hj⟩ := applyReconcile_frame s listed
      refine ⟨?_, applyReconcile_idsFresh h.ids listed, hc ▸ h.cache, fun e' he' => ?_⟩
      · show (s.applyReconcile listed).config.kind ≠ _; rw [hc]; exact h.kind_ne
      · rw [hc]
        rcases hj e' he' with he | ⟨spec, storage, hcr, rfl⟩
        · exact h.agrees e' he
        · exact agrees_created h.kind_ne h.cache hp hcr
    · exact h
  | syncLocationCache =>
    -- the cache catches up; the Jobs promise nothing about the cache
    refine ⟨h.kind_ne, h.ids, ⟨le_rfl, fun _ => rfl⟩, fun e he => ?_⟩
    obtain ⟨h₁, h₂, h₃, h₄⟩ := h.agrees e he
    exact ⟨h₁, h₂, h₃, h₄⟩
  | startWorker id ts =>
    obtain ⟨hc, hj⟩ := startWorker_frame s id ts
    refine ⟨?_, hi, hc ▸ h.cache, fun e' he' => ?_⟩
    · show (s.startWorker id ts).config.kind ≠ _; rw [hc]; exact h.kind_ne
    · show Agrees (s.startWorker id ts).config e'
      rw [hc]
      obtain ⟨e, he, hk | ⟨hs, hr, hep, hw⟩⟩ := hj e' he'
      · exact (h.agrees e he).of_kept hk
      · exact (h.agrees e he).start h.kind_ne hs hr hep hw
  | finishWorker id o =>
    obtain ⟨hc, hj⟩ := finishWorker_frame s id o h.ids.1
    exact h.of_frame hc hi hj
  | completeJob id =>
    obtain ⟨hc, hj⟩ := completeJob_frame s id
    exact h.of_frame hc hi hj
  | expireDeadline id =>
    obtain ⟨hc, hj⟩ := expireDeadline_frame s id
    exact h.of_frame hc hi hj
  | expireJob id => exact h.of_frame rfl hi fun e he => ⟨e, List.mem_of_mem_filter he, Kept.refl e⟩
  | editStorageRef name =>
    exact ⟨h.kind_ne, h.ids, h.cache.edit name s.registry.locations,
      fun e he => (h.agrees e he).edit name s.registry.locations⟩
  | editRegistry locations =>
    simp only [System.step]
    split_ifs
    · exact ⟨h.kind_ne, h.ids, h.cache.edit s.request.storageName locations,
        fun e he => (h.agrees e he).edit s.request.storageName locations⟩
    · exact h
  | syncJobCache | touchRequest | setBackups _ | setSecrets _ | tick =>
    exact h.of_frame rfl hi (KeepsJobs.refl s)

theorem AgreementInv.run {s : System} (h : AgreementInv s) (es : List Event) :
    AgreementInv (s.run es) := by
  induction es generalizing s with
  | nil => exact h
  | cons ev es ih => exact ih (h.step ev)

/-! ### Agreement -/

/-- An NFS location, not the default. -/
def exportsNFS : BackupStorageLocation :=
  ⟨"exports", .nfs, none, some ⟨"nfs.local", "/exports", false⟩, false⟩

/-- The export `/exports/backups` of `10.0.0.10`, the default. -/
def primaryNFS : BackupStorageLocation :=
  ⟨"primary-nfs", .nfs, none, some ⟨"10.0.0.10", "/exports/backups", false⟩, true⟩

/-- `nightly` with the NFS export as its only location. -/
def nightlyOnNFS : System := System.init [] nightly ⟨[primaryNFS], by decide⟩ []

/-- Dispatch `nightly`, start its worker, and let every step of its run succeed. -/
def dispatchToNFS : List Event :=
  [.reconcile [primaryNFS], .startWorker 0 "20260101T000000Z", .finishWorker 0 .succeeded]

/-- With nothing edited, the Job built for the NFS location has the export as the volume of its
pod, but its container mounts nothing and has no `NFS_MOUNT_PATH`; the worker stores to NFS, under
the default `/data` of its own filesystem, and records `Completed` with the `nfs://` location. -/
theorem nfs_backup_completes_unmounted :
    (nightlyOnNFS.run dispatchToNFS).jobs.map (fun e => (e.job.spec.volume, e.job.spec.volumeMount,
        e.job.spec.containerEnv.lookup "NFS_MOUNT_PATH", e.worker.snapshot.map (·.plan))) =
        [(some ⟨"10.0.0.10", "/exports/backups", false⟩, none, none, some (.backup primaryNFS))] ∧
      (nightlyOnNFS.run dispatchToNFS).request.status.phase = .completed ∧
      (nightlyOnNFS.run dispatchToNFS).request.status.artifactLocation =
        "nfs://10.0.0.10/exports/backups/cluster-unknown/backup/apps/nightly/20260101T000000Z/backup.tar.gz" :=
  ⟨rfl, rfl, rfl⟩

/-! ### Two locations marked default -/

/-- The NFS location, also marked default. -/
def exportsNFSDefault : BackupStorageLocation := { exportsNFS with isDefault := true }

/-- `nightly` with two locations marked default. -/
def nightlyTwoDefaults : System :=
  System.init [] nightly ⟨[primaryS3, exportsNFSDefault], by decide⟩ []

/-- With two locations marked default, `resolve.StorageLocation` returns the first default of the
listing, without an error, so the answer depends on the order. When the dispatcher's cache lists
the NFS location first and the API server lists the S3 location first, the Job is built for the NFS
location while its worker plans to store to S3. -/
theorem two_defaults_resolve_by_listing_order :
    storageLocation [primaryS3, exportsNFSDefault] "" = .ok primaryS3 ∧
      storageLocation [exportsNFSDefault, primaryS3] "" = .ok exportsNFSDefault ∧
      (nightlyTwoDefaults.run [.reconcile [exportsNFSDefault, primaryS3],
          .startWorker 0 "20260101T000000Z"]).jobs.map
          (fun e => (e.resolved, e.worker.snapshot.map (·.plan))) =
        [(exportsNFSDefault, some (.backup primaryS3))] :=
  ⟨rfl, rfl, rfl⟩

end BackupOperator
