import BackupOperator.Worker.Run
import BackupOperator.Archive.TarGz

/-!
# Errors of the file writes (`writeTarGz`, `copyFile`)

The backup worker writes its archive with `writeTarGz`, and for an NFS location copies it into the
export with `copyFile`. Both open their files and writers, defer their `Close` calls, and return the
first error of the calls they make in the body. A deferred `Close` runs when the function
returns, and its error is dropped. It is the tar writer's `Close` that writes the archive's
trailer, the gzip writer's `Close` that flushes the compressed stream and writes its footer, and a
file's `Close` that can report a failed write-back.

The files are a behaviour: which call, by its position in the run, fails. A run records every
call made and whether it failed.

* `writeTarGz_ok_iff` — `writeTarGz` returns `nil` exactly when the file's creation and every
  header and data write succeed, whatever its three `Close` calls do;
* `copyFile_ok_iff` — `copyFile` returns `nil` exactly when the open, the create, the copy and the
  `Sync` succeed, whatever its two `Close` calls do;
* `failed_close_recorded_completed` — when the gzip writer's `Close` fails, the archive has no
  footer, yet `writeTarGz` returns `nil` and the worker records `Completed` with a location.
-/

namespace BackupOperator

/-- The calls `writeTarGz` and `copyFile` make on the files and writers they hold. -/
inductive FileCall where
  | create (path : String)
  | openFile (path : String)
  | writeHeader (name : String)
  | write (name : String)
  | copy
  | sync
  | close (writer : String)
  deriving DecidableEq, Repr

/-- The files as the writers meet them: which calls fail, by their position in the run, and the
calls made so far, each with whether it failed. -/
structure Files where
  fails : Nat → Bool
  trace : List (FileCall × Bool)

/-- The writers' computations: calls, the first error ending the function. The error is the
call that failed. -/
abbrev FileM := ExceptT FileCall (StateM Files)

/-- One call: it is recorded, and it fails where the behaviour says so. -/
def fileCall (c : FileCall) : FileM Unit :=
  ExceptT.mk fun s =>
    ((if s.fails s.trace.length then .error c else .ok ()),
      { s with trace := s.trace ++ [(c, s.fails s.trace.length)] })

/-- A deferred call: it is made, and its error is dropped. -/
def deferredCall (c : FileCall) : FileM Unit := tryCatch (fileCall c) fun _ => pure ()

/-- Deferred calls, the last registered first. -/
def runDeferred : List FileCall → FileM Unit
  | [] => pure ()
  | c :: cs => do deferredCall c; runDeferred cs

/-- A function body with the deferred calls `closes`: they are made after the body, whether it
returned or failed, and the function returns what the body returned. -/
def withDeferred (closes : List FileCall) (body : FileM Unit) : FileM Unit :=
  tryCatch (do body; runDeferred closes) fun e => do runDeferred closes; throw e

namespace Disk

/-- `writeTarGz`: create the file, then write each member's header and data through the tar and
gzip writers, in the map's iteration order. `file.Close`, `gzipWriter.Close` and
`tarWriter.Close` are deferred in that order, so they run in the reverse one. -/
def writeTarGz (path : String) (files : FileMap) : FileM Unit := do
  fileCall (.create path)
  withDeferred [.close "tar", .close "gzip", .close path] <|
    files.entries.forM fun entry => do
      fileCall (.writeHeader entry.1)
      fileCall (.write entry.1)

/-- `copyFile`: open the source, create the destination, copy, and `Sync` the destination;
`in.Close` and `out.Close` are deferred. -/
def copyFile (src dst : String) : FileM Unit := do
  fileCall (.openFile src)
  withDeferred [.close src] do
    fileCall (.create dst)
    withDeferred [.close dst] do
      fileCall .copy
      fileCall .sync

end Disk

/-! ### Running the calls -/

section Runs

variable (s : Files)

theorem run_fileCall (c : FileCall) :
    (fileCall c).run.run s = ((if s.fails s.trace.length then .error c else .ok ()),
      { s with trace := s.trace ++ [(c, s.fails s.trace.length)] }) := rfl

theorem run_bind_file {α β : Type} (x : FileM α) (f : α → FileM β) :
    (x >>= f).run.run s = match x.run.run s with
      | (.ok a, s') => (f a).run.run s'
      | (.error e, s') => (.error e, s') := by
  simp only [ExceptT.run_bind, StateT.run_bind]
  rcases x.run.run s with ⟨_ | _, _⟩ <;> rfl

theorem run_tryCatch_file {α : Type} (x : FileM α) (h : FileCall → FileM α) :
    (tryCatch x h).run.run s = match x.run.run s with
      | (.ok a, s') => (.ok a, s')
      | (.error e, s') => (h e).run.run s' := by
  show (ExceptT.tryCatch x h).run.run s = _
  simp only [ExceptT.tryCatch, ExceptT.run_mk, StateT.run_bind]
  change (StateT.run x s >>= _) = match StateT.run x s with | (.ok a, s') => _ | (.error e, s') => _
  rcases StateT.run x s with ⟨_ | _, _⟩ <;> rfl

/-- The deferred calls never fail; they only add to the trace. -/
theorem run_runDeferred (closes : List FileCall) :
    ∃ t, (runDeferred closes).run.run s = (.ok (), { s with trace := s.trace ++ t }) := by
  induction closes generalizing s with
  | nil => exact ⟨[], by simp only [List.append_nil]; rfl⟩
  | cons c cs ih =>
    simp only [runDeferred, run_bind_file, deferredCall, run_tryCatch_file, run_fileCall]
    obtain ⟨t, ht⟩ := ih { s with trace := s.trace ++ [(c, s.fails s.trace.length)] }
    refine ⟨(c, s.fails s.trace.length) :: t, ?_⟩
    split_ifs <;> simpa using ht

/-- A body with deferred calls returns what the body returns. -/
theorem withDeferred_result (closes : List FileCall) (body : FileM Unit) :
    ((withDeferred closes body).run.run s).1 = (body.run.run s).1 := by
  simp only [withDeferred, run_tryCatch_file, run_bind_file]
  rcases body.run.run s with ⟨_ | _, s'⟩ <;> obtain ⟨t, ht⟩ := run_runDeferred s' closes
  · simp only [ht]
    rfl
  · simp only [ht]

/-- Calls in sequence succeed exactly when none of them fails. -/
theorem run_forM_fileCall (cs : List FileCall) :
    ((cs.forM fileCall).run.run s).1.isOk = true ↔
      ∀ i < cs.length, s.fails (s.trace.length + i) = false := by
  induction cs generalizing s with
  | nil => simp only [List.forM_nil', List.length_nil, Nat.not_lt_zero, false_imp_iff, implies_true,
      iff_true]; rfl
  | cons c cs ih =>
    simp only [List.forM_cons', run_bind_file, run_fileCall]
    cases hc : s.fails s.trace.length
    · simp only [Bool.false_eq_true, if_false, ih, List.length_append, List.length_singleton,
        List.length_cons]
      constructor
      · intro h i hi
        cases i with
        | zero => simpa using hc
        | succ i => simpa [Nat.add_assoc, Nat.add_comm 1] using h i (by omega)
      · intro h i hi
        simpa [Nat.add_assoc, Nat.add_comm 1] using h (i + 1) (by omega)
    · simp only [↓reduceIte]
      exact ⟨fun h => by simp [Except.isOk, Except.toBool] at h,
        fun h => by simpa [hc] using h 0 (by simp)⟩

/-- A call, then the rest: the call's error, or the rest's result. -/
theorem run_fileCall_bind {β : Type} (c : FileCall) (f : Unit → FileM β) :
    ((fileCall c >>= f).run.run s).1 = if s.fails s.trace.length then .error c else
      ((f ()).run.run { s with trace := s.trace ++ [(c, s.fails s.trace.length)] }).1 := by
  rw [run_bind_file, run_fileCall]
  split_ifs <;> rfl

end Runs

/-- A loop making two calls per element makes the calls of the flattened list. -/
theorem forM_two_calls {α : Type} (l : List α) (f g : α → FileCall) :
    (l.forM fun e => do fileCall (f e); fileCall (g e)) =
      (l.flatMap fun e => [f e, g e]).forM fileCall := by
  induction l with
  | nil => rfl
  | cons e l ih => simp [List.flatMap_cons, List.forM_append, ih, bind_assoc]

theorem length_flatMap_two {α β : Type} (l : List α) (f g : α → β) :
    (l.flatMap fun e => [f e, g e]).length = 2 * l.length := by
  induction l with
  | nil => rfl
  | cons e l ih =>
    simp only [List.flatMap_cons, List.length_append, ih, List.length_cons, List.length_nil]; omega

/-! ### What the two functions return -/

/-- **`writeTarGz` drops the errors of its `Close` calls.** It returns `nil` exactly when the
file's creation and the header and data writes of every member succeed: the tar trailer, the gzip
flush and footer and the file's write-back cannot make it fail. -/
theorem writeTarGz_ok_iff (path : String) (files : FileMap) (fails : Nat → Bool) :
    ((Disk.writeTarGz path files).run.run ⟨fails, []⟩).1.isOk = true ↔
      fails 0 = false ∧ ∀ i < 2 * files.entries.length, fails (1 + i) = false := by
  rw [Disk.writeTarGz, run_fileCall_bind]
  cases h0 : fails 0
  · simp only [List.length_nil, h0, Bool.false_eq_true, ↓reduceIte, withDeferred_result,
      forM_two_calls, run_forM_fileCall, List.nil_append, List.length_singleton, true_and]
    rw [length_flatMap_two]
  · simp [h0, Except.isOk, Except.toBool]

/-- **`copyFile` drops the errors of its `Close` calls.** It returns `nil` exactly when the open,
the create, the copy and the `Sync` succeed. -/
theorem copyFile_ok_iff (src dst : String) (fails : Nat → Bool) :
    ((Disk.copyFile src dst).run.run ⟨fails, []⟩).1.isOk = true ↔
      fails 0 = false ∧ fails 1 = false ∧ fails 2 = false ∧ fails 3 = false := by
  simp only [Disk.copyFile, run_fileCall_bind, withDeferred_result, run_fileCall, List.length_nil,
    List.nil_append, List.length_singleton, List.length_append]
  split_ifs <;> simp_all [Except.isOk, Except.toBool]

/-! ### A run whose gzip stream is cut short -/

/-- The members `runBackupWorker` packs, here empty. -/
def backupMembers : FileMap :=
  ⟨[("metadata.json", []), ("resources.yaml", []), ("snapshots.yaml", [])], by decide⟩

/-- The files in which only the ninth call fails: for `writeTarGz` of three members, the gzip
writer's `Close`, which flushes the compressed stream and writes its footer. -/
def ninthCallFails (n : Nat) : Bool := n == 8

/-- The files in which only the fifth call fails: for `copyFile`, the destination's `Close`. -/
def fifthCallFails (n : Nat) : Bool := n == 4

/-- How the backup run goes on once `writeTarGz` has returned, when every other step returns
`nil`: an error fails it with the error's text, `nil` lets it store the archive. -/
def Outcome.ofArchive (r : Except FileCall Unit) (text : FileCall → String) : Outcome :=
  match r with
  | .ok () => .succeeded
  | .error c => .stepFailed (text c)

/-- An S3 location. -/
def archiveS3 : BackupStorageLocation :=
  ⟨"primary", .s3, some ⟨"backups", "", "", ⟨"", ""⟩⟩, none, true⟩

/-- When the gzip writer's `Close` fails, the archive lacks the end of its compressed stream, yet
`writeTarGz` returns `nil`; the worker then uploads it and records `Completed` with its location.
`copyFile` returns `nil` the same way when the destination's `Close` fails. -/
theorem failed_close_recorded_completed (text : FileCall → String) :
    (Disk.writeTarGz "/tmp/backup-worker/backup.tar.gz" backupMembers).run.run ⟨ninthCallFails, []⟩ =
        (.ok (), ⟨ninthCallFails,
          [(.create "/tmp/backup-worker/backup.tar.gz", false),
            (.writeHeader "metadata.json", false), (.write "metadata.json", false),
            (.writeHeader "resources.yaml", false), (.write "resources.yaml", false),
            (.writeHeader "snapshots.yaml", false), (.write "snapshots.yaml", false),
            (.close "tar", false), (.close "gzip", true),
            (.close "/tmp/backup-worker/backup.tar.gz", false)]⟩) ∧
      (finishBackup [] (getSecretFrom []) archiveS3 ⟨"Backup", "nightly", "apps"⟩ "20260101T000000Z"
          Status.initial 0 0
          (Outcome.ofArchive ((Disk.writeTarGz "/tmp/backup-worker/backup.tar.gz" backupMembers).run.run
            ⟨ninthCallFails, []⟩).1 text)) =
        ⟨some (completedBackupStatus Status.initial
            "s3://backups/cluster-unknown/backup/apps/nightly/20260101T000000Z/backup.tar.gz" 0),
          some "s3://backups/cluster-unknown/backup/apps/nightly/20260101T000000Z/backup.tar.gz"⟩ ∧
      ((Disk.copyFile "/tmp/backup-worker/backup.tar.gz" "/data/backup.tar.gz").run.run
          ⟨fifthCallFails, []⟩).1 = .ok () := by
  -- run the archive's calls one by one, then compare the traces
  refine ⟨?_, ?_, rfl⟩ <;>
    simp only [Disk.writeTarGz, backupMembers, withDeferred, runDeferred, deferredCall,
      run_bind_file, run_fileCall, run_tryCatch_file, List.forM_cons', List.forM_nil',
      List.length_nil, List.nil_append, List.length_singleton, List.length_append,
      List.cons_append, List.length_cons, ninthCallFails] <;>
    rfl

end BackupOperator
