import BackupOperator.Export.Sanitize
import BackupOperator.Restore.Apply
import BackupOperator.Archive.TarGz
import BackupOperator.Worker.Run

/-!
# A backup's archive, read back by a restore (`runBackupWorker`, `runRestoreWorker`)

Once storage is resolved, `runBackupWorker` exports the resources, then the snapshots (with a
timestamp the snapshot step reads itself), builds the metadata, and packs `metadata.json`,
`resources.yaml` and `snapshots.yaml` with `writeTarGz`, in the order its `range` loop visits the
map. `runRestoreWorker` unpacks the downloaded archive with `extractTarGz`, decodes
`resources.yaml`, appends the decoded `snapshots.yaml` when that member is not empty, and hands the
documents to `applyResources`.

The members are the bytes of texts, and the documents of the model are character lists: the text
encoding between them (`[]byte(s)`, and the parsers' reading of bytes) is a parameter with its
laws, as gzip and the tar header format are in `Archive.TarGz`.

* **`restoreDocuments_backupArchive`** — whatever the cluster, the snapshot store and the order in
  which the member map is visited, a `yaml` backup whose snapshot step succeeds writes an archive
  from which the restore decodes exactly the exported documents followed by the snapshots kept, and
  `applyResources` applies them in that order: the archive is the apply order.
-/

namespace BackupOperator

/-! ### Text and bytes -/

/-- `[]byte(s)` of a text, and the reading of bytes as text: a text is read back from its bytes,
and only the empty text has no bytes, as UTF-8 gives every character at least one byte. -/
structure TextCodec where
  encode : List Char → Bytes
  decode : Bytes → List Char
  decode_encode : ∀ s, decode (encode s) = s
  encode_eq_nil : ∀ s, encode s = [] ↔ s = []

/-! ### `buildBackupMetadata` -/

/-- `string(storage.Spec.Type)`. -/
def StorageLocationType.value : StorageLocationType → String
  | .s3 => "s3"
  | .nfs => "nfs"
  | .other t => t

/-- `json.MarshalIndent(m, "", "  ")` of a non-empty map of strings: each member as `json.Marshal`
writes it, with a space after the colon, on a line of its own indented by two spaces, in key
order, between a `{` line and a `}` line. -/
def marshalIndentStrings (m : List (String × String)) : List Char :=
  let members := (m.insertionSort fun a b => GoPath.lessEq a.1.data b.1.data).map fun p =>
    "  ".data ++ quote p.1 ++ ": ".data ++ quote p.2
  "\x7b\n".data ++ ",\n".data.intercalate members ++ "\n\x7d".data

/-- `buildBackupMetadata`. -/
def buildBackupMetadata (env : Env) (b : BackupIdentity) (storage : BackupStorageLocation)
    (timestamp : String) : List Char :=
  marshalIndentStrings [("kind", b.kind), ("name", b.name), ("namespace", b.ns),
    ("clusterID", clusterID env), ("timestamp", timestamp), ("storageType", storage.type.value)]

/-! ### The backup's archive -/

/-- The members of the map `runBackupWorker` packs, as its literal lists them. -/
def memberNames : List String := ["metadata.json", "resources.yaml", "snapshots.yaml"]

/-- An order in which a `range` loop visits the member map: Go does not fix it, so it is any order
of the three names. -/
def MemberOrder : Type := {keys : List String // keys.Perm memberNames}

/-- The member map: the metadata, the resources and the snapshots, under their names. -/
def backupMember (metadata resources snapshots : Bytes) (name : String) : Bytes :=
  if name = "metadata.json" then metadata
  else if name = "resources.yaml" then resources
  else snapshots

theorem backupMember_resources (metadata resources snapshots : Bytes) :
    backupMember metadata resources snapshots "resources.yaml" = resources := rfl

theorem backupMember_snapshots (metadata resources snapshots : Bytes) :
    backupMember metadata resources snapshots "snapshots.yaml" = snapshots := rfl

/-- The member map of `runBackupWorker`, listed in a visiting order. -/
def backupFiles (order : MemberOrder) (metadata resources snapshots : Bytes) : FileMap :=
  ⟨order.1.map fun k => (k, backupMember metadata resources snapshots k), by
    rw [List.map_map]
    exact (List.map_id' _ ▸ order.2.nodup_iff.mpr (by decide))⟩

/-- The identity `storeArtifact` reads of the backup. -/
def SnapshotRequest.identity (r : SnapshotRequest) : BackupIdentity :=
  ⟨r.backup.kind, r.name, r.backup.ns⟩

/-- `runBackupWorker` once storage is resolved, up to the upload: the archive it writes, and the
snapshot store after the snapshot step. The error is the snapshot step's. -/
def backupArchive (yamlMarshal : Object → List Char) (codec : TextCodec) (gz : Compression)
    (fmt : TarFormat) (env : Env) (storage : BackupStorageLocation) (r : SnapshotRequest)
    (c : Cluster) (store : SnapshotStore) (timestamp snapshotTimestamp : String)
    (order : MemberOrder) : Except String (Bytes × SnapshotStore) := do
  let resources := exportResources yamlMarshal r.backup c
  let (snapshots, store') ← exportSnapshots yamlMarshal r c store snapshotTimestamp
  let metadata := buildBackupMetadata env r.identity storage timestamp
  pure (writeTarGz gz fmt (backupFiles order (codec.encode metadata) (codec.encode resources)
    (codec.encode snapshots)), store')

/-! ### The restore's documents -/

/-- `files[name]` of the extracted map: a member that is not there reads as empty. -/
def memberBytes (files : List (String × Bytes)) (name : String) : Bytes :=
  (files.lookup name).getD []

/-- `runRestoreWorker` from the downloaded archive to the documents it hands to `applyResources`:
unpack, decode `resources.yaml`, and append the decoded `snapshots.yaml` when that member is not
empty. The error is the first failing step's. -/
def restoreDocuments (codec : TextCodec) (gz : Compression) (fmt : TarFormat) (dec : Decoders)
    (archive : Bytes) : Except String (List Object) := do
  let files ← extractTarGz gz fmt archive
  let resourceObjects ← decodeYAMLDocuments dec (codec.decode (memberBytes files "resources.yaml"))
  if (memberBytes files "snapshots.yaml").length > 0 then
    let snapshotObjects ←
      decodeYAMLDocuments dec (codec.decode (memberBytes files "snapshots.yaml"))
    pure (resourceObjects ++ snapshotObjects)
  else pure resourceObjects

/-! ### Reading the members back -/

theorem lookup_map_pair {f : String → Bytes} {k : String} {keys : List String} (hk : k ∈ keys) :
    (keys.map fun k => (k, f k)).lookup k = some (f k) := by
  induction keys with
  | nil => cases hk
  | cons k' keys ih =>
    by_cases he : k = k'
    · subst he
      simp [List.lookup_cons]
    · simp [List.lookup_cons, beq_false_of_ne he, ih ((List.mem_cons.mp hk).resolve_left he)]

/-- The restore unpacks the archive of a member map and reads every member back, whatever the
order in which the map was visited. -/
theorem extractTarGz_backupFiles (gz : Compression) (fmt : TarFormat) (order : MemberOrder)
    (metadata resources snapshots : Bytes) :
    ∃ files, extractTarGz gz fmt (writeTarGz gz fmt (backupFiles order metadata resources snapshots)) =
      .ok files ∧ ∀ k ∈ memberNames, memberBytes files k = backupMember metadata resources snapshots k := by
  set F := backupFiles order metadata resources snapshots
  refine ⟨F.entries.filter fun e => !e.2.isEmpty, ?_, fun k hk => ?_⟩
  · simp only [extractTarGz, writeTarGz, gz.decompress_compress, bind, Except.bind]
    simpa using readEntries_writeTar fmt F.entries [] _ (by simpa using F.keys_nodup)
      (Nat.lt_succ_self _)
  · rw [memberBytes, lookup_filter_nonempty _ F.keys_nodup]
    simp only [F, backupFiles, lookup_map_pair (order.2.mem_iff.mpr hk), Option.getD_some]

/-- An exported document of a cluster whose stored objects all have a kind is not empty. -/
theorem ne_nil_of_mem_exportSelection {b : BackupObject} {c : Cluster} {o : Object}
    (hkind : ∀ so ∈ c.objects, so.object.kind ≠ "") (h : o ∈ exportSelection b c) : o ≠ [] := by
  obtain ⟨-, -, so, hso, -, -, -, rfl⟩ := mem_exportSelection h
  intro he
  exact hkind so hso (by rw [← kind_sanitizeObject, he]; rfl)

/-! ### The round trip -/

section RoundTrip

variable {marshal : Object → List Char} (hy : YamlOutput marshal)
include hy

/-- **The archive is the apply order.** For every cluster whose stored objects have a kind, every
snapshot store that holds `VolumeSnapshot`s and every order in which the member map is visited, a
`yaml` backup whose snapshot step keeps the snapshots `snaps` writes an archive from which the
restore decodes the exported documents followed by `snaps`, given a parser that reads each
encoding back; and `applyResources` applies these documents in exactly that order. -/
theorem restoreDocuments_backupArchive (codec : TextCodec) (gz : Compression) (fmt : TarFormat)
    (dec : Decoders) (env : Env) (storage : BackupStorageLocation) (r : SnapshotRequest)
    (c : Cluster) (store store' : SnapshotStore) (timestamp snapshotTimestamp : String)
    (order : MemberOrder) (snaps : List Object) (hf : r.backup.exportFormat ≠ "json")
    (hkind : ∀ so ∈ c.objects, so.object.kind ≠ "") (hstore : store.HoldsSnapshots)
    (hsnap : snapshotDocuments r c store snapshotTimestamp = .ok (snaps, store'))
    (hdec : ∀ o ∈ exportSelection r.backup c ++ snaps, dec.yamlUnmarshal (marshal o) = .ok o ∧
      dec.yamlUnmarshal ("---\n".data ++ marshal o) = .ok o) :
    ∃ archive, backupArchive marshal codec gz fmt env storage r c store timestamp
        snapshotTimestamp order = .ok (archive, store') ∧
      restoreDocuments codec gz fmt dec archive = .ok (exportSelection r.backup c ++ snaps) ∧
      ∀ mapping defaultNamespace, applyResources (exportSelection r.backup c ++ snaps) mapping
        defaultNamespace = applyDocuments mapping defaultNamespace (exportSelection r.backup c ++ snaps) := by
  -- the snapshots kept are `VolumeSnapshot`s, so not empty, and they come last
  obtain ⟨-, kept, rfl, hkept⟩ := snapshotDocuments_holds hstore hsnap
  have hsnapKind : ∀ s ∈ kept.map sanitizeObject, s.kind = "VolumeSnapshot" := by
    simpa [kind_sanitizeObject] using hkept
  have hsnapNe : ∀ s ∈ kept.map sanitizeObject, s ≠ [] := fun s hs he => by
    have := hsnapKind s hs
    rw [he] at this
    exact absurd this (by decide)
  have hexport : exportSnapshots marshal r c store snapshotTimestamp =
      .ok (serializeDocuments marshal (kept.map sanitizeObject), store') := by
    rw [exportSnapshots_eq, hsnap]
    rfl
  refine ⟨_, by simp only [backupArchive, hexport]; rfl, ?_, fun mapping defaultNamespace =>
    congrArg (applyDocuments mapping defaultNamespace) (sortByPriority_append_of_last
      (exportSelection_sorted _ _) fun s hs => resourcePriority_volumeSnapshot (hsnapKind s hs))⟩
  -- the restore reads the members back and decodes them
  obtain ⟨files, hext, hmem⟩ := extractTarGz_backupFiles gz fmt order
    (codec.encode (buildBackupMetadata env r.identity storage timestamp))
    (codec.encode (exportResources marshal r.backup c))
    (codec.encode (serializeDocuments marshal (kept.map sanitizeObject)))
  have hres := decodeYAMLDocuments_exportResources hy dec r.backup c hf
    (fun o ho => ne_nil_of_mem_exportSelection hkind ho) fun o ho => hdec o (List.mem_append_left _ ho)
  have hsnaps : decodeYAMLDocuments dec (serializeDocuments marshal (kept.map sanitizeObject)) =
      .ok (kept.map sanitizeObject) :=
    decodeYAMLDocuments_serializeDocuments hy dec _ hsnapNe
      fun o ho => hdec o (List.mem_append_right _ ho)
  simp only [restoreDocuments, hext, bind, Except.bind, hmem "resources.yaml" (by decide),
    hmem "snapshots.yaml" (by decide), backupMember_resources, backupMember_snapshots,
    codec.decode_encode, hres, hsnaps]
  split_ifs with hlen
  · rfl
  · -- an empty snapshot member means no snapshot was kept
    cases hcons : kept.map sanitizeObject with
    | nil => rw [List.append_nil]; rfl
    | cons s rest =>
      refine absurd (List.length_pos.mpr fun he => ?_) hlen
      have hs := hsnapNe s (hcons ▸ List.mem_cons_self s rest)
      rw [codec.encode_eq_nil, hcons, serializeDocuments_cons _ _ _ (marshal_ne_nil hy s hs)] at he
      simp at he

end RoundTrip

/-! ### Laws that hold: a plain archive format -/

/-- A character as the four bytes of its code point, most significant first (UTF-32BE). -/
def utf32Char (c : Char) : Bytes :=
  [(c.toNat / 16777216 % 256).toUInt8, (c.toNat / 65536 % 256).toUInt8,
    (c.toNat / 256 % 256).toUInt8, (c.toNat % 256).toUInt8]

/-- Reading UTF-32BE. -/
def utf32Decode : Bytes → List Char
  | a :: b :: c :: d :: rest =>
    Char.ofNat (a.toNat * 16777216 + b.toNat * 65536 + c.toNat * 256 + d.toNat) :: utf32Decode rest
  | _ => []

theorem utf32Decode_flatMap (s : List Char) (rest : Bytes) :
    utf32Decode (s.flatMap utf32Char ++ rest) = s ++ utf32Decode rest := by
  have hbyte : ∀ n, (Nat.toUInt8 (n % 256)).toNat = n % 256 := fun n =>
    UInt8.toNat_ofNat_of_lt (Nat.mod_lt _ (by decide))
  induction s with
  | nil => rfl
  | cons c s ih =>
    have hc : c.toNat < 4294967296 := c.val.val.isLt
    simp only [List.flatMap_cons, utf32Char, List.cons_append, List.nil_append, List.append_assoc,
      utf32Decode, hbyte, ih]
    congr 1
    conv_rhs => rw [← Char.ofNat_toNat c]
    congr 1
    omega

/-- UTF-32BE meets the laws of a text encoding. -/
def utf32 : TextCodec where
  encode s := s.flatMap utf32Char
  decode := utf32Decode
  decode_encode s := by simpa [utf32Decode] using utf32Decode_flatMap s []
  encode_eq_nil s := by cases s <;> simp [utf32Char]

/-- A stream stored as it is meets the law of `compress/gzip`. -/
def storedStream : Compression := ⟨id, .ok, fun _ => rfl⟩

/-- `n` in unary, closed by a zero. -/
def unary (n : Nat) : Bytes := List.replicate n 1 ++ [0]

/-- Reading a number in unary. -/
def readUnary : Bytes → Option (Nat × Bytes)
  | [] => none
  | b :: rest =>
    if b = 0 then some (0, rest)
    else if b = 1 then (readUnary rest).map fun p => (p.1 + 1, p.2)
    else none

theorem readUnary_unary (n : Nat) (rest : Bytes) : readUnary (unary n ++ rest) = some (n, rest) := by
  induction n with
  | zero => rfl
  | succ n ih =>
    simp only [unary, List.replicate_succ, List.cons_append, List.append_assoc,
      List.nil_append] at ih ⊢
    simp [readUnary, ih]

/-- A header as a marker, its size and name length in unary, and its name in UTF-32BE; a zero
marker ends the archive. -/
def plainHeader (h : TarHeader) : Bytes :=
  1 :: (unary h.size ++ (unary h.name.length ++ h.name.data.flatMap utf32Char))

/-- Reading a `plainHeader`. -/
def readPlainHeader : Bytes → Except String (Option (TarHeader × Bytes))
  | [] => .error "unexpected EOF"
  | b :: rest =>
    if b = 0 then .ok none else
    match readUnary rest with
    | none => .error "invalid header"
    | some (size, rest) =>
      match readUnary rest with
      | none => .error "invalid header"
      | some (len, rest) =>
        .ok (some (⟨String.mk (utf32Decode (rest.take (4 * len))), size⟩, rest.drop (4 * len)))

theorem length_flatMap_utf32Char (s : List Char) : (s.flatMap utf32Char).length = 4 * s.length := by
  induction s with
  | nil => rfl
  | cons c s ih => simp [utf32Char, ih]; omega

/-- The plain header format meets the laws of `archive/tar`'s. -/
def plainTar : TarFormat where
  encode := plainHeader
  decode := readPlainHeader
  decode_encode h rest := by
    have hlen := length_flatMap_utf32Char h.name.data
    simp only [plainHeader, List.cons_append, List.append_assoc, readPlainHeader, readUnary_unary, String.length]
    rw [List.take_left' hlen, List.drop_left' hlen]
    have hname : utf32Decode (h.name.data.flatMap utf32Char) = h.name.data := by
      simpa [utf32Decode] using utf32Decode_flatMap h.name.data []
    rw [hname]
    rfl
  decode_trailer rest := rfl
  encode_ne_nil h := List.cons_ne_nil _ _

/-! ### A `ConfigMap` and a snapshot, through the archive -/

/-- A cluster serving `configmaps`, with a `ConfigMap` and a PVC `data` in `apps`. -/
def appsWithClaim : Cluster :=
  ⟨[⟨"v1", [⟨"configmaps", "ConfigMap", true, ["get", "list"]⟩]⟩], ["apps"],
    [⟨"", "configmaps", "apps", settingsIn "apps"⟩,
      ⟨"", "persistentvolumeclaims", "apps", pvcObject "data"⟩], fun _ => false⟩

/-- The snapshot `nightly` takes of the claim `data`. -/
def dataSnapshot : Object := snapshotObject "nightly" none "20260101T000000Z" "apps" "data"

/-- An encoder that writes a `VolumeSnapshot` as one line and any other document as another. -/
def kindLineMarshal (m : Object) : List Char :=
  if m.kind = "VolumeSnapshot" then "kind: VolumeSnapshot\n".data else "kind: Other\n".data

theorem kindLineMarshal_yamlOutput : YamlOutput kindLineMarshal :=
  ⟨fun m _ => by unfold kindLineMarshal; split <;> rfl,
    fun m _ => by unfold kindLineMarshal; split <;> decide,
    fun m _ => by unfold kindLineMarshal; split <;> decide⟩

/-- A parser that reads the two lines back as the `ConfigMap` of `apps` and the snapshot of its
claim. -/
def appsDecoders : Decoders :=
  ⟨fun s =>
    if s = "kind: VolumeSnapshot\n".data ∨ s = "---\nkind: VolumeSnapshot\n".data then
      .ok (sanitizeObject dataSnapshot)
    else if s = "kind: Other\n".data ∨ s = "---\nkind: Other\n".data then
      .ok (sanitizeObject (settingsIn "apps"))
    else .error "unknown document",
    fun _ => .error "not a JSON stream"⟩

end BackupOperator
