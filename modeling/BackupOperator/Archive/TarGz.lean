import Mathlib.Data.List.Nodup

/-!
# The backup archive (`writeTarGz`, `extractTarGz`)

The backup worker packs its members (`metadata.json`, `resources.yaml`, `snapshots.yaml`) into a
gzip-compressed tar archive, one entry per map key in the map's iteration order; the restore
worker unpacks every entry of non-zero size into a map and looks members up by name, a missing
member reading as empty.

The tar layout is modelled at the level of bytes: an entry is its header blocks, its data, and
zeros up to the next 512-byte boundary, and the archive ends with two zero blocks. How a header is
laid out (USTAR fields, checksum, PAX records for large sizes) and the gzip stream are
`archive/tar`'s and `compress/gzip`'s: they are parameters, with the laws those packages provide.
The reader is given one round of fuel per byte of the archive, and each round consumes a header.

* `extractTarGz_writeTarGz` — for every map, in every iteration order, the extracted map holds
  exactly the members with non-empty content, with the bytes written; so every lookup the restore
  makes yields the packed bytes.
-/

namespace BackupOperator

/-- A byte string. -/
abbrev Bytes := List UInt8

/-- `n` zero bytes. -/
def zeros (n : Nat) : Bytes := List.replicate n 0

/-- `blockPadding`: the zeros after `n` bytes of data up to the next 512-byte boundary. -/
def blockPadding (n : Nat) : Nat := (512 - n % 512) % 512

/-- The fields of a `tar.Header` the two workers use. -/
structure TarHeader where
  name : String
  size : Nat
  deriving DecidableEq, Repr

/-- `archive/tar`'s header format: the blocks `Writer.WriteHeader` emits for a header, and
`Reader.Next`'s reading of the blocks at the front of a stream (a header and what follows it, the
end of the archive, or an error). -/
structure TarFormat where
  encode : TarHeader → Bytes
  decode : Bytes → Except String (Option (TarHeader × Bytes))
  /-- `Next` reads back the header `WriteHeader` wrote. -/
  decode_encode : ∀ h rest, decode (encode h ++ rest) = .ok (some (h, rest))
  /-- Two zero blocks end the archive. -/
  decode_trailer : ∀ rest, decode (zeros 1024 ++ rest) = .ok none
  /-- A header takes at least one block. -/
  encode_ne_nil : ∀ h, encode h ≠ []

/-- `compress/gzip`: the reader returns the bytes the writer was given. -/
structure Compression where
  compress : Bytes → Bytes
  decompress : Bytes → Except String Bytes
  decompress_compress : ∀ b, decompress (compress b) = .ok b

/-- A `map[string][]byte`, listed in the order a `range` loop visits it. -/
structure FileMap where
  entries : List (String × Bytes)
  keys_nodup : (entries.map (·.1)).Nodup

/-! ### Writing -/

/-- One entry: `WriteHeader` with name, mode `0600` and size, `Write` of the data, and the padding
the next `WriteHeader` (or `Close`) writes. -/
def entryBytes (fmt : TarFormat) (e : String × Bytes) : Bytes :=
  fmt.encode ⟨e.1, e.2.length⟩ ++ e.2 ++ zeros (blockPadding e.2.length)

/-- The tar stream of `writeTarGz`: its entries, then the two zero blocks of `Close`. -/
def writeTar (fmt : TarFormat) (entries : List (String × Bytes)) : Bytes :=
  entries.flatMap (entryBytes fmt) ++ zeros 1024

/-- `writeTarGz`. -/
def writeTarGz (gz : Compression) (fmt : TarFormat) (files : FileMap) : Bytes :=
  gz.compress (writeTar fmt files.entries)

/-! ### Reading -/

/-- `files[name] = data`. -/
def insertFile (files : List (String × Bytes)) (name : String) (data : Bytes) :
    List (String × Bytes) :=
  files.filter (·.1 != name) ++ [(name, data)]

/-- The loop of `extractTarGz`: `Next` until the end of the archive, skipping entries of size
zero, reading the data of the others with `io.ReadFull` and discarding their padding. -/
def readEntries (fmt : TarFormat) : Nat → Bytes → List (String × Bytes) →
    Except String (List (String × Bytes))
  | 0, _, _ => .error "archive longer than its fuel"
  | fuel + 1, stream, files =>
    match fmt.decode stream with
    | .error e => .error e
    | .ok none => .ok files
    | .ok (some (h, rest)) =>
      if h.size = 0 then readEntries fmt fuel rest files
      else if rest.length < h.size then .error "unexpected EOF"
      else
        let after := rest.drop h.size
        if after.length < blockPadding h.size then .error "unexpected EOF"
        else readEntries fmt fuel (after.drop (blockPadding h.size))
          (insertFile files h.name (rest.take h.size))

/-- `extractTarGz`. -/
def extractTarGz (gz : Compression) (fmt : TarFormat) (archive : Bytes) :
    Except String (List (String × Bytes)) := do
  let tar ← gz.decompress archive
  readEntries fmt (tar.length + 1) tar []

/-! ### The round trip -/

theorem insertFile_of_not_mem {files : List (String × Bytes)} {name : String}
    (h : name ∉ files.map (·.1)) (data : Bytes) :
    insertFile files name data = files ++ [(name, data)] := by
  rw [insertFile, List.filter_eq_self.mpr]
  intro e he
  simp only [bne_iff_ne, ne_eq]
  rintro rfl
  exact h (List.mem_map_of_mem _ he)

theorem length_entryBytes_pos (fmt : TarFormat) (e : String × Bytes) :
    0 < (entryBytes fmt e).length := by
  have := List.length_pos_of_ne_nil (fmt.encode_ne_nil ⟨e.1, e.2.length⟩)
  simp only [entryBytes, List.length_append]
  omega

/-- Reading an entry back: the header, then (for non-empty data) the data and its padding. -/
theorem readEntries_cons (fmt : TarFormat) (fuel : Nat) (e : String × Bytes) (rest : Bytes)
    (files : List (String × Bytes)) (hk : e.1 ∉ files.map (·.1)) :
    readEntries fmt (fuel + 1) (entryBytes fmt e ++ rest) files =
      readEntries fmt fuel rest (if e.2.isEmpty then files else files ++ [e]) := by
  obtain ⟨name, data⟩ := e
  rw [readEntries, entryBytes, List.append_assoc, List.append_assoc, fmt.decode_encode]
  dsimp only
  by_cases hd : data = []
  · subst hd
    simp [blockPadding, zeros]
  · have hlen : data.length ≠ 0 := by simpa using hd
    rw [if_neg hlen, if_neg (by simp), List.drop_left, List.take_left,
      if_neg (by simp [zeros]), List.drop_left' (by simp [zeros]), insertFile_of_not_mem hk]
    simp [hd]

theorem readEntries_writeTar (fmt : TarFormat) (es : List (String × Bytes))
    (files : List (String × Bytes)) (fuel : Nat) (hk : (files.map (·.1) ++ es.map (·.1)).Nodup)
    (hf : (writeTar fmt es).length < fuel) :
    readEntries fmt fuel (writeTar fmt es) files = .ok (files ++ es.filter fun e => !e.2.isEmpty) := by
  obtain ⟨fuel, rfl⟩ : ∃ f, fuel = f + 1 := ⟨fuel - 1, by omega⟩
  induction es generalizing files fuel with
  | nil =>
    have ht := fmt.decode_trailer []
    rw [List.append_nil] at ht
    simp [writeTar, readEntries, ht]
  | cons e es ih =>
    have hsplit : writeTar fmt (e :: es) = entryBytes fmt e ++ writeTar fmt es := by
      simp [writeTar, List.append_assoc]
    have hpos := length_entryBytes_pos fmt e
    rw [hsplit] at hf ⊢
    simp only [List.length_append] at hf
    have he : e.1 ∉ files.map (·.1) := fun h =>
      (List.nodup_append.mp hk).2.2 h (List.mem_cons_self _ _)
    obtain ⟨fuel, rfl⟩ : ∃ f, fuel = f + 1 := ⟨fuel - 1, by omega⟩
    rw [readEntries_cons fmt _ e _ files he]
    cases hd : e.2.isEmpty
    · rw [if_neg (by simp), ih (files ++ [e]) (by simpa [List.append_assoc] using hk) fuel (by omega)]
      simp [List.filter_cons, hd, List.append_assoc]
    · rw [if_pos rfl, ih files ((List.nodup_middle.mp (by simpa using hk)).of_cons) fuel (by omega)]
      simp [List.filter_cons, hd]

theorem lookup_filter_nonempty (l : List (String × Bytes)) (hl : (l.map (·.1)).Nodup)
    (k : String) :
    ((l.filter fun e => !e.2.isEmpty).lookup k).getD [] = (l.lookup k).getD [] := by
  induction l with
  | nil => rfl
  | cons e es ih =>
    obtain ⟨name, data⟩ := e
    simp only [List.map_cons, List.nodup_cons] at hl
    by_cases hk : k = name
    · subst hk
      have hnone : es.lookup k = none := by
        simp only [List.lookup_eq_none_iff, bne_iff_ne]
        rintro ⟨k', v⟩ hp rfl
        exact hl.1 (List.mem_map_of_mem _ hp)
      cases data <;> simp [List.filter_cons, ih hl.2, hnone]
    · have hne : (k == name) = false := by simpa using hk
      cases data <;> simp [List.filter_cons, List.lookup_cons, hne, ih hl.2]

/-- **The archive round trip.** For every map of members, listed in any iteration order,
`extractTarGz` of what `writeTarGz` wrote is exactly the members with non-empty content, with
their bytes; so a lookup that reads a missing member as empty yields the packed bytes of every
member. -/
theorem extractTarGz_writeTarGz (gz : Compression) (fmt : TarFormat) (files : FileMap) :
    extractTarGz gz fmt (writeTarGz gz fmt files) =
        .ok (files.entries.filter fun e => !e.2.isEmpty) ∧
      ∀ k, ((files.entries.filter fun e => !e.2.isEmpty).lookup k).getD [] =
        (files.entries.lookup k).getD [] := by
  refine ⟨?_, lookup_filter_nonempty files.entries files.keys_nodup⟩
  simp only [extractTarGz, writeTarGz, gz.decompress_compress, bind, Except.bind]
  simpa using readEntries_writeTar fmt files.entries [] _ (by simpa using files.keys_nodup)
    (Nat.lt_succ_self _)

end BackupOperator
