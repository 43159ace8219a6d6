import BackupOperator.Export.Resources

/-!
# The document stream: `exportResources`'s framing and `decodeYAMLDocuments`

The exporter writes each document as `"---\n"` followed by its encoding: `json.Marshal` for the
`json` format, `sigs.k8s.io/yaml.Marshal` otherwise. The restore reads the stream back with
`yaml.NewYAMLOrJSONDecoder`, which (for a stream that does not begin with `{`) cuts it into
documents with `YAMLReader` (a line that begins with `---` ends the document before it) and
unmarshals each into a map, skipping empty ones.

`json.Marshal` is modelled as the encoder it is (compact, keys sorted, `encoding/json`'s string
escapes). The YAML encoder and the two parsers are library code: they are parameters here.

* `json_export_decodes_as_one_document` — `json.Marshal` ends a document without a newline, so
  the `---` written before the next document is not at the start of a line: two exported objects
  come back as at most one.
* **`yamlDocuments_serializeDocuments`** — with an encoder whose output ends with a newline and
  has no line beginning with `---` (`YamlOutput`), the reader cuts a `yaml` export into exactly
  the exported encodings; `decodeYAMLDocuments_exportResources` then reads the export back as the
  selected objects, given a parser that reads each encoding back.
-/

namespace BackupOperator

open GoPath

/-! ### `json.Marshal` -/

/-- The lower-case hexadecimal digit of a number below 16. -/
def hexDigit (n : Nat) : Char := Nat.digitChar n

/-- `encoding/json`'s escape of one character of a string: quote and backslash, the short
escapes for newline, carriage return and tab, `\u00XX` for the other control characters, and the
HTML-safe escapes of `<`, `>`, `&`, U+2028 and U+2029. -/
def escapeChar (c : Char) : List Char :=
  if c = '"' then ['\\', '"']
  else if c = '\\' then ['\\', '\\']
  else if c = '\n' then ['\\', 'n']
  else if c = '\r' then ['\\', 'r']
  else if c = '\t' then ['\\', 't']
  else if c.toNat < 0x20 ∨ c = '<' ∨ c = '>' ∨ c = '&' then
    ['\\', 'u', '0', '0', hexDigit (c.toNat / 16), hexDigit (c.toNat % 16)]
  else if c.toNat = 0x2028 then "\\u2028".data
  else if c.toNat = 0x2029 then "\\u2029".data
  else [c]

/-- A JSON string literal. -/
def quote (s : String) : List Char := '"' :: s.data.flatMap escapeChar ++ ['"']

/-- Elements joined by commas. -/
def joinComma : List (List Char) → List Char
  | [] => []
  | [x] => x
  | x :: xs => x ++ ',' :: joinComma xs

mutual
/-- `json.Marshal` of a value: compact, with the members of an object sorted by key. -/
def encodeValue : Value → List Char
  | .null => "null".data
  | .bool b => if b then "true".data else "false".data
  | .num n => (toString n).data
  | .str s => quote s
  | .arr vs => '[' :: joinComma (encodeList vs) ++ [']']
  | .obj fs =>
    '{' :: joinComma (((encodeFields fs).insertionSort fun a b => lessEq a.1.data b.1.data).map (·.2)) ++ ['}']
/-- The encoded elements of an array. -/
def encodeList : List Value → List (List Char)
  | [] => []
  | v :: vs => encodeValue v :: encodeList vs
/-- The encoded members of an object, with their keys. -/
def encodeFields : List (String × Value) → List (String × List Char)
  | [] => []
  | (k, v) :: fs => (k, quote k ++ ':' :: encodeValue v) :: encodeFields fs
end

/-- `json.Marshal(obj.Object)`. -/
def jsonMarshal (m : Object) : List Char := encodeValue (.obj m)

/-! ### The exporter's stream -/

/-- The serialization loop of `exportResources`: `"---\n"` and the encoding of every document
whose encoding is not empty. -/
def serializeDocuments (marshal : Object → List Char) (objs : List Object) : List Char :=
  objs.flatMap fun obj => if marshal obj = [] then [] else "---\n".data ++ marshal obj

/-- `exportResources`: the selected documents, serialized in the request's format. -/
def exportResources (yamlMarshal : Object → List Char) (b : BackupObject) (c : Cluster) :
    List Char :=
  serializeDocuments (if b.exportFormat = "json" then jsonMarshal else yamlMarshal)
    (exportSelection b c)

/-! ### `decodeYAMLDocuments` -/

/-- Drop the carriage return of a `\r\n` line end. -/
def dropCR (line : List Char) : List Char :=
  if line.getLast? = some '\r' then line.dropLast else line

/-- `LineReader.Read`, repeated until the end of the data: every line, with its end of line
(`\n` or `\r\n`) replaced by `\n`; a last line without an end of line also ends in `\n`. The
current line is accumulated in `cur`. -/
def readLines : List Char → List Char → List (List Char)
  | [], cur => if cur = [] then [] else [cur ++ ['\n']]
  | c :: rest, cur =>
    if c = '\n' then (dropCR cur ++ ['\n']) :: readLines rest [] else readLines rest (cur ++ [c])

/-- `YAMLReader.Read`, repeated until `io.EOF`: the documents read, and the error that ended the
reading, if any. A line beginning with `---` ends a non-empty document; followed by anything but
spaces or a comment it is an invalid separator. A separator before any content is kept in the
document it begins. -/
def yamlDocuments : List (List Char) → List Char → List (List Char) × Option String
  | [], buffer => (if buffer = [] then [] else [buffer], none)
  | line :: lines, buffer =>
    if "---".data.isPrefixOf line then
      let trimmed := trimSpace (line.drop 3)
      if trimmed ≠ [] ∧ trimmed.head? ≠ some '#' then
        ([], some ("invalid Yaml document separator: " ++ String.mk trimmed))
      else if buffer ≠ [] then
        let rest := yamlDocuments lines []
        (buffer :: rest.1, rest.2)
      else yamlDocuments lines (buffer ++ line)
    else yamlDocuments lines (buffer ++ line)

/-- The decoders the restore uses: `sigs.k8s.io/yaml.Unmarshal` of one document into a map, and
`json.Decoder` over a stream of JSON values. -/
structure Decoders where
  yamlUnmarshal : List Char → Except String Object
  jsonStream : List Char → Except String (List Object)

/-- The loop of `decodeYAMLDocuments` over the documents read: unmarshal each, skip the empty
ones, stop at the first error; then the reader's own error, if it stopped with one. -/
def decodeDocuments (unmarshal : List Char → Except String Object) :
    List (List Char) → Option String → Except String (List Object)
  | [], none => .ok []
  | [], some e => .error e
  | doc :: docs, e => do
    let raw ← unmarshal doc
    let rest ← decodeDocuments unmarshal docs e
    pure (if raw.isEmpty then rest else raw :: rest)

/-- `GuessJSONStream`: the data, after leading white space, begins with `{`. -/
def hasJSONPrefix (data : List Char) : Bool :=
  (data.dropWhile asciiSpace.contains).head? == some '{'

/-- `decodeYAMLDocuments`. -/
def decodeYAMLDocuments (dec : Decoders) (data : List Char) : Except String (List Object) :=
  if hasJSONPrefix data then (dec.jsonStream data).map (·.filter (!·.isEmpty))
  else
    let read := yamlDocuments (readLines data []) []
    decodeDocuments dec.yamlUnmarshal read.1 read.2

/-- Whatever the documents unmarshal to, one document decodes to at most one object. -/
theorem decodeDocuments_single (unmarshal : List Char → Except String Object) (doc : List Char)
    (objs : List Object) (h : decodeDocuments unmarshal [doc] none = .ok objs) :
    objs.length ≤ 1 := by
  simp only [decodeDocuments, bind, Except.bind, pure, Except.pure] at h
  split at h
  · cases h
  · split_ifs at h <;> cases h <;> simp

/-! ### Two JSON documents -/

/-- A `ConfigMap` named `a`. -/
def configA : Object :=
  [("apiVersion", .str "v1"), ("kind", .str "ConfigMap"), ("metadata", .obj [("name", .str "a")])]

/-- A `ConfigMap` named `b`. -/
def configB : Object :=
  [("apiVersion", .str "v1"), ("kind", .str "ConfigMap"), ("metadata", .obj [("name", .str "b")])]

/-- Two `ConfigMap`s exported in the `json` format come back as at most one object, whatever the
YAML and JSON parsers do: the stream `---\n{..a..}---\n{..b..}` has one line beginning with `---`,
so the reader returns it whole, as one document. -/
theorem json_export_decodes_as_one_document (dec : Decoders) :
    serializeDocuments jsonMarshal [configA, configB] =
        ("---\n\x7b\"apiVersion\":\"v1\",\"kind\":\"ConfigMap\",\"metadata\":\x7b\"name\":\"a\"\x7d\x7d" ++
          "---\n\x7b\"apiVersion\":\"v1\",\"kind\":\"ConfigMap\",\"metadata\":\x7b\"name\":\"b\"\x7d\x7d").data ∧
      decodeYAMLDocuments dec (serializeDocuments jsonMarshal [configA, configB]) ≠
        .ok [configA, configB] := by
  refine ⟨rfl, fun h => ?_⟩
  have hlen := decodeDocuments_single dec.yamlUnmarshal _ _ h
  simp at hlen

/-! ### The `yaml` format

`sigs.k8s.io/yaml.Marshal` ends a document with a newline, so every `---` the exporter writes
begins a line, and the reader cuts the stream exactly where the exporter joined it. -/

/-- What the framing needs of the YAML encoder's output for a non-empty map: it ends with a
newline, has no carriage return, and no line of it begins with `---` (a key or a string `---` is
quoted, and the lines of a block scalar are indented). -/
structure YamlOutput (marshal : Object → List Char) : Prop where
  newline : ∀ m : Object, m ≠ [] → (marshal m).getLast? = some '\n'
  no_cr : ∀ m : Object, m ≠ [] → '\r' ∉ marshal m
  no_separator : ∀ m : Object, m ≠ [] → ∀ line ∈ readLines (marshal m) [],
    "---".data.isPrefixOf line = false

/-- A document that is written is preceded by the separator. -/
theorem serializeDocuments_cons (marshal : Object → List Char) (o : Object) (os : List Object)
    (h : marshal o ≠ []) :
    serializeDocuments marshal (o :: os) =
      "---\n".data ++ (marshal o ++ serializeDocuments marshal os) := by
  simp [serializeDocuments, h]

/-- A stream whose first part ends with a newline is read as the lines of the first part, then
those of the rest. -/
theorem readLines_append (xs ys cur : List Char) (h : xs.getLast? = some '\n') :
    readLines (xs ++ ys) cur = readLines xs cur ++ readLines ys [] := by
  induction xs generalizing cur with
  | nil => cases h
  | cons c rest ih =>
    by_cases hr : rest = []
    · subst hr
      obtain rfl : c = '\n' := by simpa using h
      simp [readLines]
    · obtain ⟨d, rest, rfl⟩ := List.exists_cons_of_ne_nil hr
      simp only [List.getLast?_cons_cons] at h
      by_cases hc : c = '\n'
      · rw [List.cons_append, readLines, if_pos hc, readLines, if_pos hc, ih _ h, List.cons_append]
      · rw [List.cons_append, readLines, if_neg hc, readLines, if_neg hc, ih _ h]

/-- Without carriage returns, the lines of a stream that ends with a newline, put back together,
give the stream. -/
theorem flatten_readLines (xs cur : List Char) (h : xs.getLast? = some '\n') (hc : '\r' ∉ cur)
    (hx : '\r' ∉ xs) : (readLines xs cur).flatten = cur ++ xs := by
  induction xs generalizing cur with
  | nil => cases h
  | cons c rest ih =>
    have hdrop : dropCR cur = cur := by
      simp only [dropCR, ite_eq_right_iff]
      exact fun hl => absurd (List.mem_of_getLast?_eq_some hl) hc
    have hrest : '\r' ∉ rest := fun hm => hx (List.mem_cons_of_mem c hm)
    by_cases hr : rest = []
    · subst hr
      obtain rfl : c = '\n' := by simpa using h
      simp [readLines, hdrop]
    · obtain ⟨d, rest, rfl⟩ := List.exists_cons_of_ne_nil hr
      simp only [List.getLast?_cons_cons] at h
      by_cases hcn : c = '\n'
      · rw [readLines, if_pos hcn, List.flatten_cons, ih [] h (List.not_mem_nil _) hrest, hdrop, hcn]
        simp
      · have hcr : c ≠ '\r' := fun hcr => hx (hcr ▸ List.mem_cons_self c _)
        rw [readLines, if_neg hcn, ih _ h (by simp [hc, hcr.symm]) hrest]
        simp

/-- Lines none of which begins with `---` are added to the current document. -/
theorem yamlDocuments_append (ls rest : List (List Char)) (buffer : List Char)
    (h : ∀ line ∈ ls, "---".data.isPrefixOf line = false) :
    yamlDocuments (ls ++ rest) buffer = yamlDocuments rest (buffer ++ ls.flatten) := by
  induction ls generalizing buffer with
  | nil => simp
  | cons line ls ih =>
    simp only [List.cons_append, yamlDocuments, h line (List.mem_cons_self _ _),
      Bool.false_eq_true, ↓reduceIte, List.flatten_cons, List.append_eq]
    rw [ih _ fun l hl => h l (List.mem_cons_of_mem _ hl), List.append_assoc]

/-- The exporter's separator, read as a line of its own. -/
theorem readLines_separator (rest : List Char) :
    readLines ("---\n".data ++ rest) [] = "---\n".data :: readLines rest [] :=
  readLines_append _ _ _ rfl

/-- The separator ends a non-empty document. -/
theorem yamlDocuments_separator (lines : List (List Char)) (buffer : List Char)
    (hb : buffer ≠ []) :
    yamlDocuments ("---\n".data :: lines) buffer =
      (buffer :: (yamlDocuments lines []).1, (yamlDocuments lines []).2) := by
  have ht : trimSpace ['\n'] = [] := rfl
  simp [yamlDocuments, ht, hb]

/-- A separator before any content begins the first document. -/
theorem yamlDocuments_separator_first (lines : List (List Char)) :
    yamlDocuments ("---\n".data :: lines) [] = yamlDocuments lines "---\n".data := by
  have ht : trimSpace ['\n'] = [] := rfl
  simp [yamlDocuments, ht]

/-- A stream that begins with the separator is not taken for JSON. -/
theorem hasJSONPrefix_separator (rest : List Char) :
    hasJSONPrefix ("---\n".data ++ rest) = false := rfl

/-- A document that unmarshals to a non-empty map is kept, before the objects of the rest. -/
theorem decodeDocuments_cons_ok (unmarshal : List Char → Except String Object) (doc : List Char)
    (docs : List (List Char)) (e : Option String) (raw : Object) (h : unmarshal doc = .ok raw)
    (hr : raw ≠ []) :
    decodeDocuments unmarshal (doc :: docs) e = (decodeDocuments unmarshal docs e).map (raw :: ·) := by
  cases hd : decodeDocuments unmarshal docs e <;>
    simp [decodeDocuments, h, hr, hd, bind, Except.bind, pure, Except.pure, Except.map]

/-- Encodings that each unmarshal back to their non-empty map decode to those maps, in order. -/
theorem decodeDocuments_map (unmarshal : List Char → Except String Object)
    (marshal : Object → List Char) (objs : List Object) (hne : ∀ o ∈ objs, o ≠ [])
    (hdec : ∀ o ∈ objs, unmarshal (marshal o) = .ok o) :
    decodeDocuments unmarshal (objs.map marshal) none = .ok objs := by
  induction objs with
  | nil => rfl
  | cons o os ih =>
    rw [List.map_cons, decodeDocuments_cons_ok _ _ _ _ o (hdec o (List.mem_cons_self _ _))
      (hne o (List.mem_cons_self _ _)),
      ih (fun p hp => hne p (List.mem_cons_of_mem _ hp)) (fun p hp => hdec p (List.mem_cons_of_mem _ hp))]
    rfl

section Framing

variable {marshal : Object → List Char} (hy : YamlOutput marshal)
include hy

theorem marshal_ne_nil (o : Object) (ho : o ≠ []) : marshal o ≠ [] := by
  rintro h
  simpa [h] using hy.newline o ho

/-- The lines of one encoding are added to the current document. -/
theorem yamlDocuments_encoding (o : Object) (ho : o ≠ []) (rest buffer : List Char) :
    yamlDocuments (readLines (marshal o ++ rest) []) buffer =
      yamlDocuments (readLines rest []) (buffer ++ marshal o) := by
  have hl := hy.newline o ho
  rw [readLines_append _ _ _ hl, yamlDocuments_append _ _ _ (hy.no_separator o ho),
    flatten_readLines _ _ hl (List.not_mem_nil _) (hy.no_cr o ho), List.nil_append]

/-- Reading from the encoding of `o` in the middle of a document `buffer`: the document ends
with the encoding, and every later encoding is a document of its own. -/
theorem yamlDocuments_serialize_cons (o : Object) (os : List Object) (buffer : List Char)
    (hne : ∀ p ∈ o :: os, p ≠ []) :
    yamlDocuments (readLines (marshal o ++ serializeDocuments marshal os) []) buffer =
      ((buffer ++ marshal o) :: os.map marshal, none) := by
  have ho := hne o (List.mem_cons_self _ _)
  rw [yamlDocuments_encoding hy o ho]
  induction os generalizing o buffer with
  | nil => simp [serializeDocuments, yamlDocuments, readLines, marshal_ne_nil hy o ho]
  | cons o' os ih =>
    have ho' := hne o' (List.mem_cons_of_mem _ (List.mem_cons_self _ _))
    rw [serializeDocuments_cons _ _ _ (marshal_ne_nil hy o' ho'), readLines_separator,
      yamlDocuments_separator _ _ (by simp [marshal_ne_nil hy o ho]),
      yamlDocuments_encoding hy o' ho', ih o' [] (fun p hp => hne p (List.mem_cons_of_mem _ hp)) ho']
    simp

/-- **The `yaml` framing round trip.** For non-empty objects and an encoder whose output is as
`sigs.k8s.io/yaml.Marshal`'s, the reader cuts the exported stream into exactly the exported
encodings, the first with the separator before it, and stops without an error. -/
theorem yamlDocuments_serializeDocuments (objs : List Object) (hne : ∀ o ∈ objs, o ≠ []) :
    yamlDocuments (readLines (serializeDocuments marshal objs) []) [] =
      ((objs.map marshal).modifyHead ("---\n".data ++ ·), none) := by
  cases objs with
  | nil => rfl
  | cons o os =>
    rw [serializeDocuments_cons _ _ _ (marshal_ne_nil hy o (hne o (List.mem_cons_self _ _))),
      readLines_separator, yamlDocuments_separator_first, yamlDocuments_serialize_cons hy o os _ hne]
    rfl

/-- With a parser that reads each encoding back, with or without the separator before it, a
`yaml` export of non-empty objects decodes to the exported objects, in order. -/
theorem decodeYAMLDocuments_serializeDocuments (dec : Decoders) (objs : List Object)
    (hne : ∀ o ∈ objs, o ≠ [])
    (hdec : ∀ o ∈ objs, dec.yamlUnmarshal (marshal o) = .ok o ∧
      dec.yamlUnmarshal ("---\n".data ++ marshal o) = .ok o) :
    decodeYAMLDocuments dec (serializeDocuments marshal objs) = .ok objs := by
  cases objs with
  | nil => rfl
  | cons o os =>
    have ho := hne o (List.mem_cons_self _ _)
    have hs := serializeDocuments_cons marshal o os (marshal_ne_nil hy o ho)
    have hread := yamlDocuments_serializeDocuments hy (o :: os) hne
    rw [hs] at hread
    simp only [decodeYAMLDocuments, hs, hasJSONPrefix_separator, Bool.false_eq_true, ↓reduceIte,
      hread, List.map_cons, List.modifyHead]
    rw [decodeDocuments_cons_ok _ _ _ _ o (hdec o (List.mem_cons_self _ _)).2 ho,
      decodeDocuments_map _ _ os (fun p hp => hne p (List.mem_cons_of_mem _ hp))
        (fun p hp => (hdec p (List.mem_cons_of_mem _ hp)).1)]
    rfl

/-- The restore reads a `yaml` export back as the selected objects, in the order they were
exported, when each is non-empty and the parser reads its encoding back. -/
theorem decodeYAMLDocuments_exportResources (dec : Decoders) (b : BackupObject) (c : Cluster)
    (hf : b.exportFormat ≠ "json") (hne : ∀ o ∈ exportSelection b c, o ≠ [])
    (hdec : ∀ o ∈ exportSelection b c, dec.yamlUnmarshal (marshal o) = .ok o ∧
      dec.yamlUnmarshal ("---\n".data ++ marshal o) = .ok o) :
    decodeYAMLDocuments dec (exportResources marshal b c) = .ok (exportSelection b c) := by
  rw [exportResources, if_neg hf]
  exact decodeYAMLDocuments_serializeDocuments hy dec _ hne hdec

end Framing

end BackupOperator
