import Mathlib.Data.List.Basic

/-!
# Go's `path` and `strings` helpers on character lists

The storage code builds object keys and file paths with `path.Join` / `filepath.Join` and takes
locations apart again with `strings.TrimPrefix`, `strings.TrimRight` and `strings.SplitN(s, "/", 2)`.
These are modelled on `List Char` (a Go string's characters), where the proofs live; callers
convert with `String.data` and `String.mk`. `filepath` on Linux is `path` (`FromSlash` is the
identity), and `strings.ToLower` is taken on ASCII.

`path.Clean` is the element-wise reading of the rules its documentation lists: replace runs of
slashes by one, drop `.` elements, cancel each `..` against the element before it, drop a `..`
that begins a rooted path, and answer `.` for an empty result.
-/

namespace BackupOperator.GoPath

/-- `strings.TrimPrefix(s, pre)`. -/
def trimPrefix (s pre : List Char) : List Char :=
  if pre.isPrefixOf s then s.drop pre.length else s

/-- `strings.TrimRight(s, cutset)` for a one-character cutset. -/
def trimRight (s : List Char) (c : Char) : List Char :=
  (s.reverse.dropWhile (· == c)).reverse

/-- `strings.Trim(s, cutset)` for a one-character cutset. -/
def trim (s : List Char) (c : Char) : List Char :=
  trimRight (s.dropWhile (· == c)) c

/-- `strings.Cut(s, sep)` for a one-character separator: the text before and after its first
occurrence. -/
def cut (sep : Char) : List Char → Option (List Char × List Char)
  | [] => none
  | c :: cs => if c = sep then some ([], cs) else (cut sep cs).map fun p => (c :: p.1, p.2)

/-- `strings.SplitN(s, sep, 2)`. -/
def splitN2 (s : List Char) (sep : Char) : List (List Char) :=
  match cut sep s with
  | none => [s]
  | some (a, b) => [a, b]

/-- The elements of a path: the text between its slashes. -/
def elements (p : List Char) : List (List Char) := p.splitOn '/'

/-- Rules 1–4 of `path.Clean` over the elements, keeping the output reversed in `acc`. -/
def cleanElements (rooted : Bool) : List (List Char) → List (List Char) → List (List Char)
  | acc, [] => acc
  | acc, e :: rest =>
    if e = [] ∨ e = ['.'] then cleanElements rooted acc rest
    else if e = ['.', '.'] then
      match acc with
      | t :: acc' =>
        if t = ['.', '.'] then cleanElements rooted (e :: acc) rest
        else cleanElements rooted acc' rest
      | [] => cleanElements rooted (if rooted then [] else [e]) rest
    else cleanElements rooted (e :: acc) rest

/-- `path.Clean`. -/
def clean (p : List Char) : List Char :=
  if p = [] then ['.'] else
    let rooted := p.head? = some '/'
    let out := ['/'].intercalate (cleanElements rooted [] (elements p)).reverse
    if rooted then '/' :: out else if out = [] then ['.'] else out

/-- The buffer `path.Join` fills before cleaning: non-empty elements, and every element after the
first non-empty one, separated by `/`. -/
def joinBuffer : List (List Char) → List Char → List Char
  | [], buf => buf
  | e :: es, buf =>
    if buf ≠ [] then joinBuffer es (buf ++ '/' :: e)
    else joinBuffer es e

/-- `path.Join(elem...)` (and `filepath.Join` on Linux). -/
def join (elems : List (List Char)) : List Char :=
  if elems.all (·.isEmpty) then [] else clean (joinBuffer elems [])

/-- `strings.ToLower` on ASCII. -/
def toLower (s : List Char) : List Char := s.map Char.toLower

/-- The ASCII white space `strings.TrimSpace` removes. -/
def asciiSpace : List Char := [' ', '\t', '\n', '\x0b', '\x0c', '\r']

/-- `strings.TrimSpace` on ASCII. -/
def trimSpace (s : List Char) : List Char :=
  ((s.dropWhile asciiSpace.contains).reverse.dropWhile asciiSpace.contains).reverse

/-- Go's `<` on strings: byte-wise, which on UTF-8 is the order of code points. -/
def less : List Char → List Char → Bool
  | _, [] => false
  | [], _ :: _ => true
  | c :: cs, d :: ds => c.toNat < d.toNat || (c = d && less cs ds)

/-- Go's `<=` on strings. -/
def lessEq (s t : List Char) : Bool := !less t s

/-! ### Lemmas for taking locations apart -/

@[simp] theorem trimPrefix_append (pre s : List Char) : trimPrefix (pre ++ s) pre = s := by
  simp [trimPrefix, List.isPrefixOf_iff_prefix]

/-- `strings.Cut` at the first separator. -/
theorem cut_append {sep : Char} {a : List Char} (ha : sep ∉ a) (b : List Char) :
    cut sep (a ++ sep :: b) = some (a, b) := by
  induction a with
  | nil => simp [cut]
  | cons c cs ih =>
    have hc : c ≠ sep := fun h => ha (h ▸ List.mem_cons_self c cs)
    simp [cut, hc, ih (fun h => ha (List.mem_cons_of_mem c h))]

/-- `strings.SplitN(a + "/" + b, "/", 2)` is `[a, b]` when `a` has no slash. -/
theorem splitN2_append {sep : Char} {a : List Char} (ha : sep ∉ a) (b : List Char) :
    splitN2 (a ++ sep :: b) sep = [a, b] := by
  simp [splitN2, cut_append ha]

/-! ### The elements a joined path ends with

`path.Clean` rewrites only `.`, `..` and empty elements, and a `..` cancels only the element before
it. Elements that are none of these and follow every element it rewrites come through unchanged:
whatever precedes them, a cleaned path ends with them. -/

/-- A path element that `path.Clean` keeps: not empty, without a slash, neither `.` nor `..`. -/
def IsPathElement (s : List Char) : Prop := s ≠ [] ∧ '/' ∉ s ∧ s ≠ ['.'] ∧ s ≠ ['.', '.']

instance (s : List Char) : Decidable (IsPathElement s) := inferInstanceAs (Decidable (_ ∧ _))

/-- A slash ends the elements before it. -/
theorem elements_append_cons (a b : List Char) :
    elements (a ++ '/' :: b) = elements a ++ elements b := by
  simp only [elements, List.splitOn]
  induction a with
  | nil => simp [List.splitOnP_cons]
  | cons c a ih =>
    obtain ⟨r, rs, hr⟩ := List.exists_cons_of_ne_nil (List.splitOnP_ne_nil (· == '/') a)
    rw [List.cons_append, List.splitOnP_cons, List.splitOnP_cons, ih, hr]
    split <;> rfl

/-- No element holds a slash. -/
theorem slash_not_mem_of_mem_elements {p e : List Char} (h : e ∈ elements p) : '/' ∉ e := by
  simp only [elements, List.splitOn] at h
  induction p generalizing e with
  | nil => simp_all [List.splitOnP_nil]
  | cons c p ih =>
    obtain ⟨r, rs, hr⟩ := List.exists_cons_of_ne_nil (List.splitOnP_ne_nil (· == '/') p)
    rw [List.splitOnP_cons] at h
    split at h
    · rcases List.mem_cons.mp h with rfl | h
      · exact List.not_mem_nil _
      · exact ih h
    · rename_i hc
      rw [hr, List.modifyHead_cons] at h
      rcases List.mem_cons.mp h with rfl | h
      · exact List.not_mem_cons_of_ne_of_not_mem (by rintro rfl; simp at hc)
          (ih (hr ▸ List.mem_cons_self _ _))
      · exact ih (hr ▸ List.mem_cons_of_mem _ h)

/-- A text without a slash is one element. -/
theorem elements_of_slash_not_mem {e : List Char} (h : '/' ∉ e) : elements e = [e] :=
  List.splitOnP_eq_single _ _ fun _ hc hs => h (beq_iff_eq.mp hs ▸ hc)

/-- A list of path elements, each read back as its own elements. -/
theorem flatMap_elements {es : List (List Char)} (h : ∀ e ∈ es, IsPathElement e) :
    es.flatMap elements = es := by
  induction es with
  | nil => rfl
  | cons e es ih =>
    simp only [List.flatMap_cons, elements_of_slash_not_mem (h e (List.mem_cons_self _ _)).2.1,
      ih fun e he => h e (List.mem_cons_of_mem _ he), List.singleton_append]

/-- The elements of the empty path end with no path element. -/
theorem not_suffix_elements_nil {N : List (List Char)} (hne : N ≠ [])
    (hpath : ∀ e ∈ N, IsPathElement e) : ¬N <:+ elements [] := fun h => by
  rcases List.suffix_cons_iff.mp h with rfl | h
  · exact (hpath [] (List.mem_singleton_self _)).1 rfl
  · exact hne (List.suffix_nil.mp h)

/-- `cleanElements` takes one element at a time. -/
theorem cleanElements_cons (rooted : Bool) (acc : List (List Char)) (e : List Char)
    (rest : List (List Char)) :
    cleanElements rooted acc (e :: rest) =
      cleanElements rooted (cleanElements rooted acc [e]) rest := by
  cases acc <;> simp only [cleanElements] <;> split_ifs <;> rfl

theorem cleanElements_append (rooted : Bool) (acc xs ys : List (List Char)) :
    cleanElements rooted acc (xs ++ ys) = cleanElements rooted (cleanElements rooted acc xs) ys := by
  induction xs generalizing acc with
  | nil => rfl
  | cons e xs ih => rw [List.cons_append, cleanElements_cons, ih, ← cleanElements_cons]

/-- Path elements are pushed as they are. -/
theorem cleanElements_of_isPathElement (rooted : Bool) {N : List (List Char)}
    (hpath : ∀ e ∈ N, IsPathElement e) (acc : List (List Char)) :
    cleanElements rooted acc N = N.reverse ++ acc := by
  induction N generalizing acc with
  | nil => rfl
  | cons e N ih =>
    obtain ⟨he, -, hdot, hdotdot⟩ := hpath e (List.mem_cons_self _ _)
    simp [cleanElements, he, hdot, hdotdot, ih fun e h => hpath e (List.mem_cons_of_mem _ h)]

/-- `cleanElements` outputs only elements it was given. -/
theorem mem_cleanElements {rooted : Bool} {acc es : List (List Char)} {x : List Char}
    (h : x ∈ cleanElements rooted acc es) : x ∈ acc ∨ x ∈ es := by
  induction es generalizing acc with
  | nil => exact .inl h
  | cons e es ih =>
    rw [cleanElements_cons] at h
    rcases ih h with h | h
    · cases acc <;> simp only [cleanElements] at h <;> split_ifs at h <;> aesop
    · exact .inr (List.mem_cons_of_mem _ h)

/-- **`path.Clean` keeps the path elements a path ends with.** -/
theorem suffix_elements_clean {p : List Char} {N : List (List Char)} (hN : N <:+ elements p)
    (hne : N ≠ []) (hpath : ∀ e ∈ N, IsPathElement e) : N <:+ elements (clean p) := by
  obtain ⟨F, hF⟩ := hN
  have hp : p ≠ [] := by
    rintro rfl
    exact not_suffix_elements_nil hne hpath ⟨F, hF⟩
  -- the cleaned elements: those of `F`, then `N`
  set C := (cleanElements (p.head? = some '/') [] F).reverse
  have hclean : (cleanElements (p.head? = some '/') [] (elements p)).reverse = C ++ N := by
    rw [← hF, cleanElements_append, cleanElements_of_isPathElement _ hpath]
    simp [C]
  have hslash : ∀ l ∈ C ++ N, '/' ∉ l := by
    intro l hl
    rcases List.mem_append.mp hl with hl | hl
    · rcases mem_cleanElements (List.mem_reverse.mp hl) with hl | hl
      · cases hl
      · exact slash_not_mem_of_mem_elements (hF ▸ List.mem_append_left N hl)
    · exact (hpath l hl).2.1
  have hel : elements (['/'].intercalate (C ++ N)) = C ++ N :=
    List.splitOn_intercalate _ '/' hslash (by simp [hne])
  simp only [clean, hp, if_false, hclean]
  split_ifs with hroot hout
  · rw [show '/' :: ['/'].intercalate (C ++ N) = [] ++ '/' :: ['/'].intercalate (C ++ N) from rfl,
      elements_append_cons, hel]
    exact (List.suffix_append C N).trans (List.suffix_append _ _)
  · exact absurd ⟨C, by rw [← hel, hout]⟩ (not_suffix_elements_nil hne hpath)
  · rw [hel]
    exact List.suffix_append C N

/-- `path.Join`'s buffer, filled in two steps. -/
theorem joinBuffer_append (xs ys : List (List Char)) (buf : List Char) :
    joinBuffer (xs ++ ys) buf = joinBuffer ys (joinBuffer xs buf) := by
  induction xs generalizing buf with
  | nil => rfl
  | cons e xs ih => simp only [List.cons_append, joinBuffer]; split_ifs <;> exact ih _

/-- Once the buffer is not empty, every element is appended after a slash. -/
theorem elements_joinBuffer {buf : List Char} (hb : buf ≠ []) (es : List (List Char)) :
    elements (joinBuffer es buf) = elements buf ++ es.flatMap elements := by
  induction es generalizing buf with
  | nil => simp [joinBuffer]
  | cons e es ih =>
    simp only [joinBuffer, hb, ne_eq, not_false_eq_true, if_true]
    rw [ih (by simp), elements_append_cons, List.flatMap_cons, List.append_assoc]

/-- **The elements a join ends with.** Whatever comes before a non-empty element `x` of a
`path.Join`, the joined path ends with the path elements `x` ends with, followed by the path
elements after `x`. -/
theorem suffix_elements_join (pre : List (List Char)) {x : List Char} (rest : List (List Char))
    {N : List (List Char)} (hN : N <:+ elements x) (hne : N ≠ [])
    (hpath : ∀ e ∈ N ++ rest, IsPathElement e) : N ++ rest <:+ elements (join (pre ++ x :: rest)) := by
  have hx : x ≠ [] := by
    rintro rfl
    exact not_suffix_elements_nil hne (fun e he => hpath e (List.mem_append_left _ he)) hN
  have hrest : rest.flatMap elements = rest :=
    flatMap_elements fun e he => hpath e (List.mem_append_right _ he)
  -- the buffer's elements: those before `x`, those of `x`, then `rest`
  have hbuf : ∃ G, elements (joinBuffer (pre ++ x :: rest) []) = G ++ elements x ++ rest := by
    rw [joinBuffer_append, joinBuffer]
    split_ifs with hb
    · exact ⟨elements (joinBuffer pre []), by
        rw [elements_joinBuffer (by simp), elements_append_cons, hrest]⟩
    · exact ⟨[], by rw [elements_joinBuffer hx, hrest, List.nil_append]⟩
  obtain ⟨G, hG⟩ := hbuf
  obtain ⟨t, ht⟩ := hN
  have hall : ¬(pre ++ x :: rest).all (·.isEmpty) = true := fun h =>
    hx (by simpa using List.all_eq_true.mp h x (by simp))
  rw [join, if_neg hall]
  refine suffix_elements_clean ⟨G ++ t, ?_⟩ (by simp [hne]) hpath
  rw [hG, ← ht]
  simp

/-! ### Paths made of path elements -/

/-- The absolute path of some elements, `/e₁/…/eₙ`, and `/` for none. -/
def rootedPath (es : List (List Char)) : List Char := '/' :: ['/'].intercalate es

/-- An absolute path that `path.Clean` leaves as it is: a slash, then path elements between single
slashes. -/
def IsCleanRooted (p : List Char) : Prop := ∃ es, (∀ e ∈ es, IsPathElement e) ∧ p = rootedPath es

theorem intercalate_append_cons {α : Type} (s : List α) {xs : List (List α)} (hxs : xs ≠ [])
    (y : List α) (ys : List (List α)) :
    s.intercalate (xs ++ y :: ys) = s.intercalate xs ++ s ++ s.intercalate (y :: ys) := by
  induction xs with
  | nil => exact absurd rfl hxs
  | cons x xs ih =>
    cases xs with
    | nil => simp [List.intercalate]
    | cons x' xs => simp [List.intercalate] at ih ⊢; simp [ih]

/-- The elements of slash-free pieces joined by slashes are the pieces. -/
theorem elements_intercalate {es : List (List Char)} (h : ∀ e ∈ es, '/' ∉ e) (hne : es ≠ []) :
    elements (['/'].intercalate es) = es :=
  List.splitOn_intercalate _ '/' h hne

/-- Path elements joined by slashes: every element is empty (only for no elements at all) or a
path element, and the non-empty ones are the path elements. -/
theorem elements_intercalate_cases {es : List (List Char)} (h : ∀ e ∈ es, IsPathElement e) :
    (∀ e ∈ elements (['/'].intercalate es), e = [] ∨ IsPathElement e) ∧
      (elements (['/'].intercalate es)).filter (!·.isEmpty) = es := by
  by_cases hne : es = []
  · subst hne
    exact ⟨fun e he => .inl (by simpa [elements, List.intercalate, List.splitOn_nil] using he), rfl⟩
  · rw [elements_intercalate (fun e he => (h e he).2.1) hne]
    exact ⟨fun e he => .inr (h e he), List.filter_eq_self.mpr fun e he => by simpa using (h e he).1⟩

/-- `path.Clean` drops the empty elements, and pushes the path elements. -/
theorem cleanElements_of_nil_or_isPathElement (rooted : Bool) {es : List (List Char)}
    (h : ∀ e ∈ es, e = [] ∨ IsPathElement e) (acc : List (List Char)) :
    cleanElements rooted acc es = (es.filter (!·.isEmpty)).reverse ++ acc := by
  induction es generalizing acc with
  | nil => rfl
  | cons e es ih =>
    have ih' := ih fun e he => h e (List.mem_cons_of_mem _ he)
    rcases h e (List.mem_cons_self _ _) with rfl | ⟨he, -, hdot, hdotdot⟩
    · simp [cleanElements, ih']
    · simp [cleanElements, he, hdot, hdotdot, ih', List.filter_cons]

/-- **An absolute path of path elements and empty elements** cleans to the absolute path of its
path elements. -/
theorem clean_of_rooted {p : List Char} (hp : p.head? = some '/')
    (h : ∀ e ∈ elements p, e = [] ∨ IsPathElement e) :
    clean p = rootedPath ((elements p).filter (!·.isEmpty)) := by
  have hne : p ≠ [] := by rintro rfl; cases hp
  simp [clean, hne, hp, cleanElements_of_nil_or_isPathElement _ h, rootedPath]

/-- A relative path of path elements is clean. -/
theorem clean_of_isPathElement {p : List Char} (h : ∀ e ∈ elements p, IsPathElement e) :
    clean p = p := by
  have hne : p ≠ [] := by rintro rfl; exact (h [] (by simp [elements])).1 rfl
  have hhead : p.head? ≠ some '/' := by
    intro hp
    obtain ⟨rest, rfl⟩ : ∃ rest, p = '/' :: rest := by
      cases p with
      | nil => cases hp
      | cons c rest => simp at hp; exact ⟨rest, by rw [hp]⟩
    have := h [] (by rw [show '/' :: rest = [] ++ '/' :: rest from rfl, elements_append_cons]; simp [elements])
    exact this.1 rfl
  have hfilter : (elements p).filter (!·.isEmpty) = elements p :=
    List.filter_eq_self.mpr fun e he => by simpa using (h e he).1
  have hout : ['/'].intercalate (elements p) = p := List.intercalate_splitOn p '/'
  simp [clean, hne, hhead, cleanElements_of_nil_or_isPathElement _ (fun e he => .inr (h e he)),
    hfilter, hout]

/-- Once the buffer is not empty, it keeps its first character. -/
theorem joinBuffer_head? {buf : List Char} (hb : buf ≠ []) (es : List (List Char)) :
    (joinBuffer es buf).head? = buf.head? := by
  induction es generalizing buf with
  | nil => rfl
  | cons e es ih =>
    rw [joinBuffer, if_pos hb, ih (by simp), List.head?_append_of_ne_nil _ hb]

/-- **Joining onto an absolute clean path.** Relative paths of path elements joined after the
absolute path of `es` give the absolute path of `es` followed by their elements. -/
theorem join_rootedPath {es : List (List Char)} (hes : ∀ e ∈ es, IsPathElement e)
    (xs : List (List Char)) (hxs : ∀ x ∈ xs, ∀ e ∈ elements x, IsPathElement e) :
    join (rootedPath es :: xs) = rootedPath (es ++ xs.flatMap elements) := by
  have hroot : rootedPath es ≠ [] := List.cons_ne_nil _ _
  have hall : ¬(rootedPath es :: xs).all (·.isEmpty) = true := by simp [rootedPath]
  have hel : elements (rootedPath es) = [] :: elements (['/'].intercalate es) := by
    rw [rootedPath, show '/' :: ['/'].intercalate es = [] ++ '/' :: ['/'].intercalate es from rfl,
      elements_append_cons]
    rfl
  have hflat : ∀ e ∈ xs.flatMap elements, IsPathElement e := by
    simpa only [List.mem_flatMap, forall_exists_index, and_imp] using fun e x hx he => hxs x hx e he
  obtain ⟨hcases, hfilter⟩ := elements_intercalate_cases hes
  rw [join, if_neg hall, joinBuffer, if_neg (by simp), clean_of_rooted
    (by rw [joinBuffer_head? hroot]; rfl), elements_joinBuffer hroot, hel]
  · rw [List.cons_append, List.filter_cons_of_neg (by simp), List.filter_append, hfilter,
      List.filter_eq_self.mpr fun e he => by simpa using (hflat e he).1]
  · rw [elements_joinBuffer hroot, hel]
    intro e he
    simp only [List.cons_append, List.mem_cons, List.mem_append] at he
    rcases he with rfl | he | he
    · exact .inl rfl
    · exact hcases e he
    · exact .inr (hflat e he)

/-- One relative path of path elements joined after an absolute clean path. -/
theorem join_rootedPath_intercalate {es xs : List (List Char)} (hes : ∀ e ∈ es, IsPathElement e)
    (hxs : ∀ e ∈ xs, IsPathElement e) (hne : xs ≠ []) :
    join [rootedPath es, ['/'].intercalate xs] = rootedPath (es ++ xs) := by
  have hel : elements (['/'].intercalate xs) = xs :=
    elements_intercalate (fun e he => (hxs e he).2.1) hne
  rw [join_rootedPath hes _ (fun x hx => by rw [List.mem_singleton.mp hx, hel]; exact hxs),
    List.flatMap_singleton, hel]

/-- A `path.Join` of relative paths of path elements is their elements, joined by slashes. -/
theorem join_of_isPathElement {xs : List (List Char)} (hne : xs ≠ [])
    (hxs : ∀ x ∈ xs, ∀ e ∈ elements x, IsPathElement e) :
    join xs = ['/'].intercalate (xs.flatMap elements) := by
  obtain ⟨x, rest, rfl⟩ := List.exists_cons_of_ne_nil hne
  have hx : x ≠ [] := by
    rintro rfl
    exact (hxs [] (List.mem_cons_self _ _) [] (by simp [elements])).1 rfl
  have hall : ¬(x :: rest).all (·.isEmpty) = true := by simp [hx]
  have hel : elements (joinBuffer rest x) = (x :: rest).flatMap elements := by
    rw [elements_joinBuffer hx, List.flatMap_cons]
  rw [join, if_neg hall, joinBuffer, if_neg (by simp), ← hel, elements, List.intercalate_splitOn,
    clean_of_isPathElement]
  rw [hel]
  simpa only [List.mem_flatMap, forall_exists_index, and_imp] using fun e y hy he => hxs y hy e he

/-- A path whose last character is not the one trimmed keeps its end. -/
theorem trimRight_append_singleton {c d : Char} (h : c ≠ d) (s : List Char) :
    trimRight (s ++ [c]) d = s ++ [c] := by
  simp [trimRight, List.reverse_append, h]

/-- The absolute path of at least one path element does not end with a slash. -/
theorem trimRight_rootedPath {es : List (List Char)} (hes : ∀ e ∈ es, IsPathElement e)
    (hne : es ≠ []) : trimRight (rootedPath es) '/' = rootedPath es := by
  obtain ⟨L, e, rfl⟩ := (List.eq_nil_or_concat es).resolve_left hne
  rw [List.concat_eq_append] at hes ⊢
  obtain ⟨he, hslash, -⟩ := hes e (by simp)
  obtain ⟨e', c, rfl⟩ := (List.eq_nil_or_concat e).resolve_left he
  rw [List.concat_eq_append] at hslash ⊢
  have hc : c ≠ '/' := by rintro rfl; exact hslash (by simp)
  by_cases hL : L = []
  · subst hL
    rw [List.nil_append, rootedPath, show ['/'].intercalate [e' ++ [c]] = e' ++ [c] by
      simp [List.intercalate]]
    exact trimRight_append_singleton hc ('/' :: e')
  · rw [rootedPath, intercalate_append_cons _ hL]
    simpa [List.intercalate] using
      trimRight_append_singleton hc ('/' :: (['/'].intercalate L ++ '/' :: e'))

/-- **Stripping a clean base.** Stripping the absolute path of `es`, without its trailing slashes,
and the slash after it, from the absolute path of `es` followed by more elements leaves the
relative path of those elements. -/
theorem trimPrefix_rootedPath {es : List (List Char)} (hes : ∀ e ∈ es, IsPathElement e)
    {xs : List (List Char)} (hxs : xs ≠ []) :
    trimPrefix (trimPrefix (rootedPath (es ++ xs)) (trimRight (rootedPath es) '/')) ['/'] =
      ['/'].intercalate xs := by
  by_cases hne : es = []
  · subst hne
    have h0 : trimRight (rootedPath []) '/' = [] := rfl
    rw [h0, List.nil_append, rootedPath,
      show trimPrefix ('/' :: ['/'].intercalate xs) [] = ['/'] ++ ['/'].intercalate xs by
        simp [trimPrefix],
      trimPrefix_append]
  · obtain ⟨y, ys, rfl⟩ := List.exists_cons_of_ne_nil hxs
    rw [trimRight_rootedPath hes hne, rootedPath, intercalate_append_cons _ hne,
      show '/' :: (['/'].intercalate es ++ ['/'] ++ ['/'].intercalate (y :: ys)) =
        rootedPath es ++ (['/'] ++ ['/'].intercalate (y :: ys)) by simp [rootedPath],
      trimPrefix_append, trimPrefix_append]

end BackupOperator.GoPath
