import BackupOperator.Text.GoPath

/-!
# Names and label values the API server admits

The API server stores an object only when its name, its namespace and its label values pass the
checks of `k8s.io/apimachinery/pkg/util/validation`. The snapshot exporter builds names and labels
itself, so the server may refuse them; the storage layout relies on the names the server has
admitted.

* `isDNS1123Label` — `[a-z0-9]([-a-z0-9]*[a-z0-9])?`, at most 63 characters: namespaces;
* `isDNS1123Subdomain` — such labels joined by `.`, at most 253 characters: the names of the
  operator's requests, of `PersistentVolumeClaim`s and of `VolumeSnapshot`s;
* `isValidLabelValue` — empty, or `[A-Za-z0-9]([-A-Za-z0-9_.]*[A-Za-z0-9])?`, at most 63
  characters.

Each regular expression is read as the words it accepts: non-empty, a first and a last character
of one class, every character of a wider one. Lengths are counted in characters, which are bytes
for these ASCII names.

* `isPathElement_of_isDNS1123Subdomain` — an admitted name is a path element that `path.Clean`
  keeps as it is: not empty, no slash, neither `.` nor `..`.
-/

namespace BackupOperator

/-- `[a-z0-9]`. -/
def isLowerAlnum (c : Char) : Bool := c.isLower || c.isDigit

/-- `[A-Za-z0-9]`. -/
def isAlnum (c : Char) : Bool := c.isAlphanum

/-- The words of `edge(inner*edge)?` for a class `edge` within `inner`: non-empty, beginning and
ending with a character of `edge`, every character in `inner`. -/
def edgedBy (edge inner : Char → Bool) (s : List Char) : Bool :=
  match s.head?, s.getLast? with
  | some a, some b => edge a && edge b && s.all inner
  | _, _ => false

/-- `dns1123LabelFmt`, without the length bound. -/
def dns1123Label (s : List Char) : Bool :=
  edgedBy isLowerAlnum (fun c => isLowerAlnum c || c == '-') s

/-- `validation.IsDNS1123Label`: no error. -/
def isDNS1123Label (s : String) : Bool := s.length ≤ 63 && dns1123Label s.data

/-- `validation.IsDNS1123Subdomain`: no error. -/
def isDNS1123Subdomain (s : String) : Bool :=
  s.length ≤ 253 && (s.data.splitOn '.').all dns1123Label

/-- `validation.IsValidLabelValue`: no error. -/
def isValidLabelValue (s : String) : Bool :=
  s.length ≤ 63 &&
    (s.isEmpty || edgedBy isAlnum (fun c => isAlnum c || c == '-' || c == '_' || c == '.') s.data)

/-! ### Admitted names as path elements -/

open GoPath

theorem edgedBy_cons {edge inner : Char → Bool} {c : Char} {s : List Char}
    (h : edgedBy edge inner (c :: s) = true) : edge c = true ∧ ∀ d ∈ c :: s, inner d = true := by
  unfold edgedBy at h
  cases hl : (c :: s).getLast? with
  | none => simp at hl
  | some b =>
    simp only [List.head?_cons, hl, Bool.and_eq_true, List.all_eq_true] at h
    exact ⟨h.1.1, h.2⟩

theorem edgedBy_ne_nil {edge inner : Char → Bool} {s : List Char}
    (h : edgedBy edge inner s = true) : s ≠ [] := by
  rintro rfl
  simp [edgedBy] at h

/-- A character other than the separator lies in one of the pieces `splitOn` cuts. -/
theorem exists_mem_splitOn {x c : Char} {xs : List Char} (hc : c ∈ xs) (hx : c ≠ x) :
    ∃ piece ∈ xs.splitOn x, c ∈ piece := by
  simp only [List.splitOn] at *
  induction xs with
  | nil => cases hc
  | cons d xs ih =>
    obtain ⟨first, rest, hfr⟩ := List.exists_cons_of_ne_nil (List.splitOnP_ne_nil (· == x) xs)
    rw [List.splitOnP_cons]
    rcases List.mem_cons.mp hc with rfl | hc
    · simp [hx, hfr]
    · obtain ⟨piece, hp, hcp⟩ := ih hc
      split
      · exact ⟨piece, List.mem_cons_of_mem _ hp, hcp⟩
      · rw [hfr] at hp ⊢
        rcases List.mem_cons.mp hp with rfl | hp
        · exact ⟨d :: piece, List.mem_cons_self _ _, List.mem_cons_of_mem _ hcp⟩
        · exact ⟨piece, List.mem_cons_of_mem _ hp, hcp⟩

/-- A label has no slash and begins with a letter or digit. -/
theorem dns1123Label_cons {c : Char} {s : List Char} (h : dns1123Label (c :: s) = true) :
    isLowerAlnum c = true ∧ '/' ∉ c :: s := by
  obtain ⟨hc, hall⟩ := edgedBy_cons h
  refine ⟨hc, fun hm => ?_⟩
  have := hall '/' hm
  simp [isLowerAlnum, Char.isLower, Char.isDigit] at this

/-- **An admitted name is a path element.** -/
theorem isPathElement_of_isDNS1123Subdomain {s : String} (h : isDNS1123Subdomain s = true) :
    IsPathElement s.data := by
  simp only [isDNS1123Subdomain, Bool.and_eq_true, List.all_eq_true] at h
  have hpieces := h.2
  -- the first piece is a label, so the name begins with a letter or digit
  obtain ⟨first, rest, hfr⟩ := List.exists_cons_of_ne_nil (List.splitOnP_ne_nil (· == '.') s.data)
  have hfirst := hpieces first (by simp only [List.splitOn, hfr, List.mem_cons_self])
  obtain ⟨c, cs, hc⟩ := List.exists_cons_of_ne_nil (edgedBy_ne_nil hfirst)
  subst hc
  have hc := (dns1123Label_cons hfirst).1
  have hhead : s.data.head? = some c := by
    have := congrArg List.flatten (congrArg (List.intersperse ['.'])
      (show s.data.splitOn '.' = (c :: cs) :: rest from hfr))
    rw [← List.intercalate, List.intercalate_splitOn] at this
    cases rest <;> simp_all [List.intersperse]
  refine ⟨fun he => by simp [he] at hhead, fun hm => ?_, fun he => ?_, fun he => ?_⟩
  · obtain ⟨piece, hp, hcp⟩ := @exists_mem_splitOn '.' '/' _ hm (by decide)
    obtain ⟨d, ds, rfl⟩ := List.exists_cons_of_ne_nil (edgedBy_ne_nil (hpieces piece hp))
    exact (dns1123Label_cons (hpieces _ hp)).2 hcp
  all_goals
    simp only [he, List.head?_cons, Option.some.injEq] at hhead
    subst hhead
    simp [isLowerAlnum, Char.isLower, Char.isDigit] at hc

/-- An admitted namespace is a path element. -/
theorem isPathElement_of_isDNS1123Label {s : String} (h : isDNS1123Label s = true) :
    IsPathElement s.data := by
  simp only [isDNS1123Label, Bool.and_eq_true] at h
  obtain ⟨c, cs, hs⟩ := List.exists_cons_of_ne_nil (edgedBy_ne_nil h.2)
  rw [hs] at h ⊢
  obtain ⟨hc, hslash⟩ := dns1123Label_cons h.2
  refine ⟨List.cons_ne_nil _ _, hslash, fun he => ?_, fun he => ?_⟩ <;>
    · obtain ⟨rfl, -⟩ := List.cons.inj he
      simp [isLowerAlnum, Char.isLower, Char.isDigit] at hc

end BackupOperator
