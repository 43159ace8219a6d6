import Mathlib.Data.List.Basic

/-!
# Unstructured objects

The workers handle every Kubernetes object as `unstructured.Unstructured`: a `map[string]any`
decoded from JSON or YAML. Here a JSON value is a tree whose objects are association lists (a Go
map has unique keys and no order; nothing below depends on the order), and an `Object` is the
top-level map. The accessors are those of `unstructured`: a field read through a path of maps
(`NestedFieldNoCopy`), `getNestedString`, which reads a missing or non-string field as `""`,
`RemoveNestedField`, and the `metadata` getters and setters the workers call.

Numbers are integers: the exporter and the restorer copy them and never compute with them.
-/

namespace BackupOperator

/-- A JSON value as `encoding/json` decodes it into `any`. -/
inductive Value where
  | null
  | bool (b : Bool)
  | num (n : Int)
  | str (s : String)
  | arr (vs : List Value)
  | obj (fields : List (String × Value))
  deriving Repr

/-- A `map[string]any`: the `Object` of an `unstructured.Unstructured`. -/
abbrev Object := List (String × Value)

namespace Object

/-- `m[key]`, if present. -/
def get? (m : Object) (key : String) : Option Value := m.lookup key

/-- `delete(m, key)`. -/
def erase (m : Object) (key : String) : Object := m.filter fun p => p.1 != key

/-- `m[key] = v`. -/
def set (m : Object) (key : String) (v : Value) : Object := m.erase key ++ [(key, v)]

/-- The map at `m[key]`, if that field is a map (`m[key].(map[string]any)`). -/
def getMap? (m : Object) (key : String) : Option Object :=
  match m.get? key with
  | some (.obj fs) => some fs
  | _ => none

/-- `NestedFieldNoCopy`: the field at the end of a path of maps. -/
def nested? (m : Object) : List String → Option Value
  | [] => some (.obj m)
  | [key] => m.get? key
  | key :: path =>
    match m.getMap? key with
    | some inner => inner.nested? path
    | none => none

/-- `getNestedString`: the string at a path, `""` if it is missing or not a string. -/
def nestedString (m : Object) (path : List String) : String :=
  match m.nested? path with
  | some (.str s) => s
  | _ => ""

/-- `RemoveNestedField`: delete the last field of a path, if every field before it is a map. -/
def removeNested (m : Object) : List String → Object
  | [] => m
  | [key] => m.erase key
  | key :: path =>
    match m.getMap? key with
    | some inner => m.set key (.obj (inner.removeNested path))
    | none => m

/-- `SetNestedField` along `metadata`: `metadata[key] = v`, creating `metadata` if it is missing.
(A `metadata` that is not a map makes `SetNestedField` fail, and the setters ignore the error.) -/
def setMetadataField (m : Object) (key : String) (v : Value) : Object :=
  match m.get? "metadata" with
  | some (.obj meta) => m.set "metadata" (.obj (Object.set meta key v))
  | none => m.set "metadata" (.obj [(key, v)])
  | some _ => m

/-- `GetKind`. -/
def kind (m : Object) : String := m.nestedString ["kind"]

/-- `GetAPIVersion`. -/
def apiVersion (m : Object) : String := m.nestedString ["apiVersion"]

/-- `GetName`. -/
def name (m : Object) : String := m.nestedString ["metadata", "name"]

/-- `GetNamespace`. -/
def ns (m : Object) : String := m.nestedString ["metadata", "namespace"]

/-- `GetResourceVersion`. -/
def resourceVersion (m : Object) : String := m.nestedString ["metadata", "resourceVersion"]

/-- `GetAnnotations`: `NestedStringMap` of `metadata.annotations`, which is `nil` when the field
is missing, is not a map, or holds a value that is not a string. -/
def annotations (m : Object) : Option (List (String × String)) :=
  match m.nested? ["metadata", "annotations"] with
  | some (.obj fs) => fs.mapM fun p => match p.2 with
    | .str s => some (p.1, s)
    | _ => none
  | _ => none

/-- `SetNamespace`: an empty namespace removes the field. -/
def setNamespace (m : Object) (ns : String) : Object :=
  if ns = "" then m.removeNested ["metadata", "namespace"]
  else m.setMetadataField "namespace" (.str ns)

/-- `SetResourceVersion`: an empty version removes the field. -/
def setResourceVersion (m : Object) (rv : String) : Object :=
  if rv = "" then m.removeNested ["metadata", "resourceVersion"]
  else m.setMetadataField "resourceVersion" (.str rv)

/-! ### Setting and removing fields -/

@[simp] theorem get?_erase_self (m : Object) (key : String) : (m.erase key).get? key = none := by
  simp only [get?, erase, List.lookup_eq_none_iff, List.mem_filter]
  exact fun p hp => by simpa [bne_iff_ne, ne_comm] using hp.2

@[simp] theorem get?_set_self (m : Object) (key : String) (v : Value) :
    (m.set key v).get? key = some v := by
  have := get?_erase_self m key
  simp only [get?] at this
  simp [get?, set, List.lookup_append, this]

@[simp] theorem erase_erase_self (m : Object) (key : String) :
    (m.erase key).erase key = m.erase key := by
  simp [erase, List.filter_filter]

@[simp] theorem erase_set_self (m : Object) (key : String) (v : Value) :
    (m.set key v).erase key = m.erase key := by
  simp [set, erase, List.filter_append, List.filter_filter]

@[simp] theorem set_set_self (m : Object) (key : String) (v w : Value) :
    (m.set key v).set key w = m.set key w := by
  rw [set, erase_set_self, set]

@[simp] theorem removeNested_singleton (m : Object) (key : String) :
    m.removeNested [key] = m.erase key := rfl

/-- Removing or setting one field leaves the others. -/
theorem get?_erase_of_ne {m : Object} {key key' : String} (h : key ≠ key') :
    (m.erase key).get? key' = m.get? key' := by
  simp only [get?, erase]
  induction m with
  | nil => rfl
  | cons p m ih =>
    by_cases hp : p.1 = key
    · have hb : (key' == p.1) = false := beq_eq_false_iff_ne.mpr (hp ▸ Ne.symm h)
      rw [List.filter_cons_of_neg (by simp [hp]), ih, List.lookup_cons, hb]
    · rw [List.filter_cons_of_pos (by simpa using hp), List.lookup_cons, List.lookup_cons, ih]

theorem get?_set_of_ne {m : Object} {key key' : String} (h : key ≠ key') (v : Value) :
    (m.set key v).get? key' = m.get? key' := by
  have := get?_erase_of_ne (m := m) h
  simp only [get?] at this
  simp [get?, set, List.lookup_append, this, List.lookup_cons, beq_eq_false_iff_ne.mpr (Ne.symm h)]

/-- Removing a missing field changes nothing. -/
theorem erase_of_get?_eq_none {m : Object} {key : String} (h : m.get? key = none) :
    m.erase key = m := by
  simp only [get?, List.lookup_eq_none_iff] at h
  exact List.filter_eq_self.mpr fun p hp => by simpa [bne_iff_ne, ne_comm] using h p hp

theorem erase_set_of_ne {m : Object} {key key' : String} (h : key ≠ key') (v : Value) :
    (m.set key v).erase key' = (m.erase key').set key v := by
  simp [set, erase, List.filter_append, List.filter_filter, Bool.and_comm, h]

/-- Setting a field twice around another is setting it once after the other. -/
theorem set_set_set_of_ne {m : Object} {key key' : String} (h : key ≠ key') (u v w : Value) :
    ((m.set key u).set key' v).set key w = (m.set key' v).set key w := by
  rw [set, erase_set_of_ne (Ne.symm h), erase_set_self, ← erase_set_of_ne (Ne.symm h), ← set]

@[simp] theorem getMap?_set_obj (m : Object) (key : String) (fs : Object) :
    (m.set key (.obj fs)).getMap? key = some fs := by
  simp [getMap?]

theorem getMap?_eq_some {m : Object} {key : String} {fs : Object} :
    m.getMap? key = some fs ↔ m.get? key = some (.obj fs) := by
  unfold getMap?
  split <;> simp_all

/-- A field two maps deep. -/
theorem nested?_pair (m : Object) (a b : String) :
    m.nested? [a, b] = (m.getMap? a).bind fun inner => inner.get? b := by
  simp only [nested?]
  split <;> simp_all

/-- Where `metadata` is a map, `SetResourceVersion` rewrites that map. -/
theorem setResourceVersion_of_getMap {m meta : Object} (h : m.getMap? "metadata" = some meta)
    (rv : String) :
    m.setResourceVersion rv = m.set "metadata" (.obj (if rv = "" then
      meta.erase "resourceVersion" else meta.set "resourceVersion" (.str rv))) := by
  unfold setResourceVersion
  split_ifs
  · simp [removeNested, h]
  · simp [setMetadataField, getMap?_eq_some.mp h]

/-- Where `metadata` is not a map, `SetResourceVersion` to `""` changes nothing. -/
theorem setResourceVersion_empty_of_getMap {m : Object} (h : m.getMap? "metadata" = none) :
    m.setResourceVersion "" = m := by
  simp [setResourceVersion, removeNested, h]

/-- An object with a name has its `metadata` as a map. -/
theorem getMap?_metadata_of_name {m : Object} (h : m.name ≠ "") :
    ∃ meta, m.getMap? "metadata" = some meta := by
  cases hm : m.getMap? "metadata" with
  | some meta => exact ⟨meta, rfl⟩
  | none => simp [name, nestedString, nested?_pair, hm] at h

/-- An object with a namespace has its `metadata` as a map. -/
theorem getMap?_metadata_of_ns {m : Object} (h : m.ns ≠ "") :
    ∃ meta, m.getMap? "metadata" = some meta := by
  cases hm : m.getMap? "metadata" with
  | some meta => exact ⟨meta, rfl⟩
  | none => simp [ns, nestedString, nested?_pair, hm] at h

/-- In an object whose `metadata` is a map, `GetNamespace` reads what `SetNamespace` set. -/
theorem ns_setNamespace {m meta : Object} (h : m.getMap? "metadata" = some meta)
    (target : String) : (m.setNamespace target).ns = target := by
  unfold setNamespace
  split_ifs with ht
  · simp [ht, removeNested, h, ns, nestedString, nested?_pair]
  · simp [setMetadataField, getMap?_eq_some.mp h, ns, nestedString, nested?_pair]

/-- `GetResourceVersion` after `SetResourceVersion(rv)` reads `rv`, or `""` where the object has
no map to hold it. -/
theorem resourceVersion_setResourceVersion (m : Object) (rv : String) :
    (m.setResourceVersion rv).resourceVersion = rv ∨ (m.setResourceVersion rv).resourceVersion = "" := by
  cases hm : m.getMap? "metadata" with
  | some meta =>
    rw [setResourceVersion_of_getMap hm]
    split_ifs with hr <;> simp [resourceVersion, nestedString, nested?_pair, hr]
  | none =>
    by_cases hr : rv = ""
    · subst hr
      simp [setResourceVersion_empty_of_getMap hm, resourceVersion, nestedString, nested?_pair, hm]
    · cases hg : m.get? "metadata" with
      | none =>
        left
        simp only [setResourceVersion, if_neg hr, setMetadataField, hg]
        simp [resourceVersion, nestedString, nested?_pair, get?, List.lookup_cons]
      | some v =>
        have : ∀ fs, v ≠ .obj fs := fun fs hv => by
          simp [getMap?_eq_some.mpr (hv ▸ hg)] at hm
        cases v <;> simp_all [setResourceVersion, setMetadataField, resourceVersion, nestedString,
          nested?_pair]

/-- Removing the resource version twice is removing it once. -/
@[simp] theorem setResourceVersion_empty_empty (m : Object) :
    (m.setResourceVersion "").setResourceVersion "" = m.setResourceVersion "" := by
  cases hm : m.getMap? "metadata" with
  | some meta =>
    rw [setResourceVersion_of_getMap hm, setResourceVersion_of_getMap (getMap?_set_obj ..)]
    simp
  | none => rw [setResourceVersion_empty_of_getMap hm, setResourceVersion_empty_of_getMap hm]

/-- In an object whose `metadata` is a map, a resource version set and then removed leaves the
object as removing it does. -/
theorem setResourceVersion_set_empty {m meta : Object} (h : m.getMap? "metadata" = some meta)
    (rv : String) :
    (m.setResourceVersion rv).setResourceVersion "" = m.setResourceVersion "" := by
  rw [setResourceVersion_of_getMap h rv, setResourceVersion_of_getMap (getMap?_set_obj ..),
    setResourceVersion_of_getMap h]
  by_cases hr : rv = "" <;> simp [hr]

end Object

/-! ### Group, version and kind -/

/-- `schema.ParseGroupVersion`: `""` and `"/"` are the empty group version, `v` is the core
group, `g/v` a named group; more slashes are an error. -/
def parseGroupVersion (gv : String) : Option (String × String) :=
  if gv = "" ∨ gv = "/" then some ("", "")
  else match gv.data.splitOn '/' with
    | [v] => some ("", String.mk v)
    | [g, v] => some (String.mk g, String.mk v)
    | _ => none

/-- `GroupVersionKind` of an object: group, version and kind, all empty when the API version does
not parse. -/
def Object.groupVersionKind (m : Object) : String × String × String :=
  match parseGroupVersion m.apiVersion with
  | some (g, v) => (g, v, m.kind)
  | none => ("", "", "")

end BackupOperator
