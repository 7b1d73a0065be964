import Mathlib.Data.List.Basic
import RequestUploads.Params.Value

namespace RequestUploads.Value

@[elab_as_elim]
theorem induction {motive : Value → Prop} (null : motive .null)
    (text : ∀ content, motive (.text content)) (file : ∀ found, motive (.file found))
    (upload : ∀ found, motive (.upload found))
    (list : ∀ items, (∀ item ∈ items, motive item) → motive (.list items)) :
    ∀ value, motive value
  | .null => null
  | .text content => text content
  | .file found => file found
  | .upload found => upload found
  | .list items =>
      list items fun item _ => induction null text file upload list item

@[simp] theorem leaves_null : leaves .null = [.null] := rfl

@[simp] theorem leaves_text (content : String) : leaves (.text content) = [.text content] := rfl

@[simp] theorem leaves_file (found : StagedFile) : leaves (.file found) = [.file found] := rfl

@[simp] theorem leaves_upload (found : Upload) : leaves (.upload found) = [.upload found] := rfl

@[simp] theorem leaves_list (items : List Value) : leaves (.list items) = leavesAll items := rfl

@[simp] theorem leavesAll_nil : leavesAll [] = [] := rfl

@[simp] theorem leavesAll_cons (value : Value) (values : List Value) :
    leavesAll (value :: values) = value.leaves ++ leavesAll values := rfl

theorem list_not_mem_leaves (items : List Value) (value : Value) : .list items ∉ value.leaves := by
  induction value using induction with
  | list values ih =>
      rw [leaves_list, leavesAll_eq_flatMap, List.mem_flatMap]
      rintro ⟨value, inList, member⟩
      exact ih value inList member
  | _ => simp

theorem list_not_mem_leavesAll (items values : List Value) : .list items ∉ leavesAll values :=
  list_not_mem_leaves items (.list values)

theorem leavesAll_eq_self {values : List Value} (flat : ∀ value ∈ values, value.leaves = [value]) :
    leavesAll values = values := by
  induction values with
  | nil => rfl
  | cons value values ih =>
      have others := ih fun other member => flat other (by simp [member])
      rw [leavesAll_cons, flat value (by simp), others]
      rfl

theorem leavesAll_map_upload (uploads : List Upload) :
    leavesAll (uploads.map .upload) = uploads.map .upload := by
  apply leavesAll_eq_self
  intro value member
  obtain ⟨upload, -, rfl⟩ := List.mem_map.1 member
  rfl

theorem leavesAll_map_text (texts : List String) :
    leavesAll (texts.map .text) = texts.map .text := by
  apply leavesAll_eq_self
  intro value member
  obtain ⟨content, -, rfl⟩ := List.mem_map.1 member
  rfl

def files (value : Value) : List StagedFile := value.leaves.filterMap file?

/-! ## Values in the place of leaves -/

mutual

def mapLeaves (change : Value → Value) : Value → Value
  | .list items => .list (mapLeavesAll change items)
  | leaf => change leaf

def mapLeavesAll (change : Value → Value) : List Value → List Value
  | [] => []
  | value :: values => value.mapLeaves change :: mapLeavesAll change values

end

theorem mapLeavesAll_eq_map (change : Value → Value) (values : List Value) :
    mapLeavesAll change values = values.map (mapLeaves change) := by
  induction values with
  | nil => rfl
  | cons value values ih => rw [mapLeavesAll, ih, List.map_cons]

theorem leaves_mapLeaves (change : Value → Value) (value : Value) :
    (value.mapLeaves change).leaves = value.leaves.flatMap fun leaf => (change leaf).leaves := by
  induction value using induction with
  | list items ih =>
      simp only [mapLeaves, mapLeavesAll_eq_map, leaves_list, leavesAll_eq_flatMap,
        List.flatMap_map, List.flatMap_assoc]
      exact List.flatMap_congr ih
  | _ => simp [mapLeaves]

theorem leavesAll_mapLeaves (change : Value → Value) (values : List Value) :
    leavesAll (values.map (mapLeaves change)) =
      (leavesAll values).flatMap fun leaf => (change leaf).leaves := by
  simp only [leavesAll_eq_flatMap, List.flatMap_map, List.flatMap_assoc, leaves_mapLeaves]

end RequestUploads.Value
