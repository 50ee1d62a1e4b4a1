import Mathlib.Data.List.Induction
import WebhookPayload.Execution.Collection

/-! # What is collected

Fields are collected one after another. What comes of it can be said at once:
one field for each output name, in the order of first mention
(`outputNames_collectFields`), and for each name the first field with the
subfields of all of that name (`find?_collectFields`). -/

namespace WebhookPayload

/-- The output names of fields, each at the place where it is met first. -/
def outputNames (fields : List SelectedField) : List String :=
  (fields.map SelectedField.outputName).eraseDups

/-- The fields that apply to objects of a type. -/
def applicable (schema : Schema) (typeName : String) (fields : List SelectedField) :
    List SelectedField :=
  fields.filter (·.applies schema typeName)

theorem applicable_append (schema : Schema) (typeName : String)
    (fields more : List SelectedField) : applicable schema typeName (fields ++ more) =
      applicable schema typeName fields ++ applicable schema typeName more :=
  List.filter_append _ _

/-- The first field of an output name, with all that is selected under that name. -/
def mergedField? (name : String) (fields : List SelectedField) : Option SelectedField :=
  (fields.find? (·.outputName = name)).map fun first =>
    { first with
      subfields := (fields.filter (·.outputName = name)).flatMap SelectedField.subfields }

theorem outputName_absorb (field other : SelectedField) :
    (field.absorb other).outputName = field.outputName := rfl

theorem map_outputName_addField (field : SelectedField) (known : List SelectedField) :
    (addField field known).map SelectedField.outputName =
      if field.outputName ∈ known.map SelectedField.outputName then
        known.map SelectedField.outputName
      else known.map SelectedField.outputName ++ [field.outputName] := by
  induction known with
  | nil => rfl
  | cons first rest ih =>
    unfold addField
    by_cases same : first.outputName = field.outputName
    · simp [same, outputName_absorb]
    · have other : field.outputName ≠ first.outputName := Ne.symm same
      rw [if_neg same, List.map_cons, List.map_cons, ih]
      by_cases member : field.outputName ∈ rest.map SelectedField.outputName
      · rw [if_pos member, if_pos (List.mem_cons_of_mem _ member)]
      · rw [if_neg member, if_neg (List.not_mem_cons_of_ne_of_not_mem other member),
          List.cons_append]

theorem find?_addField (name : String) (field : SelectedField) (known : List SelectedField) :
    (addField field known).find? (·.outputName = name) =
      if field.outputName = name then
        some (((known.find? (·.outputName = name)).map (·.absorb field)).getD field)
      else known.find? (·.outputName = name) := by
  induction known with
  | nil => by_cases h : field.outputName = name <;> simp [addField, h]
  | cons first rest ih =>
    unfold addField
    by_cases same : first.outputName = field.outputName
    · by_cases h : field.outputName = name <;>
        simp [same, h, outputName_absorb]
    · rw [if_neg same]
      by_cases h : first.outputName = name
      · have other : field.outputName ≠ name := fun e => same (h.trans e.symm)
        simp [h, other]
      · simp only [List.find?_cons, h, decide_false]
        exact ih

/-! ## All fields at once -/

theorem outputNames_append (fields : List SelectedField) (field : SelectedField) :
    outputNames (fields ++ [field]) =
      if field.outputName ∈ fields.map SelectedField.outputName then outputNames fields
      else outputNames fields ++ [field.outputName] := by
  rw [outputNames, List.map_append, List.eraseDups_append, outputNames]
  generalize fields.map SelectedField.outputName = names
  by_cases member : field.outputName ∈ names <;>
    simp [List.removeAll, List.eraseDups_cons, member]

theorem mergedField?_append (name : String) (fields : List SelectedField) (field : SelectedField) :
    mergedField? name (fields ++ [field]) =
      if field.outputName = name then
        some (((mergedField? name fields).map (·.absorb field)).getD field)
      else mergedField? name fields := by
  by_cases same : field.outputName = name
  · rw [if_pos same]
    cases found : fields.find? (·.outputName = name) with
    | some first => simp [mergedField?, List.find?_append, found, same, SelectedField.absorb]
    | none =>
      have none : fields.filter (·.outputName = name) = [] := by
        simpa [List.filter_eq_nil_iff, List.find?_eq_none] using found
      simp [mergedField?, List.find?_append, found, same, none]
      cases field
      rfl
  · rw [if_neg same]
    simp [mergedField?, List.find?_append, List.filter_append, same]

/-- What is collected, name by name and in order. The induction is on the field
that is added last, since collecting goes from left to right. -/
theorem foldl_addField (fields : List SelectedField) :
    (fields.foldl (fun known field => addField field known) []).map SelectedField.outputName =
        outputNames fields ∧
      ∀ name, (fields.foldl (fun known field => addField field known) []).find?
        (·.outputName = name) = mergedField? name fields := by
  induction fields using List.reverseRecOn with
  | nil => exact ⟨rfl, fun _ => rfl⟩
  | append_singleton fields field ih =>
    obtain ⟨names, merged⟩ := ih
    simp only [List.foldl_append, List.foldl_cons, List.foldl_nil]
    constructor
    · rw [map_outputName_addField, names, outputNames_append]
      simp [outputNames]
    · intro name
      rw [find?_addField, merged, mergedField?_append]

theorem outputNames_collectFields (schema : Schema) (typeName : String)
    (fields : List SelectedField) :
    (collectFields schema typeName fields).map SelectedField.outputName =
      outputNames (applicable schema typeName fields) :=
  (foldl_addField _).1

theorem find?_collectFields (schema : Schema) (typeName : String) (fields : List SelectedField)
    (name : String) :
    (collectFields schema typeName fields).find? (·.outputName = name) =
      mergedField? name (applicable schema typeName fields) :=
  (foldl_addField _).2 name

theorem nodup_outputNames (fields : List SelectedField) : (outputNames fields).Nodup := by
  induction fields using List.reverseRecOn with
  | nil => exact List.nodup_nil
  | append_singleton fields field ih =>
    rw [outputNames_append]
    split
    · exact ih
    · rename_i fresh
      refine List.nodup_append.mpr ⟨ih, by simp, ?_⟩
      intro name old other new same
      cases List.mem_singleton.mp new
      exact fresh (same ▸ List.mem_eraseDups.mp old)

/-- No two collected fields have an output name in common. -/
theorem nodup_collectFields (schema : Schema) (typeName : String) (fields : List SelectedField) :
    ((collectFields schema typeName fields).map SelectedField.outputName).Nodup := by
  rw [outputNames_collectFields]
  exact nodup_outputNames _

/-- Every output name stands for a field. -/
theorem exists_mergedField? {fields : List SelectedField} {name : String}
    (h : name ∈ outputNames fields) : ∃ field, mergedField? name fields = some field := by
  obtain ⟨field, member, rfl⟩ := List.mem_map.mp (List.mem_eraseDups.mp h)
  have found : (fields.find? (·.outputName = field.outputName)).isSome = true :=
    List.find?_isSome.mpr ⟨field, member, decide_eq_true rfl⟩
  obtain ⟨first, found⟩ := Option.isSome_iff_exists.mp found
  exact ⟨_, by rw [mergedField?, found]; rfl⟩

/-- A collected field is what its output name stands for. -/
theorem mergedField?_of_mem {schema : Schema} {typeName : String} {fields : List SelectedField}
    {field : SelectedField} (h : field ∈ collectFields schema typeName fields) :
    mergedField? field.outputName (applicable schema typeName fields) = some field := by
  rw [← find?_collectFields]
  have distinct := nodup_collectFields schema typeName fields
  generalize collectFields schema typeName fields = collected at h distinct
  induction collected with
  | nil => cases h
  | cons first rest ih =>
    rw [List.map_cons, List.nodup_cons] at distinct
    rcases List.mem_cons.mp h with rfl | h
    · simp
    · have other : first.outputName ≠ field.outputName :=
        fun same => distinct.1 (same ▸ List.mem_map_of_mem h)
      rw [List.find?_cons_of_neg (by simpa using other)]
      exact ih h distinct.2

/-- A collected field is the first that applies of its output name, with all that is
selected under that name. -/
theorem exists_first_of_mem {schema : Schema} {typeName : String} {fields : List SelectedField}
    {field : SelectedField} (h : field ∈ collectFields schema typeName fields) :
    ∃ first, (applicable schema typeName fields).find? (·.outputName = field.outputName) =
        some first ∧
      field = { first with
        subfields := ((applicable schema typeName fields).filter
          (·.outputName = field.outputName)).flatMap SelectedField.subfields } := by
  obtain ⟨first, found, same⟩ := Option.map_eq_some_iff.mp (mergedField?_of_mem h)
  exact ⟨first, found, same.symm⟩

end WebhookPayload
