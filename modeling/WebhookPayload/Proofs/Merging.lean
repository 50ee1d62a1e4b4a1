import Mathlib.Data.List.Basic
import WebhookPayload.Proofs.Collection

/-! # Collecting in parts

What is collected is fixed by two things: its output names, and that each entry is the
first field of its name with what is selected under that name (`collectFields_eq_iff`).
So it does not matter whether fields are collected at once or what is collected of parts
of them is collected again (`collectFields_append`): to collect is to merge, in an
associative way, and under each name everything that is selected stays where it is. -/

namespace WebhookPayload

/-- All that is selected under an output name, in order. -/
def selectedUnder (name : String) (fields : List SelectedField) : List SelectedField :=
  (fields.filter (·.outputName = name)).flatMap SelectedField.subfields

/-- Fields with one entry for each output name of those that apply to objects of a type,
in the order of first mention. An entry is the first field of its name, with all that is
selected under that name below it. -/
structure IsCollected (schema : Schema) (typeName : String)
    (fields collected : List SelectedField) : Prop where
  names : collected.map SelectedField.outputName = outputNames (applicable schema typeName fields)
  entries : ∀ field ∈ collected, ∃ first,
    (applicable schema typeName fields).find? (·.outputName = field.outputName) = some first ∧
      field = { first with
        subfields := selectedUnder field.outputName (applicable schema typeName fields) }

section Merging

variable {schema : Schema} {typeName : String}

/-! ## What fixes a collection -/

theorem IsCollected.eq_filterMap {fields collected : List SelectedField}
    (h : IsCollected schema typeName fields collected) :
    collected = (outputNames (applicable schema typeName fields)).filterMap
      (mergedField? · (applicable schema typeName fields)) := by
  have entry : ∀ field ∈ collected,
      mergedField? field.outputName (applicable schema typeName fields) = some field := by
    intro field member
    obtain ⟨first, found, same⟩ := h.entries field member
    rw [mergedField?, found]
    exact congrArg some same.symm
  rw [← h.names, List.filterMap_map]
  exact (List.filterMap_some.symm.trans (List.filterMap_congr fun field member =>
    (entry field member).symm))

theorem isCollected_collectFields (fields : List SelectedField) :
    IsCollected schema typeName fields (collectFields schema typeName fields) where
  names := outputNames_collectFields schema typeName fields
  entries _ member := exists_first_of_mem member

theorem collectFields_eq_iff {fields collected : List SelectedField} :
    collectFields schema typeName fields = collected ↔
      IsCollected schema typeName fields collected := by
  constructor
  · rintro rfl
    exact isCollected_collectFields fields
  · intro h
    rw [h.eq_filterMap, (isCollected_collectFields fields).eq_filterMap]

/-- Collections agree if what applies has the same names, and the same is merged under each. -/
theorem collectFields_congr {fields others : List SelectedField}
    (names : outputNames (applicable schema typeName fields) =
      outputNames (applicable schema typeName others))
    (merged : ∀ name, mergedField? name (applicable schema typeName fields) =
      mergedField? name (applicable schema typeName others)) :
    collectFields schema typeName fields = collectFields schema typeName others := by
  rw [(isCollected_collectFields fields).eq_filterMap,
    (isCollected_collectFields others).eq_filterMap, names]
  simp only [merged]

/-! ## Names of parts -/

/-- The names of a part that follows are those that are new. -/
theorem outputNames_parts (fields more : List SelectedField) :
    outputNames (fields ++ more) =
      outputNames fields ++ (outputNames more).filter (· ∉ outputNames fields) := by
  induction more using List.reverseRecOn with
  | nil => simp [outputNames]
  | append_singleton more field ih =>
    have known : field.outputName ∈ (fields ++ more).map SelectedField.outputName ↔
        field.outputName ∈ outputNames fields ∨
          field.outputName ∈ more.map SelectedField.outputName := by
      rw [List.map_append, List.mem_append, outputNames, List.mem_eraseDups]
    rw [← List.append_assoc, outputNames_append, outputNames_append, ih]
    by_cases later : field.outputName ∈ more.map SelectedField.outputName
    · rw [if_pos (known.mpr (.inr later)), if_pos later]
    · rw [if_neg later, List.filter_append, List.filter_singleton]
      by_cases earlier : field.outputName ∈ outputNames fields
      · rw [if_pos (known.mpr (.inl earlier))]
        simp [earlier]
      · rw [if_neg fun h => (known.mp h).elim earlier later]
        simp [earlier]

theorem eraseDups_eq_self {names : List String} (distinct : names.Nodup) :
    names.eraseDups = names := by
  induction names with
  | nil => rfl
  | cons name rest ih =>
    obtain ⟨fresh, distinct⟩ := List.nodup_cons.mp distinct
    have others : rest.filter (fun other => !other == name) = rest := by
      refine List.filter_eq_self.mpr fun other member => ?_
      simpa using fun same : other = name => fresh (same ▸ member)
    rw [List.eraseDups_cons, others, ih distinct]

/-! ## Fields of parts -/

/-- What is collected applies, since it has the conditions of a field that applies. -/
theorem applicable_collectFields (fields : List SelectedField) :
    applicable schema typeName (collectFields schema typeName fields) =
      collectFields schema typeName fields := by
  refine List.filter_eq_self.mpr fun field member => ?_
  obtain ⟨first, found, same⟩ := exists_first_of_mem member
  have applies := (List.mem_filter.mp (List.mem_of_find?_eq_some found)).2
  rw [same]
  exact applies

theorem selectedUnder_append (name : String) (fields more : List SelectedField) :
    selectedUnder name (fields ++ more) = selectedUnder name fields ++ selectedUnder name more := by
  rw [selectedUnder, List.filter_append, List.flatMap_append]
  rfl

theorem mergedField?_eq (name : String) (fields : List SelectedField) :
    mergedField? name fields = (fields.find? (·.outputName = name)).map
      fun first => { first with subfields := selectedUnder name fields } := rfl

/-- Where names differ, all that is selected under one is below the field of that name. -/
theorem selectedUnder_of_nodup {fields : List SelectedField}
    (distinct : (fields.map SelectedField.outputName).Nodup) (name : String) :
    selectedUnder name fields =
      ((fields.find? (·.outputName = name)).map SelectedField.subfields).getD [] := by
  induction fields with
  | nil => rfl
  | cons field rest ih =>
    obtain ⟨fresh, distinct⟩ := List.nodup_cons.mp distinct
    by_cases same : field.outputName = name
    · have others : rest.filter (·.outputName = name) = [] := by
        refine List.filter_eq_nil_iff.mpr fun again member => ?_
        have other : again.outputName ≠ field.outputName :=
          fun same => fresh (same ▸ List.mem_map_of_mem member)
        simpa [← same] using other
      simp [selectedUnder, same, others]
    · rw [List.find?_cons_of_neg (by simpa using same), ← ih distinct, selectedUnder,
        List.filter_cons_of_neg (by simpa using same)]
      rfl

/-- Nothing that is selected under a name is lost, repeated or moved. -/
theorem selectedUnder_collectFields (name : String) (fields : List SelectedField) :
    selectedUnder name (collectFields schema typeName fields) =
      selectedUnder name (applicable schema typeName fields) := by
  rw [selectedUnder_of_nodup (nodup_collectFields schema typeName fields), find?_collectFields,
    mergedField?_eq]
  cases found : (applicable schema typeName fields).find? (·.outputName = name) with
  | some first => rfl
  | none =>
    have none : (applicable schema typeName fields).filter (·.outputName = name) = [] := by
      simpa [List.filter_eq_nil_iff, List.find?_eq_none] using found
    rw [selectedUnder, none]
    rfl

theorem mergedField?_parts (name : String) (fields more : List SelectedField) :
    mergedField? name (fields ++ more) =
      ((mergedField? name fields).or (mergedField? name more)).map fun first =>
        { first with subfields := selectedUnder name fields ++ selectedUnder name more } := by
  rw [mergedField?_eq, mergedField?_eq, mergedField?_eq, selectedUnder_append, List.find?_append]
  cases fields.find? (·.outputName = name) <;> cases more.find? (·.outputName = name) <;> rfl

/-! ## Merging -/

theorem outputNames_of_collectFields (fields : List SelectedField) :
    outputNames (collectFields schema typeName fields) =
      outputNames (applicable schema typeName fields) := by
  rw [outputNames, outputNames_collectFields, eraseDups_eq_self (nodup_outputNames _)]

theorem mergedField?_of_collectFields (name : String) (fields : List SelectedField) :
    mergedField? name (collectFields schema typeName fields) =
      mergedField? name (applicable schema typeName fields) := by
  rw [mergedField?_eq, find?_collectFields, selectedUnder_collectFields, mergedField?_eq,
    Option.map_map]
  rfl

/-- What is collected of two parts is all that matters of them. -/
theorem collectFields_append (fields more : List SelectedField) :
    collectFields schema typeName (fields ++ more) =
      collectFields schema typeName
        (collectFields schema typeName fields ++ collectFields schema typeName more) := by
  have again : applicable schema typeName
      (collectFields schema typeName fields ++ collectFields schema typeName more) =
        collectFields schema typeName fields ++ collectFields schema typeName more := by
    rw [applicable_append, applicable_collectFields, applicable_collectFields]
  refine collectFields_congr ?names fun name => ?merged
  case names =>
    rw [again, applicable_append, outputNames_parts, outputNames_parts,
      outputNames_of_collectFields, outputNames_of_collectFields]
  case merged =>
    rw [again, applicable_append, mergedField?_parts, mergedField?_parts,
      mergedField?_of_collectFields, mergedField?_of_collectFields, selectedUnder_collectFields,
      selectedUnder_collectFields]

/-- What is collected is collected as it is. -/
theorem collectFields_collectFields (fields : List SelectedField) :
    collectFields schema typeName (collectFields schema typeName fields) =
      collectFields schema typeName fields :=
  calc collectFields schema typeName (collectFields schema typeName fields)
    _ = collectFields schema typeName
          (collectFields schema typeName fields ++ collectFields schema typeName []) := by
        exact congrArg _ (List.append_nil _).symm
    _ = collectFields schema typeName (fields ++ []) := (collectFields_append fields []).symm
    _ = collectFields schema typeName fields := by rw [List.append_nil]

end Merging

/-- What is collected is one entry for each output name, the first field with all that is
selected under its name, and nothing else. Of fields with more behind them only what is
collected of them matters, merging is associative, and under each name what is selected
is what those fields select that apply. -/
theorem collectFields_merges (schema : Schema) (typeName : String) :
    (∀ fields collected, collectFields schema typeName fields = collected ↔
      IsCollected schema typeName fields collected) ∧
    (∀ fields more, collectFields schema typeName (fields ++ more) =
      collectFields schema typeName (collectFields schema typeName fields ++ more)) ∧
    (∀ fields more others,
      collectFields schema typeName (collectFields schema typeName (fields ++ more) ++ others) =
        collectFields schema typeName
          (fields ++ collectFields schema typeName (more ++ others))) ∧
    ∀ fields name, selectedUnder name (collectFields schema typeName fields) =
      selectedUnder name (applicable schema typeName fields) := by
  have before (fields more : List SelectedField) : collectFields schema typeName (fields ++ more) =
      collectFields schema typeName (collectFields schema typeName fields ++ more) := by
    rw [collectFields_append, collectFields_append (collectFields schema typeName fields) more,
      collectFields_collectFields]
  have behind (fields more : List SelectedField) : collectFields schema typeName (fields ++ more) =
      collectFields schema typeName (fields ++ collectFields schema typeName more) := by
    rw [collectFields_append, collectFields_append fields (collectFields schema typeName more),
      collectFields_collectFields]
  refine ⟨fun _ _ => collectFields_eq_iff, before, ?_, fun fields name =>
    selectedUnder_collectFields name fields⟩
  intro fields more others
  rw [← before, ← behind, List.append_assoc]

end WebhookPayload
