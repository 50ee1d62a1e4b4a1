import WebhookPayload.Proofs.Inlining
import WebhookPayload.Schema.Assembly

/-! # How a schema is put together

Types, extensions and root names are taken up in one pass, but they do not meet there:
a schema is put together of these three groups (`assemble_eq`). Each step takes one
of them and works on the types so far. What a step does to more definitions, or to more
types, follows from what it did to fewer. -/

namespace WebhookPayload

open GraphQL

/-! ## The three groups of definitions -/

def GraphQL.Definition.type? : Definition → Option Placed
  | .type position definition => some { position, definition }
  | _ => none

def GraphQL.Definition.extension? : Definition → Option Placed
  | .extension position definition => some { position, definition }
  | _ => none

def GraphQL.Definition.roots? : Definition → Option RootNames
  | .roots names => some names
  | _ => none

namespace Schema

/-- Takes up type definitions; names must differ. -/
def addTypes (types : List TypeDefinition) : List Placed → Except SchemaError (List TypeDefinition)
  | [] => .ok types
  | placed :: rest =>
    if defines types placed.name then .error (.duplicateType placed.name placed.position)
    else addTypes (types ++ [placed.definition]) rest

/-- The last name that is given, if any. -/
def lastNamed (select : RootNames → Option String) (roots : List RootNames) : Option String :=
  (roots.filterMap select).getLast?

theorem lastNamed_cons (select : RootNames → Option String) (names : RootNames)
    (rest : List RootNames) :
    lastNamed select (names :: rest) = (lastNamed select rest).or (select names) := by
  unfold lastNamed
  rw [List.filterMap_cons]
  cases select names with
  | none => exact (Option.or_none).symm
  | some name =>
    dsimp only
    rw [List.getLast?_cons]
    cases (rest.filterMap select).getLast? <;> rfl

/-- One pass takes up what the groups come to, one by one. -/
theorem collect_eq (collected : Collected) (definitions : List Definition) :
    collect collected definitions =
      (addTypes collected.types (definitions.filterMap Definition.type?)).map fun types =>
        { types
          extensions := collected.extensions ++ definitions.filterMap Definition.extension?
          query? := (lastNamed RootNames.query? (definitions.filterMap Definition.roots?)).or
            collected.query?
          subscription? :=
            (lastNamed RootNames.subscription? (definitions.filterMap Definition.roots?)).or
              collected.subscription? } := by
  induction definitions generalizing collected with
  | nil => simp [collect, addTypes, lastNamed, Except.map]
  | cons definition rest ih =>
    cases definition with
    | roots names =>
      rw [collect, ih]
      simp only [List.filterMap_cons, Definition.type?, Definition.extension?, Definition.roots?,
        lastNamed_cons, Option.or_assoc]
    | extension position definition =>
      rw [collect, ih]
      simp only [List.filterMap_cons, Definition.type?, Definition.extension?, Definition.roots?,
        List.append_assoc, List.singleton_append]
    | type position definition =>
      rw [collect]
      simp only [List.filterMap_cons, Definition.type?, Definition.extension?, Definition.roots?]
      rw [addTypes, Placed.name]
      by_cases repeated : defines collected.types definition.name = true
      · rw [if_pos repeated, if_pos repeated]
        rfl
      · rw [if_neg repeated, if_neg repeated, ih]
    | directive => exact ih collected

variable {types result : List TypeDefinition} {name : String}

theorem defines_iff : defines types name = true ↔ ∃ type ∈ types, type.name = name := by
  simp [defines]

theorem defines_eq_isSome (types : List TypeDefinition) (name : String) :
    defines types name = (types.find? (·.name = name)).isSome :=
  List.isSome_find?.symm

theorem find?_eq_none_iff : types.find? (·.name = name) = none ↔ defines types name = false := by
  rw [defines_eq_isSome, Option.isSome_eq_false_iff, Option.isNone_iff_eq_none]

theorem defines_append (types more : List TypeDefinition) (name : String) :
    defines (types ++ more) name = (defines types name || defines more name) :=
  List.any_append

theorem defines_eq_decide (types : List TypeDefinition) (name : String) :
    defines types name = decide (name ∈ types.map TypeDefinition.name) := by
  rw [Bool.eq_iff_iff, defines_iff, decide_eq_true_iff, List.mem_map]

/-- Which names are defined depends on the names alone. -/
theorem defines_congr (h : result.map TypeDefinition.name = types.map TypeDefinition.name) :
    defines result = defines types := by
  funext name
  rw [defines_eq_decide, defines_eq_decide, h]

/-! ## Types -/

theorem addTypes_append (types : List TypeDefinition) (first second : List Placed) :
    addTypes types (first ++ second) = addTypes types first >>= (addTypes · second) := by
  induction first generalizing types with
  | nil => rfl
  | cons placed rest ih =>
    simp only [List.cons_append, addTypes]
    split
    · rfl
    · exact ih _

theorem eq_of_addTypes {added : List Placed} (h : addTypes types added = .ok result) :
    result = types ++ added.map Placed.definition := by
  induction added generalizing types with
  | nil =>
    cases h
    rw [List.map_nil, List.append_nil]
  | cons placed rest ih =>
    simp only [addTypes] at h
    split at h
    · cases h
    · rw [ih h, List.append_assoc, List.map_cons, List.singleton_append]

/-! ## Extensions -/

theorem extendTypes_append (types : List TypeDefinition) (first second : List Placed) :
    extendTypes types (first ++ second) = extendTypes types first >>= (extendTypes · second) := by
  induction first generalizing types with
  | nil => rfl
  | cons extension rest ih =>
    simp only [List.cons_append, extendTypes]
    cases extendType extension types with
    | error error => rfl
    | ok extended => exact ih extended

/-- The first type of the extension's name is extended. -/
theorem extendType_cons_eq_ok_iff {extension : Placed} {type : TypeDefinition} :
    extendType extension (type :: types) = .ok result ↔
      (type.name = extension.name ∧ ∃ kind, type.kind.extend? extension.definition.kind = some kind ∧
        result = { type with kind } :: types) ∨
      (type.name ≠ extension.name ∧ ∃ extended, extendType extension types = .ok extended ∧
        result = type :: extended) := by
  rw [extendType]
  by_cases named : type.name = extension.name
  · rw [if_pos named]
    cases type.kind.extend? extension.definition.kind <;> simp [named, eq_comm]
  · rw [if_neg named]
    cases extendType extension types <;> simp [named, eq_comm, Functor.map, Except.map]

/-- An extension finds its type where it found it before more types were there. -/
theorem extendType_append {extension : Placed} (more : List TypeDefinition)
    (h : extendType extension types = .ok result) :
    extendType extension (types ++ more) = .ok (result ++ more) := by
  induction types generalizing result with
  | nil => cases h
  | cons type rest ih =>
    rw [List.cons_append, extendType_cons_eq_ok_iff]
    rcases extendType_cons_eq_ok_iff.mp h with
      ⟨named, kind, extended, rfl⟩ | ⟨other, extended, later, rfl⟩
    · exact .inl ⟨named, kind, extended, rfl⟩
    · exact .inr ⟨other, _, ih later, rfl⟩

theorem names_of_extendType {extension : Placed} (h : extendType extension types = .ok result) :
    result.map TypeDefinition.name = types.map TypeDefinition.name := by
  induction types generalizing result with
  | nil => cases h
  | cons type rest ih =>
    rcases extendType_cons_eq_ok_iff.mp h with ⟨-, kind, -, rfl⟩ | ⟨-, extended, later, rfl⟩
    · rfl
    · rw [List.map_cons, List.map_cons, ih later]

theorem names_of_extendTypes {extensions : List Placed}
    (h : extendTypes types extensions = .ok result) :
    result.map TypeDefinition.name = types.map TypeDefinition.name := by
  induction extensions generalizing types with
  | nil =>
    cases h
    rfl
  | cons extension rest ih =>
    obtain ⟨extended, first, later⟩ := bind_eq_ok_iff.mp h
    rw [ih later, names_of_extendType first]

theorem extendTypes_of_append {extensions : List Placed} (more : List TypeDefinition)
    (h : extendTypes types extensions = .ok result) :
    extendTypes (types ++ more) extensions = .ok (result ++ more) := by
  induction extensions generalizing types with
  | nil =>
    cases h
    rfl
  | cons extension rest ih =>
    rw [extendTypes] at h ⊢
    obtain ⟨extended, first, later⟩ := bind_eq_ok_iff.mp h
    rw [extendType_append more first]
    exact ih later

/-! ## Built-in scalars -/

/-- Of the types that are added at the end, one has a given name exactly if it is
the name of a built-in scalar that is not defined. -/
theorem find?_missingScalars (types : List TypeDefinition) (name : String) :
    (missingScalars types).find? (·.name = name) =
      if name ∈ builtinScalars ∧ defines types name = false then some { name, kind := .scalar }
      else none := by
  have scalar : (fun type : TypeDefinition => decide (type.name = name)) ∘
      (fun name => { name, kind := .scalar }) = (decide <| · = name) := rfl
  rw [missingScalars, List.find?_map, scalar, List.find?_filter]
  by_cases missing : name ∈ builtinScalars ∧ defines types name = false
  · rw [if_pos missing]
    have present : (builtinScalars.find? fun other =>
        decide ((!defines types other) = true ∧ decide (other = name) = true)).isSome = true :=
      List.find?_isSome.mpr ⟨name, missing.1, by simp [missing.2]⟩
    obtain ⟨found, present⟩ := Option.isSome_iff_exists.mp present
    have same : found = name := by
      have meets := List.find?_some present
      simp only [decide_eq_true_iff] at meets
      exact meets.2
    rw [present, same]
    rfl
  · rw [if_neg missing, List.find?_eq_none.mpr]
    · rfl
    · rintro other member meets
      simp only [Bool.not_eq_true', decide_eq_true_iff] at meets
      obtain ⟨undefined, rfl⟩ := meets
      exact missing ⟨member, undefined⟩

/-! ## The schema -/

/-- Assembly, group by group. -/
theorem assemble_eq (definitions : List Definition) : assemble definitions = (do
    let defined ← addTypes [] (definitions.filterMap Definition.type?)
    let extended ← extendTypes defined (definitions.filterMap Definition.extension?)
    let types := extended ++ missingScalars extended
    let roots := definitions.filterMap Definition.roots?
    let query? := lastNamed RootNames.query? roots
    let subscription? := lastNamed RootNames.subscription? roots
    checkRoot types query?
    checkRoot types subscription?
    return {
      types
      queryRoot := query?.getD defaultQueryRoot
      subscriptionRoot? := subscription?.or
        (if defines types defaultSubscriptionRoot then some defaultSubscriptionRoot
        else none) }) := by
  rw [assemble, collect_eq]
  simp only [List.nil_append, Option.or_none]
  cases addTypes [] (definitions.filterMap Definition.type?) <;> rfl

/-- What a schema is made of, step by step. -/
theorem assemble_eq_ok {definitions : List Definition} {schema : Schema}
    (h : assemble definitions = .ok schema) :
    ∃ defined extended,
      addTypes [] (definitions.filterMap Definition.type?) = .ok defined ∧
      extendTypes defined (definitions.filterMap Definition.extension?) = .ok extended ∧
      schema.types = extended ++ missingScalars extended ∧
      schema.subscriptionRoot? =
        (lastNamed RootNames.subscription? (definitions.filterMap Definition.roots?)).or
          (if defines schema.types defaultSubscriptionRoot then some defaultSubscriptionRoot
          else none) := by
  rw [assemble_eq] at h
  obtain ⟨defined, taken, h⟩ := bind_eq_ok_iff.mp h
  obtain ⟨extended, applied, h⟩ := bind_eq_ok_iff.mp h
  obtain ⟨-, -, h⟩ := bind_eq_ok_iff.mp h
  obtain ⟨-, -, h⟩ := bind_eq_ok_iff.mp h
  cases h
  exact ⟨defined, extended, taken, applied, rfl, rfl⟩

end Schema

end WebhookPayload
