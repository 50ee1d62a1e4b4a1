import Mathlib.Data.List.Induction
import Mathlib.Data.List.Nodup
import WebhookPayload.Proofs.Inlining

/-! # What arguments are bound to

Arguments are bound in a loop that takes each declared argument out of those that are
supplied; what is left is stray. `bindArguments_spec` says without a loop when this
succeeds, what it gives, and which error it ends with: for every argument that is
declared, the last one of its name is searched in what is written. -/

namespace WebhookPayload

open GraphQL

/-! ## The variables of a value -/

namespace GraphQL.Value

variable {ν : Type}

mutual

/-- The variables at any depth of a value, in the order of writing. -/
def uses : Value ν → List ν
  | var name => [name]
  | null | boolean _ | number _ | string _ | enum _ => []
  | list items => usesOfItems items
  | object members => usesOfMembers members

def usesOfItems : List (Value ν) → List ν
  | [] => []
  | item :: rest => uses item ++ usesOfItems rest

def usesOfMembers : List (String × Value ν) → List ν
  | [] => []
  | (_, value) :: rest => uses value ++ usesOfMembers rest

end

mutual

/-- The value with a literal in the place of every variable. -/
def fill (values : ν → Literal) : Value ν → Literal
  | var name => values name
  | null => .null
  | boolean value => .boolean value
  | number value => .number value
  | string value => .string value
  | enum name => .enum name
  | list items => .list (fillItems values items)
  | object members => .object (fillMembers values members)

def fillItems (values : ν → Literal) : List (Value ν) → List Literal
  | [] => []
  | item :: rest => fill values item :: fillItems values rest

def fillMembers (values : ν → Literal) : List (String × Value ν) → List (String × Literal)
  | [] => []
  | (key, value) :: rest => (key, fill values value) :: fillMembers values rest

end

end GraphQL.Value

namespace Variables

/-- The first of some variables that has no value. -/
def undefined? (known : Variables) (names : List String) : Option String :=
  names.find? fun name => (known.lookup name).isNone

/-- A value with the values of its variables. -/
def fill (known : Variables) (value : Value String) : Literal :=
  value.fill fun name => (known.lookup name).getD .null

theorem undefined?_eq_none_iff {known : Variables} {names : List String} :
    known.undefined? names = none ↔ ∀ name ∈ names, ∃ value, known.lookup name = some value := by
  simp only [undefined?, List.find?_eq_none, Bool.not_eq_true, Option.isNone_eq_false_iff,
    Option.isSome_iff_exists]

theorem undefined?_append (known : Variables) (names others : List String) :
    known.undefined? (names ++ others) = (known.undefined? names).or (known.undefined? others) :=
  List.find?_append

/-- A result that is there if all of some variables have values. -/
def whenDefined {α ε : Type} (known : Variables) (missing : String → ε) (names : List String)
    (result : α) : Except ε α :=
  match known.undefined? names with
  | some name => .error (missing name)
  | none => .ok result

section WhenDefined

variable {α β γ ε : Type} (known : Variables) (missing : String → ε)

theorem whenDefined_map (names : List String) (a : α) (f : α → β) :
    (known.whenDefined missing names a).map f = known.whenDefined missing names (f a) := by
  unfold whenDefined
  cases known.undefined? names <;> rfl

/-- What is missing first decides. -/
theorem whenDefined_append (names others : List String) (a : α) (b : β) (f : α → β → γ) :
    (do
      let first ← known.whenDefined missing names a
      let second ← known.whenDefined missing others b
      return f first second) = known.whenDefined missing (names ++ others) (f a b) := by
  unfold whenDefined
  rw [undefined?_append]
  cases known.undefined? names <;> cases known.undefined? others <;> rfl

end WhenDefined

end Variables

section Substitution

variable {ε : Type} (known : Variables) (missing : String → ε)

/-- The value of a variable, or that it is missing. -/
def Variables.find (name : String) : Except ε Literal :=
  match known.lookup name with
  | some value => .ok value
  | none => .error (missing name)

mutual

/-- Variables are looked up in the order of writing, so the first one that is missing is
the one that is reported. -/
theorem GraphQL.Value.substitute_eq (value : Value String) :
    value.substitute (known.find missing) =
      known.whenDefined missing value.uses (known.fill value) := by
  cases value with
  | var name =>
    unfold Variables.fill
    rw [Value.substitute, Value.uses, Value.fill, Variables.find, Variables.whenDefined,
      Variables.undefined?, List.find?_singleton]
    cases known.lookup name <;> rfl
  | null | boolean | number | string | enum => rfl
  | list items =>
    rw [Value.substitute, substituteItems_eq items, Variables.whenDefined_map]
    rfl
  | object members =>
    rw [Value.substitute, substituteMembers_eq members, Variables.whenDefined_map]
    rfl

theorem GraphQL.Value.substituteItems_eq (items : List (Value String)) :
    Value.substituteItems (known.find missing) items =
      known.whenDefined missing (Value.usesOfItems items)
        (Value.fillItems (fun name => (known.lookup name).getD .null) items) := by
  cases items with
  | nil => rfl
  | cons item rest =>
    rw [Value.substituteItems, substitute_eq item, substituteItems_eq rest]
    exact known.whenDefined_append missing _ _ _ _ List.cons

theorem GraphQL.Value.substituteMembers_eq (members : List (String × Value String)) :
    Value.substituteMembers (known.find missing) members =
      known.whenDefined missing (Value.usesOfMembers members)
        (Value.fillMembers (fun name => (known.lookup name).getD .null) members) := by
  cases members with
  | nil => rfl
  | cons member rest =>
    obtain ⟨key, value⟩ := member
    rw [Value.substituteMembers, substitute_eq value, substituteMembers_eq rest]
    exact known.whenDefined_append missing _ _ _ _ fun first others => (key, first) :: others

end

theorem resolveVariables_eq (argument : Argument) :
    resolveVariables known argument =
      known.whenDefined (fun name => QueryError.variableNotFound name argument.position)
        argument.value.uses (known.fill argument.value) := by
  rw [← Value.substitute_eq]
  rfl

end Substitution

/-! ## What a field is given -/

namespace GraphQL.FieldHead

/-- The argument of a name. If there are several, the last one counts. -/
def argument? (head : FieldHead) (name : String) : Option Argument :=
  head.arguments.reverse.find? (·.name = name)

/-- The names of the arguments, in the order in which they appear first. -/
def argumentNames (head : FieldHead) : List String :=
  (head.arguments.map Argument.name).eraseDups

end GraphQL.FieldHead

theorem find?_setArgument (argument : Argument) (known : List Argument) (name : String) :
    (setArgument argument known).find? (·.name = name) =
      if argument.name = name then some argument else known.find? (·.name = name) := by
  induction known with
  | nil => simp [setArgument, List.find?_singleton]
  | cons first rest ih =>
    rw [setArgument]
    by_cases same : first.name = argument.name
    · rw [if_pos same, List.find?_cons, List.find?_cons, same]
      by_cases asked : argument.name = name <;> simp [asked]
    · rw [if_neg same, List.find?_cons, List.find?_cons, ih]
      by_cases asked : first.name = name
      · have other : argument.name ≠ name := fun h => same (asked.trans h.symm)
        simp [asked, other]
      · simp [asked]

theorem names_setArgument (argument : Argument) (known : List Argument) :
    (setArgument argument known).map Argument.name =
      if argument.name ∈ known.map Argument.name then known.map Argument.name
      else known.map Argument.name ++ [argument.name] := by
  induction known with
  | nil => simp [setArgument]
  | cons first rest ih =>
    rw [setArgument]
    by_cases same : first.name = argument.name
    · simp [same]
    · rw [if_neg same, List.map_cons, ih, List.map_cons]
      simp only [List.mem_cons, Ne.symm same, false_or]
      split <;> rfl

theorem find?_suppliedArguments (head : FieldHead) (name : String) :
    (suppliedArguments head).find? (·.name = name) = head.argument? name := by
  unfold suppliedArguments FieldHead.argument?
  induction head.arguments using List.reverseRecOn with
  | nil => rfl
  | append_singleton before argument ih =>
    rw [List.foldl_append, List.foldl_cons, List.foldl_nil, find?_setArgument, ih,
      List.reverse_append, List.reverse_singleton, List.singleton_append, List.find?_cons]
    by_cases asked : argument.name = name <;> simp [asked]

theorem names_suppliedArguments (head : FieldHead) :
    (suppliedArguments head).map Argument.name = head.argumentNames := by
  unfold suppliedArguments FieldHead.argumentNames
  induction head.arguments using List.reverseRecOn with
  | nil => rfl
  | append_singleton before argument ih =>
    rw [List.foldl_append, List.foldl_cons, List.foldl_nil, names_setArgument, ih, List.map_append,
      List.map_singleton, List.eraseDups_append]
    simp only [List.mem_eraseDups]
    generalize before.map Argument.name = known
    by_cases repeated : argument.name ∈ known <;>
      simp [repeated, List.removeAll, List.eraseDups_cons]

/-! ## What a definition comes to -/

/-- The error of the first variable without a value in what is given. -/
def Variables.unresolved? (known : Variables) (given? : Option Argument) : Option QueryError :=
  given?.bind fun argument => (known.undefined? argument.value.uses).map
    fun name => .variableNotFound name argument.position

theorem Variables.unresolved?_eq_none_iff {known : Variables} {given? : Option Argument} :
    known.unresolved? given? = none ↔ ∀ argument, given? = some argument →
      ∀ used ∈ argument.value.uses, ∃ value, known.lookup used = some value := by
  simp only [unresolved?, Option.bind_eq_none_iff, Option.map_eq_none_iff, undefined?_eq_none_iff]

namespace GraphQL.ArgumentDefinition

variable (definition : ArgumentDefinition) (known : Variables)

/-- The value of an argument whose variables are known: what is given, or else its default. -/
def value? (given? : Option Argument) : Option Literal :=
  match given? with
  | some argument => some (known.fill argument.value)
  | none => definition.default?

def entry? (given? : Option Argument) : Option (String × Literal) :=
  (definition.value? known given?).map (definition.name, ·)

/-- Why an argument of a field at a position cannot be bound: a variable of what is given
has no value, or else a value is missing that has to be there. -/
def failure? (position : Position) (given? : Option Argument) : Option QueryError :=
  (known.unresolved? given?).or
    (if (definition.value? known given?).all Value.isNull && !definition.type.nullable then
      some (.requiredArgumentNotFound definition.name position)
    else none)

end GraphQL.ArgumentDefinition

/-- How binding ends: with the first failure of a definition, or with what is stray, or
with what is bound. -/
def GraphQL.FieldHead.settle (head : FieldHead) (failure? : Option QueryError)
    (stray : List String) (bound : List (String × Literal)) :
    Except QueryError (List (String × Literal)) :=
  match failure?, stray with
  | some error, _ => .error error
  | none, [] => .ok bound
  | none, _ => .error (.strayArguments stray head.name head.position)

section Loop

variable {known : Variables} {head : FieldHead} {supplied : List Argument}
  {bound : List (String × Literal)}

theorem setMember_of_fresh {key : String} {value : Literal} (fresh : key ∉ bound.map Prod.fst) :
    Value.setMember key value bound = bound ++ [(key, value)] := by
  induction bound with
  | nil => rfl
  | cons first rest ih =>
    obtain ⟨other, taken⟩ := first
    obtain ⟨different, later⟩ := List.ne_and_not_mem_of_not_mem_cons fresh
    rw [Value.setMember, if_neg (Ne.symm different), ih later]
    rfl

theorem argumentValue?_eq (definition : ArgumentDefinition) :
    argumentValue? known supplied definition =
      match known.unresolved? (supplied.find? (·.name = definition.name)) with
      | some error => .error error
      | none => .ok (definition.value? known (supplied.find? (·.name = definition.name))) := by
  unfold argumentValue? Variables.unresolved?
  cases supplied.find? (·.name = definition.name) with
  | none => rfl
  | some argument =>
    dsimp only
    rw [resolveVariables_eq, Variables.whenDefined, Option.bind_some]
    cases known.undefined? argument.value.uses <;> rfl

/-- One turn: a definition fails, or it is bound and taken out of what is supplied. -/
theorem bindFrom_cons {definition : ArgumentDefinition}
    (fresh : definition.name ∉ bound.map Prod.fst) (rest : List ArgumentDefinition) :
    bindFrom known head supplied bound (definition :: rest) =
      match definition.failure? known head.position
          (supplied.find? (·.name = definition.name)) with
      | some error => .error error
      | none => bindFrom known head (supplied.filter (·.name ≠ definition.name))
          (bound ++ (definition.entry? known (supplied.find? (·.name = definition.name))).toList)
          rest := by
  rw [bindFrom, argumentValue?_eq]
  unfold ArgumentDefinition.failure? ArgumentDefinition.entry?
  cases known.unresolved? (supplied.find? (·.name = definition.name)) with
  | some error => rfl
  | none =>
    rw [ok_bind, Option.none_or]
    dsimp only
    split
    · rfl
    · dsimp only
      split
      · rename_i value bound
        rw [bound, setMember_of_fresh fresh]
        rfl
      · rename_i unbound
        rw [unbound, Option.map_none, Option.toList_none, List.append_nil]

/-- The whole loop. What is supplied shrinks with every turn, but not for the
definitions that are left, since their names are distinct. -/
theorem bindFrom_eq {given? : String → Option Argument} {definitions : List ArgumentDefinition}
    (distinct : (definitions.map ArgumentDefinition.name).Nodup)
    (fresh : ∀ definition ∈ definitions, definition.name ∉ bound.map Prod.fst)
    (given : ∀ definition ∈ definitions,
      supplied.find? (·.name = definition.name) = given? definition.name) :
    bindFrom known head supplied bound definitions = head.settle
      (definitions.findSome? fun definition =>
        definition.failure? known head.position (given? definition.name))
      ((supplied.map Argument.name).filter (· ∉ definitions.map ArgumentDefinition.name))
      (bound ++ definitions.filterMap fun definition =>
        definition.entry? known (given? definition.name)) := by
  induction definitions generalizing supplied bound with
  | nil =>
    rw [bindFrom]
    cases supplied <;> simp [FieldHead.settle]
  | cons definition rest ih =>
    obtain ⟨new, distinct⟩ := List.nodup_cons.mp distinct
    rw [bindFrom_cons (fresh definition List.mem_cons_self), given definition List.mem_cons_self,
      List.findSome?_cons]
    cases definition.failure? known head.position (given? definition.name) with
    | some error => rfl
    | none =>
      have others : ∀ other ∈ rest, other.name ≠ definition.name :=
        fun other member same => new (same ▸ List.mem_map_of_mem member)
      have names : ((supplied.filter (·.name ≠ definition.name)).map Argument.name).filter
            (· ∉ rest.map ArgumentDefinition.name) =
          (supplied.map Argument.name).filter
            (· ∉ (definition :: rest).map ArgumentDefinition.name) := by
        rw [List.filter_map, List.filter_map, List.filter_filter]
        congr 2
        funext argument
        by_cases same : argument.name = definition.name <;> simp [same]
      have entries : bound ++ (definition.entry? known (given? definition.name)).toList ++
            rest.filterMap (fun other => other.entry? known (given? other.name)) =
          bound ++ (definition :: rest).filterMap
            fun other => other.entry? known (given? other.name) := by
        rw [List.filterMap_cons, List.append_assoc]
        cases definition.entry? known (given? definition.name) <;> rfl
      rw [← names, ← entries]
      refine ih distinct ?fresh ?given
      case fresh =>
        intro other member
        rw [List.map_append, List.mem_append, not_or]
        refine ⟨fresh other (List.mem_cons_of_mem _ member), ?_⟩
        simpa [ArgumentDefinition.entry?] using fun _ _ => (others other member).symm
      case given =>
        intro other member
        rw [← given other (List.mem_cons_of_mem _ member), List.find?_filter]
        congr 1
        funext argument
        by_cases same : argument.name = other.name <;> simp [same, others other member]

end Loop

/-! ## Arguments of a field -/

namespace GraphQL.FieldHead

variable (head : FieldHead) (known : Variables)

/-- The names of arguments that are not declared, in the order in which they appear first. -/
def undeclared (definitions : List ArgumentDefinition) : List String :=
  head.argumentNames.filter (· ∉ definitions.map ArgumentDefinition.name)

/-- Why the argument of a definition cannot be bound, if it cannot. -/
def failure? (definition : ArgumentDefinition) : Option QueryError :=
  definition.failure? known head.position (head.argument? definition.name)

/-- What is given or else the default, with the name, in the order of the definitions. -/
def entries (definitions : List ArgumentDefinition) : List (String × Literal) :=
  definitions.filterMap fun definition => definition.entry? known (head.argument? definition.name)

/-- Everything that is given is declared and known, and nothing is missing or null
that must not be. -/
structure Binds (definitions : List ArgumentDefinition) : Prop where
  declared : ∀ argument ∈ head.arguments,
    argument.name ∈ definitions.map ArgumentDefinition.name
  defined : ∀ name argument, head.argument? name = some argument →
    ∀ used ∈ argument.value.uses, ∃ value, known.lookup used = some value
  present : ∀ definition ∈ definitions, definition.type.nullable = false →
    ∃ value, definition.value? known (head.argument? definition.name) = some value ∧
      value.isNull = false

end GraphQL.FieldHead

section Field

variable {known : Variables} {head : FieldHead} {definitions : List ArgumentDefinition}

theorem GraphQL.ArgumentDefinition.failure?_eq_none_iff {definition : ArgumentDefinition}
    {position : Position} {given? : Option Argument} :
    definition.failure? known position given? = none ↔
      (∀ argument, given? = some argument →
        ∀ used ∈ argument.value.uses, ∃ value, known.lookup used = some value) ∧
      (definition.type.nullable = false →
        ∃ value, definition.value? known given? = some value ∧ value.isNull = false) := by
  have present : (definition.value? known given?).all Value.isNull = false ↔
      ∃ value, definition.value? known given? = some value ∧ value.isNull = false := by
    cases definition.value? known given? <;> simp
  rw [← Variables.unresolved?_eq_none_iff, ← present, failure?, Option.or_eq_none_iff]
  refine and_congr_right fun _ => ?_
  cases (definition.value? known given?).all Value.isNull <;>
    cases definition.type.nullable <;> simp

theorem argument?_eq_some {name : String} {argument : Argument}
    (h : head.argument? name = some argument) : argument ∈ head.arguments ∧ argument.name = name :=
  ⟨List.mem_reverse.mp (List.mem_of_find?_eq_some h), by simpa using List.find?_some h⟩

theorem undeclared_eq_nil_iff : head.undeclared definitions = [] ↔
    ∀ argument ∈ head.arguments, argument.name ∈ definitions.map ArgumentDefinition.name := by
  simp only [FieldHead.undeclared, FieldHead.argumentNames, List.filter_eq_nil_iff,
    List.mem_eraseDups, List.forall_mem_map, decide_not, Bool.not_eq_true', decide_eq_false_iff_not,
    not_not]

theorem binds_iff : head.Binds known definitions ↔
    (∀ definition ∈ definitions, head.failure? known definition = none) ∧
      head.undeclared definitions = [] := by
  rw [undeclared_eq_nil_iff]
  constructor
  · intro h
    refine ⟨fun definition member => ?_, h.declared⟩
    exact ArgumentDefinition.failure?_eq_none_iff.mpr
      ⟨fun argument => h.defined _ argument, h.present definition member⟩
  · rintro ⟨sound, declared⟩
    have sound definition member :=
      ArgumentDefinition.failure?_eq_none_iff.mp (sound definition member)
    refine ⟨declared, ?_, fun definition member => (sound definition member).2⟩
    intro name argument given
    obtain ⟨written, rfl⟩ := argument?_eq_some given
    obtain ⟨definition, member, same⟩ := List.mem_map.mp (declared argument written)
    exact (sound definition member).1 argument (same ▸ given)

theorem bindArguments_eq_settle (distinct : (definitions.map ArgumentDefinition.name).Nodup) :
    bindArguments known head definitions =
      head.settle (definitions.findSome? (head.failure? known)) (head.undeclared definitions)
        (head.entries known definitions) := by
  rw [bindArguments, bindFrom_eq distinct (fun _ _ => List.not_mem_nil)
    fun definition _ => find?_suppliedArguments head definition.name, names_suppliedArguments]
  rfl

theorem settle_eq_ok_iff {failure? : Option QueryError} {stray : List String}
    {bound entries : List (String × Literal)} :
    head.settle failure? stray entries = .ok bound ↔
      (failure? = none ∧ stray = []) ∧ bound = entries := by
  unfold FieldHead.settle
  cases failure? <;> cases stray <;> simp [eq_comm]

theorem settle_eq_error_iff {failure? : Option QueryError} {stray : List String}
    {entries : List (String × Literal)} {error : QueryError} :
    head.settle failure? stray entries = .error error ↔
      failure? = some error ∨
        failure? = none ∧ stray ≠ [] ∧ error = .strayArguments stray head.name head.position := by
  unfold FieldHead.settle
  cases failure? <;> cases stray <;> simp [eq_comm]

/-- When arguments are bound and to what, and which error it is if they are not: that of
the first definition that fails, and only if none does, what is not declared. -/
theorem bindArguments_spec (known : Variables) (head : FieldHead)
    {definitions : List ArgumentDefinition}
    (distinct : (definitions.map ArgumentDefinition.name).Nodup) :
    (∀ bound, bindArguments known head definitions = .ok bound ↔
      head.Binds known definitions ∧ bound = head.entries known definitions) ∧
    ∀ error, bindArguments known head definitions = .error error ↔
      (∃ before definition after, definitions = before ++ definition :: after ∧
        head.failure? known definition = some error ∧
        ∀ earlier ∈ before, head.failure? known earlier = none) ∨
      (∀ definition ∈ definitions, head.failure? known definition = none) ∧
        head.undeclared definitions ≠ [] ∧
        error = .strayArguments (head.undeclared definitions) head.name head.position := by
  rw [bindArguments_eq_settle distinct]
  constructor
  · intro bound
    rw [settle_eq_ok_iff, binds_iff, List.findSome?_eq_none_iff]
  · intro error
    rw [settle_eq_error_iff, List.findSome?_eq_some_iff, List.findSome?_eq_none_iff]

end Field

/-! ## A thumbnail -/

namespace Thumbnail

/-- `thumbnail(channel: String!, size: Size = LARGE, formats: [String], crop: Boolean = true)` -/
def definitions : List ArgumentDefinition :=
  [{ name := "channel", type := .named "String" false, default? := none },
    { name := "size", type := .named "Size" true, default? := some (.enum "LARGE") },
    { name := "formats", type := .list (.named "String" true) true, default? := none },
    { name := "crop", type := .named "Boolean" true, default? := some (.boolean true) }]

def known : Variables := [("channel", .string "web"), ("format", .enum "WEBP")]

def head (arguments : List Argument) : FieldHead :=
  { position := ⟨1, 16⟩, alias? := none, name := "thumbnail", arguments }

/-- `thumbnail(size: $nowhere, formats: [AVIF, $format], channel: $channel, size: null)` -/
def bound : FieldHead :=
  head [⟨"size", .var "nowhere", ⟨1, 32⟩⟩,
    ⟨"formats", .list [.enum "AVIF", .var "format"], ⟨1, 51⟩⟩,
    ⟨"channel", .var "channel", ⟨1, 75⟩⟩, ⟨"size", .null, ⟨1, 91⟩⟩]

/-- `thumbnail(tint: null, channel: $channel, alt: $nowhere, tint: RED)` -/
def stray : FieldHead :=
  head [⟨"tint", .null, ⟨1, 32⟩⟩, ⟨"channel", .var "channel", ⟨1, 47⟩⟩,
    ⟨"alt", .var "nowhere", ⟨1, 62⟩⟩, ⟨"tint", .enum "RED", ⟨1, 78⟩⟩]

/-- `thumbnail(tint: null, formats: [$format, $nowhere], channel: $channel)` -/
def undefined : FieldHead :=
  head [⟨"tint", .null, ⟨1, 32⟩⟩, ⟨"formats", .list [.var "format", .var "nowhere"], ⟨1, 47⟩⟩,
    ⟨"channel", .var "channel", ⟨1, 76⟩⟩]

end Thumbnail

/-- The last `size` counts, though it is null; what is stray is reported if nothing fails. -/
theorem bindArguments_spec_on_thumbnail :
    (Thumbnail.definitions.map ArgumentDefinition.name).Nodup ∧
      bindArguments Thumbnail.known Thumbnail.bound Thumbnail.definitions =
        .ok [("channel", .string "web"), ("size", .null),
          ("formats", .list [.enum "AVIF", .enum "WEBP"]), ("crop", .boolean true)] ∧
      bindArguments Thumbnail.known Thumbnail.stray Thumbnail.definitions =
        .error (.strayArguments ["tint", "alt"] "thumbnail" ⟨1, 16⟩) ∧
      bindArguments Thumbnail.known Thumbnail.undefined Thumbnail.definitions =
        .error (.variableNotFound "nowhere" ⟨1, 47⟩) := by
  have distinct : (Thumbnail.definitions.map ArgumentDefinition.name).Nodup := by decide
  refine ⟨distinct, ?_, ?_, ?_⟩
  · refine ((bindArguments_spec _ _ distinct).1 _).mpr ⟨binds_iff.mpr ⟨?_, rfl⟩, rfl⟩
    exact List.findSome?_eq_none_iff.mp rfl
  · refine ((bindArguments_spec _ _ distinct).2 _).mpr (.inr ⟨?_, by decide, rfl⟩)
    exact List.findSome?_eq_none_iff.mp rfl
  · exact ((bindArguments_spec _ _ distinct).2 _).mpr
      (.inl (List.findSome?_eq_some_iff.mp rfl))

end WebhookPayload
