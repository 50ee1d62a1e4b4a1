import WebhookPayload.Proofs.SelectedData
import WebhookPayload.Proofs.StoppingEarly
import WebhookPayload.Proofs.UnorderedJson

/-! # The order of selections

An execution takes selections in order: the first of an output name decides, and the
first failure may end what is answered. Still their order shows in the order of keys
only. If resolvers look at the object, the name of the field and its arguments, and
if fields that are merged agree in name and arguments, then selections in another
order, at any depth, give an object with the same members, or none as well
(`answerFields_reordered`). Since no value depends on where an execution stops, this
is shown of responses that are completed to the end. -/

namespace WebhookPayload

open GraphQL

/-! ## Other orders -/

/-- The same selections in another order, and what is selected below them too. -/
inductive SelectedField.Reordered : List SelectedField → List SelectedField → Prop
  | nil : Reordered [] []
  | cons (field : SelectedField) {below fields others : List SelectedField}
      (inside : Reordered field.subfields below) (rest : Reordered fields others) :
      Reordered (field :: fields) ({ field with subfields := below } :: others)
  | swap (first second : SelectedField) (rest : List SelectedField) :
      Reordered (first :: second :: rest) (second :: first :: rest)
  | trans {fields others last : List SelectedField} (h : Reordered fields others)
      (h' : Reordered others last) : Reordered fields last

/-- Fields that share an output name have the same name and arguments. -/
def SelectedField.Agreeing (fields : List SelectedField) : Prop :=
  ∀ a ∈ fields, ∀ b ∈ fields, a.outputName = b.outputName →
    a.name = b.name ∧ a.arguments = b.arguments

/-- Only fields with the same name and arguments are merged on an object, and, below
the fields that are collected for it, on all objects that these may come to. -/
inductive Schema.MergesAlike (schema : Schema) : TypeDefinition → List SelectedField → Prop
  | intro {object : TypeDefinition} {fields : List SelectedField}
      (agree : SelectedField.Agreeing (applicable schema object.name fields))
      (below : ∀ field definition inner, field ∈ collectFields schema object.name fields →
        object.field? field.name = some definition →
        schema.Admits definition.type.underlying inner → MergesAlike schema inner field.subfields) :
      MergesAlike schema object fields

/-- How resolvers answer that look at the object, the name of the field and its arguments. -/
abbrev NamedAnswers := String → Json → String → List (String × Literal) → Resolved

def NamedAnswers.toFieldAnswers (answer : NamedAnswers) : FieldAnswers :=
  fun typeName parent field => answer typeName parent field.name field.arguments

namespace SelectedField.Reordered

variable {fields others : List SelectedField}

/-- By induction on what is selected, field by field. -/
theorem refl (fields : List SelectedField) : Reordered fields fields := by
  match fields with
  | [] => exact .nil
  | ⟨alias?, name, arguments, conditions, position, subfields⟩ :: rest =>
    exact .cons ⟨alias?, name, arguments, conditions, position, subfields⟩ (refl subfields)
      (refl rest)
termination_by sizeOf fields

theorem keep (field : SelectedField) (h : Reordered fields others) :
    Reordered (field :: fields) (field :: others) := by
  cases field
  exact .cons _ (refl _) h

theorem of_perm (h : fields.Perm others) : Reordered fields others := by
  induction h with
  | nil => exact .nil
  | cons field _ ih => exact ih.keep field
  | swap first second rest => exact .swap second first rest
  | trans _ _ ih ih' => exact ih.trans ih'

theorem append_left (more : List SelectedField) (h : Reordered fields others) :
    Reordered (more ++ fields) (more ++ others) := by
  induction more with
  | nil => exact h
  | cons field rest ih => exact ih.keep field

theorem append_right (h : Reordered fields others) (more : List SelectedField) :
    Reordered (fields ++ more) (others ++ more) := by
  induction h with
  | nil => exact refl more
  | cons field inside _ _ ih => exact .cons field inside ih
  | swap first second rest => exact .swap first second (rest ++ more)
  | trans _ _ ih ih' => exact ih.trans ih'

theorem append {more more' : List SelectedField} (h : Reordered fields others)
    (h' : Reordered more more') : Reordered (fields ++ more) (others ++ more') :=
  (h.append_right more).trans (append_left others h')

/-- A choice that does not depend on subfields chooses the same fields in another order. -/
theorem filter (p : SelectedField → Bool)
    (same : ∀ field subfields, p { field with subfields } = p field)
    (h : Reordered fields others) : Reordered (fields.filter p) (others.filter p) := by
  induction h with
  | nil => exact .nil
  | @cons field below _ _ inside _ _ ih =>
    rw [List.filter_cons, List.filter_cons, same field below]
    split
    · exact .cons field inside ih
    · exact ih
  | swap first second rest => exact of_perm ((List.Perm.swap second first rest).filter p)
  | trans _ _ ih ih' => exact ih.trans ih'

theorem flatMap_subfields (h : Reordered fields others) :
    Reordered (fields.flatMap subfields) (others.flatMap subfields) := by
  induction h with
  | nil => exact .nil
  | cons field inside _ _ ih => exact inside.append ih
  | swap first second rest =>
    exact of_perm ((List.Perm.swap second first rest).flatMap_right subfields)
  | trans _ _ ih ih' => exact ih.trans ih'

/-- What fields show of themselves apart from their subfields, they show in another order. -/
theorem perm_map {α : Type} (g : SelectedField → α)
    (same : ∀ field subfields, g { field with subfields } = g field)
    (h : Reordered fields others) : (fields.map g).Perm (others.map g) := by
  induction h with
  | nil => exact .nil
  | @cons field below _ _ _ _ _ ih =>
    rw [List.map_cons, List.map_cons, same field below]
    exact .cons _ ih
  | swap first second rest => exact .swap _ _ _
  | trans _ _ ih ih' => exact ih.trans ih'

end SelectedField.Reordered

/-! ## What is collected -/

section Collected

variable {fields others : List SelectedField}

theorem outputNames_perm (h : SelectedField.Reordered fields others) :
    (outputNames fields).Perm (outputNames others) := by
  have names := h.perm_map SelectedField.outputName fun _ _ => rfl
  refine (List.perm_ext_iff_of_nodup (nodup_outputNames fields) (nodup_outputNames others)).mpr ?_
  intro name
  rw [outputNames, outputNames, List.mem_eraseDups, List.mem_eraseDups, names.mem_iff]

/-- Fields of one name, with the same arguments, that select the same below in some order. -/
structure SelectedField.Matches (field other : SelectedField) : Prop where
  name : other.name = field.name
  arguments : other.arguments = field.arguments
  below : Reordered field.subfields other.subfields

/-- Another selection may come first under a name, but one that agrees. -/
theorem matches_of_mergedField? (agree : SelectedField.Agreeing fields)
    (h : SelectedField.Reordered fields others) {name : String} {field other : SelectedField}
    (merged : mergedField? name fields = some field)
    (merged' : mergedField? name others = some other) : field.Matches other := by
  obtain ⟨first, found, rfl⟩ := Option.map_eq_some_iff.mp merged
  obtain ⟨first', found', rfl⟩ := Option.map_eq_some_iff.mp merged'
  have named : first.outputName = name := by simpa using List.find?_some found
  have named' : first'.outputName = name := by simpa using List.find?_some found'
  have heads := h.perm_map (fun field => (field.outputName, field.name, field.arguments))
    fun _ _ => rfl
  obtain ⟨same, member, head⟩ := List.mem_map.mp
    (heads.mem_iff.mpr (List.mem_map_of_mem (List.mem_of_find?_eq_some found')))
  simp only [Prod.mk.injEq] at head
  obtain ⟨output, name', arguments'⟩ := head
  obtain ⟨name, arguments⟩ := agree same member first (List.mem_of_find?_eq_some found)
    (output.trans (named'.trans named.symm))
  exact ⟨name'.symm.trans name, arguments'.symm.trans arguments,
    (h.filter _ fun _ _ => rfl).flatMap_subfields⟩

theorem content_of_matches (answer : NamedAnswers) {field other : SelectedField}
    (h : field.Matches other) (object : TypeDefinition) (parent : Json) :
    answer.toFieldAnswers.content object parent other =
      answer.toFieldAnswers.content object parent field := by
  unfold FieldAnswers.content NamedAnswers.toFieldAnswers
  rw [h.name, h.arguments]

end Collected

/-! ## Values up to the order of members -/

section Rel

variable {α β γ δ : Type} {R : α → β → Prop} {S : γ → δ → Prop} {value? : Option α}
  {other? : Option β}

theorem rel_map (h : Option.Rel R value? other?) {f : α → γ} {g : β → δ}
    (values : ∀ a b, R a b → S (f a) (g b)) : Option.Rel S (value?.map f) (other?.map g) := by
  cases h with
  | none => exact .none
  | some related => exact .some (values _ _ related)

theorem eq_none_iff_of_rel (h : Option.Rel R value? other?) : value? = none ↔ other? = none := by
  cases h <;> simp

end Rel

theorem valueAt?_sameUpToOrder (nullable : Bool) {value? other? : Option Json}
    (h : Option.Rel Json.SameUpToOrder value? other?) :
    Option.Rel Json.SameUpToOrder (valueAt? nullable value?) (valueAt? nullable other?) := by
  unfold valueAt?
  cases nullable with
  | true =>
    cases h with
    | none => exact .some (.same .null)
    | some same => exact .some same
  | false =>
    cases h with
    | none => exact .none
    | some same =>
      simp only [Bool.false_eq_true, if_false, Option.filter_some, same.isNull_eq]
      split
      · exact .some same
      · exact .none

namespace ResponseTree

theorem itemValues?_sameUpToOrder {α : Type} {items : List α} {tree other : α → ResponseTree}
    (each : ∀ item ∈ items, Option.Rel Json.SameUpToOrder (tree item).value? (other item).value?) :
    Option.Rel (List.Forall₂ Json.SameUpToOrder) (itemValues? (items.map tree))
      (itemValues? (items.map other)) := by
  induction items with
  | nil => exact .some .nil
  | cons item rest ih =>
    obtain ⟨first, later⟩ := List.forall_mem_cons.mp each
    have later := ih later
    rw [List.map_cons, List.map_cons, itemValues?, itemValues?]
    generalize (tree item).value? = value?, (other item).value? = other? at first
    generalize itemValues? (rest.map tree) = values?, itemValues? (rest.map other) = others?
      at later
    cases first with
    | none => exact .none
    | some same => exact rel_map later fun _ _ all => .cons same all

theorem memberValues?_eq_some {trees : List (String × ResponseTree)} {members : Members}
    (h : memberValues? trees = some members) :
    List.Forall₂ (fun tree member => tree.1 = member.1 ∧ tree.2.value? = some member.2)
      trees members := by
  induction trees generalizing members with
  | nil =>
    cases h
    exact .nil
  | cons first rest ih =>
    obtain ⟨name, tree⟩ := first
    obtain ⟨json, value, h⟩ := Option.bind_eq_some_iff.mp h
    obtain ⟨others, later, rfl⟩ := Option.map_eq_some_iff.mp h
    exact .cons ⟨rfl, value⟩ (ih later)

theorem memberValues?_eq_none_iff {trees : List (String × ResponseTree)} :
    memberValues? trees = none ↔ ∃ tree ∈ trees, tree.2.value? = none := by
  induction trees with
  | nil => simp [memberValues?]
  | cons first rest ih =>
    obtain ⟨name, tree⟩ := first
    rw [memberValues?, List.exists_mem_cons_iff, ← ih]
    cases tree.value? <;> simp

section Members

variable {trees : List (String × ResponseTree)} {members : Members}
  (h : memberValues? trees = some members)

include h

theorem keys_of_memberValues? : members.keys = trees.map Prod.fst := by
  have paired := memberValues?_eq_some h
  rw [Members.keys, eq_comm, ← List.forall₂_eq_eq_eq, List.forall₂_map_left_iff,
    List.forall₂_map_right_iff]
  exact paired.imp fun _ _ held => held.1

theorem exists_tree_of_mem {key : String} {value : Json} (member : (key, value) ∈ members) :
    ∃ tree ∈ trees, tree.1 = key ∧ tree.2.value? = some value := by
  have paired := memberValues?_eq_some h
  clear h
  induction paired with
  | nil => cases member
  | cons held _ ih =>
    rcases List.mem_cons.mp member with rfl | later
    · exact ⟨_, List.mem_cons_self, held⟩
    · obtain ⟨tree, among, held⟩ := ih later
      exact ⟨tree, List.mem_cons_of_mem _ among, held⟩

end Members

/-- Members under the same names, in whatever order, make the same object if under each
name the same value is completed; and if one is missing, it is missing in both. -/
theorem memberValues?_sameUpToOrder {trees others : List (String × ResponseTree)}
    (names : (trees.map Prod.fst).Perm (others.map Prod.fst))
    (each : ∀ tree ∈ trees, ∀ other ∈ others, tree.1 = other.1 →
      Option.Rel Json.SameUpToOrder tree.2.value? other.2.value?) :
    Option.Rel (fun members others => Json.SameUpToOrder (.object members) (.object others))
      (memberValues? trees) (memberValues? others) := by
  have missing : memberValues? trees = none ↔ memberValues? others = none := by
    rw [memberValues?_eq_none_iff, memberValues?_eq_none_iff]
    constructor
    · rintro ⟨tree, member, none⟩
      obtain ⟨other, member', same⟩ :=
        List.mem_map.mp (names.mem_iff.mp (List.mem_map_of_mem member))
      exact ⟨other, member', (eq_none_iff_of_rel (each _ member _ member' same.symm)).mp none⟩
    · rintro ⟨other, member', none⟩
      obtain ⟨tree, member, same⟩ :=
        List.mem_map.mp (names.mem_iff.mpr (List.mem_map_of_mem member'))
      exact ⟨tree, member, (eq_none_iff_of_rel (each _ member _ member' same)).mpr none⟩
  cases given : memberValues? trees with
  | none =>
    rw [missing.mp given]
    exact .none
  | some members =>
    cases given' : memberValues? others with
    | none =>
      rw [missing.mpr given'] at given
      cases given
    | some members' =>
      refine .some (.object ?keys ?values)
      case keys => rwa [keys_of_memberValues? given, keys_of_memberValues? given']
      case values =>
        intro key value other member member'
        obtain ⟨tree, among, name, held⟩ := exists_tree_of_mem given member
        obtain ⟨tree', among', name', held'⟩ := exists_tree_of_mem given' member'
        have related := each tree among tree' among' (name.trans name'.symm)
        rw [held, held'] at related
        cases related with
        | some same => exact same

end ResponseTree

/-! ## Positions -/

namespace Schema

variable {schema : Schema} {answer : FieldAnswers}

theorem admits_of_shape {fieldName : String} {type : TypeRef} {resolved : Resolved}
    {object : TypeDefinition} {parent : Json}
    (h : schema.shape fieldName type resolved = .object object parent) :
    schema.Admits type.underlying object := by
  have taken := schema.takes_shape fieldName type resolved
  rw [h] at taken
  cases taken with
  | object _ defined possible kind => exact ⟨defined, kind, possible⟩

/-- With fields in another order, objects have the same members. -/
def AnswersUpToOrder (schema : Schema) (answer : FieldAnswers) (object : TypeDefinition)
    (fields others : List SelectedField) : Prop :=
  ∀ parent path path',
    Option.Rel (fun members others => Json.SameUpToOrder (.object members) (.object others))
      (ResponseTree.memberValues? (schema.memberTrees answer fields object parent path))
      (ResponseTree.memberValues? (schema.memberTrees answer others object parent path'))

/-- With two fields, a value of the given type is completed to the same. -/
def CompletesUpToOrder (schema : Schema) (answer : FieldAnswers) (field other : SelectedField)
    (type : TypeRef) : Prop :=
  ∀ resolved path path',
    Option.Rel Json.SameUpToOrder
      (schema.tree answer field path (.declared type resolved)).value?
      (schema.tree answer other path' (.declared type resolved)).value?

section Completed

variable {field other : SelectedField} {type : TypeRef}

/-- A position is completed to the same if its items and the objects there are. -/
theorem completesUpToOrder_of_parts (named : other.name = field.name)
    (items : ∀ itemType nullable, type = .list itemType nullable →
      schema.CompletesUpToOrder answer field other itemType)
    (members : ∀ object, schema.Admits type.underlying object →
      schema.AnswersUpToOrder answer object field.subfields other.subfields) :
    schema.CompletesUpToOrder answer field other type := by
  intro resolved path path'
  rw [tree_declared, tree_declared, named]
  cases taken : schema.shape field.name type resolved with
  | failure cause => exact valueAt?_sameUpToOrder _ .none
  | leaf json => exact valueAt?_sameUpToOrder _ (.some (.same json))
  | list itemType values =>
    obtain ⟨nullable, same⟩ := eq_list_of_shape taken
    have each := ResponseTree.itemValues?_sameUpToOrder fun item (_ : item ∈ values.zipIdx) =>
      items itemType nullable same (.ok item.1) (path ++ [.index item.2])
        (path' ++ [.index item.2])
    refine valueAt?_sameUpToOrder _ (rel_map each fun _ _ all => ?_)
    obtain ⟨length, each⟩ := List.forall₂_iff_zip.mp all
    exact .array length fun _ paired => each paired
  | object object parent =>
    have same := members object (admits_of_shape taken) parent path path'
    exact valueAt?_sameUpToOrder _ (rel_map same fun _ _ same => same)

/-- By induction on the type, whose lists are inside each other. -/
theorem completesUpToOrder (named : other.name = field.name)
    (members : ∀ object, schema.Admits type.underlying object →
      schema.AnswersUpToOrder answer object field.subfields other.subfields) :
    schema.CompletesUpToOrder answer field other type := by
  induction type with
  | named typeName nullable => exact completesUpToOrder_of_parts named nofun members
  | list itemType nullable ih =>
    refine completesUpToOrder_of_parts named (fun _ _ same => ?_) members
    cases same
    exact ih members

end Completed

theorem names_memberTrees (schema : Schema) (answer : FieldAnswers) (fields : List SelectedField)
    (object : TypeDefinition) (parent : Json) (path : Path) :
    (schema.memberTrees answer fields object parent path).map Prod.fst =
      outputNames (applicable schema object.name fields) := by
  rw [← outputNames_collectFields, memberTrees, List.map_map]
  rfl

/-- Objects have the same members: by induction on the fields as they are merged on
the way down. Under each name stand fields that match, so they come to the same. -/
theorem MergesAlike.answersUpToOrder (answer : NamedAnswers) {object : TypeDefinition}
    {fields others : List SelectedField} (alike : schema.MergesAlike object fields)
    (reordered : SelectedField.Reordered fields others) :
    schema.AnswersUpToOrder answer.toFieldAnswers object fields others := by
  induction alike generalizing others with
  | @intro object fields agree below ih =>
    intro parent path path'
    have applies : SelectedField.Reordered (applicable schema object.name fields)
        (applicable schema object.name others) := reordered.filter _ fun _ _ => rfl
    refine ResponseTree.memberValues?_sameUpToOrder ?names ?each
    case names =>
      rw [names_memberTrees, names_memberTrees]
      exact outputNames_perm applies
    case each =>
      intro tree member tree' member' output
      obtain ⟨field, collected, rfl⟩ := List.mem_map.mp member
      obtain ⟨other, collected', rfl⟩ := List.mem_map.mp member'
      have output : field.outputName = other.outputName := output
      have merged := mergedField?_of_mem collected
      rw [output] at merged
      have matched := matches_of_mergedField? agree applies merged (mergedField?_of_mem collected')
      dsimp only
      rw [content_of_matches answer matched]
      unfold FieldAnswers.content
      split
      · rw [tree, tree]
        exact .some (.same _)
      · cases declared : object.field? field.name with
        | none =>
          rw [tree, tree]
          exact .some (.same _)
        | some definition =>
          refine completesUpToOrder matched.name (fun inner admits => ?_) _ _ _
          exact ih field definition inner collected declared admits matched.below

end Schema

/-! ## Executions -/

/-- What the field resolvers of a registry answer for an owner depends on the object,
the name of the field and its arguments alone. -/
def Registry.AnswersByName (registry : Registry) (owner? : Option App) (answer : NamedAnswers) :
    Prop :=
  registry.AnswersBy owner? answer.toFieldAnswers

namespace Engine

variable {engine : Engine} {context : Context}

/-- An execution gives the members that are there in the end. -/
theorem value?_answerFields {answer : FieldAnswers}
    (answers : engine.resolvers.AnswersBy context.app? answer) (fields : List SelectedField)
    (object : TypeDefinition) (parent : Json) (path : Path) :
    (engine.answerFields fields object parent path context).value? =
      ResponseTree.memberValues? (engine.schema.memberTrees answer fields object parent path) := by
  refine (answerFields_endsLike answers rfl fun turn met => endsAt answers _ ?_).value
  have kept : turn.2.app? = context.app? :=
    Exec.app?_of_turn (fun field _ => answerField_keepsOwner (answersKeepOwner _ _) _ _ _) met
  exact (engine.owner_member object parent path turn.1 turn.2).trans kept

/-- Selections in another order, at any depth, give the same object but for the order
of keys, or no object either. -/
theorem answerFields_reordered {answer : NamedAnswers}
    (answers : engine.resolvers.AnswersByName context.app? answer) {object : TypeDefinition}
    {fields others : List SelectedField} (alike : engine.schema.MergesAlike object fields)
    (reordered : SelectedField.Reordered fields others) (parent : Json) (path : Path) :
    Option.Rel (fun members others => Json.SameUpToOrder (.object members) (.object others))
      (engine.answerFields fields object parent path context).value?
      (engine.answerFields others object parent path context).value? := by
  rw [value?_answerFields answers, value?_answerFields answers]
  exact alike.answersUpToOrder answer reordered parent path path

end Engine

/-! ## An order whose lines are selected twice -/

/-- Without aliases and arguments fields of one output name agree. -/
theorem SelectedField.agreeing_of_arePlain {schema : Schema} {typeName : String}
    {fields : List SelectedField} (plain : arePlain fields = true)
    (bare : ∀ field ∈ fields, field.arguments = []) :
    Agreeing (applicable schema typeName fields) := by
  intro a ha b hb same
  refine ⟨namesAgree_of_arePlain plain a ha b hb same, ?_⟩
  rw [bare a (List.mem_filter.mp ha).1, bare b (List.mem_filter.mp hb).1]

/-- Only itself may stand where a type is expected that is no interface or union. -/
theorem Schema.Admits.eq_of_concrete {schema : Schema} {typeName : String}
    {object type : TypeDefinition} (h : schema.Admits typeName object)
    (defined : schema.type? typeName = some type)
    (concrete : type.IsObject ∨ type.isLeaf = true) : object = type := by
  have possible := h.possible
  rw [← name_of_type? defined] at possible
  rcases (isPossible_iff (type?_self defined) h.defined).mp possible with
    same | ⟨members, union, -⟩ | ⟨⟨_, _, interface⟩, -, -⟩
  · exact same.symm
  · rcases concrete with ⟨_, _, kind⟩ | leaf
    · cases kind.symm.trans union
    · simp [TypeDefinition.isLeaf, TypeKind.isLeaf, union] at leaf
  · rcases concrete with ⟨_, _, kind⟩ | leaf
    · cases kind.symm.trans interface
    · simp [TypeDefinition.isLeaf, TypeKind.isLeaf, interface] at leaf

namespace Shop

def line : TypeDefinition :=
  { name := "Line"
    kind := .object [] [field "sku" (.named "String" false),
      field "price" (.named "String" true)] }

def order : TypeDefinition :=
  { name := "Order"
    kind := .object [] [field "number" (.named "String" false),
      field "lines" (.list (.named "Line" true) true)] }

def plainField (name : String) : SelectedField := (head 1 name).selected [] [] []

def linesOf (names : List String) : SelectedField :=
  (head 1 "lines").selected [] [] (names.map plainField)

def numberFirst : List SelectedField :=
  [plainField "number", linesOf ["sku", "price"], linesOf ["__typename", "sku"]]

def linesFirst : List SelectedField :=
  [linesOf ["sku", "__typename"], linesOf ["price", "sku"], plainField "number"]

/-- A line with these members, and one that is null since its `sku` cannot be. -/
def lineMembers (members : Members) : Json := .array [.object members, .null]

theorem linesFirst_reordered : SelectedField.Reordered numberFirst linesFirst := by
  have swapped (first second : String) : SelectedField.Reordered
      [plainField first, plainField second] [plainField second, plainField first] :=
    .swap _ _ _
  refine .trans (.swap _ _ _) (.trans (.keep _ (.swap _ _ _)) (.trans (.swap _ _ _) ?_))
  exact .cons (linesOf ["__typename", "sku"]) (swapped _ _)
    (.cons (linesOf ["sku", "price"]) (swapped _ _) (.refl _))

def string : TypeDefinition := { name := "String", kind := .scalar }

theorem not_admits_string (inner : TypeDefinition) : ¬ schema.Admits "String" inner := by
  intro admits
  have same : inner = string := admits.eq_of_concrete rfl (.inr rfl)
  obtain ⟨_, _, kind⟩ := admits.isObject
  rw [same] at kind
  cases kind

/-- Below lines only texts are selected. -/
theorem mergesAlike_line : schema.MergesAlike line
    ([plainField "sku", plainField "price"] ++ [plainField "__typename", plainField "sku"]) := by
  refine .intro (SelectedField.agreeing_of_arePlain rfl (by decide)) ?_
  intro field definition inner _ declared admits
  have text : definition.type.underlying = "String" := by
    rcases List.mem_pair.mp (List.mem_of_find?_eq_some declared) with rfl | rfl <;> rfl
  rw [text] at admits
  exact absurd admits (not_admits_string inner)

theorem mergesAlike_numberFirst : schema.MergesAlike order numberFirst := by
  refine .intro (SelectedField.agreeing_of_arePlain rfl (by decide)) ?_
  intro field definition inner collected declared admits
  have merged : collectFields schema "Order" numberFirst = [plainField "number",
    linesOf ["sku", "price", "__typename", "sku"]] := by rfl
  rw [show order.name = "Order" from rfl, merged] at collected
  rcases List.mem_pair.mp collected with rfl | rfl
  · cases declared
    exact absurd admits (not_admits_string inner)
  · cases declared
    have same : inner = line := admits.eq_of_concrete rfl (.inl ⟨_, _, rfl⟩)
    rw [same]
    exact mergesAlike_line

/-- Of a field, what the fields of the shop come to shows its name. -/
def namedFor (owner? : Option App) : NamedAnswers := fun typeName parent name _ =>
  answerFor owner? typeName parent (plainField name)

theorem guarded_answersByName (owner? : Option App) :
    guarded.AnswersByName owner? (namedFor owner?) :=
  guarded_answersBy owner?

/-- The order that is created. -/
def orderValue : Json := .object [("number", .string "17"), ("lines", lines)]

end Shop

/-- The number comes last, and in lines the name of their type; the second line is null
all the same. -/
theorem answerFields_reordered_for_lines :
    Shop.guarded.AnswersByName (some Shop.manager) (Shop.namedFor (some Shop.manager)) ∧
      Shop.schema.MergesAlike Shop.order Shop.numberFirst ∧
      SelectedField.Reordered Shop.numberFirst Shop.linesFirst ∧
      Option.Rel (fun members others => Json.SameUpToOrder (.object members) (.object others))
        ((Engine.mk Shop.schema Shop.guarded).answerFields Shop.numberFirst Shop.order
          Shop.orderValue [] (Shop.context.attachApp (some Shop.manager))).value?
        ((Engine.mk Shop.schema Shop.guarded).answerFields Shop.linesFirst Shop.order
          Shop.orderValue [] (Shop.context.attachApp (some Shop.manager))).value? ∧
      ((Engine.mk Shop.schema Shop.guarded).answerFields Shop.numberFirst Shop.order
          Shop.orderValue [] (Shop.context.attachApp (some Shop.manager))).value? =
        some [("number", .string "17"), ("lines", Shop.lineMembers
          [("sku", .string "A1"), ("price", .null), ("__typename", .string "Line")])] ∧
      ((Engine.mk Shop.schema Shop.guarded).answerFields Shop.linesFirst Shop.order
          Shop.orderValue [] (Shop.context.attachApp (some Shop.manager))).value? =
        some [("lines", Shop.lineMembers
          [("sku", .string "A1"), ("__typename", .string "Line"), ("price", .null)]),
          ("number", .string "17")] := by
  have answers : Shop.guarded.AnswersByName (Shop.context.attachApp (some Shop.manager)).app?
      (Shop.namedFor (some Shop.manager)) := Shop.guarded_answersByName _
  refine ⟨answers, Shop.mergesAlike_numberFirst, Shop.linesFirst_reordered, ?_, ?_, ?_⟩
  · exact Engine.answerFields_reordered answers Shop.mergesAlike_numberFirst
      Shop.linesFirst_reordered _ _
  · cbv
  · cbv

end WebhookPayload
