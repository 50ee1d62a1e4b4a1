import WebhookPayload.Proofs.Progress

/-! # Where errors point

The way to a position of the response is a chain of selections. It starts with the field of
the subscription, and each further selection is the first of its output name that applies to
the object that is met there, out of what is selected below the one before. Within the value
of a selection the way may take items of lists (`Engine.Chain`). The path of an error is the
way to where it is recorded, and its location is where the last selection stands. -/

namespace WebhookPayload

open GraphQL

/-- A selection on the way to a position, and the items that the way takes within its value. -/
structure Link where
  /-- The first of the selections that are answered together. -/
  selection : SelectedField
  /-- What the object declares the field as, if it does. -/
  type? : Option TypeRef
  indexes : List Nat

namespace Link

/-- A selection, before any item of its value is taken. -/
def start (selection : SelectedField) (definition? : Option FieldDefinition) : Link :=
  { selection, type? := definition?.map FieldDefinition.type, indexes := [] }

def item (link : Link) (index : Nat) : Link := { link with indexes := link.indexes ++ [index] }

def segments (link : Link) : Path := .field link.selection.outputName :: link.indexes.map .index

/-- How many lists the declared type has inside each other. -/
def depth (link : Link) : Nat := (link.type?.map TypeRef.listDepth).getD 0

theorem segments_item (link : Link) (index : Nat) :
    (link.item index).segments = link.segments ++ [.index index] := by
  simp [segments, item]

end Link

namespace Engine

/-- The way to a position: the links that are passed, and the last one. -/
inductive Chain (engine : Engine) (subscription : Subscription) (event : Event)
    (context : Context) : List Link → Link → Place → Prop
  | root {place : Place} (rooted : engine.root? subscription event context = some place) :
    Chain engine subscription event context []
      (.start subscription.field
        (engine.schema.subscriptionType?.bind (·.field? subscription.field.name))) place
  | item {passed : List Link} {last : Link} {place next : Place} {index : Nat}
    (way : Chain engine subscription event context passed last place)
    (part : (.index index, next) ∈ engine.partsOf place) :
    Chain engine subscription event context passed (last.item index) next
  | member {passed : List Link} {last : Link} {place next : Place} {object : TypeDefinition}
    {parent : Json} {first : SelectedField}
    (way : Chain engine subscription event context passed last place)
    (answers : engine.AnswersObject place object parent)
    (leading : (applicable engine.schema object.name place.field.subfields).find?
      (·.outputName = first.outputName) = some first)
    (merged : next.field = { first with
      subfields := ((applicable engine.schema object.name place.field.subfields).filter
        (·.outputName = first.outputName)).flatMap SelectedField.subfields })
    (part : (.field first.outputName, next) ∈ engine.partsOf place) :
    Chain engine subscription event context (passed ++ [last])
      (.start first (object.field? first.name)) next

variable {engine : Engine} {subscription : Subscription} {event : Event} {context : Context}
  {passed : List Link} {last : Link} {place : Place}

/-! ## Members of an object -/

theorem AnswersObject.unique {object other : TypeDefinition} {parent parent' : Json}
    (answers : engine.AnswersObject place object parent)
    (answers' : engine.AnswersObject place other parent') : object = other := by
  obtain ⟨type, resolved, content, shape⟩ := answers
  obtain ⟨type', resolved', content', shape'⟩ := answers'
  cases content.symm.trans content'
  cases shape.symm.trans shape'
  rfl

/-- Below an output name lies a collected field of the object at the position. -/
theorem exists_member_of_mem_partsOf {name : String} {next : Place}
    (h : (.field name, next) ∈ engine.partsOf place) :
    ∃ object parent field context, engine.AnswersObject place object parent ∧
      field ∈ collectFields engine.schema object.name place.field.subfields ∧
      field.outputName = name ∧ next = engine.member object parent place.path field context := by
  generalize part : (PathSegment.field name, next) = found at h
  cases partOf_of_mem_partsOf h with
  | item content value context => cases part
  | @member type resolved object parent field content shape collected context =>
    obtain ⟨named, rfl⟩ := Prod.mk.inj part
    exact ⟨object, parent, field, context, ⟨type, resolved, content, shape⟩, collected,
      (PathSegment.field.inj named).symm, rfl⟩

/-- At the position of a field no more lists are expected than the object declares. -/
theorem depth_member_le (engine : Engine) (object : TypeDefinition) (parent : Json) (path : Path)
    (field selection : SelectedField) (context : Context) :
    (engine.member object parent path field context).depth ≤
      (Link.start selection (object.field? field.name)).depth := by
  unfold member content Link.start Link.depth Place.depth
  by_cases typename : field.name = typenameField
  · rw [if_pos typename]
    exact Nat.zero_le _
  · rw [if_neg typename]
    cases object.field? field.name <;> exact Nat.le_refl _

/-! ## What chains tell of positions -/

theorem Chain.path_eq (way : engine.Chain subscription event context passed last place) :
    place.path = (passed ++ [last]).flatMap Link.segments := by
  induction way with
  | root rooted =>
    obtain ⟨-, -, -, -, -, -, path, -⟩ := root?_eq_some rooted
    exact path
  | item way part ih =>
    rw [path_of_mem_partsOf part, ih]
    simp [Link.segments_item]
  | member way answers leading merged part ih =>
    rw [path_of_mem_partsOf part, ih]
    simp [Link.start, Link.segments]

theorem Chain.position_eq (way : engine.Chain subscription event context passed last place) :
    place.field.position = last.selection.position := by
  induction way with
  | root rooted =>
    obtain ⟨-, -, -, -, -, field, -, -⟩ := root?_eq_some rooted
    exact congrArg SelectedField.position field
  | item way part ih =>
    cases partOf_of_mem_partsOf part
    exact ih
  | member way answers leading merged part _ => rw [merged]; rfl

/-- The items that are taken and the lists that are still expected are as many as declared. -/
theorem Chain.depth_le (way : engine.Chain subscription event context passed last place) :
    last.indexes.length + place.depth ≤ last.depth := by
  induction way with
  | root rooted =>
    obtain ⟨object, definition, resolved, rooted, declared, -, -, content⟩ := root?_eq_some rooted
    rw [rooted, Option.bind_some, declared, Place.depth, content]
    exact Nat.le_of_eq (Nat.zero_add _)
  | @item passed last place next index way part ih =>
    cases partOf_of_mem_partsOf part with
    | @item itemType nullable resolved content value context =>
      -- one more item is taken, and one list less is expected
      have around : place.depth = itemType.listDepth + 1 := by
        rw [Place.depth, content]
        rfl
      have inside : (Engine.item place.field place.path itemType value context).depth =
          itemType.listDepth := rfl
      have taken : (last.item value.2).indexes.length = last.indexes.length + 1 :=
        List.length_append
      have declared : (last.item value.2).depth = last.depth := rfl
      omega
  | @member passed last place next object parent first way answers leading merged part _ =>
    obtain ⟨other, parent', field, context, answers', -, -, rfl⟩ :=
      exists_member_of_mem_partsOf part
    cases answers.unique answers'
    have same : field = { first with subfields := _ } := merged
    have named : field.name = first.name := by rw [same]
    have declared := engine.depth_member_le object parent' place.path field first context
    rw [named] at declared
    exact Nat.le_trans (Nat.le_of_eq (Nat.zero_add _)) declared

theorem Chain.indexes_le (way : engine.Chain subscription event context passed last place) :
    ∀ link ∈ passed ++ [last], link.indexes.length ≤ link.depth := by
  have ends : last.indexes.length ≤ last.depth := Nat.le_trans (Nat.le_add_right _ _) way.depth_le
  have before : ∀ link ∈ passed, link.indexes.length ≤ link.depth := by
    clear ends
    induction way with
    | root rooted => nofun
    | item way part ih => exact ih
    | member way answers leading merged part ih =>
      refine List.forall_mem_append.mpr ⟨ih, List.forall_mem_singleton.mpr ?_⟩
      exact Nat.le_trans (Nat.le_add_right _ _) way.depth_le
  exact List.forall_mem_append.mpr ⟨before, List.forall_mem_singleton.mpr ends⟩

/-! ## A chain to every position -/

/-- From a position the way goes on to each part of it. -/
theorem Chain.exists_of_part (way : engine.Chain subscription event context passed last place)
    {part : PathSegment × Place} (h : part ∈ engine.partsOf place) :
    ∃ passed last, engine.Chain subscription event context passed last part.2 := by
  obtain ⟨segment, next⟩ := part
  cases segment with
  | index index => exact ⟨_, _, way.item h⟩
  | field name =>
    obtain ⟨object, parent, field, context, answers, collected, rfl, rfl⟩ :=
      exists_member_of_mem_partsOf h
    obtain ⟨first, leading, merged⟩ := exists_first_of_mem collected
    have output : field.outputName = first.outputName := by rw [merged]; rfl
    rw [output] at leading merged h
    exact ⟨_, _, way.member answers leading merged h⟩

theorem Chain.exists_of_liesAt (way : engine.Chain subscription event context passed last place)
    {rest : Path} {below : Place} (lies : engine.LiesAt place rest below) :
    ∃ passed last, engine.Chain subscription event context passed last below := by
  induction lies generalizing passed last with
  | here place => exact ⟨passed, last, way⟩
  | part member _ ih =>
    obtain ⟨_, _, way⟩ := way.exists_of_part member
    exact ih way

/-- Every error points at the last selection of the way to where it is recorded; an execution
that fails as a whole points at the field of the subscription. -/
theorem errors_point_at_selections (engine : Engine) (subscription : Subscription) (event : Event)
    (context : Context) :
    (∀ response, (engine.execute subscription event context).result = .ok (some response) →
      ∀ error ∈ response.errors, ∃ passed last place,
        engine.Chain subscription event context passed last place ∧
        error.path = (passed ++ [last]).flatMap Link.segments ∧
        error.locations = [last.selection.position] ∧
        ∀ link ∈ passed ++ [last], link.indexes.length ≤ link.depth) ∧
    ∀ error, (engine.execute subscription event context).result = .error error →
      error.path = [.field subscription.field.outputName] ∧
        error.locations = [subscription.field.position] := by
  constructor
  · intro response executed error member
    -- the error is recorded somewhere below the root, and a way leads there
    obtain ⟨root, rooted, -, errors⟩ := execute_eq_ok executed
    rw [errors] at member
    obtain ⟨rest, place, cause, lies, -, rfl⟩ := engine.records_of_mem_errors root error member
    obtain ⟨passed, last, way⟩ := (Chain.root rooted).exists_of_liesAt lies
    exact ⟨passed, last, place, way, way.path_eq, congrArg List.singleton way.position_eq,
      way.indexes_le⟩
  · intro error failed
    unfold execute at failed
    dsimp only at failed
    split at failed
    · cases failed
      exact ⟨rfl, rfl⟩
    · split at failed
      · cases failed
        exact ⟨rfl, rfl⟩
      · cases failed
      · cases failed

end Engine

namespace Shop

/-- A subscription that the shop does not offer. -/
def refunds : Subscription := { name? := none, field := (head 16 "refund").selected [] [] [] }

end Shop

/-- The way to the missing `sku` goes by the second line, and ends where `sku` is selected. -/
theorem errors_point_at_selections_on_created :
    (Shop.engine.execute Shop.subscription Shop.created Shop.context).result =
        .ok (some Shop.response) ∧
      (∃ passed last place,
        Shop.engine.Chain Shop.subscription Shop.created Shop.context passed last place ∧
        (passed ++ [last]).flatMap Link.segments =
          [.field "event", .field "order", .field "lines", .index 1, .field "sku"] ∧
        last.selection.position = ⟨1, 63⟩ ∧
        ∀ link ∈ passed ++ [last], link.indexes.length ≤ link.depth) ∧
      ∃ error, (Shop.engine.execute Shop.refunds Shop.created Shop.context).result =
          .error error ∧
        error.path = [.field "refund"] ∧ error.locations = [⟨1, 16⟩] := by
  have executed : (Shop.engine.execute Shop.subscription Shop.created Shop.context).result =
      .ok (some Shop.response) := by cbv
  have recorded := (Engine.errors_point_at_selections Shop.engine Shop.subscription Shop.created
    Shop.context).1 _ executed _ (List.mem_singleton_self _)
  obtain ⟨passed, last, place, way, path, locations, bounds⟩ := recorded
  have failed := (Engine.errors_point_at_selections Shop.engine Shop.refunds Shop.created
    Shop.context).2 _ rfl
  refine ⟨executed, ⟨passed, last, place, way, path.symm, ?_, bounds⟩, _, rfl, failed⟩
  exact (List.singleton_inj.mp locations).symm

end WebhookPayload
