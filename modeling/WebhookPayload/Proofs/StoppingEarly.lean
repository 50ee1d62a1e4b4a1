import WebhookPayload.Proofs.Containment

/-! # Stopping early

An execution leaves out what comes after a failed position, as far as the null for it
rises. The reference here does not: it completes every field that applies and every
item (`Schema.tree`), and only then looks for nulls and failures where null may not
stand (`ResponseTree.value?`). If resolvers answer by the object and the field alone,
both give the same data, and the errors that an execution records are among those of
the reference, in order (`execute_endsLike`). -/

namespace WebhookPayload

open GraphQL

/-! ## The reference -/

/-- A part of a response with all fields and items completed, before it is asked where
null may stand. -/
inductive ResponseTree where
  | failed (nullable : Bool) (error : ExecutionError)
  /-- A null or a leaf; `excluded` is the error of a null that may not stand there. -/
  | data (nullable : Bool) (excluded : ExecutionError) (json : Json)
  | list (nullable : Bool) (items : List ResponseTree)
  | object (nullable : Bool) (members : List (String × ResponseTree))

/-- What stands at a position: where null may not stand, a null is as good as nothing. -/
def valueAt? (nullable : Bool) (value? : Option Json) : Option Json :=
  if nullable then some (value?.getD .null) else value?.filter fun json => !json.isNull

namespace ResponseTree

mutual

/-- The value of a part, if nothing is missing where null may not stand. -/
def value? : ResponseTree → Option Json
  | failed nullable _ => valueAt? nullable none
  | data nullable _ json => valueAt? nullable (some json)
  | list nullable items => valueAt? nullable ((itemValues? items).map .array)
  | object nullable members => valueAt? nullable ((memberValues? members).map .object)

def itemValues? : List ResponseTree → Option (List Json)
  | [] => some []
  | item :: rest => item.value?.bind fun json => (itemValues? rest).map (json :: ·)

def memberValues? : List (String × ResponseTree) → Option Members
  | [] => some []
  | (name, tree) :: rest =>
    tree.value?.bind fun json => (memberValues? rest).map ((name, json) :: ·)

end

mutual

/-- The errors of a part, in the order of the response. -/
def errors : ResponseTree → List ExecutionError
  | failed _ error => [error]
  | data nullable excluded json => if nullable = false ∧ json = .null then [excluded] else []
  | list _ items => itemErrors items
  | object _ members => memberErrors members

def itemErrors : List ResponseTree → List ExecutionError
  | [] => []
  | item :: rest => item.errors ++ itemErrors rest

def memberErrors : List (String × ResponseTree) → List ExecutionError
  | [] => []
  | (_, tree) :: rest => tree.errors ++ memberErrors rest

end

end ResponseTree

/-- How field resolvers answer that look at the object and the field alone. -/
abbrev FieldAnswers := String → Json → SelectedField → Resolved

namespace FieldAnswers

/-- What there is to complete for a field of an object. -/
def content (answer : FieldAnswers) (object : TypeDefinition) (parent : Json)
    (field : SelectedField) : Content :=
  if field.name = typenameField then .typename object.name
  else
    match object.field? field.name with
    | none => .undeclared object.name
    | some definition => .declared definition.type (answer object.name parent field)

end FieldAnswers

/-- How many lists are expected inside each other. -/
def Content.depth : Content → Nat
  | .declared type _ => type.listDepth
  | _ => 0

/-- Completes a position to the end. -/
def Schema.tree (schema : Schema) (answer : FieldAnswers) (field : SelectedField) (path : Path)
    (content : Content) : ResponseTree :=
  match content with
  | .typename object =>
    .data false (field.errorAt path (.nullNotAllowed field.name)) (.string object)
  | .undeclared object => .failed true (field.errorAt path (.undeclaredField field.name object))
  | .declared type resolved =>
    match taken : schema.shape field.name type resolved with
    | .failure cause => .failed type.nullable (field.errorAt path cause)
    | .leaf json =>
      .data type.nullable (field.errorAt path (.nullNotAllowed field.name)) json
    | .list itemType items =>
      .list type.nullable (items.zipIdx.map fun item =>
        schema.tree answer field (path ++ [.index item.2]) (.declared itemType (.ok item.1)))
    | .object object parent =>
      .object type.nullable
        ((collectFields schema object.name field.subfields).attach.map fun member =>
          (member.val.outputName,
            schema.tree answer member.val (path ++ [.field member.val.outputName])
              (answer.content object parent member.val)))
termination_by (SelectedField.heights field.subfields, content.depth)
decreasing_by
  · refine .right _ ?_
    obtain ⟨nullable, rfl⟩ := Schema.eq_list_of_shape taken
    exact Nat.lt_succ_self _
  · exact .left _ _ (SelectedField.heights_subfields_lt member.property)

/-- The members of an object, each completed to the end. -/
def Schema.memberTrees (schema : Schema) (answer : FieldAnswers) (fields : List SelectedField)
    (object : TypeDefinition) (parent : Json) (path : Path) : List (String × ResponseTree) :=
  (collectFields schema object.name fields).map fun member =>
    (member.outputName, schema.tree answer member (path ++ [.field member.outputName])
      (answer.content object parent member))

/-- What is completed for a declared field follows from the shape of its value. -/
theorem Schema.tree_declared (schema : Schema) (answer : FieldAnswers) (field : SelectedField)
    (path : Path) (type : TypeRef) (resolved : Resolved) :
    schema.tree answer field path (.declared type resolved) =
      match schema.shape field.name type resolved with
      | .failure cause => .failed type.nullable (field.errorAt path cause)
      | .leaf json => .data type.nullable (field.errorAt path (.nullNotAllowed field.name)) json
      | .list itemType items =>
        .list type.nullable (items.zipIdx.map fun item =>
          schema.tree answer field (path ++ [.index item.2]) (.declared itemType (.ok item.1)))
      | .object object parent =>
        .object type.nullable (schema.memberTrees answer field.subfields object parent path) := by
  rw [tree]
  split
  · rename_i cause taken
    rw [taken]
  · rename_i json taken
    rw [taken]
  · rename_i itemType items taken
    rw [taken]
  · rename_i object parent taken
    rw [taken]
    exact congrArg _ (List.attach_map_val
      (f := fun member => (member.outputName, schema.tree answer member
        (path ++ [.field member.outputName]) (answer.content object parent member))))

/-- Executes a subscription like `Engine.execute`, but completes the response to the end. -/
def Engine.executeToEnd (engine : Engine) (answer : FieldAnswers) (subscription : Subscription)
    (event : Event) (context : Context) : Except ExecutionError (Option Response) :=
  let field := subscription.field
  let path := [PathSegment.field field.outputName]
  match engine.schema.subscriptionType?.bind (·.field? field.name),
      engine.firstItem subscription event context with
  | none, _ => .error (field.errorAt path (.undefinedSubscription field.name))
  | some _, .error error => .error (field.errorAt path (.raised error))
  | some _, .ok none => .ok none
  | some definition, .ok (some resolved) =>
    let tree := engine.schema.tree answer field path (.declared definition.type resolved)
    .ok (some {
      data? := tree.value?.map fun json => [(field.outputName, json)]
      errors := tree.errors })

/-! ## Computations -/

/-- A computation ends like one that goes to the end: with the same value, and with
some of the errors, in order, and not with none of them. -/
structure Outcome.EndsLike {α : Type} (outcome : Outcome α) (given? : Option α)
    (recorded : List ExecutionError) : Prop where
  value : outcome.value? = given?
  errors : outcome.errors.Sublist recorded
  silent : outcome.errors = [] → recorded = []
  /-- This is what lets a computation stop: a missing value is not silent. -/
  missing : outcome.value? = none → outcome.errors ≠ []

namespace Exec

variable {α β : Type} {x : Exec α} {f : α → Exec β} {context : Context} {given? : Option α}
  {recorded : List ExecutionError}

theorem map_endsLike (g : α → β) (h : (x context).EndsLike given? recorded) :
    ((g <$> x) context).EndsLike (given?.map g) recorded := by
  constructor
  case value => rw [value?_map, h.value]
  case errors =>
    rw [errors_map]
    exact h.errors
  case silent =>
    rw [errors_map]
    exact h.silent
  case missing =>
    rw [value?_map, errors_map, Option.map_eq_none_iff]
    exact h.missing

/-- A traversal ends with the first missing value, and the value of all is missing then too. -/
theorem traverse_endsLike {given? : α → Option β} {recorded : α → List ExecutionError}
    {items : List α}
    (each : ∀ turn ∈ turns f items context,
      (f turn.1 turn.2).EndsLike (given? turn.1) (recorded turn.1)) :
    (traverse f items context).EndsLike (items.mapM given?) (items.flatMap recorded) := by
  induction items generalizing context with
  | nil => exact ⟨rfl, List.Sublist.refl _, fun _ => rfl, nofun⟩
  | cons a rest ih =>
    rw [turns] at each
    obtain ⟨first, later⟩ := List.forall_mem_cons.mp each
    rw [List.mapM_cons, List.flatMap_cons, ← first.value]
    cases found : (f a context).value? with
    | none =>
      -- what the traversal leaves out cannot be all that goes wrong
      have failed := first.missing found
      constructor
      case value => rw [value?_traverse_cons, found]; rfl
      case errors =>
        rw [errors_traverse_cons, found]
        simpa using first.errors.trans (List.sublist_append_left _ _)
      case silent =>
        rw [errors_traverse_cons, found]
        intro silent
        exact absurd (by simpa using silent) failed
      case missing =>
        rw [errors_traverse_cons, found]
        intro _
        simpa using failed
    | some b =>
      rw [found] at later
      have others := ih later
      constructor
      case value =>
        rw [value?_traverse_cons, found, others.value]
        cases rest.mapM given? <;> rfl
      case errors =>
        rw [errors_traverse_cons, found]
        exact first.errors.append others.errors
      case silent =>
        rw [errors_traverse_cons, found]
        intro silent
        obtain ⟨here, there⟩ := List.append_eq_nil_iff.mp silent
        rw [first.silent here, others.silent there, List.append_nil]
      case missing =>
        rw [value?_traverse_cons, errors_traverse_cons, found]
        intro lost
        have lost := Option.map_eq_none_iff.mp lost
        exact List.append_ne_nil_of_right_ne_nil _ (others.missing lost)

end Exec

/-! ## Positions -/

namespace Engine

variable {engine : Engine} {type : TypeRef} {field : SelectedField} {path : Path}
  {resolved : Resolved} {context : Context}

theorem completeField_endsLike {given? : Option Json} {recorded : List ExecutionError}
    (built : (engine.built type field path resolved context).EndsLike given? recorded)
    (notNull : given? ≠ some .null) :
    (engine.completeField type field path resolved context).EndsLike
      (valueAt? type.nullable given?) recorded := by
  have errors : (engine.completeField type field path resolved context).errors =
      (engine.built type field path resolved context).errors := by
    rw [errors_completeField, built.value, if_neg (fun null => notNull null.2), List.append_nil]
  constructor
  case value => rw [value?_completeField, built.value, valueAt?]
  case errors =>
    rw [errors]
    exact built.errors
  case silent =>
    rw [errors]
    exact built.silent
  case missing =>
    rw [errors]
    intro missing
    obtain ⟨-, none | null⟩ := value?_completeField_eq_none.mp missing
    · exact built.missing none
    · exact absurd (built.value.symm.trans null) notNull

end Engine

theorem ResponseTree.itemValues?_map {α : Type} (tree : α → ResponseTree) (items : List α) :
    itemValues? (items.map tree) = items.mapM fun item => (tree item).value? := by
  induction items with
  | nil => rfl
  | cons item rest ih =>
    rw [List.map_cons, itemValues?, ih, List.mapM_cons]
    cases (tree item).value? with
    | none => rfl
    | some json => cases rest.mapM fun item => (tree item).value? <;> rfl

theorem ResponseTree.itemErrors_map {α : Type} (tree : α → ResponseTree) (items : List α) :
    itemErrors (items.map tree) = items.flatMap fun item => (tree item).errors := by
  induction items with
  | nil => rfl
  | cons item rest ih => rw [List.map_cons, itemErrors, ih, List.flatMap_cons]

theorem ResponseTree.memberValues?_map {α : Type} (name : α → String) (tree : α → ResponseTree)
    (fields : List α) :
    memberValues? (fields.map fun field => (name field, tree field)) =
      fields.mapM fun field => (tree field).value?.map (name field, ·) := by
  induction fields with
  | nil => rfl
  | cons field rest ih =>
    rw [List.map_cons, memberValues?, ih, List.mapM_cons]
    cases (tree field).value? with
    | none => rfl
    | some json => cases rest.mapM fun field => (tree field).value?.map (name field, ·) <;> rfl

theorem ResponseTree.memberErrors_map {α : Type} (name : α → String) (tree : α → ResponseTree)
    (fields : List α) :
    memberErrors (fields.map fun field => (name field, tree field)) =
      fields.flatMap fun field => (tree field).errors := by
  induction fields with
  | nil => rfl
  | cons field rest ih => rw [List.map_cons, memberErrors, ih, List.flatMap_cons]

namespace Engine

variable {engine : Engine} {owner? : Option App} {answer : FieldAnswers}

theorem owner_member (engine : Engine) (object : TypeDefinition) (parent : Json) (path : Path)
    (field : SelectedField) (context : Context) :
    (engine.member object parent path field context).context.app? = context.app? := by
  unfold member content
  by_cases typename : field.name = typenameField
  · rw [if_pos typename]
  · rw [if_neg typename]
    cases object.field? field.name with
    | none => rfl
    | some definition => exact Program.run_app? _ _

/-- Whoever owns the payload at a position owns it right below. -/
theorem owner_of_mem_parts {field : SelectedField} {path : Path} {context : Context}
    {shape : Shape} {part : PathSegment × Place}
    (h : part ∈ engine.parts field path context shape) : part.2.context.app? = context.app? := by
  have kept {field : SelectedField} : engine.AnswersKeepOwner field.subfields :=
    engine.answersKeepOwner _
  cases shape with
  | failure cause | leaf data => cases h
  | list itemType items =>
    obtain ⟨turn, met, rfl⟩ := List.mem_map.mp h
    exact Exec.app?_of_turn (fun item _ => completeField_keepsOwner kept _ _) met
  | object object parent =>
    obtain ⟨turn, met, rfl⟩ := List.mem_map.mp h
    exact (engine.owner_member object parent path turn.1 turn.2).trans
      (Exec.app?_of_turn (fun field _ => answerField_keepsOwner kept object parent path) met)

theorem content_member (answers : engine.resolvers.AnswersBy owner? answer)
    (object : TypeDefinition) (parent : Json) (path : Path) (field : SelectedField)
    {context : Context} (owned : context.app? = owner?) :
    (engine.member object parent path field context).content =
      answer.content object parent field := by
  unfold member content FieldAnswers.content
  by_cases typename : field.name = typenameField
  · rw [if_pos typename, if_pos typename]
  · rw [if_neg typename, if_neg typename]
    cases object.field? field.name with
    | none => rfl
    | some definition =>
      exact congrArg (Content.declared definition.type)
        (answers object.name parent field context owned)

/-- What a position is completed to, and what it is completed to at the end. -/
def EndsAt (engine : Engine) (answer : FieldAnswers) (place : Place) : Prop :=
  let tree := engine.schema.tree answer place.field place.path place.content
  (engine.complete place).EndsLike tree.value? tree.errors

section Built

variable {field : SelectedField} {path : Path} {context : Context}

theorem leaf_endsLike {type : TypeRef} {resolved : Resolved} {json : Json}
    (taken : engine.schema.shape field.name type resolved = .leaf json) :
    let tree := ResponseTree.data type.nullable
      (field.errorAt path (.nullNotAllowed field.name)) json
    (engine.completeField type field path resolved context).EndsLike tree.value? tree.errors := by
  have value : (engine.built type field path resolved context).value? = some json := by
    unfold built
    rw [taken]
    rfl
  have quiet : (engine.built type field path resolved context).errors = [] := by
    unfold built
    rw [taken]
    rfl
  have errors := engine.errors_completeField type field path resolved context
  simp only [value, quiet, List.nil_append, Option.some.injEq] at errors
  constructor
  case value => rw [value?_completeField, value, ResponseTree.value?, valueAt?]
  case errors =>
    rw [errors]
    exact List.Sublist.refl _
  case silent =>
    rw [errors]
    exact id
  case missing =>
    intro missing
    obtain ⟨excluded, none | null⟩ := value?_completeField_eq_none.mp missing
    · cases value.symm.trans none
    · rw [errors, if_pos ⟨excluded, Option.some.inj (value.symm.trans null)⟩]
      exact List.cons_ne_nil _ _

theorem list_endsLike {itemType : TypeRef} {items : List FieldValue}
    (below : ∀ part ∈ engine.parts field path context (.list itemType items),
      engine.EndsAt answer part.2) :
    let trees := items.zipIdx.map fun item =>
      engine.schema.tree answer field (path ++ [.index item.2]) (.declared itemType (.ok item.1))
    (engine.build field path (.list itemType items) context).EndsLike
      ((ResponseTree.itemValues? trees).map .array) (ResponseTree.itemErrors trees) := by
  dsimp only
  rw [ResponseTree.itemValues?_map, ResponseTree.itemErrors_map]
  refine Exec.map_endsLike _ (Exec.traverse_endsLike fun turn met => ?_)
  exact below _ (List.mem_map_of_mem met)

theorem answerFields_endsLike (answers : engine.resolvers.AnswersBy owner? answer)
    (owned : context.app? = owner?) {fields : List SelectedField} {object : TypeDefinition}
    {parent : Json}
    (below : ∀ turn ∈ Exec.turns (engine.answerField object parent path)
      (collectFields engine.schema object.name fields) context,
        engine.EndsAt answer (engine.member object parent path turn.1 turn.2)) :
    let trees := engine.schema.memberTrees answer fields object parent path
    (engine.answerFields fields object parent path context).EndsLike
      (ResponseTree.memberValues? trees) (ResponseTree.memberErrors trees) := by
  dsimp only [Schema.memberTrees]
  rw [ResponseTree.memberValues?_map, ResponseTree.memberErrors_map, answerFields_eq]
  refine Exec.traverse_endsLike fun turn met => ?_
  have kept : turn.2.app? = context.app? :=
    Exec.app?_of_turn (fun field _ => answerField_keepsOwner (answersKeepOwner _ _) _ _ _) met
  have ends := below turn met
  unfold EndsAt at ends
  rw [content_member answers object parent path turn.1 (kept.trans owned)] at ends
  obtain ⟨value, errors, silent, missing⟩ := ends
  rw [← errors_answerField] at errors silent missing
  refine ⟨?_, errors, silent, fun lost => missing ?_⟩
  · rw [value?_answerField, value]
    rfl
  · rwa [value?_answerField, Option.map_eq_none_iff] at lost

end Built

/-- Stopping early makes no difference to the value of any position. -/
theorem endsAt (answers : engine.resolvers.AnswersBy owner? answer) (place : Place)
    (owned : place.context.app? = owner?) : engine.EndsAt answer place := by
  induction place using engine.place_induction with
  | step place below =>
    obtain ⟨field, path, content, context⟩ := place
    unfold EndsAt
    dsimp only
    cases content with
    | typename object =>
      rw [Schema.tree]
      exact ⟨rfl, List.Sublist.refl _, fun _ => rfl, nofun⟩
    | undeclared object =>
      rw [Schema.tree]
      exact ⟨rfl, List.Sublist.refl _, nofun, nofun⟩
    | declared type resolved =>
      have below : ∀ part ∈ engine.parts field path context
          (engine.schema.shape field.name type resolved), engine.EndsAt answer part.2 :=
        fun part member => below part member ((owner_of_mem_parts member).trans owned)
      show (engine.completeField type field path resolved context).EndsLike _ _
      have built {shape : Shape} (taken : engine.schema.shape field.name type resolved = shape) :
          engine.built type field path resolved context =
            engine.build field path shape context := by
        unfold Engine.built
        rw [taken]
      rw [Schema.tree_declared]
      cases taken : engine.schema.shape field.name type resolved with
      | failure cause =>
        refine completeField_endsLike ?_ nofun
        rw [built taken]
        exact ⟨rfl, List.Sublist.refl _, nofun, fun _ => nofun⟩
      | leaf json => exact leaf_endsLike taken
      | list itemType items =>
        rw [taken] at below
        refine completeField_endsLike ?_ ?_
        · rw [built taken]
          exact list_endsLike below
        · rw [Ne, Option.map_eq_some_iff]
          nofun
      | object object parent =>
        rw [taken] at below
        refine completeField_endsLike ?_ ?_
        · rw [built taken]
          refine Exec.map_endsLike _ (answerFields_endsLike answers owned fun turn met => ?_)
          exact below _ (List.mem_map_of_mem met)
        · rw [Ne, Option.map_eq_some_iff]
          nofun

end Engine

/-! ## Executions -/

/-- A response is that of the reference, except for errors of what was left out. -/
structure Response.EndsLike (response reference : Response) : Prop where
  data : response.data? = reference.data?
  errors : response.errors.Sublist reference.errors
  silent : response.errors = [] → reference.errors = []

/-- An execution ends like the reference. -/
inductive EndsLike : (result reference : Except ExecutionError (Option Response)) → Prop
  | failed (error : ExecutionError) : EndsLike (.error error) (.error error)
  | nothing : EndsLike (.ok none) (.ok none)
  | answered {response reference : Response} (h : response.EndsLike reference) :
      EndsLike (.ok (some response)) (.ok (some reference))

namespace Engine

variable {engine : Engine} {subscription : Subscription} {event : Event} {context : Context}
  {answer : FieldAnswers}

/-- An execution that comes to no response has nothing to leave out. -/
theorem execute_endsLike_of_none (rootless : engine.root? subscription event context = none) :
    EndsLike (engine.execute subscription event context).result
      (engine.executeToEnd answer subscription event context) := by
  unfold root? at rootless
  unfold execute executeToEnd firstItem
  dsimp only at rootless ⊢
  cases declared : engine.schema.subscriptionType?.bind (·.field? subscription.field.name) with
  | none => exact .failed _
  | some definition =>
    rw [declared] at rootless
    generalize (engine.resolvers.subscriber subscription.field.name event subscription.field).run
      context = start at rootless ⊢
    obtain ⟨given, trace, after⟩ := start
    cases given with
    | error error => exact .failed _
    | ok items =>
      cases items with
      | nil => exact .nothing
      | cons item rest => cases rootless

/-- If field resolvers answer by the object and the field alone, an execution that
stops early gives the data of one that completes everything, and some of its errors,
in order, and not none of them. -/
theorem execute_endsLike (answers : engine.resolvers.AnswersBy context.app? answer) :
    EndsLike (engine.execute subscription event context).result
      (engine.executeToEnd answer subscription event context) := by
  cases rooted : engine.root? subscription event context with
  | none => exact execute_endsLike_of_none rooted
  | some root =>
    obtain ⟨definition, resolved, declared, first, field, path, content, owner⟩ :=
      firstItem_of_root? rooted
    obtain ⟨response, answered⟩ := exists_response_of_root? rooted
    obtain ⟨root', rooted', data, errors⟩ := execute_eq_ok answered
    cases rooted.symm.trans rooted'
    have ends := endsAt answers root owner
    unfold EndsAt at ends
    rw [field, path, content] at ends
    have reference : engine.executeToEnd answer subscription event context = .ok (some
        { data? := (engine.schema.tree answer subscription.field
            [.field subscription.field.outputName]
            (.declared definition.type resolved)).value?.map
              fun json => [(subscription.field.outputName, json)]
          errors := (engine.schema.tree answer subscription.field
            [.field subscription.field.outputName]
            (.declared definition.type resolved)).errors }) := by
      unfold executeToEnd
      dsimp only
      rw [declared, first]
    rw [answered, reference]
    refine .answered ⟨?_, ?_, ?_⟩
    · rw [data, ends.value]
    · rw [errors]
      exact ends.errors
    · rw [errors]
      exact ends.silent

end Engine

/-- What the feed would be told if its order were completed in spite of its number: of
a line without `sku` too. -/
def Shop.wholeResponse : Response :=
  { deniedResponse with
    errors := deniedResponse.errors ++ [{
      cause := .nullNotAllowed "sku", locations := [⟨1, 63⟩]
      path := [.field "event", .field "order", .field "lines", .index 1, .field "sku"] }] }

theorem execute_endsLike_for_feed :
    Shop.guarded.AnswersBy (some Shop.feed) (Shop.answerFor (some Shop.feed)) ∧
      ((Engine.mk Shop.schema Shop.guarded).execute Shop.subscription Shop.created
        (Shop.context.attachApp (some Shop.feed))).result = .ok (some Shop.deniedResponse) ∧
      (Engine.mk Shop.schema Shop.guarded).executeToEnd (Shop.answerFor (some Shop.feed))
        Shop.subscription Shop.created (Shop.context.attachApp (some Shop.feed)) =
          .ok (some Shop.wholeResponse) ∧
      EndsLike (.ok (some Shop.deniedResponse)) (.ok (some Shop.wholeResponse)) := by
  have answers : Shop.guarded.AnswersBy (Shop.context.attachApp (some Shop.feed)).app?
      (Shop.answerFor (some Shop.feed)) := Shop.guarded_answersBy _
  have stopped : ((Engine.mk Shop.schema Shop.guarded).execute Shop.subscription Shop.created
      (Shop.context.attachApp (some Shop.feed))).result = .ok (some Shop.deniedResponse) := by cbv
  have whole : (Engine.mk Shop.schema Shop.guarded).executeToEnd (Shop.answerFor (some Shop.feed))
      Shop.subscription Shop.created (Shop.context.attachApp (some Shop.feed)) =
        .ok (some Shop.wholeResponse) := by cbv
  have ends := @Engine.execute_endsLike (Engine.mk Shop.schema Shop.guarded) Shop.subscription
    Shop.created (Shop.context.attachApp (some Shop.feed)) _ answers
  rw [stopped, whole] at ends
  exact ⟨answers, stopped, whole, ends⟩

end WebhookPayload
