import WebhookPayload.Proofs.Ownership
import WebhookPayload.Proofs.Positions
import WebhookPayload.Proofs.Shop

/-! # Failures only remove data

Two runs of a subscription are compared in which each call of a resolver gives the
same, or fails in the second. The data of the second run are those of the first, but
for parts that are null, and a call that fails only there lies within each of them:
at every position that both runs come to, what the second completes is contained in
what the first completes (`contained_complete`). The runs need not have the same
owner, so this holds of resolvers that ask for permissions and of owners with
different ones. -/

namespace WebhookPayload

open GraphQL

/-! ## Pruned data -/

/-- The second value is the first with parts of it replaced by null. Each part that
is replaced contains the path of a call that failed. -/
inductive Json.Pruned (failed : Path → Prop) : Path → Json → Json → Prop
  | same (path : Path) (json : Json) : Pruned failed path json json
  | cut {path call : Path} (json : Json) (within : path <+: call) (fails : failed call) :
      Pruned failed path json .null
  | array {path : Path} {items others : List Json} (length : items.length = others.length)
      (each : ∀ (i : Nat) (item other : Json), items[i]? = some item → others[i]? = some other →
        Pruned failed (path ++ [.index i]) item other) :
      Pruned failed path (.array items) (.array others)
  | object {path : Path} {members others : Members} (keys : members.keys = others.keys)
      (each : ∀ (i : Nat) (member other : String × Json), members[i]? = some member →
        others[i]? = some other →
          Pruned failed (path ++ [.field member.1]) member.2 other.2) :
      Pruned failed path (.object members) (.object others)

/-- Some call within a path failed. -/
def FailsWithin (failed : Path → Prop) (path : Path) : Prop :=
  ∃ call, path <+: call ∧ failed call

theorem FailsWithin.of_part {failed : Path → Prop} {path : Path} {segment : PathSegment}
    (h : FailsWithin failed (path ++ [segment])) : FailsWithin failed path := by
  obtain ⟨call, within, fails⟩ := h
  exact ⟨call, (List.prefix_append path [segment]).trans within, fails⟩

/-- What the second of two computations gives, the first gives as well, and more of it;
the second gives nothing only for a failure, or if the first gives nothing. -/
structure LessOnFailure {α : Type} (Fails : Prop) (R : α → α → Prop) (value? other? : Option α) :
    Prop where
  kept : ∀ other, other? = some other → ∃ value, value? = some value ∧ R value other
  lost : other? = none → value? = none ∨ Fails

/-- The values for a path of the response. -/
def Contained (failed : Path → Prop) (path : Path) (value? other? : Option Json) : Prop :=
  LessOnFailure (FailsWithin failed path) (Json.Pruned failed path) value? other?

namespace LessOnFailure

variable {α β : Type} {Fails : Prop} {R : α → α → Prop} {S : β → β → Prop}
  {value? other? : Option α}

theorem imp (h : LessOnFailure Fails R value? other?) {Fails' : Prop} (fails : Fails → Fails') :
    LessOnFailure Fails' R value? other? :=
  ⟨h.kept, fun missing => (h.lost missing).imp_right fails⟩

theorem bind (h : LessOnFailure Fails R value? other?) {f g : α → Option β}
    (next : ∀ value other, value? = some value → other? = some other → R value other →
      LessOnFailure Fails S (f value) (g other)) :
    LessOnFailure Fails S (value?.bind f) (other?.bind g) := by
  cases given : other? with
  | none =>
    refine ⟨nofun, fun _ => ?_⟩
    rcases h.lost given with none | fails
    · rw [none]
      exact .inl rfl
    · exact .inr fails
  | some other =>
    obtain ⟨value, held, related⟩ := h.kept other given
    rw [held]
    exact next value other held given related

theorem map (h : LessOnFailure Fails R value? other?) {f g : α → β}
    (values : ∀ value other, R value other → S (f value) (g other)) :
    LessOnFailure Fails S (value?.map f) (other?.map g) := by
  rw [Option.map_eq_bind, Option.map_eq_bind]
  refine h.bind fun value other _ _ related => ⟨?_, nofun⟩
  intro result found
  cases found
  exact ⟨f value, rfl, values value other related⟩

end LessOnFailure

theorem Contained.refl (failed : Path → Prop) (path : Path) (value? : Option Json) :
    Contained failed path value? value? where
  kept other h := ⟨other, h, .same path other⟩
  lost := .inl

theorem Contained.of_failure {failed : Path → Prop} {path : Path} (fails : FailsWithin failed path)
    (value? : Option Json) : Contained failed path value? none where
  kept := nofun
  lost _ := .inr fails

/-- Only null, or what contains a failure, is pruned to null. -/
theorem Json.Pruned.of_null {failed : Path → Prop} {path : Path} {json : Json}
    (h : Json.Pruned failed path json .null) : json = .null ∨ FailsWithin failed path := by
  cases h with
  | same => exact .inl rfl
  | cut _ within fails => exact .inr ⟨_, within, fails⟩

/-- Null is pruned to null only. -/
theorem Json.Pruned.null {failed : Path → Prop} {path : Path} {json : Json}
    (h : Json.Pruned failed path .null json) : json = .null := by
  cases h <;> rfl

/-- Where null may stand for a missing value. -/
theorem Contained.orNull {failed : Path → Prop} {path : Path} {value? other? : Option Json}
    (h : Contained failed path value? other?) :
    Contained failed path (some (value?.getD .null)) (some (other?.getD .null)) := by
  refine ⟨fun _ found => ⟨_, rfl, ?_⟩, nofun⟩
  cases found
  cases other? with
  | some other =>
    obtain ⟨json, found, pruned⟩ := h.kept other rfl
    rw [found]
    exact pruned
  | none =>
    rcases h.lost rfl with missing | ⟨call, within, fails⟩
    · rw [missing]
      exact .same path .null
    · exact .cut _ within fails

/-- Where null is excluded. -/
theorem Contained.notNull {failed : Path → Prop} {path : Path} {value? other? : Option Json}
    (h : Contained failed path value? other?) :
    Contained failed path (value?.filter fun json => !json.isNull)
      (other?.filter fun json => !json.isNull) := by
  have step (value? : Option Json) : (value?.filter fun json => !json.isNull) =
      value?.bind fun json => if json.isNull then none else some json := by
    cases value? with
    | none => rfl
    | some json => cases json <;> rfl
  rw [step, step]
  refine h.bind fun value other _ _ pruned => ?_
  by_cases null : other = .null
  · subst null
    rcases pruned.of_null with rfl | fails
    · exact Contained.refl failed path none
    · exact Contained.of_failure fails _
  · have present : value ≠ .null := by
      rintro rfl
      exact null pruned.null
    rw [if_neg (mt Json.isNull_iff.mp present), if_neg (mt Json.isNull_iff.mp null)]
    refine ⟨fun _ found => ⟨value, rfl, ?_⟩, nofun⟩
    cases found
    exact pruned

/-- What a position makes of the values. -/
theorem Contained.atPosition {failed : Path → Prop} {path : Path} {value? other? : Option Json}
    (h : Contained failed path value? other?) (nullable : Bool) :
    Contained failed path
      (if nullable then some (value?.getD .null) else value?.filter fun json => !json.isNull)
      (if nullable then some (other?.getD .null) else other?.filter fun json => !json.isNull) := by
  cases nullable with
  | true => exact h.orNull
  | false => exact h.notNull

/-! ## One element after another -/

theorem Exec.mem_turns_cons {α β : Type} {f : α → Exec β} {a : α} {rest : List α}
    {context : Context} {value : β} (held : (f a context).value? = some value)
    {turn : α × Context} (met : turn ∈ turns f rest (f a context).context) :
    turn ∈ turns f (a :: rest) context := by
  rw [turns, held]
  exact List.mem_cons_of_mem _ met

/-- Lists of values that are related one by one, for the elements of a third list. -/
def RelatedFor {α β : Type} (R : α → β → β → Prop) (items : List α) (values others : List β) :
    Prop :=
  values.length = others.length ∧
    ∀ (i : Nat) (value other : β), values[i]? = some value → others[i]? = some other →
      ∃ a, items[i]? = some a ∧ R a value other

theorem RelatedFor.map_eq {α β γ : Type} {R : α → β → β → Prop} {items : List α}
    {values others : List β} (h : RelatedFor R items values others) {k : β → γ}
    (same : ∀ a value other, R a value other → k value = k other) :
    values.map k = others.map k := by
  refine List.ext_getElem (by simp [h.1]) fun i here here' => ?_
  rw [List.length_map] at here here'
  rw [List.getElem_map, List.getElem_map]
  obtain ⟨a, -, related⟩ := h.2 i _ _ (List.getElem?_eq_getElem here)
    (List.getElem?_eq_getElem here')
  exact same a _ _ related

/-- Two traversals of which the second gives less, for failures of its elements: by
induction on the elements, of which the first traversal comes to all that the
second comes to. -/
theorem Exec.traverse_lessOnFailure {α β : Type} {f g : α → Exec β} {R : α → β → β → Prop}
    {Fails : Prop} {items : List α} {context context' : Context}
    (each : ∀ a before before', (a, before) ∈ turns f items context →
      (a, before') ∈ turns g items context' →
        LessOnFailure Fails (R a) (f a before).value? (g a before').value?) :
    LessOnFailure Fails (RelatedFor R items) (traverse f items context).value?
      (traverse g items context').value? := by
  induction items generalizing context context' with
  | nil =>
    refine ⟨fun others found => ⟨[], rfl, ?_⟩, nofun⟩
    cases found
    exact ⟨rfl, nofun⟩
  | cons a rest ih =>
    rw [value?_traverse_cons, value?_traverse_cons]
    have first := each a context context' (by simp [turns]) (by simp [turns])
    refine first.bind fun value other held given related => ?_
    have later := ih fun b before before' met met' =>
      each b before before' (mem_turns_cons held met) (mem_turns_cons given met')
    refine later.map fun values others relatedLater =>
      ⟨congrArg Nat.succ relatedLater.1, ?_⟩
    intro i atValues atOthers here here'
    cases i with
    | zero =>
      cases here
      cases here'
      exact ⟨a, rfl, related⟩
    | succ i => exact relatedLater.2 i atValues atOthers here here'

section Parts

variable {failed : Path → Prop} {field : SelectedField} {path : Path} {context context' : Context}

/-- A list is contained if its items are, as far as both runs come to them. -/
theorem contained_list {engine other : Engine} {itemType : TypeRef} {items : List FieldValue}
    (each : ∀ item before before',
      (item, before) ∈ Exec.turns (engine.completeItem field path itemType) items.zipIdx context →
      (item, before') ∈ Exec.turns (other.completeItem field path itemType) items.zipIdx context' →
        Contained failed (path ++ [.index item.2])
          (engine.completeItem field path itemType item before).value?
          (other.completeItem field path itemType item before').value?) :
    Contained failed path (engine.build field path (.list itemType items) context).value?
      (other.build field path (.list itemType items) context').value? := by
  have items := Exec.traverse_lessOnFailure
    (R := fun item : FieldValue × Nat => Json.Pruned failed (path ++ [.index item.2]))
    fun item before before' met met' =>
      (each item before before' met met').imp FailsWithin.of_part
  rw [Engine.build, Engine.build, Exec.value?_map, Exec.value?_map]
  refine items.map fun values others related => .array related.1 ?_
  intro i value other here here'
  obtain ⟨element, here, pruned⟩ := related.2 i value other here here'
  have index : element.2 = i := by
    rw [List.getElem?_zipIdx] at here
    obtain ⟨item, -, rfl⟩ := Option.map_eq_some_iff.mp here
    exact Nat.zero_add i
  rw [index] at pruned
  exact pruned

/-- An object is contained if its members are, as far as both runs come to them. -/
theorem contained_object {schema : Schema} {registry others : Registry} {object : TypeDefinition}
    {parent : Json}
    (each : ∀ sub before before',
      (sub, before) ∈ Exec.turns ((Engine.mk schema registry).answerField object parent path)
        (collectFields schema object.name field.subfields) context →
      (sub, before') ∈ Exec.turns ((Engine.mk schema others).answerField object parent path)
        (collectFields schema object.name field.subfields) context' →
        Contained failed (path ++ [.field sub.outputName])
          ((Engine.mk schema registry).complete
            ((Engine.mk schema registry).member object parent path sub before)).value?
          ((Engine.mk schema others).complete
            ((Engine.mk schema others).member object parent path sub before')).value?) :
    Contained failed path
      ((Engine.mk schema registry).build field path (.object object parent) context).value?
      ((Engine.mk schema others).build field path (.object object parent) context').value? := by
  have members := Exec.traverse_lessOnFailure
    (f := (Engine.mk schema registry).answerField object parent path)
    (g := (Engine.mk schema others).answerField object parent path)
    (R := fun (sub : SelectedField) (entry entry' : String × Json) => entry.1 = sub.outputName ∧
      entry'.1 = sub.outputName ∧
        Json.Pruned failed (path ++ [.field sub.outputName]) entry.2 entry'.2)
    fun sub before before' met met' => by
      rw [Engine.value?_answerField, Engine.value?_answerField]
      have member := (each sub before before' met met').imp FailsWithin.of_part
      exact member.map fun _ _ pruned => ⟨rfl, rfl, pruned⟩
  rw [Engine.build, Engine.build, Exec.value?_map, Exec.value?_map, Engine.answerFields_eq,
    Engine.answerFields_eq]
  refine members.map fun values others related => .object ?keys ?each
  case keys => exact related.map_eq fun _ _ _ entries => entries.1.trans entries.2.1.symm
  case each =>
    intro i entry entry' here here'
    obtain ⟨sub, -, name, -, pruned⟩ := related.2 i entry entry' here here'
    rw [name]
    exact pruned

end Parts

/-! ## Calls -/

/-- What the field resolvers of a registry answer for an owner: it depends on the
object and the field alone. -/
def Registry.AnswersBy (registry : Registry) (owner? : Option App)
    (answer : String → Json → SelectedField → Resolved) : Prop :=
  ∀ typeName parent field (context : Context), context.app? = owner? →
    ((registry.fieldResolver typeName field.name parent field).run context).answer =
      answer typeName parent field

/-- A resolved value, or an error in its place. -/
inductive Resolved.MayFail : Resolved → Resolved → Prop
  | same (resolved : Resolved) : MayFail resolved resolved
  | failed (resolved : Resolved) (error : FieldError) : MayFail resolved (.error error)

/-- What is to be completed at a position, where resolving may have failed. -/
inductive Content.MayFail : Content → Content → Prop
  | typename (object : String) : MayFail (.typename object) (.typename object)
  | undeclared (object : String) : MayFail (.undeclared object) (.undeclared object)
  | declared (type : TypeRef) {resolved other : Resolved} (calls : resolved.MayFail other) :
      MayFail (.declared type resolved) (.declared type other)

/-- A position of one run and the same of another in which resolving may have failed. -/
structure Place.MayFail (place other : Place) : Prop where
  field : other.field = place.field
  path : other.path = place.path
  content : place.content.MayFail other.content

namespace Engine

/-- At a path that both runs come to, a field is resolved in the first, and not in
the second. -/
def FailsAt (engine other : Engine) (subscription : Subscription) (event : Event)
    (context context' : Context) (path : Path) : Prop :=
  ∃ place place' type value error, engine.Visits subscription event context place ∧
    other.Visits subscription event context' place' ∧
    place.path = path ∧ place'.path = path ∧
    place.content = .declared type (.ok value) ∧ place'.content = .declared type (.error error)

theorem Visits.part {engine : Engine} {subscription : Subscription} {event : Event}
    {context : Context} {place : Place} (h : engine.Visits subscription event context place)
    {part : PathSegment × Place} (member : part ∈ engine.partsOf place) :
    engine.Visits subscription event context part.2 :=
  h.below (.part member (.here _))

/-! ## Positions -/

theorem mem_parts_item {engine : Engine} {field : SelectedField} {path : Path} {context : Context}
    {itemType : TypeRef} {items : List FieldValue} {item : FieldValue × Nat} {before : Context}
    (met : (item, before) ∈
      Exec.turns (engine.completeItem field path itemType) items.zipIdx context) :
    (.index item.2, Engine.item field path itemType item before) ∈
      engine.parts field path context (.list itemType items) :=
  List.mem_map.mpr ⟨_, met, rfl⟩

theorem mem_parts_member (engine : Engine) {field sub : SelectedField} {path : Path}
    {context : Context} {object : TypeDefinition} {parent : Json} {before : Context}
    (met : (sub, before) ∈ Exec.turns (engine.answerField object parent path)
      (collectFields engine.schema object.name field.subfields) context) :
    (.field sub.outputName, engine.member object parent path sub before) ∈
      engine.parts field path context (.object object parent) :=
  List.mem_map.mpr ⟨_, met, rfl⟩

/-- The same position of both runs, each for its owner. -/
structure Matched (engine other : Engine) (subscription : Subscription) (event : Event)
    (context context' : Context) (place place' : Place) : Prop where
  visited : engine.Visits subscription event context place
  visited' : other.Visits subscription event context' place'
  mayFail : place.MayFail place'
  owner : place.context.app? = context.app?
  owner' : place'.context.app? = context'.app?

section Runs

variable {schema : Schema} {registry others : Registry} {subscription : Subscription}
  {event : Event} {context context' : Context}
  {answer weaker : String → Json → SelectedField → Resolved}
  (answers : registry.AnswersBy context.app? answer)
  (answers' : others.AnswersBy context'.app? weaker)
  (mayFail : ∀ typeName parent field,
    (answer typeName parent field).MayFail (weaker typeName parent field))

/-- Items in the same place of both runs are the same. -/
theorem Matched.item {engine other : Engine} {place place' : Place}
    (matched : engine.Matched other subscription event context context' place place')
    {itemType : TypeRef} {items : List FieldValue} {item : FieldValue × Nat}
    {before before' : Context}
    (met : (item, before) ∈ Exec.turns
      (engine.completeItem place.field place.path itemType) items.zipIdx place.context)
    (met' : (item, before') ∈ Exec.turns
      (other.completeItem place.field place.path itemType) items.zipIdx place'.context)
    (member : (.index item.2, Engine.item place.field place.path itemType item before) ∈
      engine.partsOf place)
    (member' : (.index item.2, Engine.item place.field place.path itemType item before') ∈
      other.partsOf place') :
    engine.Matched other subscription event context context'
      (Engine.item place.field place.path itemType item before)
      (Engine.item place.field place.path itemType item before') where
  visited := matched.visited.part member
  visited' := matched.visited'.part member'
  mayFail := ⟨rfl, rfl, .declared itemType (.same _)⟩
  owner := by
    refine (Exec.app?_of_turn (fun _ _ => ?_) met).trans matched.owner
    exact completeField_keepsOwner (engine.answersKeepOwner _) _ _
  owner' := by
    refine (Exec.app?_of_turn (fun _ _ => ?_) met').trans matched.owner'
    exact completeField_keepsOwner (other.answersKeepOwner _) _ _

include answers answers' mayFail

/-- Members in the same place of both runs are the same, but for what a call gives. -/
theorem member_mayFail (object : TypeDefinition) (parent : Json) (path : Path)
    (field : SelectedField) {before before' : Context} (owner : before.app? = context.app?)
    (owner' : before'.app? = context'.app?) :
    ((Engine.mk schema registry).member object parent path field before).MayFail
        ((Engine.mk schema others).member object parent path field before') ∧
      ((Engine.mk schema registry).member object parent path field before).context.app? =
        context.app? ∧
      ((Engine.mk schema others).member object parent path field before').context.app? =
        context'.app? := by
  unfold member content
  by_cases typename : field.name = typenameField
  · simp only [if_pos typename]
    exact ⟨⟨rfl, rfl, .typename _⟩, owner, owner'⟩
  · simp only [if_neg typename]
    cases object.field? field.name with
    | none => exact ⟨⟨rfl, rfl, .undeclared _⟩, owner, owner'⟩
    | some definition =>
      refine ⟨⟨rfl, rfl, .declared _ ?calls⟩, ?owner, ?owner'⟩
      case calls =>
        rw [answers object.name parent field before owner,
          answers' object.name parent field before' owner']
        exact mayFail object.name parent field
      case owner => exact (Program.run_app? _ _).trans owner
      case owner' => exact (Program.run_app? _ _).trans owner'

theorem Matched.member {place place' : Place}
    (matched : (Engine.mk schema registry).Matched (Engine.mk schema others) subscription event
      context context' place place')
    {object : TypeDefinition} {parent : Json} {field : SelectedField} {before before' : Context}
    (met : (field, before) ∈ Exec.turns
      ((Engine.mk schema registry).answerField object parent place.path)
      (collectFields schema object.name place.field.subfields) place.context)
    (met' : (field, before') ∈ Exec.turns
      ((Engine.mk schema others).answerField object parent place.path)
      (collectFields schema object.name place.field.subfields) place'.context)
    (member : (.field field.outputName,
        (Engine.mk schema registry).member object parent place.path field before) ∈
      (Engine.mk schema registry).partsOf place)
    (member' : (.field field.outputName,
        (Engine.mk schema others).member object parent place.path field before') ∈
      (Engine.mk schema others).partsOf place') :
    (Engine.mk schema registry).Matched (Engine.mk schema others) subscription event
      context context'
      ((Engine.mk schema registry).member object parent place.path field before)
      ((Engine.mk schema others).member object parent place.path field before') := by
  have owner : before.app? = context.app? := by
    refine (Exec.app?_of_turn (fun field _ => ?_) met).trans matched.owner
    exact answerField_keepsOwner (answersKeepOwner _ field.subfields) object parent place.path
  have owner' : before'.app? = context'.app? := by
    refine (Exec.app?_of_turn (fun field _ => ?_) met').trans matched.owner'
    exact answerField_keepsOwner (answersKeepOwner _ field.subfields) object parent place.path
  obtain ⟨same, kept, kept'⟩ :=
    member_mayFail answers answers' mayFail object parent place.path field owner owner'
  exact ⟨matched.visited.part member, matched.visited'.part member', same, kept, kept'⟩

/-- What is built of one value in both runs: lists and objects by their parts. -/
theorem contained_built {place place' : Place}
    (matched : (Engine.mk schema registry).Matched (Engine.mk schema others) subscription event
      context context' place place')
    (below : ∀ part ∈ (Engine.mk schema registry).partsOf place, ∀ next,
      (Engine.mk schema registry).Matched (Engine.mk schema others) subscription event
          context context' part.2 next →
        Contained ((Engine.mk schema registry).FailsAt (Engine.mk schema others) subscription
            event context context') part.2.path
          ((Engine.mk schema registry).complete part.2).value?
          ((Engine.mk schema others).complete next).value?)
    {type : TypeRef} {resolved : Resolved} (content : place.content = .declared type resolved)
    (content' : place'.content = .declared type resolved) :
    Contained ((Engine.mk schema registry).FailsAt (Engine.mk schema others) subscription event
        context context') place.path
      ((Engine.mk schema registry).built type place.field place.path resolved
        place.context).value?
      ((Engine.mk schema others).built type place.field place.path resolved
        place'.context).value? := by
  have parts := (Engine.mk schema registry).partsOf_declared content
  have parts' := (Engine.mk schema others).partsOf_declared content'
  rw [matched.mayFail.field, matched.mayFail.path] at parts'
  unfold built
  dsimp only at parts parts' ⊢
  generalize schema.shape place.field.name type resolved = shape at parts parts' ⊢
  cases shape with
  | failure cause => exact .refl _ _ none
  | leaf data => exact .refl _ _ (some data)
  | list itemType items =>
    refine contained_list fun item before before' met met' => ?_
    have member := mem_parts_item met
    have member' := mem_parts_item met'
    rw [← parts] at member
    rw [← parts'] at member'
    exact below _ member _ (matched.item met met' member member')
  | object object parent =>
    refine contained_object fun field before before' met met' => ?_
    have member := (Engine.mk schema registry).mem_parts_member met
    have member' := (Engine.mk schema others).mem_parts_member met'
    rw [← parts] at member
    rw [← parts'] at member'
    exact below _ member _ (matched.member answers answers' mayFail met met' member member')

/-- What is completed in the second run is contained in the first: by induction on
the parts, of which the first run comes to all that the second comes to. -/
theorem contained_complete {place place' : Place}
    (matched : (Engine.mk schema registry).Matched (Engine.mk schema others) subscription event
      context context' place place') :
    Contained ((Engine.mk schema registry).FailsAt (Engine.mk schema others) subscription event
        context context') place.path
      ((Engine.mk schema registry).complete place).value?
      ((Engine.mk schema others).complete place').value? := by
  induction place using place_induction (Engine.mk schema registry) generalizing place' with
  | step place below =>
    have same := matched.mayFail
    unfold complete
    rw [same.field, same.path]
    have contents := same.content
    generalize given : place.content = content, given' : place'.content = content' at contents
    cases contents with
    | typename object | undeclared object => exact .refl _ _ _
    | @declared type resolved other calls =>
      dsimp only
      rw [value?_completeField, value?_completeField]
      refine Contained.atPosition ?_ type.nullable
      cases calls with
      | same =>
        refine contained_built answers answers' mayFail matched ?_ given given'
        intro part member next matched
        exact below part member matched
      | failed error =>
        cases resolved with
        | error raised => exact .refl _ _ none
        | ok value =>
          refine .of_failure ⟨place.path, List.prefix_rfl, ?_⟩ _
          exact ⟨place, place', type, value, error, matched.visited, matched.visited', rfl,
            same.path, given, given'⟩

end Runs

/-! ## Runs -/

/-- What the first item of a subscription's stream is resolved to, if there is one. It
is the same in two runs with one subscriber that does not ask for the owner. -/
def firstItem (engine : Engine) (subscription : Subscription) (event : Event) (context : Context) :
    Except FieldError (Option Resolved) :=
  let start := (engine.resolvers.subscriber subscription.field.name event subscription.field).run
    context
  start.answer.map fun items => items.head?.map fun item => (item.run start.context).answer

section Roots

variable {engine : Engine} {subscription : Subscription} {event : Event} {context : Context}
  {place : Place}

/-- A run starts at a position as soon as there is an item for a field that is declared. -/
theorem exists_root?_of_firstItem {definition : FieldDefinition} {resolved : Resolved}
    (declared : engine.schema.subscriptionType?.bind (·.field? subscription.field.name) =
      some definition)
    (first : engine.firstItem subscription event context = .ok (some resolved)) :
    ∃ place, engine.root? subscription event context = some place := by
  unfold firstItem at first
  unfold root?
  dsimp only at first ⊢
  rw [declared]
  generalize ((engine.resolvers.subscriber subscription.field.name event subscription.field).run
    context) = start at first ⊢
  obtain ⟨answer, trace, after⟩ := start
  cases answer with
  | error error => cases first
  | ok items =>
    cases items with
    | nil => cases first
    | cons item rest => exact ⟨_, rfl⟩

/-- The position at which a run starts, by the item that it starts with. -/
theorem firstItem_of_root? (rooted : engine.root? subscription event context = some place) :
    ∃ definition resolved,
      engine.schema.subscriptionType?.bind (·.field? subscription.field.name) = some definition ∧
      engine.firstItem subscription event context = .ok (some resolved) ∧
      place.field = subscription.field ∧ place.path = [.field subscription.field.outputName] ∧
      place.content = .declared definition.type resolved ∧
      place.context.app? = context.app? := by
  unfold root? at rooted
  dsimp only at rooted
  split at rooted
  · rename_i definition item rest declared given
    cases rooted
    refine ⟨definition, _, declared, ?_, rfl, rfl, rfl, ?_⟩
    · unfold firstItem
      dsimp only
      rw [given]
      rfl
    · exact (Program.run_app? _ _).trans (Program.run_app? _ _)
  · cases rooted

end Roots

section Runs

variable {schema : Schema} {registry others : Registry} {subscription : Subscription}
  {event : Event} {context context' : Context}

/-- Runs that start with the same item start at the same position. -/
theorem exists_matched_root
    (first : (Engine.mk schema others).firstItem subscription event context' =
      (Engine.mk schema registry).firstItem subscription event context) {place' : Place}
    (rooted' : (Engine.mk schema others).root? subscription event context' = some place') :
    ∃ place, (Engine.mk schema registry).root? subscription event context = some place ∧
      (Engine.mk schema registry).Matched (Engine.mk schema others) subscription event
        context context' place place' := by
  obtain ⟨definition, resolved, declared, first', field', path', content', owner'⟩ :=
    firstItem_of_root? rooted'
  have first := first.symm.trans first'
  have found : ∃ place,
      (Engine.mk schema registry).root? subscription event context = some place :=
    exists_root?_of_firstItem declared first
  obtain ⟨place, rooted⟩ := found
  obtain ⟨_, _, declared', again, field, path, content, owner⟩ := firstItem_of_root? rooted
  cases declared.symm.trans declared'
  cases first.symm.trans again
  refine ⟨place, rooted, ⟨place, [], rooted, .here place⟩, ⟨place', [], rooted', .here place'⟩,
    ⟨field'.trans field.symm, path'.trans path.symm, ?_⟩, owner, owner'⟩
  rw [content, content']
  exact .declared _ (.same _)

/-- Failures only remove data. If resolvers give the same in two runs or fail in the
second, and the second yields data, then the first yields data, and those of the
second are those of the first with parts replaced by null that each contain the
path of a call that fails in the second run only. -/
theorem execute_contained {answer weaker : String → Json → SelectedField → Resolved}
    (answers : registry.AnswersBy context.app? answer)
    (answers' : others.AnswersBy context'.app? weaker)
    (mayFail : ∀ typeName parent field,
      (answer typeName parent field).MayFail (weaker typeName parent field))
    (first : (Engine.mk schema others).firstItem subscription event context' =
      (Engine.mk schema registry).firstItem subscription event context)
    {response' : Response} {data' : Members}
    (answered' : ((Engine.mk schema others).execute subscription event context').result =
      .ok (some response'))
    (yields' : response'.data? = some data') :
    ∃ response data,
      ((Engine.mk schema registry).execute subscription event context).result =
        .ok (some response) ∧
      response.data? = some data ∧
      Json.Pruned ((Engine.mk schema registry).FailsAt (Engine.mk schema others) subscription
        event context context') [] (.object data) (.object data') := by
  obtain ⟨place', rooted', given, -⟩ := execute_eq_ok answered'
  obtain ⟨place, rooted, matched⟩ := exists_matched_root first rooted'
  obtain ⟨response, answered⟩ := exists_response_of_root? rooted
  obtain ⟨_, rooted'', held, -⟩ := execute_eq_ok answered
  cases rooted.symm.trans rooted''
  have contained := contained_complete answers answers' mayFail matched
  obtain ⟨-, -, -, -, -, path, -⟩ := firstItem_of_root? rooted
  rw [path] at contained
  rw [yields'] at given
  obtain ⟨json', value', rfl⟩ := Option.map_eq_some_iff.mp given.symm
  obtain ⟨json, value, pruned⟩ := contained.kept json' value'
  rw [value] at held
  refine ⟨response, _, answered, held, .object rfl ?_⟩
  intro i member other here here'
  cases i with
  | zero =>
    cases here
    cases here'
    exact pruned
  | succ i => cases here

end Runs

end Engine

/-! ## Owners with fewer permissions -/

/-- What an app may see by its permissions, an app with fewer may see or not. -/
theorem checkPermissions_mayFail {app lesser : App} (fewer : lesser.permissions ⊆ app.permissions)
    (permissions : List String) (value : FieldValue) :
    Resolved.MayFail ((checkPermissions (some app) permissions).map fun _ => value)
      ((checkPermissions (some lesser) permissions).map fun _ => value) := by
  cases allowed : lesser.hasAny permissions with
  | false =>
    have denied : checkPermissions (some lesser) permissions =
        .error (.permissionDenied permissions) := by
      simp [checkPermissions, allowed]
    rw [denied]
    exact .failed _ _
  | true =>
    have more : app.hasAny permissions = true := by
      rw [App.hasAny_iff] at allowed ⊢
      exact allowed.imp_right fun ⟨permission, asked, held⟩ => ⟨permission, asked, fewer held⟩
    rw [checkPermissions, checkPermissions, if_pos allowed, if_pos more]
    exact .same _

namespace Shop

/-- The number of an order is for those who may manage orders. -/
def numberResolver : FieldResolver := fun parent field =>
  (Program.requirePermissions ["MANAGE_ORDERS"]).bind fun
    | .ok () => propertyResolver parent field
    | .error error => .done (.error error)

def guarded : Registry :=
  (Registry.empty.addSubscription "event" subscriber).addField "Order" "number" numberResolver

/-- What the fields of the shop come to for an owner. -/
def answerFor (owner? : Option App) (typeName : String) (parent : Json) (field : SelectedField) :
    Resolved :=
  let value : FieldValue := .json ((parent.property? field.name).getD .null)
  if (typeName, field.name) = ("Order", "number") then
    (checkPermissions owner? ["MANAGE_ORDERS"]).map fun _ => value
  else .ok value

def manager : App := { id := "1", name := "Orders", permissions := ["MANAGE_ORDERS"] }

def feed : App := { id := "2", name := "Feed", permissions := [] }

/-- No order without its number, since that cannot be null. -/
def deniedData : Members :=
  [("event", .object [("__typename", .string "OrderCreated"), ("order", .null)])]

def deniedResponse : Response :=
  { data? := some deniedData
    errors := [{
      cause := .raised (.permissionDenied ["MANAGE_ORDERS"]), locations := [⟨1, 48⟩]
      path := [.field "event", .field "order", .field "number"] }] }

theorem guarded_answersBy (owner? : Option App) : guarded.AnswersBy owner? (answerFor owner?) := by
  intro typeName parent field context owner
  subst owner
  by_cases number : (typeName, field.name) = ("Order", "number")
  · have found : guarded.fieldResolver typeName field.name = numberResolver := by
      rw [Registry.fieldResolver, number]
      rfl
    rw [found, answerFor, if_pos number]
    simp only [numberResolver, Program.requirePermissions, Program.bind, Program.run,
      Context.perform, Context.reply]
    cases checkPermissions context.app? ["MANAGE_ORDERS"] <;> rfl
  · have found : guarded.fieldResolver typeName field.name = propertyResolver := by
      rw [Registry.fieldResolver, guarded, Registry.addField, List.lookup_cons,
        beq_false_of_ne number]
      rfl
    rw [found, answerFor, if_neg number]
    rfl

theorem answerFor_mayFail (typeName : String) (parent : Json) (field : SelectedField) :
    (answerFor (some manager) typeName parent field).MayFail
      (answerFor (some feed) typeName parent field) := by
  unfold answerFor
  split
  · exact checkPermissions_mayFail (List.nil_subset _) _ _
  · exact .same _

end Shop

/-- What the manager may see, without the order for the sake of its number. -/
theorem execute_contained_for_feed :
    Shop.guarded.AnswersBy (some Shop.manager) (Shop.answerFor (some Shop.manager)) ∧
      Shop.guarded.AnswersBy (some Shop.feed) (Shop.answerFor (some Shop.feed)) ∧
      (∀ typeName parent field, (Shop.answerFor (some Shop.manager) typeName parent field).MayFail
        (Shop.answerFor (some Shop.feed) typeName parent field)) ∧
      ((Engine.mk Shop.schema Shop.guarded).execute Shop.subscription Shop.created
        (Shop.context.attachApp (some Shop.feed))).result = .ok (some Shop.deniedResponse) ∧
      ∃ response data,
        ((Engine.mk Shop.schema Shop.guarded).execute Shop.subscription Shop.created
          (Shop.context.attachApp (some Shop.manager))).result = .ok (some response) ∧
        response.data? = some data ∧ data ≠ Shop.deniedData ∧
        Json.Pruned ((Engine.mk Shop.schema Shop.guarded).FailsAt
          (Engine.mk Shop.schema Shop.guarded) Shop.subscription Shop.created
          (Shop.context.attachApp (some Shop.manager)) (Shop.context.attachApp (some Shop.feed)))
          [] (.object data) (.object Shop.deniedData) := by
  have answers : Shop.guarded.AnswersBy (Shop.context.attachApp (some Shop.manager)).app?
      (Shop.answerFor (some Shop.manager)) := Shop.guarded_answersBy _
  have answers' : Shop.guarded.AnswersBy (Shop.context.attachApp (some Shop.feed)).app?
      (Shop.answerFor (some Shop.feed)) := Shop.guarded_answersBy _
  have denied : ((Engine.mk Shop.schema Shop.guarded).execute Shop.subscription Shop.created
      (Shop.context.attachApp (some Shop.feed))).result = .ok (some Shop.deniedResponse) := by cbv
  have shown : ((Engine.mk Shop.schema Shop.guarded).execute Shop.subscription Shop.created
      (Shop.context.attachApp (some Shop.manager))).result = .ok (some Shop.response) := by cbv
  obtain ⟨response, data, answered, yields, pruned⟩ :=
    Engine.execute_contained answers answers' Shop.answerFor_mayFail rfl denied rfl
  refine ⟨answers, answers', Shop.answerFor_mayFail, denied, response, data, answered, yields, ?_,
    pruned⟩
  cases shown.symm.trans answered
  cases yields
  decide

end WebhookPayload
