import Mathlib.Data.List.Forall2
import WebhookPayload.Execution.Exec

/-! # Elements in turn

A traversal computes one element after another and ends with the first that has
no value. Its turns are the elements that it comes to, each with the context it
finds; the errors and the values of the traversal are those of its turns. -/

namespace WebhookPayload.Exec

variable {α β γ : Type}

/-! ## Parts of a computation -/

theorem bind_of_some {x : Exec α} {a : α} {context : Context}
    (h : (x context).value? = some a) (f : α → Exec β) :
    (x.bind f) context =
      { f a (x context).context with
        errors := (x context).errors ++ (f a (x context).context).errors
        trace := (x context).trace ++ (f a (x context).context).trace } := by
  simp only [bind, h]

theorem bind_of_none {x : Exec α} {context : Context} (h : (x context).value? = none)
    (f : α → Exec β) : (x.bind f) context = { x context with value? := none } := by
  simp only [bind, h]

theorem value?_map (g : α → β) (x : Exec α) (context : Context) :
    ((g <$> x) context).value? = (x context).value?.map g := by
  show ((x.bind fun a => pure (g a)) context).value? = _
  cases h : (x context).value? with
  | none => rw [bind_of_none h]; rfl
  | some a => rw [bind_of_some h]; rfl

theorem errors_map (g : α → β) (x : Exec α) (context : Context) :
    ((g <$> x) context).errors = (x context).errors := by
  show ((x.bind fun a => pure (g a)) context).errors = _
  cases h : (x context).value? with
  | none => rw [bind_of_none h]
  | some a => rw [bind_of_some h]; exact List.append_nil _

theorem trace_map (g : α → β) (x : Exec α) (context : Context) :
    ((g <$> x) context).trace = (x context).trace := by
  show ((x.bind fun a => pure (g a)) context).trace = _
  cases h : (x context).value? with
  | none => rw [bind_of_none h]
  | some a => rw [bind_of_some h]; exact List.append_nil _

theorem context_map (g : α → β) (x : Exec α) (context : Context) :
    ((g <$> x) context).context = (x context).context := by
  show ((x.bind fun a => pure (g a)) context).context = _
  cases h : (x context).value? with
  | none => rw [bind_of_none h]
  | some a => rw [bind_of_some h]; rfl

/-- A value at a position: null may stand for a missing one, or is excluded. -/
theorem value?_atPosition (nullable : Bool) (error : ExecutionError) (x : Exec Json)
    (context : Context) :
    (atPosition nullable error x context).value? =
      if nullable then some ((x context).value?.getD .null)
      else (x context).value?.filter fun json => !json.isNull := by
  unfold atPosition
  generalize x context = outcome
  obtain ⟨value?, errors, trace, after⟩ := outcome
  cases nullable <;> cases value? with
  | none => rfl
  | some json => cases json <;> rfl

theorem errors_atPosition (nullable : Bool) (error : ExecutionError) (x : Exec Json)
    (context : Context) :
    (atPosition nullable error x context).errors =
      (x context).errors ++
        if nullable = false ∧ (x context).value? = some .null then [error] else [] := by
  unfold atPosition
  generalize x context = outcome
  obtain ⟨value?, errors, trace, after⟩ := outcome
  cases nullable <;> cases value? with
  | none => simp
  | some json => cases json <;> simp

theorem trace_atPosition (nullable : Bool) (error : ExecutionError) (x : Exec Json)
    (context : Context) : (atPosition nullable error x context).trace = (x context).trace := by
  unfold atPosition
  dsimp only
  split <;> rfl

theorem context_atPosition (nullable : Bool) (error : ExecutionError) (x : Exec Json)
    (context : Context) : (atPosition nullable error x context).context = (x context).context := by
  unfold atPosition
  dsimp only
  split <;> rfl

/-- Elements that are computed in the same way are traversed in the same way. -/
theorem traverse_congr {f : α → Exec γ} {g : β → Exec γ} {items : List α} {others : List β}
    (h : List.Forall₂ (fun a b => f a = g b) items others) :
    traverse f items = traverse g others := by
  induction h with
  | nil => rfl
  | cons first _ ih => rw [traverse, traverse, first, ih]

/-! ## Turns -/

/-- The elements that a traversal comes to, each with the context it is computed in. -/
def turns (f : α → Exec β) : List α → Context → List (α × Context)
  | [], _ => []
  | a :: rest, context =>
    (a, context) ::
      if (f a context).value?.isSome then turns f rest (f a context).context else []

/-- What a traversal gives is what its first element and the others give. -/
theorem value?_traverse_cons (f : α → Exec β) (a : α) (rest : List α) (context : Context) :
    (traverse f (a :: rest) context).value? =
      (f a context).value?.bind fun b =>
        (traverse f rest (f a context).context).value?.map (b :: ·) := by
  rw [traverse]
  cases h : (f a context).value? with
  | none => rw [bind_of_none h]; rfl
  | some b =>
    rw [bind_of_some h]
    exact value?_map (b :: ·) _ _

theorem errors_traverse_cons (f : α → Exec β) (a : α) (rest : List α) (context : Context) :
    (traverse f (a :: rest) context).errors =
      (f a context).errors ++
        if (f a context).value?.isSome then (traverse f rest (f a context).context).errors
        else [] := by
  rw [traverse]
  cases h : (f a context).value? with
  | none =>
    rw [bind_of_none h]
    exact (List.append_nil _).symm
  | some b =>
    rw [bind_of_some h]
    exact congrArg _ (errors_map (b :: ·) _ _)

theorem errors_traverse (f : α → Exec β) (items : List α) (context : Context) :
    (traverse f items context).errors =
      (turns f items context).flatMap fun turn => (f turn.1 turn.2).errors := by
  induction items generalizing context with
  | nil => rfl
  | cons a rest ih =>
    rw [errors_traverse_cons, turns, List.flatMap_cons]
    cases (f a context).value? with
    | none => rfl
    | some b => exact congrArg _ (ih _)

theorem trace_traverse_cons (f : α → Exec β) (a : α) (rest : List α) (context : Context) :
    (traverse f (a :: rest) context).trace =
      (f a context).trace ++
        if (f a context).value?.isSome then (traverse f rest (f a context).context).trace
        else [] := by
  rw [traverse]
  cases h : (f a context).value? with
  | none =>
    rw [bind_of_none h]
    exact (List.append_nil _).symm
  | some b =>
    rw [bind_of_some h]
    exact congrArg _ (trace_map (b :: ·) _ _)

theorem trace_traverse (f : α → Exec β) (items : List α) (context : Context) :
    (traverse f items context).trace =
      (turns f items context).flatMap fun turn => (f turn.1 turn.2).trace := by
  induction items generalizing context with
  | nil => rfl
  | cons a rest ih =>
    rw [trace_traverse_cons, turns, List.flatMap_cons]
    cases (f a context).value? with
    | none => rfl
    | some b => exact congrArg _ (ih _)

theorem context_traverse_cons (f : α → Exec β) (a : α) (rest : List α) (context : Context) :
    (traverse f (a :: rest) context).context =
      if (f a context).value?.isSome then (traverse f rest (f a context).context).context
      else (f a context).context := by
  rw [traverse]
  cases h : (f a context).value? with
  | none => rw [bind_of_none h]; rfl
  | some b =>
    rw [bind_of_some h]
    exact context_map (b :: ·) _ _

theorem turns_initial (f : α → Exec β) (items : List α) (context : Context) :
    (turns f items context).map Prod.fst <+: items := by
  induction items generalizing context with
  | nil => exact List.prefix_refl _
  | cons a rest ih =>
    rw [turns, List.map_cons, List.prefix_cons_inj]
    split
    · exact ih _
    · exact List.nil_prefix

/-- A traversal with a value has come to every element, and its value consists of theirs. -/
theorem turns_of_value? {f : α → Exec β} {items : List α} {context : Context} {values : List β}
    (h : (traverse f items context).value? = some values) :
    (turns f items context).map Prod.fst = items ∧
      (turns f items context).map (fun turn => (f turn.1 turn.2).value?) = values.map some := by
  induction items generalizing context values with
  | nil =>
    cases h
    exact ⟨rfl, rfl⟩
  | cons a rest ih =>
    rw [value?_traverse_cons] at h
    obtain ⟨b, hb, h⟩ := Option.bind_eq_some_iff.mp h
    obtain ⟨others, ho, rfl⟩ := Option.map_eq_some_iff.mp h
    obtain ⟨all, each⟩ := ih ho
    simp [turns, hb, all, each]

/-- After a turn without a value there is none. -/
theorem turns_of_missing {f : α → Exec β} {items : List α} {context : Context}
    {earlier later : List (α × Context)} {turn : α × Context}
    (met : turns f items context = earlier ++ turn :: later)
    (missing : (f turn.1 turn.2).value? = none) : later = [] := by
  induction items generalizing context earlier with
  | nil => simp [turns] at met
  | cons a rest ih =>
    rw [turns] at met
    cases earlier with
    | nil =>
      obtain ⟨rfl, rfl⟩ := List.cons.inj met
      simp [missing]
    | cons first earlier =>
      obtain ⟨-, others⟩ := List.cons.inj met
      split at others
      · exact ih others
      · simp at others

/-- A traversal comes to every element, or to a last one without a value. -/
theorem turns_eq_or_missing (f : α → Exec β) (items : List α) (context : Context) :
    (turns f items context).map Prod.fst = items ∨
      ∃ earlier turn, turns f items context = earlier ++ [turn] ∧
        (f turn.1 turn.2).value? = none := by
  induction items generalizing context with
  | nil => exact .inl rfl
  | cons a rest ih =>
    rw [turns]
    cases h : (f a context).value? with
    | none => exact .inr ⟨[], (a, context), rfl, h⟩
    | some b =>
      rcases ih (f a context).context with all | ⟨earlier, turn, met, missing⟩
      · exact .inl (congrArg (a :: ·) all)
      · exact .inr ⟨(a, context) :: earlier, turn, congrArg _ met, missing⟩

section Found

variable {f : α → Exec β} {items : List α} {context : Context} {values : List β}

/-- Each turn of a traversal with a value gives one of its elements. -/
theorem value_of_turn (h : (traverse f items context).value? = some values) {i : Nat}
    {turn : α × Context} (met : (turns f items context)[i]? = some turn) :
    items[i]? = some turn.1 ∧
      ∃ value, values[i]? = some value ∧ (f turn.1 turn.2).value? = some value := by
  obtain ⟨all, each⟩ := turns_of_value? h
  constructor
  · rw [← all, List.getElem?_map, met]
    rfl
  · have here := congrArg (·[i]?) each
    simp only [List.getElem?_map, met, Option.map_some] at here
    obtain ⟨value, found, same⟩ := Option.map_eq_some_iff.mp here.symm
    exact ⟨value, found, same.symm⟩

theorem turn_of_value (h : (traverse f items context).value? = some values) {i : Nat} {value : β}
    (held : values[i]? = some value) :
    ∃ turn, (turns f items context)[i]? = some turn ∧ (f turn.1 turn.2).value? = some value := by
  have here := congrArg (·[i]?) (turns_of_value? h).2
  simp only [List.getElem?_map, held, Option.map_some] at here
  exact Option.map_eq_some_iff.mp here

/-- What all values show of their elements, they show of them in order. -/
theorem map_values {g : β → γ} {k : α → γ}
    (shown : ∀ a context b, (f a context).value? = some b → g b = k a)
    (h : (traverse f items context).value? = some values) : values.map g = items.map k := by
  induction items generalizing context values with
  | nil =>
    cases h
    rfl
  | cons a rest ih =>
    rw [value?_traverse_cons] at h
    obtain ⟨b, hb, h⟩ := Option.bind_eq_some_iff.mp h
    obtain ⟨others, ho, rfl⟩ := Option.map_eq_some_iff.mp h
    rw [List.map_cons, List.map_cons, ih ho, shown a context b hb]

end Found

/-- A traversal without a value has come to an element without one. -/
theorem exists_turn_of_value?_eq_none {f : α → Exec β} {items : List α} {context : Context}
    (h : (traverse f items context).value? = none) :
    ∃ turn ∈ turns f items context, (f turn.1 turn.2).value? = none := by
  induction items generalizing context with
  | nil => cases h
  | cons a rest ih =>
    rw [value?_traverse_cons] at h
    cases hb : (f a context).value? with
    | none => exact ⟨(a, context), by simp [turns], hb⟩
    | some b =>
      rw [hb, Option.bind_some, Option.map_eq_none_iff] at h
      obtain ⟨turn, member, missing⟩ := ih h
      refine ⟨turn, ?_, missing⟩
      rw [turns, hb]
      exact List.mem_cons_of_mem _ member

end WebhookPayload.Exec
