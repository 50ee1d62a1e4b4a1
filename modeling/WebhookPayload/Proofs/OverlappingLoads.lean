import WebhookPayload.Services

/-! # Loads that overlap

A load that finds nothing runs its loader, and other loads go on in the meantime. So
any number of loaders may be running at once, for one key or for several, and they are
done in any order. The first value that is kept for a key is the one that every load of
the key gives, also one that began when there was no value yet (`run_agrees`). -/

namespace WebhookPayload

/-- Services while loaders are running: each of them has the number of its load and its key. -/
structure Loading where
  services : Services
  running : List (Nat × String)

/-- What a load does at one time: it starts, or its loader is done. -/
inductive LoadStep where
  | start (load : Nat) (key : String)
  | finish (load : Nat) (result : Loader)

inductive LoadEvent where
  /-- The loader runs from now on. -/
  | begun (load : Nat) (key : String)
  /-- The load ends. -/
  | answered (load : Nat) (key : String) (result : Except FieldError Json)

namespace Loading

/-- The key of a load whose loader is running. -/
def key? (state : Loading) (load : Nat) : Option String := state.running.lookup load

/-- A step and what becomes of it. A load that is running does not start again, and only a
load that is running finishes; other steps are none. -/
def take (state : Loading) : LoadStep → Option LoadEvent × Loading
  | .start load key =>
    match state.key? load with
    | some _ => (none, state)
    | none =>
      match state.services.loaded? key with
      | some value => (some (.answered load key (.ok value)), state)
      | none => (some (.begun load key), { state with running := (load, key) :: state.running })
  | .finish load result =>
    match state.key? load with
    | none => (none, state)
    | some key =>
      let (answer, services) := state.services.finishLoad key result
      (some (.answered load key answer),
        { services, running := state.running.filter (·.1 ≠ load) })

/-- The events of steps that are taken one after another, and the state after them. -/
def run (state : Loading) : List LoadStep → List LoadEvent × Loading
  | [] => ([], state)
  | step :: rest =>
    let (event?, next) := state.take step
    let (events, last) := next.run rest
    (event?.toList ++ events, last)

/-- A load of which both steps are taken with nothing in between is a load at one go. -/
theorem run_alone (services : Services) (load : Nat) (key : String) (loader : Loader) :
    let (events, state) := run { services, running := [] } [.start load key, .finish load loader]
    let (outcome, afterwards) := services.load key loader
    events.getLast? = some (.answered load key outcome.result) ∧
      (.begun load key ∈ events ↔ outcome.loaderRan = true) ∧
      state = { services := afterwards, running := [] } := by
  cases found : services.loaded? key <;>
    simp [run, take, key?, Services.load, found, LoadOutcome.result, LoadOutcome.loaderRan]

/-! ## One step -/

/-- All that a step can be. -/
inductive Takes (state : Loading) : LoadStep → Option LoadEvent → Loading → Prop
  | running {load : Nat} {key other : String} (running : state.key? load = some other) :
      Takes state (.start load key) none state
  | idle {load : Nat} {result : Loader} (idle : state.key? load = none) :
      Takes state (.finish load result) none state
  | reused {load : Nat} {key : String} {value : Json} (idle : state.key? load = none)
      (found : state.services.loaded? key = some value) :
      Takes state (.start load key) (some (.answered load key (.ok value))) state
  | begun {load : Nat} {key : String} (idle : state.key? load = none)
      (missing : state.services.loaded? key = none) :
      Takes state (.start load key) (some (.begun load key))
        { state with running := (load, key) :: state.running }
  | failed {load : Nat} {key : String} (error : FieldError) (running : state.key? load = some key) :
      Takes state (.finish load (.error error)) (some (.answered load key (.error error)))
        { state with running := state.running.filter (·.1 ≠ load) }
  | succeeded {load : Nat} {key : String} (value : Json) (running : state.key? load = some key) :
      Takes state (.finish load (.ok value))
        (some (.answered load key (.ok (state.services.keep key value).1)))
        { services := (state.services.keep key value).2
          running := state.running.filter (·.1 ≠ load) }

theorem takes_take (state : Loading) (step : LoadStep) :
    state.Takes step (state.take step).1 (state.take step).2 := by
  cases step with
  | start load key =>
    cases running : state.key? load with
    | some other =>
      rw [take, running]
      exact .running running
    | none =>
      cases found : state.services.loaded? key with
      | some value =>
        simp only [take, running, found]
        exact .reused running found
      | none =>
        simp only [take, running, found]
        exact .begun running found
  | finish load result =>
    cases running : state.key? load with
    | none =>
      rw [take, running]
      exact .idle running
    | some key =>
      simp only [take, running]
      cases result with
      | error error => exact .failed error running
      | ok value => exact .succeeded value running

theorem takes_of_event {state : Loading} {step : LoadStep} {event : LoadEvent}
    (happens : (state.take step).1 = some event) :
    state.Takes step (some event) (state.take step).2 :=
  happens ▸ state.takes_take step

namespace Takes

variable {state next : Loading} {step : LoadStep} {event? : Option LoadEvent} {load : Nat}
  {key : String} {value : Json}

/-- A value that is kept stays. -/
theorem keeps (h : state.Takes step event? next)
    (found : state.services.loaded? key = some value) :
    next.services.loaded? key = some value := by
  cases h with
  | running _ | idle _ | reused _ _ | begun _ _ | failed _ _ => exact found
  | succeeded _ _ => exact Services.loaded?_keep_of_some found

/-- A load that succeeds gives what is kept from then on. -/
theorem agrees (h : state.Takes step (some (.answered load key (.ok value))) next) :
    next.services.loaded? key = some value := by
  cases h with
  | reused _ found => exact found
  | succeeded value _ => exact Services.loaded?_keep_self state.services key value

theorem of_error {error : FieldError}
    (h : state.Takes step (some (.answered load key (.error error))) next) :
    step = .finish load (.error error) ∧ next.services = state.services := by
  cases h
  exact ⟨rfl, rfl⟩

theorem missing (h : state.Takes step (some (.begun load key)) next) :
    state.services.loaded? key = none := by
  cases h with
  | begun _ missing => exact missing

theorem reuses (idle : state.key? load = none)
    (found : state.services.loaded? key = some value)
    (h : state.Takes (.start load key) event? next) :
    event? = some (.answered load key (.ok value)) ∧ next = state := by
  cases h with
  | running running => cases idle.symm.trans running
  | reused _ found' =>
    cases found.symm.trans found'
    exact ⟨rfl, rfl⟩
  | begun _ missing => cases found.symm.trans missing

theorem starts (idle : state.key? load = none) (missing : state.services.loaded? key = none)
    (h : state.Takes (.start load key) event? next) :
    event? = some (.begun load key) ∧ next.key? load = some key ∧
      next.services = state.services := by
  cases h with
  | running running => cases idle.symm.trans running
  | reused _ found => cases missing.symm.trans found
  | begun _ _ => exact ⟨rfl, List.lookup_cons_self, rfl⟩

/-- A loader that is done ends its load: with its error, or with what is kept for the key. -/
theorem ends {result : Loader} (running : state.key? load = some key)
    (h : state.Takes (.finish load result) event? next) :
    ∃ value, event? = some (.answered load key (result.map fun _ => value)) := by
  cases h with
  | idle idle =>
    rw [idle] at running
    cases running
  | failed error running' =>
    cases running.symm.trans running'
    exact ⟨.null, rfl⟩
  | succeeded value running' =>
    cases running.symm.trans running'
    exact ⟨_, rfl⟩

end Takes

/-! ## Runs -/

variable {state : Loading} {steps : List LoadStep} {key : String} {value : Json}

theorem events_run_cons (state : Loading) (step : LoadStep) (rest : List LoadStep) :
    (state.run (step :: rest)).1 =
      (state.take step).1.toList ++ ((state.take step).2.run rest).1 := rfl

theorem run_append (state : Loading) (earlier later : List LoadStep) :
    state.run (earlier ++ later) =
      ((state.run earlier).1 ++ ((state.run earlier).2.run later).1,
        ((state.run earlier).2.run later).2) := by
  induction earlier generalizing state with
  | nil => rfl
  | cons step rest ih =>
    simp only [List.cons_append, run, ih, List.append_assoc]

theorem loaded?_run (steps : List LoadStep) (found : state.services.loaded? key = some value) :
    (state.run steps).2.services.loaded? key = some value := by
  induction steps generalizing state with
  | nil => exact found
  | cons step rest ih => exact ih ((state.takes_take step).keeps found)

/-- By induction on the steps: what a load gives is kept when it ends, and stays. -/
theorem loaded?_of_answered {load : Nat}
    (answered : .answered load key (.ok value) ∈ (state.run steps).1) :
    (state.run steps).2.services.loaded? key = some value := by
  induction steps generalizing state with
  | nil => cases answered
  | cons step rest ih =>
    rw [events_run_cons] at answered
    rcases List.mem_append.mp answered with now | later
    · have taken := takes_of_event (Option.mem_toList.mp now)
      exact loaded?_run rest taken.agrees
    · exact ih later

/-- Loads agree, however their steps alternate. -/
structure Agrees (state : Loading) (steps : List LoadStep) : Prop where
  /-- A value that is kept for a key stays. -/
  kept : ∀ earlier later key value, steps = earlier ++ later →
    (state.run earlier).2.services.loaded? key = some value →
      (state.run steps).2.services.loaded? key = some value
  /-- What is kept for a key at any time is given by every load of the key that succeeds at
  any time, whether it began earlier or later. -/
  agree : ∀ earlier later load key value given, steps = earlier ++ later →
    (state.run earlier).2.services.loaded? key = some value →
      .answered load key (.ok given) ∈ (state.run steps).1 → given = value
  /-- What a load gives is kept. -/
  given : ∀ load key value, .answered load key (.ok value) ∈ (state.run steps).1 →
    (state.run steps).2.services.loaded? key = some value
  /-- A load fails with the error of its loader, and changes nothing that is kept. -/
  failed : ∀ earlier step later load key error, steps = earlier ++ step :: later →
    ((state.run earlier).2.take step).1 = some (.answered load key (.error error)) →
      step = .finish load (.error error) ∧
        ((state.run earlier).2.take step).2.services = (state.run earlier).2.services
  /-- A loader that is done ends its load; the load fails only if the loader failed. -/
  ends : ∀ earlier later load key result, steps = earlier ++ .finish load result :: later →
    (state.run earlier).2.key? load = some key →
      ∃ value, ((state.run earlier).2.take (.finish load result)).1 =
        some (.answered load key (result.map fun _ => value))
  /-- A load that starts when a value is kept for its key gives that value. -/
  reuses : ∀ earlier later load key value, steps = earlier ++ .start load key :: later →
    (state.run earlier).2.key? load = none →
      (state.run earlier).2.services.loaded? key = some value →
        (state.run earlier).2.take (.start load key) =
          (some (.answered load key (.ok value)), (state.run earlier).2)
  /-- Any other load that starts begins its loader, and is running from then on. -/
  starts : ∀ earlier later load key, steps = earlier ++ .start load key :: later →
    (state.run earlier).2.key? load = none →
      (state.run earlier).2.services.loaded? key = none →
        ((state.run earlier).2.take (.start load key)).1 = some (.begun load key) ∧
          ((state.run earlier).2.take (.start load key)).2.key? load = some key ∧
          ((state.run earlier).2.take (.start load key)).2.services =
            (state.run earlier).2.services
  /-- A loader begins only when there is no value. -/
  begins : ∀ earlier step later load key, steps = earlier ++ step :: later →
    ((state.run earlier).2.take step).1 = some (.begun load key) →
      (state.run earlier).2.services.loaded? key = none

theorem run_agrees (state : Loading) (steps : List LoadStep) : state.Agrees steps := by
  have kept : ∀ earlier later key value, steps = earlier ++ later →
      (state.run earlier).2.services.loaded? key = some value →
        (state.run steps).2.services.loaded? key = some value := by
    rintro earlier later key value rfl found
    rw [run_append]
    exact loaded?_run later found
  constructor
  case kept => exact kept
  case agree =>
    intro earlier later load key value given parts found answered
    have last := kept earlier later key value parts found
    exact Option.some.inj ((loaded?_of_answered answered).symm.trans last)
  case given =>
    intro load key value answered
    exact loaded?_of_answered answered
  case failed =>
    intro earlier step later load key error _ event
    exact (takes_of_event event).of_error
  case ends =>
    intro earlier later load key result _ running
    exact ((state.run earlier).2.takes_take (.finish load result)).ends running
  case reuses =>
    intro earlier later load key value _ idle found
    obtain ⟨event, next⟩ := ((state.run earlier).2.takes_take (.start load key)).reuses idle found
    exact Prod.ext event next
  case starts =>
    intro earlier later load key _ idle missing
    exact ((state.run earlier).2.takes_take (.start load key)).starts idle missing
  case begins =>
    intro earlier step later load key _ event
    exact (takes_of_event event).missing

/-- Two loads of one key overlap, and the one that began first ends last. -/
example : (run { services := .start [] none, running := [] }
    [.start 0 "order:1", .start 1 "order:1", .finish 1 (.ok (.string "paid")),
      .finish 0 (.ok (.string "open"))]).1 =
    [.begun 0 "order:1", .begun 1 "order:1", .answered 1 "order:1" (.ok (.string "paid")),
      .answered 0 "order:1" (.ok (.string "paid"))] := by rfl

end Loading

end WebhookPayload
