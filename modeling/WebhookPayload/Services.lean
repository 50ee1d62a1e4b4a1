import WebhookPayload.Identity
import WebhookPayload.Trace

/-! Backend capabilities for the time of one payload generation. Loaded values
are kept by key; a load that fails leaves nothing behind. -/

namespace WebhookPayload

structure Services where
  plugins : List String
  requestor? : Option Requestor
  /-- The values loaded so far. -/
  loaded : List (String × Json)

/-- What a loader gives when it runs. -/
abbrev Loader := Except FieldError Json

namespace Services

def start (plugins : List String) (requestor? : Option Requestor) : Services :=
  { plugins, requestor?, loaded := [] }

def hasPlugin (services : Services) (plugin : String) : Bool := plugin ∈ services.plugins

def requestorIdentity? (services : Services) : Option String :=
  services.requestor?.map Requestor.identity

/-- The first step of a load: the value, if the key was loaded before. -/
def loaded? (services : Services) (key : String) : Option Json := services.loaded.lookup key

/-- Keeps a loaded value, unless the key has one already; gives the value kept. -/
def keep (services : Services) (key : String) (value : Json) : Json × Services :=
  match services.loaded? key with
  | some kept => (kept, services)
  | none => (value, { services with loaded := (key, value) :: services.loaded })

/-- The last step of a load whose loader ran. -/
def finishLoad (services : Services) (key : String) : Loader → Except FieldError Json × Services
  | .error e => (.error e, services)
  | .ok value =>
    let (kept, services) := services.keep key value
    (.ok kept, services)

/-- Both steps of a load, with nothing in between. -/
def load (services : Services) (key : String) (loader : Loader) : LoadOutcome × Services :=
  match services.loaded? key with
  | some value => (.reused value, services)
  | none =>
    let (result, services) := services.finishLoad key loader
    (.ran result, services)

theorem loaded?_keep_self (services : Services) (key : String) (value : Json) :
    (services.keep key value).2.loaded? key = some (services.keep key value).1 := by
  unfold keep
  split
  · assumption
  · simp [loaded?]

theorem loaded?_keep_of_some {services : Services} {key other : String} {value found : Json}
    (h : services.loaded? other = some found) :
    (services.keep key value).2.loaded? other = some found := by
  unfold keep
  split
  · exact h
  · rename_i missing
    have : other ≠ key := by
      rintro rfl
      simp [missing] at h
    simpa [loaded?, List.lookup_cons, beq_false_of_ne this] using h

end Services

end WebhookPayload
