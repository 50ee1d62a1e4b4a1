import WebhookPayload.Text.Whitespace
import WebhookPayload.Text.Pieces
import WebhookPayload.Text.CaseMapping

/-! Configuration values by name. An environment is a stack of layers: a name is
looked up in the nearest layer first and then in the ones behind it. Values are
texts, which may be read as flags or as lists. -/

namespace WebhookPayload

/-- The layers, nearest first; in a layer the first entry for a name counts. -/
structure Environment where
  layers : List (List (String × String))

inductive SettingError where
  | invalidFlag (name value : String)
  deriving DecidableEq

def SettingError.message : SettingError → String
  | invalidFlag name value =>
    "Invalid value for " ++ name ++ ": " ++ value ++
      ". Expected true, 1, yes, on, enabled, enable OR false, 0, no, off, disabled, disable"

namespace Environment

def trueWords : List String := ["true", "1", "yes", "on", "enabled", "enable"]

def falseWords : List String := ["false", "0", "no", "off", "disabled", "disable"]

def get? (env : Environment) (name : String) : Option String :=
  env.layers.findSome? (·.lookup name)

def getD (env : Environment) (name default : String) : String :=
  (env.get? name).getD default

/-- Sets a value in the nearest layer. -/
def set (env : Environment) (name value : String) : Environment :=
  match env.layers with
  | [] => ⟨[[(name, value)]]⟩
  | nearest :: rest => ⟨((name, value) :: nearest) :: rest⟩

/-- A flag word, in any case and with white space around it. -/
def readFlag? (value : String) : Option Bool :=
  let word := String.ofList ((Text.trim value.toList).flatMap Text.lowercase)
  if word ∈ trueWords then some true else if word ∈ falseWords then some false else none

def flag (env : Environment) (name : String) (default : Bool) : Except SettingError Bool :=
  match env.get? name with
  | none => .ok default
  | some value =>
    match readFlag? value with
    | some b => .ok b
    | none => .error (.invalidFlag name value)

/-- The entries between commas, trimmed and without the blank ones. -/
def readList (value : String) : List String :=
  (((Text.pieces (· == ',') value.toList).map Text.trim).filter (· ≠ [])).map String.ofList

def list (env : Environment) (name : String) (default : List String) : List String :=
  ((env.get? name).map readList).getD default

theorem get?_set_self (env : Environment) (name value : String) :
    (env.set name value).get? name = some value := by
  obtain ⟨layers⟩ := env
  cases layers <;> simp [set, get?]

theorem get?_set_of_ne (env : Environment) {name other : String} (h : other ≠ name)
    (value : String) : (env.set name value).get? other = env.get? other := by
  obtain ⟨layers⟩ := env
  cases layers <;> simp [set, get?, List.findSome?_cons, List.lookup_cons, beq_false_of_ne h]

/-! ## Readings of other names -/

section

variable (env : Environment) {name other : String} (value : String)

theorem getD_set_of_ne (h : other ≠ name) (default : String) :
    (env.set name value).getD other default = env.getD other default := by
  rw [getD, getD, get?_set_of_ne env h]

theorem flag_set_of_ne (h : other ≠ name) (default : Bool) :
    (env.set name value).flag other default = env.flag other default := by
  rw [flag, flag, get?_set_of_ne env h]

theorem list_set_of_ne (h : other ≠ name) (default : List String) :
    (env.set name value).list other default = env.list other default := by
  rw [list, list, get?_set_of_ne env h]

end

end Environment

end WebhookPayload
