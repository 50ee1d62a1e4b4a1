import WebhookPayload.Number

/-! JSON values as events, resolvers and payloads hold them. The members of an
object keep their order; keys are distinct in every value that is read or built
here, since a repeated key replaces the earlier value in its place. -/

namespace WebhookPayload

inductive Json where
  | null
  | boolean (value : Bool)
  | number (value : Number)
  | string (value : String)
  | array (items : List Json)
  | object (members : List (String × Json))
  deriving Inhabited

/-- The members of an object, in order. -/
abbrev Members := List (String × Json)

/-- Where keys differ, what is looked up is what is there under the key. -/
theorem lookup_eq_some_iff_mem {α : Type} {entries : List (String × α)}
    (distinct : (entries.map Prod.fst).Nodup) {key : String} {value : α} :
    entries.lookup key = some value ↔ (key, value) ∈ entries := by
  induction entries with
  | nil => simp
  | cons entry rest ih =>
    obtain ⟨name, first⟩ := entry
    obtain ⟨new, distinct⟩ := List.nodup_cons.mp distinct
    rw [List.lookup_cons, List.mem_cons, Prod.mk.injEq]
    by_cases same : key = name
    · subst same
      have alone : (key, value) ∉ rest := fun later => new (List.mem_map.mpr ⟨_, later, rfl⟩)
      simp [alone, eq_comm]
    · simp [same, beq_false_of_ne same, ih distinct]

namespace Members

def insert (key : String) (value : Json) : Members → Members
  | [] => [(key, value)]
  | (k, v) :: rest => if k = key then (key, value) :: rest else (k, v) :: insert key value rest

def get? (members : Members) (key : String) : Option Json := members.lookup key

def keys (members : Members) : List String := members.map Prod.fst

theorem insert_of_not_mem_keys {key : String} {value : Json} {members : Members}
    (h : key ∉ members.keys) : members.insert key value = members ++ [(key, value)] := by
  induction members with
  | nil => rfl
  | cons entry rest ih =>
    obtain ⟨k, v⟩ := entry
    simp only [keys, List.map_cons, List.mem_cons, not_or] at h
    simp [insert, Ne.symm h.1, ih h.2]

theorem get?_insert_self (key : String) (value : Json) (members : Members) :
    (members.insert key value).get? key = some value := by
  induction members with
  | nil => simp [insert, get?]
  | cons entry rest ih =>
    obtain ⟨k, v⟩ := entry
    by_cases h : k = key
    · simp [insert, get?, h]
    · simp only [insert, if_neg h]
      simpa [get?, List.lookup_cons, beq_false_of_ne (Ne.symm h)] using ih

theorem get?_insert_of_ne {key other : String} (h : other ≠ key) (value : Json)
    (members : Members) : (members.insert key value).get? other = members.get? other := by
  induction members with
  | nil => simp [insert, get?, List.lookup_cons, beq_false_of_ne h]
  | cons entry rest ih =>
    obtain ⟨k, v⟩ := entry
    simp only [get?] at ih
    by_cases hk : k = key
    · simp [insert, get?, hk, List.lookup_cons, beq_false_of_ne h]
    · simp only [insert, if_neg hk, get?, List.lookup_cons, ih]

end Members

namespace Json

def isNull : Json → Bool
  | null => true
  | _ => false

/-- The value of a property; there is none if the value is no object. -/
def property? (name : String) : Json → Option Json
  | object members => Members.get? members name
  | _ => none

def asString? : Json → Option String
  | string value => some value
  | _ => none

def ofNat (n : Nat) : Json := number (.integer n)

def strings (texts : List String) : Json := array (texts.map string)

def ofOption {α : Type} (encode : α → Json) : Option α → Json
  | none => null
  | some a => encode a

@[simp] theorem isNull_iff {value : Json} : value.isNull = true ↔ value = null := by
  cases value <;> simp [isNull]

mutual

def decEq (a b : Json) : Decidable (a = b) :=
  match a, b with
  | null, null => isTrue rfl
  | null, boolean _ | null, number _ | null, string _ | null, array _ | null, object _ =>
    isFalse nofun
  | boolean x, boolean y => decidable_of_iff (x = y) (by simp)
  | boolean _, null | boolean _, number _ | boolean _, string _ | boolean _, array _
  | boolean _, object _ => isFalse nofun
  | number x, number y => decidable_of_iff (x = y) (by simp)
  | number _, null | number _, boolean _ | number _, string _ | number _, array _
  | number _, object _ => isFalse nofun
  | string x, string y => decidable_of_iff (x = y) (by simp)
  | string _, null | string _, boolean _ | string _, number _ | string _, array _
  | string _, object _ => isFalse nofun
  | array xs, array ys =>
    have := decEqItems xs ys
    decidable_of_iff (xs = ys) (by simp)
  | array _, null | array _, boolean _ | array _, number _ | array _, string _
  | array _, object _ => isFalse nofun
  | object xs, object ys =>
    have := decEqMembers xs ys
    decidable_of_iff (xs = ys) (by simp)
  | object _, null | object _, boolean _ | object _, number _ | object _, string _
  | object _, array _ => isFalse nofun

def decEqItems (xs ys : List Json) : Decidable (xs = ys) :=
  match xs, ys with
  | [], [] => isTrue rfl
  | [], _ :: _ | _ :: _, [] => isFalse nofun
  | x :: xs, y :: ys =>
    have := decEq x y
    have := decEqItems xs ys
    decidable_of_iff (x = y ∧ xs = ys) (by simp)

def decEqMembers (xs ys : List (String × Json)) : Decidable (xs = ys) :=
  match xs, ys with
  | [], [] => isTrue rfl
  | [], _ :: _ | _ :: _, [] => isFalse nofun
  | (k, x) :: xs, (l, y) :: ys =>
    have := decEq x y
    have := decEqMembers xs ys
    decidable_of_iff ((k = l ∧ x = y) ∧ xs = ys) (by simp)

end

instance : DecidableEq Json := decEq

end Json

end WebhookPayload
