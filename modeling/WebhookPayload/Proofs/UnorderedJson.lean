import Mathlib.Data.List.Forall2
import Mathlib.Data.Option.Basic
import WebhookPayload.Json

/-! # JSON without an order of members

JSON objects may be compared without regard to the order of their members. What is
found under a key is compared in the same way then (`SameUpToOrder.get?`), so an
encoding is faithful already if its members are. -/

namespace WebhookPayload

theorem Members.get?_eq_none_iff {members : Members} {key : String} :
    members.get? key = none ↔ key ∉ members.keys := by
  rw [get?, List.lookup_eq_none_iff, keys, List.mem_map]
  constructor
  · rintro other ⟨entry, held, rfl⟩
    simpa using other entry held
  · rintro missing entry held
    exact bne_iff_ne.mpr fun same => missing ⟨entry, held, same.symm⟩

namespace Json

/-- The same JSON, if the order of the members of objects does not count. -/
inductive SameUpToOrder : Json → Json → Prop
  | same (json : Json) : SameUpToOrder json json
  | array {items others : List Json} (length : items.length = others.length)
      (each : ∀ pair ∈ items.zip others, SameUpToOrder pair.1 pair.2) :
      SameUpToOrder (.array items) (.array others)
  | object {members others : Members} (keys : members.keys.Perm others.keys)
      (each : ∀ key value other, (key, value) ∈ members → (key, other) ∈ others →
        SameUpToOrder value other) :
      SameUpToOrder (.object members) (.object others)

namespace SameUpToOrder

variable {json other : Json}

theorem isNull_eq (h : json.SameUpToOrder other) :
    json.isNull = other.isNull := by
  cases h <;> rfl

theorem string {text : String} (h : SameUpToOrder (.string text) other) : other = .string text := by
  cases h
  rfl

theorem number {number : Number} (h : SameUpToOrder (.number number) other) :
    other = .number number := by
  cases h
  rfl

theorem items {items others : List Json} (h : SameUpToOrder (.array items) (.array others)) :
    List.Forall₂ SameUpToOrder items others := by
  cases h with
  | same => exact List.forall₂_same.mpr fun json _ => .same json
  | array length each => exact List.forall₂_iff_zip.mpr ⟨length, fun pair => each _ pair⟩

theorem get? {members others : Members} (distinct : members.keys.Nodup)
    (h : SameUpToOrder (.object members) (.object others)) (key : String) :
    Option.Rel SameUpToOrder (members.get? key) (others.get? key) := by
  cases h with
  | same =>
    cases members.get? key with
    | none => exact .none
    | some value => exact .some (.same value)
  | object keys each =>
    cases found : members.get? key with
    | none =>
      have missing : others.get? key = none := by
        rw [Members.get?_eq_none_iff] at found ⊢
        exact fun held => found (keys.mem_iff.mpr held)
      rw [missing]
      exact .none
    | some value =>
      have held : (key, value) ∈ members := (lookup_eq_some_iff_mem distinct).mp found
      obtain ⟨entry, held', rfl⟩ := List.mem_map.mp
        (keys.mem_iff.mp (List.mem_map.mpr ⟨_, held, rfl⟩))
      have found' : others.get? entry.1 = some entry.2 :=
        (lookup_eq_some_iff_mem (keys.nodup_iff.mp distinct)).mpr held'
      rw [found']
      exact .some (each _ _ _ held held')

theorem member {members others : Members} (distinct : members.keys.Nodup)
    (h : SameUpToOrder (.object members) (.object others)) (key : String) {value other : Json}
    (found : members.get? key = some value) (found' : others.get? key = some other) :
    SameUpToOrder value other := by
  have related := h.get? distinct key
  rw [found, found'] at related
  cases related with
  | some same => exact same

end SameUpToOrder

/-- Only one value is encoded so, whatever the order of members. -/
def Faithful {α : Type} (encode : α → Json) : Prop :=
  ∀ a b, SameUpToOrder (encode a) (encode b) → a = b

theorem faithful_string : Faithful string := by
  intro a b same
  cases same.string
  rfl

theorem faithful_ofNat : Faithful ofNat := by
  intro a b same
  injection same.number with number
  injection number with value
  exact Int.ofNat.inj value.symm

theorem Faithful.array {α : Type} {encode : α → Json} (h : Faithful encode) :
    Faithful fun items : List α => .array (items.map encode) := by
  intro items others same
  have each := same.items
  rw [List.forall₂_map_left_iff, List.forall₂_map_right_iff] at each
  exact List.forall₂_eq_eq_eq ▸ each.imp fun a b => h a b

theorem Faithful.option {α : Type} {encode : α → Json} (h : Faithful encode) {a? b? : Option α}
    (same : Option.Rel SameUpToOrder (a?.map encode) (b?.map encode)) : a? = b? := by
  cases a? with
  | none =>
    cases b? with
    | none => rfl
    | some b => cases same
  | some a =>
    cases b? with
    | none => cases same
    | some b =>
      cases same with
      | some same => exact congrArg some (h a b same)

end Json

end WebhookPayload
