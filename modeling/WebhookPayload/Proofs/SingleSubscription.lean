import Mathlib.Data.List.Perm.Basic
import WebhookPayload.Subscription.Shape

/-! # The test for a single subscription

The parts of a document are gone through one by one until one of them rules a single
subscription out. What the search comes to is a property of all parts together
(`areSingle_eq_true_iff`), so it does not depend on their order, and for a document it says
that there is one operation of the right kind (`singleSubscription?_eq`). -/

namespace WebhookPayload.GraphQL

namespace DocumentPart

/-- What may stand in a document with a single subscription. -/
def Fits : DocumentPart → Prop
  | subscription _ definition => definition.selections.length = 1
  | otherOperation _ _ => False
  | fragment _ _ => True

def isSubscription : DocumentPart → Bool
  | subscription _ _ => true
  | _ => false

theorem areSingle_eq_true_iff {subscriptions : Nat} {parts : List DocumentPart} :
    areSingle subscriptions parts = true ↔
      (∀ part ∈ parts, part.Fits) ∧ subscriptions + parts.countP isSubscription = 1 := by
  induction parts generalizing subscriptions with
  | nil => simp [areSingle]
  | cons part rest ih =>
    rw [List.forall_mem_cons]
    cases part with
    | fragment name definition =>
      rw [areSingle, ih, List.countP_cons_of_neg (by simp [isSubscription])]
      simp [Fits]
    | subscription name? definition =>
      rw [areSingle, List.countP_cons_of_pos (by rfl)]
      by_cases one : definition.selections.length = 1
      · rw [if_pos one, ih, Nat.add_assoc, Nat.add_comm 1]
        simp [Fits, one]
      · simp [Fits, one]
    | otherOperation name? definition => simp [areSingle, Fits]

/-- The order of the parts does not matter, wherever the search ends. -/
theorem areSingle_of_perm {parts others : List DocumentPart} (h : parts.Perm others)
    (subscriptions : Nat) : areSingle subscriptions parts = areSingle subscriptions others := by
  rw [Bool.eq_iff_iff, areSingle_eq_true_iff, areSingle_eq_true_iff, h.countP_eq]
  simp only [h.mem_iff]

/-- An operation fits only as a subscription, and then it counts as one. -/
theorem fits_ofOperation {name? : Option String} {definition : OperationDefinition} :
    (ofOperation name? definition).Fits ↔
      definition.kind = .subscription ∧ definition.selections.length = 1 := by
  unfold ofOperation
  cases definition.kind <;> simp [Fits]

theorem isSubscription_ofOperation {name? : Option String} {definition : OperationDefinition}
    (h : (ofOperation name? definition).Fits) :
    (ofOperation name? definition).isSubscription = true := by
  unfold ofOperation
  rw [(fits_ofOperation.mp h).1]
  rfl

end DocumentPart

namespace Document

variable {document : Document}

theorem isSingleSubscription_iff : document.isSingleSubscription = true ↔
    ∃ name? operation, document.operations.entries = [(name?, operation)] ∧
      operation.kind = .subscription ∧ operation.selections.length = 1 := by
  have fragments : (document.fragments.map fun entry =>
      DocumentPart.fragment entry.1 entry.2).countP DocumentPart.isSubscription = 0 := by
    simp [List.countP_eq_zero, DocumentPart.isSubscription]
  rw [isSingleSubscription, DocumentPart.areSingle_eq_true_iff, parts, List.countP_append,
    fragments, Nat.zero_add, Nat.add_zero]
  generalize document.operations.entries = entries
  constructor
  · rintro ⟨fit, one⟩
    have fits : ∀ entry ∈ entries, (DocumentPart.ofOperation entry.1 entry.2).Fits :=
      fun entry member => fit _ (List.mem_append_left _ (List.mem_map_of_mem member))
    -- all operations fit, so all of them count
    have all : (entries.map fun entry => DocumentPart.ofOperation entry.1 entry.2).countP
        DocumentPart.isSubscription = entries.length := by
      rw [List.countP_map, List.countP_eq_length]
      exact fun entry member => DocumentPart.isSubscription_ofOperation (fits entry member)
    obtain ⟨⟨name?, operation⟩, rfl⟩ := List.length_eq_one_iff.mp (all.symm.trans one)
    exact ⟨name?, operation, rfl,
      DocumentPart.fits_ofOperation.mp (fits _ (List.mem_singleton_self _))⟩
  · rintro ⟨name?, operation, rfl, fits⟩
    have fits : (DocumentPart.ofOperation name? operation).Fits :=
      DocumentPart.fits_ofOperation.mpr fits
    constructor
    · intro part member
      rcases List.mem_append.mp member with member | member
      · cases List.mem_singleton.mp member
        exact fits
      · obtain ⟨entry, -, rfl⟩ := List.mem_map.mp member
        exact trivial
    · simp [DocumentPart.isSubscription_ofOperation fits]

/-- The single subscription is the only operation, if that has the right form. -/
theorem singleSubscription?_eq (document : Document) :
    document.singleSubscription? =
      match document.operations.entries with
      | [(name?, definition)] =>
        if definition.kind = .subscription ∧ definition.selections.length = 1 then
          some (name?, definition)
        else none
      | _ => none := by
  rw [singleSubscription?]
  by_cases single : document.isSingleSubscription = true
  · obtain ⟨name?, operation, only, fits⟩ := isSingleSubscription_iff.mp single
    rw [if_pos single, only]
    exact (if_pos fits).symm
  · rw [if_neg single]
    split
    · rename_i name? definition only
      rw [if_neg]
      exact fun fits => single (isSingleSubscription_iff.mpr ⟨name?, definition, only, fits⟩)
    · rfl

end Document

end WebhookPayload.GraphQL
