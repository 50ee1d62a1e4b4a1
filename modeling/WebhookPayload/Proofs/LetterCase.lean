import WebhookPayload.Text.CaseMapping

/-! # Lower case

A letter that is in lower case stays as it is when it is put in lower case again, so
texts do too (`flatMap_lowercase_lowercase`). This rests on the table of moves: no
move ends where another one begins. -/

namespace WebhookPayload.Text

/-- How far the last code point of the span is from the first. -/
def Shift.width (shift : Shift) : Nat := shift.span.last - shift.span.first

/-- Nothing is moved into `span`: it lies before or behind all that is moved, or takes every
other code point only, those between, or does not contain the one code point that there is. -/
def Shift.avoids (shift : Shift) (span : Span) : Bool :=
  Nat.blt span.last shift.target || Nat.blt (shift.target + shift.width) span.first ||
    (shift.span.stride == 2 && span.stride == 2 && (shift.target + span.first) % 2 == 1) ||
    (shift.width == 0 && !span.contains shift.target)

theorem Shift.contains_eq_false {shift : Shift} {span : Span} {code target : Nat}
    (free : shift.avoids span = true) (moved : shift.image? code = some target) :
    span.contains target = false := by
  unfold image? at moved
  split at moved
  case isFalse => cases moved
  case isTrue inside =>
    obtain ⟨first, last, steps⟩ := (Span.contains_iff _ _).mp inside
    obtain rfl := Option.some.inj moved
    simp only [avoids, width, Bool.or_eq_true, Bool.and_eq_true, Nat.blt_eq, beq_iff_eq,
      Bool.not_eq_true'] at free
    rcases free with ((before | behind) | ⟨⟨stride, stride'⟩, odd⟩) | ⟨single, outside⟩
    case inr =>
      have distance : code - shift.span.first = 0 := by omega
      rwa [distance]
    all_goals
      rw [← Bool.not_eq_true, Span.contains_iff]
      rintro ⟨first', last', steps'⟩
    case inl.inl.inl => omega
    case inl.inl.inr => omega
    case inl.inr =>
      rw [stride] at steps
      rw [stride'] at steps'
      omega

theorem lowercaseShifts_avoid :
    (lowercaseShifts.all fun shift =>
      lowercaseShifts.all fun other => shift.avoids other.span) = true := by
  decide +kernel

/-- Nothing is moved to a code point that becomes several. -/
theorem lowercaseShifts_avoid_expansions :
    (lowercaseShifts.all fun shift =>
      lowercaseExpansions.all fun entry => shift.avoids ⟨entry.1, entry.1, 1⟩) = true := by
  decide +kernel

/-- Where nothing is moved from and nothing expands, characters stay as they are. -/
theorem lowercase_eq_self {c : Char} (single : lowercaseExpansions.lookup c.toNat = none)
    (fixed : ∀ shift ∈ lowercaseShifts, shift.span.contains c.toNat = false) :
    lowercase c = [c] := by
  have unmoved : lowercaseShifts.findSome? (·.image? c.toNat) = none := by
    refine List.findSome?_eq_none_iff.mpr fun shift member => ?_
    rw [Shift.image?, fixed shift member]
    rfl
  rw [lowercase, mapCase, single, unmoved]
  rfl

/-- A number that is no code point stands for the null character. -/
theorem toNat_ofNat_or_null (code : Nat) :
    (Char.ofNat code).toNat = code ∨ Char.ofNat code = Char.ofNat 0 := by
  by_cases valid : code.isValidChar
  · exact .inl (congrArg Char.toNat (dif_pos valid))
  · exact .inr (dif_neg valid)

theorem lowercase_ofNat {code target : Nat}
    (moved : lowercaseShifts.findSome? (·.image? code) = some target) :
    lowercase (Char.ofNat target) = [Char.ofNat target] := by
  obtain ⟨shift, member, image⟩ := List.exists_of_findSome?_eq_some moved
  rcases toNat_ofNat_or_null target with valid | null
  · refine lowercase_eq_self ?_ fun other member' => ?_
    · rw [valid, List.lookup_eq_none_iff]
      intro entry listed
      have free := List.all_eq_true.mp (List.all_eq_true.mp lowercaseShifts_avoid_expansions
        shift member) entry listed
      have outside := shift.contains_eq_false free image
      rw [bne_iff_ne]
      rintro rfl
      simp [Span.contains] at outside
    · rw [valid]
      have free := List.all_eq_true.mp (List.all_eq_true.mp lowercaseShifts_avoid
        shift member) other member'
      exact shift.contains_eq_false free image
  · rw [null]
    decide +kernel

theorem lowercase_of_expansions :
    ∀ entry ∈ lowercaseExpansions, ∀ code ∈ entry.2,
      lowercase (Char.ofNat code) = [Char.ofNat code] := by
  decide +kernel

theorem lowercase_of_mem_lowercase {c d : Char} (h : d ∈ lowercase c) : lowercase d = [d] := by
  unfold lowercase mapCase at h
  split at h
  case h_1 codes found =>
    obtain ⟨code, member, rfl⟩ := List.mem_map.mp h
    obtain ⟨before, after, listed, -⟩ := List.lookup_eq_some_iff.mp found
    exact lowercase_of_expansions (c.toNat, codes) (by simp [listed]) code member
  case h_2 single =>
    rw [List.mem_singleton] at h
    cases moved : lowercaseShifts.findSome? (·.image? c.toNat) with
    | none =>
      rw [moved] at h
      subst h
      rw [lowercase, mapCase, single, moved]
      rfl
    | some target =>
      rw [moved] at h
      subst h
      exact lowercase_ofNat moved

/-- What is in lower case stays as it is. -/
theorem flatMap_lowercase_lowercase (cs : List Char) :
    (cs.flatMap lowercase).flatMap lowercase = cs.flatMap lowercase := by
  induction cs with
  | nil => rfl
  | cons c cs ih =>
    have fixed : (lowercase c).map lowercase = (lowercase c).map ([·]) :=
      List.map_congr_left fun d => lowercase_of_mem_lowercase
    rw [List.flatMap_cons, List.flatMap_append, ih, List.flatMap_def, fixed, ← List.flatMap_def,
      List.flatMap_singleton']

end WebhookPayload.Text
