import CallContracts.Proofs.EqualValues

set_option autoImplicit false

namespace CallContracts

theorem both_none_iff {α β γ : Type} (f : α → β → γ) (a : Option α) (b : Option β) :
    both f a b = none ↔ a = none ∨ b = none := by
  cases a <;> cases b <;> simp [both]

theorem Binary64.canonical_none_iff (x : Binary64) : x.canonical? = none ↔ x.isNaN = true := by
  unfold canonical?
  by_cases nan : x.isNaN = true
  · simp [nan]
  · by_cases zero : x.isZero = true <;> simp [nan, zero]

namespace Value

def parts : Value → List Value
  | .list items => items
  | .tuple items => items
  | .set items => items
  | .dict entries => entries.flatMap fun entry => [entry.1, entry.2]
  | .object _ fields => fields.map Prod.snd
  | _ => []

inductive Occurs (part : Value) : Value → Prop where
  | here : Occurs part part
  | inside (whole v : Value) (member : v ∈ whole.parts) (occurs : Occurs part v) : Occurs part whole

theorem parts_smaller (v part : Value) (member : part ∈ v.parts) : sizeOf part < sizeOf v := by
  cases v with
  | list items | tuple items | set items =>
      rw [parts] at member
      have smaller := List.sizeOf_lt_of_mem member
      simp only [list.sizeOf_spec, tuple.sizeOf_spec, set.sizeOf_spec]
      omega
  | dict entries =>
      obtain ⟨⟨key, held⟩, among, inside⟩ := List.mem_flatMap.mp member
      have smaller := List.sizeOf_lt_of_mem among
      simp only [Prod.mk.sizeOf_spec] at smaller
      simp only [dict.sizeOf_spec]
      rcases List.mem_pair.mp inside with rfl | rfl <;> omega
  | object type fields =>
      obtain ⟨⟨name, held⟩, among, rfl⟩ := List.mem_map.mp member
      have smaller := List.sizeOf_lt_of_mem among
      simp only [Prod.mk.sizeOf_spec] at smaller
      simp only [object.sizeOf_spec]
      omega
  | _ => cases member

@[elab_as_elim]
theorem parts_induction {motive : Value → Prop} (whole : ∀ v, (∀ part ∈ v.parts, motive part) → motive v) (v : Value) :
    motive v := by
  induction size : sizeOf v using Nat.strongRecOn generalizing v with
  | ind n ih =>
      refine whole v fun part member => ih (sizeOf part) ?_ part rfl
      rw [← size]
      exact parts_smaller v part member

theorem canonical_items_none_iff (items : List Value) :
    canonicalItems items = none ↔ ∃ part ∈ items, part.canonical? = none := by
  induction items with
  | nil => simp [canonicalItems]
  | cons item rest ih => simp [canonicalItems, both_none_iff, ih]

theorem canonical_entries_none_iff (entries : List (Value × Value)) :
    canonicalEntries entries = none ↔ ∃ part ∈ (dict entries).parts, part.canonical? = none := by
  rw [parts]
  induction entries with
  | nil => simp [canonicalEntries]
  | cons entry rest ih => simp [canonicalEntries, both_none_iff, ih, or_and_right, exists_or, or_assoc]

theorem canonical_fields_none_iff (type : Ty) (fields : List (String × Value)) :
    canonicalFields fields = none ↔ ∃ part ∈ (object type fields).parts, part.canonical? = none := by
  rw [parts]
  induction fields with
  | nil => simp [canonicalFields]
  | cons field rest ih => simp [canonicalFields, both_none_iff, ih]

theorem canonical_none_parts (v : Value) :
    v.canonical? = none ↔
      (∃ x : Binary64, x.isNaN = true ∧ v = .float x) ∨ ∃ part ∈ v.parts, part.canonical? = none := by
  cases v with
  | float x => simp [canonical?, parts, Binary64.canonical_none_iff]
  | list items | tuple items | set items => simp [canonical?, parts, canonical_items_none_iff]
  | dict entries => simp [canonical?, canonical_entries_none_iff]
  | object type fields => simp [canonical?, canonical_fields_none_iff type]
  | _ => simp [canonical?, parts]

theorem canonical_none_iff (v : Value) :
    v.canonical? = none ↔ ∃ x : Binary64, x.isNaN = true ∧ Occurs (.float x) v := by
  induction v using parts_induction with
  | whole v ih =>
      rw [canonical_none_parts]
      refine ⟨fun missing => ?_, fun ⟨x, nan, occurs⟩ => ?_⟩
      · rcases missing with ⟨x, nan, rfl⟩ | ⟨part, member, missing⟩
        · exact ⟨x, nan, .here⟩
        · obtain ⟨x, nan, occurs⟩ := (ih part member).mp missing
          exact ⟨x, nan, .inside v part member occurs⟩
      · cases occurs with
        | here => exact .inl ⟨x, nan, rfl⟩
        | inside _ part member occurs => exact .inr ⟨part, member, (ih part member).mpr ⟨x, nan, occurs⟩⟩

-- Equality is reflexive on the values without a NaN, however deep inside.
theorem equality_is_partial_equivalence :
    PartialEquivBEq Value ∧
    (∀ v : Value, (v == v) = true ↔ ∀ x : Binary64, x.isNaN = true → ¬ Occurs (.float x) v) ∧
    (∀ v w : Value, (v == w) = true →
      v.type = w.type ∧ Option.Rel (List.Forall₂ fun x y => (x == y) = true) v.elements w.elements) ∧
    ∀ v w : Value, (v == w) = true ↔ ∃ c, v.canonical? = some c ∧ w.canonical? = some c := by
  refine ⟨inferInstance, ?_, fun v w same => ⟨beq_type v w same, beq_elements v w same⟩, beq_iff_agree⟩
  intro v
  rw [beq_self_iff, Ne, canonical_none_iff]
  simp only [not_exists, not_and]

theorem equality_is_partial_equivalence_zeros_and_nan :
    let zeros := Value.dict [(.str "k", .tuple [.float ⟨0⟩])]
    let negatives := Value.dict [(.str "k", .tuple [.float ⟨0x8000000000000000⟩])]
    let undefined := Value.list [.object (.declared 0 "Point" .object ["x"]) [("x", .float ⟨0x7ff8000000000000⟩)]]
    (zeros == negatives) = true ∧ (negatives == zeros) = true ∧ (zeros == zeros) = true ∧
      Option.Rel (List.Forall₂ fun x y => (x == y) = true) zeros.elements negatives.elements ∧
      (undefined == undefined) = false := by
  intro zeros negatives undefined
  obtain ⟨partially, reflexive, alike, _⟩ := equality_is_partial_equivalence
  have same : (zeros == negatives) = true := by with_unfolding_all rfl
  have back : (negatives == zeros) = true := partially.symm same
  refine ⟨same, back, partially.trans same back, (alike zeros negatives same).2, ?_⟩
  rw [← Bool.not_eq_true, reflexive]
  intro free
  exact free ⟨0x7ff8000000000000⟩ (by decide) (.inside _ _ List.mem_cons_self (.inside _ _ List.mem_cons_self .here))

end Value

end CallContracts
