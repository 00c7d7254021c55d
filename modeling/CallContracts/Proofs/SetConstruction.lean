import CallContracts.Proofs.DistinctValues
import Mathlib.Logic.ExistsUnique

set_option autoImplicit false

namespace CallContracts

namespace Value

theorem firsts_sublist (vs : List Value) : (firsts vs).Sublist vs := by
  rw [← distinct_eq_firsts]
  exact distinct_after_sublist [] vs

theorem firsts_apart (vs : List Value) (i j : Nat) (v w : Value) (different : i ≠ j)
    (atFirst : (firsts vs)[i]? = some v) (atSecond : (firsts vs)[j]? = some w) : (v == w) = false := by
  have apart := (distinct_after_apart [] vs).1
  change (distinct vs).Pairwise _ at apart
  rw [distinct_eq_firsts, List.pairwise_iff_getElem] at apart
  obtain ⟨firstInside, rfl⟩ := List.getElem?_eq_some_iff.mp atFirst
  obtain ⟨secondInside, rfl⟩ := List.getElem?_eq_some_iff.mp atSecond
  by_cases before : i < j
  · exact apart i j firstInside secondInside before
  · rw [BEq.comm]
    exact apart j i secondInside firstInside (by omega)

theorem firsts_cover (vs : List Value) (v : Value) (member : v ∈ vs) (reflexive : (v == v) = true) :
    ∃ w ∈ firsts vs, (v == w) = true := by
  rw [← distinct_eq_firsts]
  rcases distinct_after_covers [] vs v member with kept | ⟨w, kept, equal⟩
  · exact ⟨v, kept, reflexive⟩
  · exact ⟨w, kept, beq_symm w v equal⟩

theorem firsts_cover_once (vs : List Value) (v : Value) (member : v ∈ vs) (reflexive : (v == v) = true) :
    ∃! i : Nat, ∃ w, (firsts vs)[i]? = some w ∧ (v == w) = true := by
  obtain ⟨w, kept, equal⟩ := firsts_cover vs v member reflexive
  obtain ⟨i, place⟩ := List.mem_iff_getElem?.mp kept
  refine ⟨i, ⟨w, place, equal⟩, ?_⟩
  intro j other
  obtain ⟨u, otherPlace, otherEqual⟩ := other
  by_cases same : j = i
  · exact same
  · have apart := firsts_apart vs j i u w same otherPlace place
    rw [beq_trans u v w (beq_symm v u otherEqual) equal] at apart
    cases apart

theorem beq_right_self (v w : Value) (equal : (v == w) = true) : (w == w) = true :=
  beq_trans w v w (beq_symm v w equal) equal

theorem distinct_after_irreflexive (seen vs : List Value) :
    (distinctAfter seen vs).filter (fun v => !(v == v)) = vs.filter fun v => !(v == v) := by
  induction vs generalizing seen with
  | nil => rfl
  | cons v vs ih =>
      rw [distinctAfter]
      by_cases known : seen.any (· == v) = true
      · obtain ⟨u, _, equal⟩ := List.any_eq_true.mp known
        rw [if_pos known, ih seen, List.filter_cons, beq_right_self u v equal]
        rfl
      · rw [if_neg known, List.filter_cons, List.filter_cons, ih (seen ++ [v])]

-- What is dropped is held by an equal value, one only. A value that does not equal itself is never dropped.
theorem set_of_first_occurrences (vs : List Value) :
    setOf vs = .set (firsts vs) ∧
    (firsts vs).Sublist vs ∧
    (∀ (i j : Nat) (v w : Value), i ≠ j → (firsts vs)[i]? = some v → (firsts vs)[j]? = some w → (v == w) = false) ∧
    (∀ v ∈ vs, (v == v) = true → ∃! i : Nat, ∃ w, (firsts vs)[i]? = some w ∧ (v == w) = true) ∧
    (firsts vs).filter (fun v => !(v == v)) = vs.filter (fun v => !(v == v)) ∧
    setOf (firsts vs) = setOf vs := by
  refine ⟨?_, firsts_sublist vs, firsts_apart vs, firsts_cover_once vs, ?_, ?_⟩
  · rw [setOf, distinct_eq_firsts]
  · rw [← distinct_eq_firsts]
    exact distinct_after_irreflexive [] vs
  · rw [setOf, setOf, distinct_eq_firsts, distinct_eq_firsts, firsts_idempotent]

theorem set_of_first_occurrences_zeros_and_nan :
    let zero := Value.float ⟨0⟩
    let negative := Value.float ⟨0x8000000000000000⟩
    let nan := Value.float ⟨0x7ff8000000000000⟩
    let vs := [nan, zero, .list [nan], negative, nan, .list [nan]]
    negative ∈ vs ∧ (negative == negative) = true ∧
      (∃! i : Nat, ∃ w, (firsts vs)[i]? = some w ∧ (negative == w) = true) ∧
      firsts vs = [nan, zero, .list [nan], nan, .list [nan]] ∧ setOf (firsts vs) = setOf vs := by
  intro zero negative nan vs
  obtain ⟨built, _, _, once, _, again⟩ := set_of_first_occurrences vs
  have member : negative ∈ vs := by simp [vs]
  have reflexive : (negative == negative) = true := by with_unfolding_all rfl
  have made : setOf vs = .set [nan, zero, .list [nan], nan, .list [nan]] := by with_unfolding_all rfl
  exact ⟨member, reflexive, once negative member reflexive, Value.set.inj (built.symm.trans made), again⟩

end Value

end CallContracts
