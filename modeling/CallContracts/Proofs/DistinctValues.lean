import CallContracts.Proofs.ValueEquality

set_option autoImplicit false

namespace CallContracts

namespace Value

def firsts (vs : List Value) : List Value :=
  (vs.zipIdx.filter fun entry => !(vs.take entry.2).any (· == entry.1)).map Prod.fst

theorem any_equal_trans (seen : List Value) (v w : Value) (known : seen.any (· == v) = true)
    (same : (v == w) = true) : seen.any (· == w) = true := by
  obtain ⟨u, member, equal⟩ := List.any_eq_true.mp known
  exact List.any_eq_true.mpr ⟨u, member, beq_trans u v w equal same⟩

theorem distinct_after_firsts (seen before vs : List Value)
    (stands : ∀ v, seen.any (· == v) = before.any (· == v)) :
    distinctAfter seen vs =
      ((vs.zipIdx before.length).filter fun entry =>
        !((before ++ vs).take entry.2).any (· == entry.1)).map Prod.fst := by
  -- The loop keeps only the values that stayed. By transitivity they stand for all that came before.
  induction vs generalizing seen before with
  | nil => rfl
  | cons v vs ih =>
      have here : (before ++ v :: vs).take before.length = before := by simp
      have length : before.length + 1 = (before ++ [v]).length := by simp
      rw [List.zipIdx_cons, List.filter_cons, here, ← stands v, List.append_cons, length, distinctAfter]
      by_cases known : seen.any (· == v) = true
      · have later : ∀ w, seen.any (· == w) = (before ++ [v]).any (· == w) := by
          intro w
          rw [List.any_append, ← stands w]
          cases same : v == w with
          | false => simp [same]
          | true => simp [any_equal_trans seen v w known same]
        simp only [known, if_true]
        exact ih seen (before ++ [v]) later
      · have later : ∀ w, (seen ++ [v]).any (· == w) = (before ++ [v]).any (· == w) := by
          intro w
          rw [List.any_append, List.any_append, stands w]
        rw [Bool.not_eq_true] at known
        simp only [known]
        rw [ih (seen ++ [v]) (before ++ [v]) later]
        rfl

theorem distinct_eq_firsts (vs : List Value) : distinct vs = firsts vs :=
  distinct_after_firsts [] [] vs fun _ => rfl

theorem distinct_after_apart (seen vs : List Value) :
    (distinctAfter seen vs).Pairwise (fun v w => (v == w) = false) ∧
      ∀ w ∈ distinctAfter seen vs, seen.any (· == w) = false := by
  induction vs generalizing seen with
  | nil => exact ⟨.nil, by simp [distinctAfter]⟩
  | cons v vs ih =>
      rw [distinctAfter]
      by_cases known : seen.any (· == v) = true
      · rw [if_pos known]
        exact ih seen
      · rw [if_neg known]
        obtain ⟨apart, fresh⟩ := ih (seen ++ [v])
        have split : ∀ w ∈ distinctAfter (seen ++ [v]) vs, seen.any (· == w) = false ∧ (v == w) = false := by
          intro w member
          have neither := fresh w member
          rw [List.any_append, Bool.or_eq_false_iff] at neither
          simpa using neither
        refine ⟨List.pairwise_cons.mpr ⟨fun w member => (split w member).2, apart⟩, ?_⟩
        refine List.forall_mem_cons.mpr ⟨by simpa using known, ?_⟩
        intro w member
        exact (split w member).1

theorem distinct_after_sublist (seen vs : List Value) : (distinctAfter seen vs).Sublist vs := by
  induction vs generalizing seen with
  | nil => exact .slnil
  | cons v vs ih =>
      rw [distinctAfter]
      by_cases known : seen.any (· == v) = true
      · rw [if_pos known]
        exact (ih seen).cons v
      · rw [if_neg known]
        exact (ih (seen ++ [v])).cons_cons v

theorem distinct_after_covers (seen vs : List Value) (v : Value) (member : v ∈ vs) :
    v ∈ distinctAfter seen vs ∨ ∃ w ∈ seen ++ distinctAfter seen vs, (w == v) = true := by
  induction vs generalizing seen with
  | nil => cases member
  | cons first vs ih =>
      rw [distinctAfter]
      by_cases known : seen.any (· == first) = true
      · rw [if_pos known]
        rcases List.mem_cons.mp member with rfl | later
        · obtain ⟨w, before, equal⟩ := List.any_eq_true.mp known
          exact .inr ⟨w, List.mem_append_left _ before, equal⟩
        · exact ih seen later
      · rw [if_neg known]
        rcases List.mem_cons.mp member with rfl | later
        · exact .inl (by simp)
        · rcases ih (seen ++ [first]) later with kept | ⟨w, before, equal⟩
          · exact .inl (List.mem_cons_of_mem _ kept)
          · exact .inr ⟨w, by simpa using before, equal⟩

theorem distinct_after_unchanged (seen vs : List Value) (apart : vs.Pairwise fun v w => (v == w) = false)
    (fresh : ∀ w ∈ vs, seen.any (· == w) = false) : distinctAfter seen vs = vs := by
  induction vs generalizing seen with
  | nil => rfl
  | cons v vs ih =>
      obtain ⟨first, rest⟩ := List.pairwise_cons.mp apart
      obtain ⟨new, others⟩ := List.forall_mem_cons.mp fresh
      rw [distinctAfter, new, ih (seen ++ [v]) rest]
      · rfl
      · intro w member
        rw [List.any_append, others w member]
        simp [first w member]

theorem firsts_idempotent (vs : List Value) : firsts (firsts vs) = firsts vs := by
  rw [← distinct_eq_firsts (firsts vs), ← distinct_eq_firsts vs]
  exact distinct_after_unchanged [] (distinct vs) (distinct_after_apart [] vs).1 fun _ _ => rfl

end Value

end CallContracts
