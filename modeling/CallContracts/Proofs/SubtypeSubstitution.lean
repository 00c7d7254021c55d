import CallContracts.Proofs.DistinctValues
import CallContracts.Proofs.Meaning
import CallContracts.Proofs.Subtyping
import Mathlib.Data.List.Forall2

set_option autoImplicit false

namespace CallContracts

-- A leaf has no elements, nor has what takes its place. A set may keep what became equal or be built anew.
inductive Lowered : Value → Value → Prop where
  | kept (v : Value) : Lowered v v
  | leaf (v w : Value) (given : v ≠ .absent) (plain : v.elements = none) (givenToo : w ≠ .absent)
      (plainToo : w.elements = none) (below : w.type.isSubtypeOf v.type = true) : Lowered v w
  | list (items others : List Value) (each : List.Forall₂ Lowered items others) : Lowered (.list items) (.list others)
  | tuple (items others : List Value) (each : List.Forall₂ Lowered items others) :
      Lowered (.tuple items) (.tuple others)
  | set (items others : List Value) (each : List.Forall₂ Lowered items others) : Lowered (.set items) (.set others)
  | rebuilt (items others : List Value) (each : List.Forall₂ Lowered items others) :
      Lowered (.set items) (Value.setOf others)
  | dict (entries others : List (Value × Value))
      (keys : List.Forall₂ Lowered (entries.map Prod.fst) (others.map Prod.fst))
      (values : List.Forall₂ Lowered (entries.map Prod.snd) (others.map Prod.snd)) :
      Lowered (.dict entries) (.dict others)

theorem pointwise_origin {α β : Type} {related : α → β → Prop} (xs : List α) (ys : List β)
    (each : List.Forall₂ related xs ys) (y : β) (member : y ∈ ys) : ∃ x ∈ xs, related x y := by
  induction each with
  | nil => cases member
  | cons pair rest ih =>
      rcases List.mem_cons.mp member with rfl | later
      · exact ⟨_, List.mem_cons_self, pair⟩
      · obtain ⟨x, inside, related⟩ := ih later
        exact ⟨x, List.mem_cons_of_mem _ inside, related⟩

namespace Value

theorem lowered_type (v w : Value) (lowered : Lowered v w) : w.type.isSubtypeOf v.type = true := by
  cases lowered with
  | leaf _ _ given plain givenToo plainToo below => exact below
  | _ => exact Ty.is_subtype_refl _

theorem lowered_instance (v w : Value) (t : Ty) (lowered : Lowered v w) (belongs : v.isInstance t = true) :
    w.isInstance t = true :=
  Ty.is_subtype_trans w.type v.type t (lowered_type v w lowered) belongs

theorem lowered_absent (w : Value) (lowered : Lowered .absent w) : w = .absent := by
  cases lowered with
  | kept => rfl
  | leaf _ _ given => exact absurd rfl given

theorem lowered_elements (v w : Value) (lowered : Lowered v w) (items : List Value) (shape : v.elements = some items) :
    w.type = v.type ∧ ∃ others, w.elements = some others ∧ ∀ y ∈ others, ∃ x ∈ items, Lowered x y := by
  cases lowered with
  | kept => exact ⟨rfl, items, shape, fun x inside => ⟨x, inside, .kept x⟩⟩
  | leaf _ _ given plain =>
      rw [plain] at shape
      cases shape
  | list _ others each | tuple _ others each | set _ others each =>
      cases shape
      exact ⟨rfl, others, rfl, pointwise_origin items others each⟩
  | rebuilt _ others each =>
      cases shape
      refine ⟨rfl, distinct others, rfl, ?_⟩
      intro y kept
      exact pointwise_origin items others each y ((distinct_after_sublist [] others).mem kept)
  | dict entries others keys _ =>
      cases shape
      exact ⟨rfl, others.map Prod.fst, rfl, pointwise_origin _ _ keys⟩

end Value

namespace Declaration

variable {bindings : Bindings}

theorem satisfies_lowered (d : Declaration) (v : Value) (satisfies : d.Satisfies bindings v) (free : d.ConditionFree)
    (w : Value) (lowered : Lowered v w) : d.Satisfies bindings w := by
  induction satisfies generalizing w with
  | exact type v belongs => exact .exact type w (v.lowered_instance w type lowered belongs)
  | absence members has =>
      obtain rfl := Value.lowered_absent w lowered
      exact .absence members has
  | member members d v inside _ ih =>
      exact .member members d w inside (ih ((condition_free_union_iff members).mp free d inside) w lowered)
  | absent =>
      obtain rfl := Value.lowered_absent w lowered
      exact .absent
  | elements entries container d v items found shape _ ih =>
      obtain ⟨sameType, others, shapeToo, origins⟩ := v.lowered_elements w lowered items shape
      have freeInside := (condition_free_collection_iff entries).mp free container d (List.mem_of_find?_eq_some found)
      refine .elements entries container d w others (by rw [sameType, found]) shapeToo ?_
      intro y member
      obtain ⟨x, inside, lower⟩ := origins y member
      exact ih x inside freeInside y lower
  | condition c v met => exact absurd .here (free c)
  | reference r t v found belongs => exact .reference r t w found (v.lowered_instance w t lowered belongs)

variable (bindings)

-- What is admitted stays admitted when leaves give way to values of lower types, at the top or inside containers.
theorem acceptance_respects_subtypes (d : Declaration) (free : d.ConditionFree) (bound : d.Bound bindings) (v w : Value)
    (admitted : d.accepts bindings v = .ok true) (lowered : Lowered v w) :
    d.accepts bindings w = .ok true ∧ ∀ blame, d.check bindings blame w = .ok () := by
  have satisfied := satisfies_lowered d v ((accepts_iff_satisfies d bound v).mp admitted) free w lowered
  refine ⟨(accepts_iff_satisfies d bound w).mpr satisfied, fun blame => ?_⟩
  exact (check_iff_satisfies d bound blame w).mpr satisfied

def numbersAndNodes : Declaration :=
  collectionOf (.builtin .tuple)
    (.union [some (collectionOf (.builtin .set) (.exact (.builtin .int))),
      some (collectionOf (.builtin .list) (.reference ⟨"Node", ⟨0, "main"⟩⟩))])

theorem acceptance_respects_subtypes_rebuilt :
    let node := Ty.declared 0 "Node" .object []
    let leaf := Ty.declared 1 "Leaf" node ["weight"]
    let bindings := Bindings.empty.define ⟨0, "main"⟩ node
    let v := Value.tuple [.set [.int 0, .int 1], .list [.object node []]]
    let w := Value.tuple [Value.setOf [.bool true, .bool true], .list [.object leaf [("weight", .absent)]]]
    numbersAndNodes.ConditionFree ∧ numbersAndNodes.Bound bindings ∧ numbersAndNodes.accepts bindings v = .ok true ∧
      Lowered v w ∧ numbersAndNodes.accepts bindings w = .ok true ∧
      ∀ blame, numbersAndNodes.check bindings blame w = .ok () := by
  intro node leaf bindings v w
  have free : numbersAndNodes.ConditionFree := by
    simp [numbersAndNodes, collectionOf, condition_free_collection_iff, condition_free_union_iff, condition_free_exact,
      condition_free_reference]
  have bound : numbersAndNodes.Bound bindings :=
    (bound_iff_references _).mpr (List.forall_mem_singleton.mpr ⟨node, rfl⟩)
  have truth (n : Int64) : Lowered (.int n) (.bool true) := .leaf _ _ nofun rfl nofun rfl rfl
  have derived : Lowered (.object node []) (.object leaf [("weight", .absent)]) := .leaf _ _ nofun rfl nofun rfl rfl
  have lowered : Lowered v w := .tuple _ _ (.cons (.rebuilt _ _ (.cons (truth 0) (.cons (truth 1) .nil)))
    (.cons (.list _ _ (.cons derived .nil)) .nil))
  have admitted : numbersAndNodes.accepts bindings v = .ok true := rfl
  exact ⟨free, bound, admitted, lowered, acceptance_respects_subtypes bindings _ free bound v w admitted lowered⟩

end Declaration

end CallContracts
