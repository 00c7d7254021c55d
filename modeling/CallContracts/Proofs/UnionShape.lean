import CallContracts.Proofs.Meaning
import Mathlib.Logic.Relation

set_option autoImplicit false

namespace CallContracts

namespace Declaration

inductive Reshapes : Declaration → Declaration → Prop where
  | permuted (members others : List (Option Declaration)) (order : members.Perm others) :
      Reshapes (.union members) (.union others)
  | duplicated (before after : List (Option Declaration)) (m : Option Declaration) (present : m ∈ before ++ after) :
      Reshapes (.union (before ++ after)) (.union (before ++ m :: after))
  | flattened (before inner after : List (Option Declaration)) :
      Reshapes (.union (before ++ some (.union inner) :: after)) (.union (before ++ (inner ++ after)))
  | single (d : Declaration) : Reshapes (.union [some d]) d
  | absence (before after : List (Option Declaration)) :
      Reshapes (.union (before ++ none :: after)) (.union (before ++ some .absent :: after))
  | member (before after : List (Option Declaration)) (d e : Declaration) (inside : Reshapes d e) :
      Reshapes (.union (before ++ some d :: after)) (.union (before ++ some e :: after))
  | element (before after : List (Ty × Declaration)) (container : Ty) (d e : Declaration) (inside : Reshapes d e) :
      Reshapes (.collection (before ++ (container, d) :: after)) (.collection (before ++ (container, e) :: after))

def Reshaped (d e : Declaration) : Prop := Relation.EqvGen Reshapes d e

section Rewriting

variable {α : Type} {holds : Declaration → α → Prop}

theorem union_append_iff (composes : Composes holds) (first second : List (Option Declaration)) (x : α) :
    holds (.union (first ++ second)) x ↔ holds (.union first) x ∨ holds (.union second) x := by
  simp only [composes.union, List.mem_append, or_and_right, exists_or]

theorem reshapes_iff (composes : Composes holds) (d e : Declaration) (reshapes : Reshapes d e) (x : α) :
    holds d x ↔ holds e x := by
  induction reshapes generalizing x with
  | permuted members others order =>
      rw [composes.union, composes.union]
      exact exists_congr fun member => and_congr_left fun _ => order.mem_iff
  | duplicated before after m present =>
      rw [union_split_iff composes, iff_or_self, composes.union]
      intro here
      exact ⟨m, present, here⟩
  | flattened before inner after =>
      rw [union_split_iff composes, union_append_iff composes before (inner ++ after),
        union_append_iff composes inner after, union_append_iff composes before after, Option.getD_some]
      exact or_left_comm
  | single d => simp [composes.union]
  | absence before after => rw [union_split_iff composes, union_split_iff composes, Option.getD_none, Option.getD_some]
  | member before after d e inside ih =>
      rw [union_split_iff composes, union_split_iff composes, Option.getD_some, Option.getD_some, ih x]
  | element before after container d e inside ih =>
      refine ⟨composes.element before after container d e (fun y => (ih y).mp) x, ?_⟩
      exact composes.element before after container e d (fun y => (ih y).mpr) x

theorem reshaped_iff (composes : Composes holds) (d e : Declaration) (reshaped : Reshaped d e) (x : α) :
    holds d x ↔ holds e x := by
  induction reshaped with
  | rel d e reshapes => exact reshapes_iff composes d e reshapes x
  | refl d => exact Iff.rfl
  | symm d e _ ih => exact ih.symm
  | trans d e f _ _ first second => exact first.trans second

end Rewriting

variable (bindings : Bindings)

-- A declaration is the disjunction of the members of any union that it can be rewritten to.
theorem union_shape_immaterial (d e : Declaration) (bound : d.Bound bindings) (reshaped : Reshaped d e) (v : Value) :
    d.accepts bindings v = e.accepts bindings v ∧
      (∀ blame, d.check bindings blame v = .ok () ↔ e.check bindings blame v = .ok ()) ∧
      ∀ members, e = .union members →
        (d.accepts bindings v = .ok true ↔
          ∃ member ∈ members, (member.getD .absent).accepts bindings v = .ok true) := by
  have boundToo : e.Bound bindings := by
    intro r occurs
    exact bound r ((reshaped_iff reference_composes d e reshaped r).mpr occurs)
  have satisfied : d.Satisfies bindings v ↔ e.Satisfies bindings v := reshaped_iff satisfies_composes d e reshaped v
  have verdict := accepts_eq_of_satisfies d e bound boundToo v satisfied
  refine ⟨verdict, fun blame => ?_, ?_⟩
  · rw [check_iff_satisfies d bound blame v, check_iff_satisfies e boundToo blame v]
    exact satisfied
  · intro members union
    subst union
    rw [verdict, accepts]
    exact accepts_member_iff members v fun m inside =>
      has_verdict_of_bound m (bound_member members boundToo m inside) v

def scattered (number nodes : Declaration) : Declaration :=
  .union [some number, some (.union [none, some (collectionOf (.builtin .list) nodes)]), some number]

def gatheredMembers (number nodes : Declaration) : List (Option Declaration) :=
  [some .absent, some number, some (collectionOf (.builtin .list) (.union [some nodes]))]

theorem scattered_reshaped (number nodes : Declaration) :
    Reshaped (scattered number nodes) (.union (gatheredMembers number nodes)) := by
  refine .trans _ _ _ (.rel _ _ (.flattened [some number] [none, _] [some number])) ?_
  refine .trans _ _ _ (.rel _ _ (.permuted _ _ (.swap none _ _))) ?_
  refine .trans _ _ _ (.rel _ _ (.absence [] [some number, _, some number])) ?_
  refine .trans _ _ _ (.symm _ _ (.rel _ _ (.duplicated [some .absent, some number, _] [] _ (by simp)))) ?_
  refine .symm _ _ (.rel _ _ (.member [some .absent, some number] [] _ _ ?_))
  exact .element [] [] (.builtin .list) _ _ (.single nodes)

theorem union_shape_immaterial_gathered :
    let number := Declaration.exact (.builtin .int)
    let node := Declaration.reference ⟨"Node", ⟨0, "main"⟩⟩
    let nodeType := Ty.declared 0 "Node" .object []
    let bindings := Bindings.empty.define ⟨0, "main"⟩ nodeType
    let v := Value.list [.object nodeType []]
    (scattered number node).Bound bindings ∧
      Reshaped (scattered number node) (.union (gatheredMembers number node)) ∧
      (Declaration.union (gatheredMembers number node)).accepts bindings v = .ok true ∧
      (∀ blame, (Declaration.union (gatheredMembers number node)).check bindings blame v = .ok ()) ∧
      ∃ member ∈ gatheredMembers number node, (member.getD .absent).accepts bindings v = .ok true := by
  intro number node nodeType bindings v
  have bound : (scattered number node).Bound bindings :=
    (bound_iff_references _).mpr (List.forall_mem_singleton.mpr ⟨nodeType, rfl⟩)
  have reshaped := scattered_reshaped number node
  obtain ⟨verdict, reports, chosen⟩ := union_shape_immaterial bindings _ _ bound reshaped v
  exact ⟨bound, reshaped, verdict.symm.trans rfl, fun blame => (reports blame).mp rfl, (chosen _ rfl).mp rfl⟩

end Declaration

end CallContracts
