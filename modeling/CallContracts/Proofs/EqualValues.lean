import CallContracts.Proofs.Meaning
import CallContracts.Proofs.SoundConstruction
import Mathlib.Data.List.Forall2

set_option autoImplicit false

namespace CallContracts

namespace Value

theorem beq_items_iff (vs ws : List Value) :
    beqItems vs ws = true ↔ List.Forall₂ (fun v w => (v == w) = true) vs ws := by
  induction vs generalizing ws with
  | nil => cases ws <;> simp [beqItems]
  | cons v vs ih =>
      cases ws with
      | nil => simp [beqItems]
      | cons w ws =>
          rw [beqItems, Bool.and_eq_true, List.forall₂_cons, ih ws]
          rfl

theorem beq_entries_keys (vs ws : List (Value × Value)) (same : beqEntries vs ws = true) :
    List.Forall₂ (fun v w => (v == w) = true) (vs.map Prod.fst) (ws.map Prod.fst) := by
  induction vs generalizing ws with
  | nil =>
      cases ws with
      | nil => exact .nil
      | cons w ws => simp [beqEntries] at same
  | cons v vs ih =>
      cases ws with
      | nil => simp [beqEntries] at same
      | cons w ws =>
          rw [beqEntries, Bool.and_eq_true, Bool.and_eq_true] at same
          exact .cons same.1.1 (ih ws same.2)

theorem beq_absent (v w : Value) (same : v.beq w = true) : v.isAbsent = w.isAbsent := by
  have first : ∀ u : Value, u.isAbsent = (u.ctorIdx == 0) := by
    intro u
    cases u <;> rfl
  rw [first, first, beq_constructor v w same]

theorem beq_elements (v w : Value) (same : v.beq w = true) :
    Option.Rel (List.Forall₂ fun x y => (x == y) = true) v.elements w.elements := by
  have kinds := beq_constructor v w same
  cases v with
  | absent | bool | int | float | object =>
      cases w with
      | absent | bool | int | float | object => exact .none
      | _ => cases kinds
  | str text =>
      cases w with
      | str other =>
          rw [Value.beq, beq_iff_eq] at same
          subst other
          refine .some (List.forall₂_same.mpr ?_)
          intro item member
          obtain ⟨c, _, rfl⟩ := List.mem_map.mp member
          change Value.beq _ _ = true
          simp [Value.beq]
      | _ => cases kinds
  | bytes octets =>
      cases w with
      | bytes others =>
          rw [Value.beq, beq_iff_eq] at same
          subst others
          refine .some (List.forall₂_same.mpr ?_)
          intro item member
          obtain ⟨octet, _, rfl⟩ := List.mem_map.mp member
          change Value.beq _ _ = true
          simp [Value.beq]
      | _ => cases kinds
  | list items =>
      cases w with
      | list others =>
          rw [Value.beq] at same
          exact .some ((beq_items_iff items others).mp same)
      | _ => cases kinds
  | tuple items =>
      cases w with
      | tuple others =>
          rw [Value.beq] at same
          exact .some ((beq_items_iff items others).mp same)
      | _ => cases kinds
  | set items =>
      cases w with
      | set others =>
          rw [Value.beq] at same
          exact .some ((beq_items_iff items others).mp same)
      | _ => cases kinds
  | dict entries =>
      cases w with
      | dict others =>
          rw [Value.beq] at same
          exact .some (beq_entries_keys entries others same)
      | _ => cases kinds

end Value

namespace Declaration

variable {bindings : Bindings}

theorem all_admitted_alike (admits : Value → Except Violation Bool) (items others : List Value)
    (alike : List.Forall₂ (fun v w => admits v = admits w) items others) :
    allAdmitted admits items = allAdmitted admits others := by
  induction alike with
  | nil => rfl
  | cons same rest ih => rw [allAdmitted, allAdmitted, same, ih]

theorem accepts_member_alike (members : List (Option Declaration)) (v w : Value) (absence : v.isAbsent = w.isAbsent)
    (alike : ∀ d, some d ∈ members → d.accepts bindings v = d.accepts bindings w) :
    acceptsMember bindings members v = acceptsMember bindings members w := by
  induction members with
  | nil => rw [acceptsMember, acceptsMember]
  | cons member rest ih =>
      have later := ih fun d inside => alike d (List.mem_cons_of_mem _ inside)
      cases member with
      | none => rw [acceptsMember, acceptsMember, absence, later]
      | some d => rw [acceptsMember, acceptsMember, alike d List.mem_cons_self, later]

theorem accepts_alike (d : Declaration) (free : d.ConditionFree) (v w : Value) (same : (v == w) = true) :
    d.accepts bindings v = d.accepts bindings w := by
  have types := Value.beq_type v w same
  induction d using nested_induction generalizing v w with
  | exact type => rw [accepts, accepts, Value.isInstance, Value.isInstance, types]
  | union members ih =>
      rw [accepts, accepts]
      refine accepts_member_alike members v w (Value.beq_absent v w same) ?_
      intro d inside
      exact ih d inside ((condition_free_union_iff members).mp free d inside) v w same types
  | absent => rw [accepts, accepts, Value.beq_absent v w same]
  | collection entries ih =>
      rw [accepts, accepts, accepts_entry_find, accepts_entry_find, types]
      cases found : entries.find? fun entry => entry.1 = w.type with
      | none => rfl
      | some entry =>
          obtain ⟨container, d⟩ := entry
          have inside := List.mem_of_find?_eq_some found
          have shapes := Value.beq_elements v w same
          generalize v.elements = elements at shapes ⊢
          generalize w.elements = others at shapes ⊢
          cases shapes with
          | none => rfl
          | some equal =>
              refine all_admitted_alike (d.accepts bindings) _ _ (equal.imp fun x y equal => ?_)
              exact ih container d inside ((condition_free_collection_iff entries).mp free container d inside) x y equal
                (Value.beq_type x y equal)
  | condition c => exact absurd .here (free c)
  | reference r =>
      rw [accepts, accepts, Reference.isInstance, Reference.isInstance]
      have instances : v.isInstance = w.isInstance := by
        funext t
        rw [Value.isInstance, Value.isInstance, types]
      rw [instances]

theorem all_admitted_distinct (admits : Value → Except Violation Bool)
    (alike : ∀ v w, (v == w) = true → admits v = admits w) (seen items : List Value)
    (known : ∀ v ∈ seen, admits v = .ok true) :
    allAdmitted admits (Value.distinctAfter seen items) = allAdmitted admits items := by
  -- A value is dropped only after an equal one was admitted, so both walks end at the same value.
  induction items generalizing seen with
  | nil => rfl
  | cons item rest ih =>
      rw [Value.distinctAfter]
      by_cases repeated : seen.any (· == item) = true
      · obtain ⟨earlier, member, equal⟩ := List.any_eq_true.mp repeated
        have admitted : admits item = .ok true := (alike earlier item equal).symm.trans (known earlier member)
        rw [if_pos repeated, allAdmitted, admitted]
        exact ih seen known
      · rw [if_neg repeated, allAdmitted, allAdmitted]
        cases verdict : admits item with
        | error e => rfl
        | ok admitted =>
            cases admitted with
            | false => rfl
            | true =>
                refine ih (seen ++ [item]) ?_
                intro v member
                rcases List.mem_append.mp member with before | last
                · exact known v before
                · rw [List.mem_singleton.mp last, verdict]

theorem collection_of_accepts (container : Ty) (d : Declaration) (v : Value) (items : List Value)
    (exactly : v.type = container) (shape : v.elements = some items) :
    (collectionOf container d).accepts bindings v = allAdmitted (d.accepts bindings) items := by
  rw [collectionOf, accepts, acceptsEntry, if_pos exactly.symm, shape]

variable (bindings)

-- Without conditions no declaration tells equal values apart, so dropping repeated elements changes nothing.
theorem equal_values_accepted_alike (d : Declaration) (free : d.ConditionFree) :
    (∀ v w : Value, (v == w) = true → d.accepts bindings v = d.accepts bindings w) ∧
    (∀ (x : Value) (items : List Value), x.elements = some items →
      ∃ s l, (Ty.builtin .set).instantiate ⟨[x], []⟩ = .ok s ∧ (Ty.builtin .list).instantiate ⟨[x], []⟩ = .ok l ∧
        (collectionOf (.builtin .set) d).accepts bindings s =
          (collectionOf (.builtin .list) d).accepts bindings l) := by
  refine ⟨accepts_alike d free, ?_⟩
  intro x items given
  have asSet := (Ty.instantiate_one_iff .set x _).mpr (.set items given)
  have asList := (Ty.instantiate_one_iff .list x _).mpr (.list items given)
  refine ⟨_, _, asSet, asList, ?_⟩
  rw [collection_of_accepts (.builtin .set) d _ (Value.firsts items) rfl rfl,
    collection_of_accepts (.builtin .list) d _ items rfl rfl, ← Value.distinct_eq_firsts]
  exact all_admitted_distinct (d.accepts bindings) (accepts_alike d free) [] items (by simp)

def floatOrNode : Declaration := .union [some (.exact (.builtin .float)), some (.reference ⟨"Node", ⟨0, "main"⟩⟩)]

theorem float_or_node_free : floatOrNode.ConditionFree := by
  simp [floatOrNode, condition_free_union_iff, condition_free_exact, condition_free_reference]

theorem floats_or_nodes_free (container : Ty) : (collectionOf container floatOrNode).ConditionFree := by
  simp [collectionOf, condition_free_collection_iff, float_or_node_free]

theorem equal_values_accepted_alike_zeros :
    let zero := Value.float ⟨0⟩
    let negative := Value.float ⟨0x8000000000000000⟩
    floatOrNode.ConditionFree ∧ (collectionOf (.builtin .list) floatOrNode).ConditionFree ∧
      (collectionOf (.builtin .list) floatOrNode).accepts .empty (.list [negative, .absent]) =
        .error (Violation.unresolved "Node" "main") ∧
      (Ty.builtin .set).instantiate ⟨[.tuple [zero, negative, .absent]], []⟩ = .ok (.set [zero, .absent]) ∧
      (collectionOf (.builtin .set) floatOrNode).accepts .empty (.set [zero, .absent]) =
        (collectionOf (.builtin .list) floatOrNode).accepts .empty (.list [zero, negative, .absent]) := by
  intro zero negative
  have gathered : (Ty.builtin .set).instantiate ⟨[.tuple [zero, negative, .absent]], []⟩ =
      .ok (.set [zero, .absent]) := by with_unfolding_all rfl
  obtain ⟨alike, _⟩ := equal_values_accepted_alike .empty _ (floats_or_nodes_free (.builtin .list))
  have undecided := alike (.list [negative, .absent]) (.list [zero, .absent]) (by with_unfolding_all rfl)
  obtain ⟨_, together⟩ := equal_values_accepted_alike .empty floatOrNode float_or_node_free
  obtain ⟨s, l, asSet, asList, same⟩ := together (.tuple [zero, negative, .absent]) _ rfl
  cases gathered.symm.trans asSet
  cases asList
  exact ⟨float_or_node_free, floats_or_nodes_free _, undecided.trans rfl, gathered, same⟩

end Declaration

end CallContracts
