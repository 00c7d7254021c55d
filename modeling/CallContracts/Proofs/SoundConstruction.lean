import CallContracts.Proofs.DistinctValues
import CallContracts.Proofs.FieldFilling
import CallContracts.Proofs.NestedAbsence
import CallContracts.Proofs.Subtyping

set_option autoImplicit false

namespace CallContracts

inductive Converted (x : Value) : Builtin → Value → Prop where
  | list (items : List Value) (given : x.elements = some items) : Converted x .list (.list items)
  | tuple (items : List Value) (given : x.elements = some items) : Converted x .tuple (.tuple items)
  | set (items : List Value) (given : x.elements = some items) : Converted x .set (.set (Value.firsts items))
  | own (b : Builtin) (plain : b ∉ [.list, .tuple, .set]) (belongs : x.isInstance (.builtin b) = true) :
      Converted x b x

theorem iterated_ok (x : Value) (items : List Value) : x.iterated = .ok items ↔ x.elements = some items := by
  unfold Value.iterated
  cases x.elements <;> simp

namespace Builtin

theorem convert_own (b : Builtin) (x : Value) (plain : b ∉ [.list, .tuple, .set]) :
    b.convert x =
      if x.isInstance (.builtin b) then .ok x else .error (.wrongArgument b.name x.type.name) := by
  cases b with
  | list | tuple | set => simp at plain
  | _ => rfl

theorem convert_iff (b : Builtin) (x v : Value) : b.convert x = .ok v ↔ Converted x b v := by
  constructor
  · intro converted
    by_cases plain : b ∉ [.list, .tuple, .set]
    · rw [convert_own b x plain] at converted
      by_cases belongs : x.isInstance (.builtin b) = true
      · rw [if_pos belongs] at converted
        cases converted
        exact .own b plain belongs
      · rw [if_neg belongs] at converted
        cases converted
    · cases b with
      | list =>
          obtain ⟨items, iterated, rfl⟩ := (except_map_ok _ _ _).mp converted
          exact .list items ((iterated_ok x items).mp iterated)
      | tuple =>
          obtain ⟨items, iterated, rfl⟩ := (except_map_ok _ _ _).mp converted
          exact .tuple items ((iterated_ok x items).mp iterated)
      | set =>
          obtain ⟨items, iterated, rfl⟩ := (except_map_ok _ _ _).mp converted
          rw [Value.setOf, Value.distinct_eq_firsts]
          exact .set items ((iterated_ok x items).mp iterated)
      | _ => exact absurd (by decide) plain
  · intro converted
    cases converted with
    | list items given | tuple items given =>
        rw [convert, (iterated_ok x items).mpr given]
        rfl
    | set items given =>
        rw [convert, (iterated_ok x items).mpr given, ← Value.distinct_eq_firsts]
        rfl
    | own b plain belongs => rw [convert_own b x plain, if_pos belongs]

end Builtin

namespace Ty

end Ty

namespace Reference

end Reference

namespace Value

end Value

namespace Ty

theorem instantiate_one_iff (b : Builtin) (x v : Value) :
    (Ty.builtin b).instantiate ⟨[x], []⟩ = .ok v ↔ Converted x b v :=
  (map_error_ok _ _ _).trans (b.convert_iff x v)

end Ty

end CallContracts
