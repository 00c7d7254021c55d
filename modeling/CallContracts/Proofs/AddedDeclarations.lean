import CallContracts.Proofs.GuardedCall
import CallContracts.Proofs.SuppliedArguments

set_option autoImplicit false

namespace CallContracts

namespace Signature

inductive AddsDeclaration (less : Signature) : Signature → Prop where
  | named (name : String) (d : Declaration) (undeclared : less.declaration? name = none) :
      AddsDeclaration less (less.declare name d)
  | result (d : Declaration) (undeclared : less.returns = none) : AddsDeclaration less (less.returning d)

structure ExtendedBy (less more : Signature) : Prop where
  parameters : more.parameters = less.parameters
  declarations : ∀ name d, less.declaration? name = some d → more.declaration? name = some d
  returns : ∀ d, less.returns = some d → more.returns = some d

theorem extended_declare (less : Signature) (name : String) (d : Declaration)
    (undeclared : less.declaration? name = none) : less.ExtendedBy (less.declare name d) := by
  refine ⟨rfl, ?_, fun _ held => held⟩
  intro query held found
  have other : query ≠ name := by
    intro same
    rw [same, undeclared] at found
    cases found
  rw [declaration_declare, if_neg other]
  exact found

theorem extended_returning (less : Signature) (d : Declaration) (undeclared : less.returns = none) :
    less.ExtendedBy (less.returning d) := by
  refine ⟨rfl, fun _ _ found => found, ?_⟩
  intro held found
  rw [undeclared] at found
  cases found

theorem extended_of_adds (less more : Signature) (adds : less.AddsDeclaration more) : less.ExtendedBy more := by
  cases adds with
  | named name d undeclared => exact extended_declare less name d undeclared
  | result d undeclared => exact extended_returning less d undeclared

theorem pairs_extended (less more : Signature) (extended : less.ExtendedBy more) (s : Supplied) (o : Obligation)
    (pair : less.Pairs s o) : more.Pairs s o := by
  cases pair with
  | placed index p v d placed declared =>
      rw [Placed, ← extended.parameters] at placed
      exact .placed index p v d placed (extended.declarations p.name d declared)
  | surplus index collector v d unplaced first declared =>
      simp only [Placed, ← extended.parameters] at unplaced
      rw [FirstOf, ← extended.parameters] at first
      exact .surplus index collector v d unplaced first (extended.declarations collector.name d declared)
  | named name v d named declared =>
      rw [Named, ← extended.parameters] at named
      exact .named name v d named (extended.declarations name d declared)
  | collected name collector v d unnamed first declared =>
      rw [Named, ← extended.parameters] at unnamed
      rw [FirstOf, ← extended.parameters] at first
      exact .collected name collector v d unnamed first (extended.declarations collector.name d declared)

end Signature

theorem filter_map_sublist {α β : Type} (f g : α → Option β) (kept : ∀ x y, f x = some y → g x = some y)
    (xs : List α) : (xs.filterMap f).Sublist (xs.filterMap g) := by
  induction xs with
  | nil => exact .slnil
  | cons x xs ih =>
      cases first : f x with
      | some y =>
          rw [List.filterMap_cons_some first, List.filterMap_cons_some (kept x y first)]
          exact ih.cons_cons y
      | none =>
          rw [List.filterMap_cons_none first]
          cases added : g x with
          | none =>
              rw [List.filterMap_cons_none added]
              exact ih
          | some y =>
              rw [List.filterMap_cons_some added]
              exact ih.cons y

namespace Contract

theorem obligation_extended (less more : Signature) (extended : less.ExtendedBy more) (s : Supplied) (o : Obligation)
    (bound : (ofSignature less).obligation s = some o) : (ofSignature more).obligation s = some o := by
  have pair := (obligation_iff_pairs less s o).mp bound
  exact (obligation_iff_pairs more s o).mpr (Signature.pairs_extended less more extended s o pair)

theorem bind_extended (less more : Signature) (extended : less.ExtendedBy more) (args : Arguments) :
    ((ofSignature less).bind args).Sublist ((ofSignature more).bind args) := by
  rw [bind_supplied, bind_supplied]
  exact filter_map_sublist _ _ (obligation_extended less more extended) args.supplied

theorem check_obligations_iff (bindings : Bindings) (function : String) (obligations : List Obligation) :
    checkObligations bindings function obligations = .ok () ↔
      ∀ o ∈ obligations, o.declaration.check bindings ⟨function, o.site⟩ o.value = .ok () := by
  induction obligations with
  | nil => simp [checkObligations]
  | cons o rest ih =>
      rw [checkObligations, List.forall_mem_cons]
      cases verdict : o.declaration.check bindings ⟨function, o.site⟩ o.value with
      | ok _ => simp [ih]
      | error e => simp

theorem check_arguments_extended (bindings : Bindings) (function : String) (less more : Signature)
    (extended : less.ExtendedBy more) (args : Arguments)
    (passed : (ofSignature more).checkArguments bindings function args = .ok ()) :
    (ofSignature less).checkArguments bindings function args = .ok () := by
  rw [checkArguments, check_obligations_iff] at passed ⊢
  intro o member
  exact passed o ((bind_extended less more extended args).subset member)

end Contract

namespace Callable

variable {σ ε : Type}

def withSignature (f : Callable σ ε) (signature : Signature) : Callable σ ε := { f with signature := signature }

theorem returned_extended (f : Callable σ ε) (more : Signature) (extended : f.signature.ExtendedBy more)
    (args : Arguments) (world : World σ) (v : Value) (ends : (f.withSignature more).Ends args world (.returned v)) :
    f.Ends args world (.returned v) := by
  obtain ⟨passed, result, meets⟩ := ends
  refine ⟨Contract.check_arguments_extended world.bindings f.name f.signature more extended args passed, result, ?_⟩
  intro d declared
  exact meets d (extended.returns d declared)

variable [OfViolation ε]

theorem returned_of_value (f : Callable σ ε) (args : Arguments) (world after : World σ) (v : Value)
    (call : f.guarded.call args world = (.ok (.value v), after)) : f.Ends args world (.returned v) := by
  obtain ⟨ending, ends⟩ := ends_exists f args world
  rw [guarded_call_of_ends f args world ending ends] at call
  have answered : f.answer ending = .ok (.value v) := congrArg Prod.fst call
  cases ending with
  | returned w =>
      cases answered
      exact ends
  | deferred sequence =>
      rw [answer] at answered
      split at answered <;> cases answered
  | rejected e => cases answered
  | failed x => cases answered
  | refused e => cases answered

-- A declaration more is a check more and nothing else: what passes with it passes without it.
theorem added_declaration_only_rejects (f : Callable σ ε) (more : Signature)
    (adds : f.signature.AddsDeclaration more) (args : Arguments) :
    ((Contract.ofSignature f.signature).bind args).Sublist ((Contract.ofSignature more).bind args) ∧
    (∀ bindings function, (Contract.ofSignature more).checkArguments bindings function args = .ok () →
      (Contract.ofSignature f.signature).checkArguments bindings function args = .ok ()) ∧
    (∀ world after v, (f.withSignature more).guarded.call args world = (.ok (.value v), after) →
      f.guarded.call args world = (.ok (.value v), after)) := by
  have extended := Signature.extended_of_adds f.signature more adds
  refine ⟨Contract.bind_extended _ _ extended args, ?_, ?_⟩
  · intro bindings function passed
    exact Contract.check_arguments_extended bindings function _ _ extended args passed
  · intro world after v call
    have ends := returned_of_value (f.withSignature more) args world after v call
    rw [guarded_call_of_ends (f.withSignature more) args world (.returned v) ends] at call
    rw [guarded_call_of_ends f args world (.returned v) (returned_extended f more extended args world v ends)]
    exact call

def chooser : Callable Unit Fault where
  name := "f"
  doc := none
  signature :=
    ((Signature.empty.parameter "x" .positional).parameter "options" .extraKeyword).declare "options"
      (.exact (.builtin .str))
  call := fun args world => (.ok (.value ((args.lookup 0 "x").getD .absent)), world)

theorem added_declaration_only_rejects_chooser :
    chooser.guarded.call ⟨[], [("x", .int 1), ("z", .str "a")]⟩ ⟨.empty, ()⟩ =
        (.ok (.value (.int 1)), ⟨.empty, ()⟩) ∧
      chooser.guarded.call ⟨[.bool true], []⟩ ⟨.empty, ()⟩ = (.ok (.value (.bool true)), ⟨.empty, ()⟩) := by
  constructor
  · exact (added_declaration_only_rejects chooser _ (.named "x" (.exact (.builtin .int)) rfl) _).2.2 _ _ _ rfl
  · exact (added_declaration_only_rejects chooser _ (.result (.exact (.builtin .bool)) rfl) _).2.2 _ _ _ rfl

end Callable

end CallContracts
