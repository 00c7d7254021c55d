import CallContracts.Call.Routine

set_option autoImplicit false

namespace CallContracts

inductive Ending (σ ε : Type) where
  | rejected (e : Violation)
  | failed (x : ε)
  | returned (v : Value)
  | refused (e : Violation)
  | deferred (sequence : Sequence σ ε)

namespace Callable

variable {σ ε : Type}

def ArgumentsPass (f : Callable σ ε) (args : Arguments) (world : World σ) : Prop :=
  (Contract.ofSignature f.signature).checkArguments world.bindings f.name args = .ok ()

-- When each ending occurs. The result is checked in the world that the callable leaves behind.
def Ends (f : Callable σ ε) (args : Arguments) (world : World σ) : Ending σ ε → Prop
  | .rejected e => (Contract.ofSignature f.signature).checkArguments world.bindings f.name args = .error e
  | .failed x => f.ArgumentsPass args world ∧ (f.call args world).1 = .error x
  | .returned v =>
      f.ArgumentsPass args world ∧ (f.call args world).1 = .ok (.value v) ∧
        ∀ d, f.signature.returns = some d → d.check (f.call args world).2.bindings ⟨f.name, .result⟩ v = .ok ()
  | .refused e =>
      f.ArgumentsPass args world ∧ ∃ v d, (f.call args world).1 = .ok (.value v) ∧ f.signature.returns = some d ∧
        d.check (f.call args world).2.bindings ⟨f.name, .result⟩ v = .error e
  | .deferred sequence => f.ArgumentsPass args world ∧ (f.call args world).1 = .ok (.lazy sequence)

def invocations (args : Arguments) : Ending σ ε → List Arguments
  | .rejected _ => []
  | _ => [args]

def worldAfter (f : Callable σ ε) (world : World σ) (calls : List Arguments) : World σ :=
  calls.foldl (fun current args => (f.call args current).2) world

theorem log_world_after (f : Callable σ ε) (log : World σ → List Arguments)
    (logged : ∀ args world, log (f.call args world).2 = log world ++ [args]) (calls : List Arguments)
    (world : World σ) : log (f.worldAfter world calls) = log world ++ calls := by
  induction calls generalizing world with
  | nil => simp [worldAfter]
  | cons args rest ih =>
      change log (f.worldAfter (f.call args world).2 rest) = _
      rw [ih, logged]
      simp

theorem ends_exists (f : Callable σ ε) (args : Arguments) (world : World σ) : ∃ ending, f.Ends args world ending := by
  cases checked : (Contract.ofSignature f.signature).checkArguments world.bindings f.name args with
  | error e => exact ⟨.rejected e, checked⟩
  | ok _ =>
      cases result : (f.call args world).1 with
      | error x => exact ⟨.failed x, checked, result⟩
      | ok outcome =>
          cases outcome with
          | lazy sequence => exact ⟨.deferred sequence, checked, result⟩
          | value v =>
              cases declared : f.signature.returns with
              | none => exact ⟨.returned v, checked, result, by simp [declared]⟩
              | some d =>
                  cases verdict : d.check (f.call args world).2.bindings ⟨f.name, .result⟩ v with
                  | error e => exact ⟨.refused e, checked, v, d, result, declared, verdict⟩
                  | ok _ =>
                      refine ⟨.returned v, checked, result, ?_⟩
                      intro other same
                      cases declared.symm.trans same
                      exact verdict

theorem ends_unique (f : Callable σ ε) (args : Arguments) (world : World σ) (one other : Ending σ ε)
    (first : f.Ends args world one) (second : f.Ends args world other) : other = one := by
  -- Each condition names the outcome of both checks and of the call, and two endings never share all three.
  cases one <;> cases other <;> simp only [Ends, ArgumentsPass] at first second <;> grind

variable [OfViolation ε]

def answer (f : Callable σ ε) : Ending σ ε → Except ε (Outcome σ ε)
  | .rejected e => .error (OfViolation.ofViolation ⟨e.kind, e.message, []⟩)
  | .failed x => .error x
  | .returned v => .ok (.value v)
  | .refused e => .error (OfViolation.ofViolation ⟨e.kind, e.message, []⟩)
  | .deferred sequence =>
      match f.signature.returns with
      | none => .ok (.lazy sequence)
      | some d => .ok (.lazy (.checked f.name d sequence false))

theorem guarded_call_rejected (f : Callable σ ε) (args : Arguments) (world : World σ) (e : Violation)
    (failed : (Contract.ofSignature f.signature).checkArguments world.bindings f.name args = .error e) :
    f.guarded.call args world = (.error (OfViolation.ofViolation e.reraised), world) := by
  simp only [guarded, failed]

theorem guarded_call_passed (f : Callable σ ε) (args : Arguments) (world : World σ)
    (passed : f.ArgumentsPass args world) :
    f.guarded.call args world =
      (match (f.call args world).1 with
      | .error x => .error x
      | .ok outcome =>
          (Contract.ofSignature f.signature).checkOutcome (f.call args world).2.bindings f.name outcome,
        (f.call args world).2) := by
  unfold ArgumentsPass at passed
  simp only [guarded, passed]
  obtain ⟨result, after⟩ := f.call args world
  cases result <;> rfl

theorem guarded_call_failed (f : Callable σ ε) (args : Arguments) (world : World σ) (x : ε)
    (passed : f.ArgumentsPass args world) (failed : (f.call args world).1 = .error x) :
    f.guarded.call args world = f.call args world := by
  rw [guarded_call_passed f args world passed, failed]
  exact Prod.ext failed.symm rfl

theorem check_outcome_value (bindings : Bindings) (function : String) (contract : Contract) (v : Value)
    (meets : ∀ d, contract.returns = some d → d.check bindings ⟨function, .result⟩ v = .ok ()) :
    contract.checkOutcome bindings function (.value v : Outcome σ ε) = .ok (.value v) := by
  cases declared : contract.returns with
  | none => simp [Contract.checkOutcome, declared]
  | some d => simp [Contract.checkOutcome, declared, meets d declared]

theorem check_outcome_lazy (bindings : Bindings) (function : String) (contract : Contract) (sequence : Sequence σ ε) :
    contract.checkOutcome bindings function (.lazy sequence) =
      match contract.returns with
      | none => .ok (.lazy sequence)
      | some d => .ok (.lazy (.checked function d sequence false)) := by
  cases declared : contract.returns <;> simp [Contract.checkOutcome, declared]

theorem guarded_call_of_ends (f : Callable σ ε) (args : Arguments) (world : World σ) (ending : Ending σ ε)
    (ends : f.Ends args world ending) :
    f.guarded.call args world = (f.answer ending, f.worldAfter world (invocations args ending)) := by
  cases ending with
  | rejected e => exact guarded_call_rejected f args world e ends
  | failed x =>
      obtain ⟨passed, result⟩ := ends
      rw [guarded_call_failed f args world x passed result]
      exact Prod.ext result rfl
  | returned v =>
      obtain ⟨passed, result, meets⟩ := ends
      rw [guarded_call_passed f args world passed, result]
      exact Prod.ext (check_outcome_value _ f.name (.ofSignature f.signature) v meets) rfl
  | refused e =>
      obtain ⟨passed, v, d, result, declared, broken⟩ := ends
      rw [guarded_call_passed f args world passed, result]
      simp [Contract.checkOutcome, Contract.ofSignature, declared, broken, answer, worldAfter, invocations,
        Violation.reraised]
  | deferred sequence =>
      obtain ⟨passed, result⟩ := ends
      rw [guarded_call_passed f args world passed, result]
      exact Prod.ext (check_outcome_lazy _ f.name (.ofSignature f.signature) sequence) rfl

-- The callable runs once with the arguments as given, or not at all when they are rejected.
theorem guarded_call_transparent (f : Callable σ ε) (args : Arguments) (world : World σ) :
    ∃ ending, f.Ends args world ending ∧ (∀ other, f.Ends args world other → other = ending) ∧
      f.guarded.call args world = (f.answer ending, f.worldAfter world (invocations args ending)) ∧
      (∀ log : World σ → List Arguments, (∀ a w, log (f.call a w).2 = log w ++ [a]) →
        log (f.guarded.call args world).2 = log world ++ invocations args ending) ∧
      ((∃ x, ending = .failed x) ∨ (∃ v, ending = .returned v) ∨
          (f.signature.returns = none ∧ ∃ sequence, ending = .deferred sequence) →
        f.guarded.call args world = f.call args world) := by
  obtain ⟨ending, ends⟩ := ends_exists f args world
  have call := guarded_call_of_ends f args world ending ends
  refine ⟨ending, ends, fun other second => ends_unique f args world ending other ends second, call, ?_, ?_⟩
  · intro log logged
    rw [call]
    exact log_world_after f log logged (invocations args ending) world
  · intro untouched
    rw [call]
    rcases untouched with ⟨x, rfl⟩ | ⟨v, rfl⟩ | ⟨undeclared, sequence, rfl⟩
    · exact Prod.ext ends.2.symm rfl
    · exact Prod.ext ends.2.1.symm rfl
    · rw [answer, undeclared]
      exact Prod.ext ends.2.symm rfl

def recorder : Callable (List Arguments) Fault where
  name := "f"
  doc := none
  signature := (Signature.empty.parameter "x" .positional).declare "x" (.exact (.builtin .str))
  call := fun args world => (.ok (.value .absent), { world with state := world.state ++ [args] })

theorem guarded_recorder_log :
    (recorder.guarded.call ⟨[.str "a"], []⟩ ⟨.empty, []⟩).2.state = [⟨[.str "a"], []⟩] ∧
      (recorder.guarded.call ⟨[.int 1], []⟩ ⟨.empty, []⟩).2.state = [] := by
  constructor
  · obtain ⟨ending, _, unique, _, logs, _⟩ := guarded_call_transparent recorder ⟨[.str "a"], []⟩ ⟨.empty, []⟩
    have same := unique (.returned .absent) ⟨rfl, rfl, by intro d declared; cases declared⟩
    subst same
    exact logs World.state (fun _ _ => rfl)
  · obtain ⟨ending, _, unique, _, logs, _⟩ := guarded_call_transparent recorder ⟨[.int 1], []⟩ ⟨.empty, []⟩
    have same := unique (.rejected _) rfl
    subst same
    exact logs World.state (fun _ _ => rfl)

end Callable

end CallContracts
