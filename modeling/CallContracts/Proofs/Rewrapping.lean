import CallContracts.Proofs.CheckedRun
import CallContracts.Proofs.GuardedCall

set_option autoImplicit false

namespace CallContracts

variable {σ ε : Type} [OfViolation ε]

namespace Sequence

theorem next_unfinished_cases (function : String) (d : Declaration) (inner : Sequence σ ε) (world : World σ) :
    ((∀ e, ¬ Offends function d ⟨(inner.next world).1, (inner.next world).2.2⟩ e) ∧
      (checked function d inner false).next world =
        ((inner.next world).1, .checked function d (inner.next world).2.1 false, (inner.next world).2.2)) ∨
    ∃ x : ε, (checked function d inner false).next world =
      (some (.error x), .checked function d (inner.next world).2.1 true, (inner.next world).2.2) := by
  by_cases offends : ∃ e, Offends function d ⟨(inner.next world).1, (inner.next world).2.2⟩ e
  · obtain ⟨e, offends⟩ := offends
    exact .inr ⟨_, next_offending function d inner world e offends⟩
  · have passing : ∀ e, ¬ Offends function d ⟨(inner.next world).1, (inner.next world).2.2⟩ e :=
      fun e found => offends ⟨e, found⟩
    exact .inl ⟨passing, next_passing function d inner world passing⟩

-- What a checked sequence lets out was checked in the world of this very pull, so it passes the same check again.
theorem next_checked_passing (function : String) (d : Declaration) (inner : Sequence σ ε) (finished : Bool)
    (world : World σ) :
    ∃ item rest ended after, (checked function d inner finished).next world = (item, checked function d rest ended, after) ∧
      ∀ e, ¬ Offends function d ⟨item, after⟩ e := by
  cases finished with
  | true => exact ⟨none, inner, true, world, rfl, by simp [Offends]⟩
  | false =>
      rcases next_unfinished_cases function d inner world with ⟨passing, step⟩ | ⟨x, step⟩
      · exact ⟨_, _, false, _, step, passing⟩
      · exact ⟨_, _, true, _, step, by simp [Offends]⟩

theorem run_checked_passing (function : String) (d : Declaration) (inner : Sequence σ ε) (finished : Bool)
    (changes : List (World σ → World σ)) (world : World σ) :
    Passing function d (run changes (.checked function d inner finished) world).1 := by
  induction changes generalizing inner finished world with
  | nil => simp [run, Passing]
  | cons change changes ih =>
      obtain ⟨item, rest, ended, after, step, first⟩ := next_checked_passing function d inner finished (change world)
      simp only [run, step]
      exact List.forall_mem_cons.mpr ⟨first, ih rest ended after⟩

theorem run_checked_twice (function : String) (d : Declaration) (inner : Sequence σ ε) (finished : Bool)
    (changes : List (World σ → World σ)) (world : World σ) :
    run changes (.checked function d (.checked function d inner finished) false) world =
      ((run changes (.checked function d inner finished) world).1,
        .checked function d (run changes (.checked function d inner finished) world).2.1 false,
        (run changes (.checked function d inner finished) world).2.2) :=
  run_passing function d _ changes world (run_checked_passing function d inner finished changes world)

theorem run_checked_inner (function : String) (d : Declaration) (inner : Sequence σ ε)
    (changes : List (World σ → World σ)) (world : World σ) :
    ∃ made finished, made ≤ changes.length ∧
      (run changes (.checked function d inner false) world).2.1 =
        .checked function d (run (changes.take made) inner world).2.1 finished := by
  induction changes generalizing inner world with
  | nil => exact ⟨0, false, Nat.le_refl 0, rfl⟩
  | cons change changes ih =>
      rcases next_unfinished_cases function d inner (change world) with ⟨_, step⟩ | ⟨x, step⟩
      · obtain ⟨made, finished, bound, rest⟩ := ih (inner.next (change world)).2.1 (inner.next (change world)).2.2
        refine ⟨made + 1, finished, Nat.succ_le_succ bound, ?_⟩
        simp only [run, step, List.take_succ_cons]
        exact rest
      · refine ⟨1, true, by simp, ?_⟩
        simp only [run, step, run_finished, List.take_succ_cons, List.take_zero]

theorem run_checked_alike (function : String) (d : Declaration) (inner : Sequence σ ε)
    (changes : List (World σ → World σ)) (world : World σ) :
    ∃ made pulls rest finished after, made ≤ changes.length ∧ rest = (run (changes.take made) inner world).2.1 ∧
      run changes (.checked function d inner false) world = (pulls, .checked function d rest finished, after) ∧
      run changes (.checked function d (.checked function d inner false) false) world =
        (pulls, .checked function d (.checked function d rest finished) false, after) := by
  obtain ⟨made, finished, bound, shape⟩ := run_checked_inner function d inner changes world
  have twice := run_checked_twice function d inner false changes world
  generalize run changes (.checked function d inner false) world = once at shape twice ⊢
  obtain ⟨pulls, last, after⟩ := once
  simp only at shape
  subst shape
  exact ⟨made, pulls, _, finished, after, bound, rfl, rfl, twice⟩

end Sequence

namespace Callable

open Sequence

theorem guarded_twice_of_ends (f : Callable σ ε) (args : Arguments) (world : World σ) (ending : Ending σ ε)
    (ends : f.Ends args world ending) :
    f.guarded.guarded.call args world = f.guarded.call args world ∨
      ∃ d sequence, f.signature.returns = some d ∧ ending = .deferred sequence ∧
        f.guarded.guarded.call args world =
          (.ok (.lazy (.checked f.name d (.checked f.name d sequence false) false)), (f.guarded.call args world).2) := by
  have once := guarded_call_of_ends f args world ending ends
  cases ending with
  | rejected e => exact .inl ((guarded_call_rejected f.guarded args world e ends).trans once.symm)
  | failed x => exact .inl (guarded_call_failed f.guarded args world x ends.1 (by rw [once]; rfl))
  | refused e => exact .inl (guarded_call_failed f.guarded args world _ ends.1 (by rw [once]; rfl))
  | returned v =>
      obtain ⟨passed, _, meets⟩ := ends
      have twice := guarded_call_passed f.guarded args world passed
      rw [once] at twice ⊢
      exact .inl (twice.trans (Prod.ext (check_outcome_value _ f.name (.ofSignature f.signature) v meets) rfl))
  | deferred sequence =>
      have twice := guarded_call_passed f.guarded args world ends.1
      rw [once, answer] at twice ⊢
      cases declared : f.signature.returns with
      | none =>
          rw [declared] at twice
          exact .inl (by simpa [check_outcome_lazy, Contract.ofSignature, guarded, declared] using twice)
      | some d =>
          rw [declared] at twice
          refine .inr ⟨d, sequence, rfl, rfl, ?_⟩
          simpa [check_outcome_lazy, Contract.ofSignature, guarded, declared] using twice

-- Guarding twice is guarding once, up to sequences that no run of pulls tells apart.
theorem guarded_idempotent (f : Callable σ ε) (args : Arguments) (world : World σ) :
    ∃ ending, f.Ends args world ending ∧
      f.guarded.call args world = (f.answer ending, f.worldAfter world (invocations args ending)) ∧
      (f.guarded.guarded.call args world).2 = f.worldAfter world (invocations args ending) ∧
      (∀ log : World σ → List Arguments, (∀ a w, log (f.call a w).2 = log w ++ [a]) →
        log (f.guarded.call args world).2 = log world ++ invocations args ending ∧
        log (f.guarded.guarded.call args world).2 = log world ++ invocations args ending) ∧
      ((f.guarded.guarded.call args world).1 = f.answer ending ∨
        ∃ d sequence, ending = .deferred sequence ∧
          f.answer ending = .ok (.lazy (.checked f.name d sequence false)) ∧
          (f.guarded.guarded.call args world).1 =
            .ok (.lazy (.checked f.name d (.checked f.name d sequence false) false)) ∧
          ∀ (changes : List (World σ → World σ)) (later : World σ), ∃ made pulls rest finished after,
            made ≤ changes.length ∧ rest = (run (changes.take made) sequence later).2.1 ∧
            (∀ pull taken, sequence = .source pull taken → rest = .source pull (taken + made)) ∧
            run changes (.checked f.name d sequence false) later = (pulls, .checked f.name d rest finished, after) ∧
            run changes (.checked f.name d (.checked f.name d sequence false) false) later =
              (pulls, .checked f.name d (.checked f.name d rest finished) false, after)) := by
  obtain ⟨ending, ends⟩ := ends_exists f args world
  have once := guarded_call_of_ends f args world ending ends
  have again := guarded_twice_of_ends f args world ending ends
  have sameWorld : (f.guarded.guarded.call args world).2 = f.worldAfter world (invocations args ending) := by
    rcases again with same | ⟨d, sequence, _, _, twice⟩
    · rw [same, once]
    · rw [twice, once]
  refine ⟨ending, ends, once, sameWorld, ?_, ?_⟩
  · intro log logged
    have calls := log_world_after f log logged (invocations args ending) world
    exact ⟨by rw [once]; exact calls, by rw [sameWorld]; exact calls⟩
  · rcases again with same | ⟨d, sequence, declared, rfl, twice⟩
    · exact .inl (by rw [same, once])
    · refine .inr ⟨d, sequence, rfl, by rw [answer, declared], by rw [twice], ?_⟩
      intro changes later
      obtain ⟨made, pulls, rest, finished, after, bound, own, first, second⟩ :=
        run_checked_alike f.name d sequence changes later
      refine ⟨made, pulls, rest, finished, after, bound, own, ?_, first, second⟩
      intro pull taken source
      rw [own, source, run_source, List.length_take, Nat.min_eq_left bound]

def lister : Callable (List Arguments) Fault where
  name := "f"
  doc := none
  signature := Signature.empty.returning (.exact (.builtin .int))
  call := fun args world =>
    (.ok (.lazy (.source (fun taken current => ([Value.int 1, .str "a", .int 2][taken]?.map .ok, current)) 0)),
      { world with state := world.state ++ [args] })

theorem guarded_idempotent_lister :
    (lister.guarded.call ⟨[.int 1], []⟩ ⟨.empty, []⟩).2.state = [⟨[.int 1], []⟩] ∧
      (lister.guarded.guarded.call ⟨[.int 1], []⟩ ⟨.empty, []⟩).2.state = [⟨[.int 1], []⟩] ∧
      ∃ once twice, (lister.guarded.call ⟨[.int 1], []⟩ ⟨.empty, []⟩).1 = .ok (.lazy once) ∧
        (lister.guarded.guarded.call ⟨[.int 1], []⟩ ⟨.empty, []⟩).1 = .ok (.lazy twice) ∧
        (run [id, id, id] once ⟨.empty, []⟩).1 = (run [id, id, id] twice ⟨.empty, []⟩).1 ∧
        (run [id, id, id] twice ⟨.empty, []⟩).1.map Pull.item =
          [some (.ok (.int 1)), some (.error (.violation
            ⟨.returnTypeMismatch, "f() -> <int>: Actual type of return value, <a>, is <str>", []⟩)), none] := by
  obtain ⟨ending, ends, call, _, logs, answers⟩ := guarded_idempotent lister ⟨[.int 1], []⟩ ⟨.empty, []⟩
  have deferred := ends_unique lister ⟨[.int 1], []⟩ ⟨.empty, []⟩ (.deferred _) ending ⟨rfl, rfl⟩ ends
  subst deferred
  obtain ⟨runOnce, runTwice⟩ := logs World.state fun _ _ => rfl
  refine ⟨runOnce, runTwice, ?_⟩
  rcases answers with same | ⟨d, sequence, deferred, answered, wrapped, runs⟩
  · exact ⟨_, _, by rw [call]; rfl, by rw [same]; rfl, rfl, rfl⟩
  · obtain ⟨_, pulls, _, _, _, _, _, _, first, second⟩ := runs [id, id, id] ⟨.empty, []⟩
    cases deferred
    cases answered
    exact ⟨_, _, by rw [call]; rfl, wrapped, by rw [first, second], rfl⟩

end Callable

end CallContracts
