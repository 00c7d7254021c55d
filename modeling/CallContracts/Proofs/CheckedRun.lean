import CallContracts.Call.Routine

set_option autoImplicit false

namespace CallContracts

structure Pull (σ ε : Type) where
  item : Option (Except ε Value)
  after : World σ

namespace Sequence

variable {σ ε : Type}

def Offends (function : String) (d : Declaration) (pull : Pull σ ε) (e : Violation) : Prop :=
  ∃ v, pull.item = some (.ok v) ∧ d.check pull.after.bindings ⟨function, .result⟩ v = .error e

def Passing (function : String) (d : Declaration) (pulls : List (Pull σ ε)) : Prop :=
  ∀ pull ∈ pulls, ∀ e, ¬ Offends function d pull e

def idle (world : World σ) : List (World σ → World σ) → List (Pull σ ε)
  | [] => []
  | change :: changes => ⟨none, change world⟩ :: idle (change world) changes

-- Pull `i` is the answer of the source to `taken + i`, in the world that the pull before it left, changed.
def Drawn (pull : Nat → World σ → Option (Except ε Value) × World σ) (taken : Nat)
    (changes : List (World σ → World σ)) (world : World σ) (pulls : List (Pull σ ε)) : Prop :=
  ∀ i entry, pulls[i]? = some entry →
    ∃ change before, changes[i]? = some change ∧ (world :: pulls.map Pull.after)[i]? = some before ∧
      pull (taken + i) (change before) = (entry.item, entry.after)

theorem first_offender (function : String) (d : Declaration) (pulls : List (Pull σ ε)) :
    Passing function d pulls ∨
      ∃ good bad later e, pulls = good ++ bad :: later ∧ Passing function d good ∧ Offends function d bad e := by
  induction pulls with
  | nil => exact .inl (by simp [Passing])
  | cons pull pulls ih =>
      by_cases offends : ∃ e, Offends function d pull e
      · obtain ⟨e, offends⟩ := offends
        exact .inr ⟨[], pull, pulls, e, rfl, by simp [Passing], offends⟩
      · have passes : ∀ e, ¬ Offends function d pull e := fun e found => offends ⟨e, found⟩
        rcases ih with passing | ⟨good, bad, later, e, split, passing, found⟩
        · exact .inl (List.forall_mem_cons.mpr ⟨passes, passing⟩)
        · have longer : Passing function d (pull :: good) := List.forall_mem_cons.mpr ⟨passes, passing⟩
          exact .inr ⟨pull :: good, bad, later, e, by rw [split]; rfl, longer, found⟩

variable [OfViolation ε]

-- One pull for each change. The surroundings make the change before the pull: they may redefine types.
def run : List (World σ → World σ) → Sequence σ ε → World σ → List (Pull σ ε) × Sequence σ ε × World σ
  | [], sequence, world => ([], sequence, world)
  | change :: changes, sequence, world =>
      let pulled := sequence.next (change world)
      let rest := run changes pulled.2.1 pulled.2.2
      (⟨pulled.1, pulled.2.2⟩ :: rest.1, rest.2)

theorem run_length (changes : List (World σ → World σ)) (sequence : Sequence σ ε) (world : World σ) :
    (run changes sequence world).1.length = changes.length := by
  induction changes generalizing sequence world with
  | nil => rfl
  | cons change changes ih => simp only [run, List.length_cons, ih]

theorem run_append (first second : List (World σ → World σ)) (sequence : Sequence σ ε) (world : World σ) :
    run (first ++ second) sequence world =
      ((run first sequence world).1 ++ (run second (run first sequence world).2.1 (run first sequence world).2.2).1,
        (run second (run first sequence world).2.1 (run first sequence world).2.2).2) := by
  induction first generalizing sequence world with
  | nil => rfl
  | cons change changes ih => simp only [List.cons_append, run, ih]

theorem run_split (changes : List (World σ → World σ)) (sequence : Sequence σ ε) (world : World σ)
    (front back : List (Pull σ ε)) (pull : Pull σ ε) (split : (run changes sequence world).1 = front ++ pull :: back) :
    ∃ before change after rest, changes = before ++ change :: after ∧ (run before sequence world).1 = front ∧
      run [change] (run before sequence world).2.1 (run before sequence world).2.2 = ([pull], rest, pull.after) := by
  induction changes generalizing sequence world front with
  | nil => simp [run] at split
  | cons change changes ih =>
      cases front with
      | nil =>
          obtain ⟨rfl, _⟩ := List.cons.inj split
          exact ⟨[], change, changes, _, rfl, rfl, rfl⟩
      | cons first front =>
          obtain ⟨rfl, later⟩ := List.cons.inj split
          obtain ⟨before, next, after, rest, rfl, rfl, pulled⟩ := ih _ _ front later
          exact ⟨change :: before, next, after, rest, rfl, rfl, pulled⟩

theorem run_source (pull : Nat → World σ → Option (Except ε Value) × World σ) (taken : Nat)
    (changes : List (World σ → World σ)) (world : World σ) :
    (run changes (.source pull taken) world).2.1 = .source pull (taken + changes.length) := by
  induction changes generalizing taken world with
  | nil => rfl
  | cons change changes ih =>
      simp only [run, next, List.length_cons, ih]
      rw [Nat.add_assoc, Nat.add_comm 1]

theorem run_source_drawn (pull : Nat → World σ → Option (Except ε Value) × World σ) (taken : Nat)
    (changes : List (World σ → World σ)) (world : World σ) :
    Drawn pull taken changes world (run changes (.source pull taken) world).1 := by
  induction changes generalizing taken world with
  | nil =>
      intro i entry found
      simp [run] at found
  | cons change changes ih =>
      intro i entry found
      cases i with
      | zero =>
          cases found
          exact ⟨change, world, rfl, rfl, rfl⟩
      | succ i =>
          obtain ⟨later, before, scheduled, left, answered⟩ :=
            ih (taken + 1) (pull taken (change world)).2 i entry found
          refine ⟨later, before, scheduled, left, ?_⟩
          rw [← answered, Nat.add_assoc, Nat.add_comm 1]

theorem run_source_taken (pull : Nat → World σ → Option (Except ε Value) × World σ) (taken made : Nat)
    (changes : List (World σ → World σ)) (world after : World σ) (pulls : List (Pull σ ε)) (rest : Sequence σ ε)
    (bound : made ≤ changes.length)
    (ran : run (changes.take made) (.source pull taken) world = (pulls, rest, after)) :
    rest = .source pull (taken + made) ∧ Drawn pull taken changes world pulls := by
  have left := run_source pull taken (changes.take made) world
  have drawn := run_source_drawn pull taken (changes.take made) world
  rw [ran] at left drawn
  rw [List.length_take, Nat.min_eq_left bound] at left
  refine ⟨left, fun i entry found => ?_⟩
  obtain ⟨change, before, scheduled, settled, answered⟩ := drawn i entry found
  rw [List.getElem?_take] at scheduled
  split at scheduled
  · exact ⟨change, before, scheduled, settled, answered⟩
  · cases scheduled

theorem run_finished (function : String) (d : Declaration) (inner : Sequence σ ε) (changes : List (World σ → World σ))
    (world : World σ) :
    run changes (.checked function d inner true) world =
      (idle world changes, .checked function d inner true,
        changes.foldl (fun current change => change current) world) := by
  induction changes generalizing world with
  | nil => rfl
  | cons change changes ih => simp only [run, next, idle, List.foldl_cons, ih]

theorem next_passing (function : String) (d : Declaration) (inner : Sequence σ ε) (world : World σ)
    (passing : ∀ e, ¬ Offends function d ⟨(inner.next world).1, (inner.next world).2.2⟩ e) :
    (Sequence.checked function d inner false).next world =
      ((inner.next world).1, .checked function d (inner.next world).2.1 false, (inner.next world).2.2) := by
  rw [next]
  generalize inner.next world = pulled at passing ⊢
  obtain ⟨item, rest, after⟩ := pulled
  match item with
  | none => rfl
  | some (.error x) => rfl
  | some (.ok v) =>
      cases verdict : d.check after.bindings ⟨function, .result⟩ v with
      | ok _ => simp only [verdict]
      | error e => exact False.elim (passing e ⟨v, rfl, verdict⟩)

theorem next_offending (function : String) (d : Declaration) (inner : Sequence σ ε) (world : World σ) (e : Violation)
    (offends : Offends function d ⟨(inner.next world).1, (inner.next world).2.2⟩ e) :
    (Sequence.checked function d inner false).next world =
      (some (.error (OfViolation.ofViolation e.reraised)), .checked function d (inner.next world).2.1 true,
        (inner.next world).2.2) := by
  obtain ⟨v, item, broken⟩ := offends
  rw [next]
  generalize inner.next world = pulled at item broken ⊢
  obtain ⟨_, rest, after⟩ := pulled
  cases item
  simp only at broken
  simp only [broken]

theorem run_passing (function : String) (d : Declaration) (inner : Sequence σ ε) (changes : List (World σ → World σ))
    (world : World σ) (passing : Passing function d (run changes inner world).1) :
    run changes (.checked function d inner false) world =
      ((run changes inner world).1, .checked function d (run changes inner world).2.1 false,
        (run changes inner world).2.2) := by
  induction changes generalizing inner world with
  | nil => rfl
  | cons change changes ih =>
      simp only [run] at passing ⊢
      have first := next_passing function d inner (change world) (passing _ (by simp))
      have later := ih (inner.next (change world)).2.1 (inner.next (change world)).2.2
        (fun pull member => passing pull (by simp [member]))
      simp only [first, later]

theorem run_offending (function : String) (d : Declaration) (inner : Sequence σ ε)
    (before later : List (World σ → World σ)) (change : World σ → World σ) (world : World σ) (bad : Pull σ ε)
    (rest : Sequence σ ε) (e : Violation) (passing : Passing function d (run before inner world).1)
    (pulled : run [change] (run before inner world).2.1 (run before inner world).2.2 = ([bad], rest, bad.after))
    (offends : Offends function d bad e) :
    run (before ++ change :: later) (.checked function d inner false) world =
      ((run before inner world).1 ++
          ⟨some (.error (OfViolation.ofViolation e.reraised)), bad.after⟩ :: idle bad.after later,
        .checked function d rest true, later.foldl (fun current change => change current) bad.after) := by
  rw [run_append, run_passing function d inner before world passing]
  generalize run before inner world = half at pulled ⊢
  simp only [run, Prod.mk.injEq, List.cons.injEq, and_true] at pulled
  obtain ⟨rfl, rfl, _⟩ := pulled
  have step := next_offending function d half.2.1 (change half.2.2) e offends
  simp only [run, step, run_finished]

-- One element for each pull up to the first value that is refused; after it nothing is pulled.
theorem checked_run (function : String) (d : Declaration) (inner : Sequence σ ε) (changes : List (World σ → World σ))
    (world : World σ) :
    ∃ made pulls rest after, made ≤ changes.length ∧ run (changes.take made) inner world = (pulls, rest, after) ∧
      pulls.length = made ∧
      (∀ pull taken, inner = .source pull taken →
        rest = .source pull (taken + made) ∧ Drawn pull taken changes world pulls) ∧
      ((made = changes.length ∧ Passing function d pulls ∧
          run changes (.checked function d inner false) world = (pulls, .checked function d rest false, after)) ∨
        ∃ good bad e, pulls = good ++ [bad] ∧ Passing function d good ∧ Offends function d bad e ∧
          run changes (.checked function d inner false) world =
            (good ++ ⟨some (.error (OfViolation.ofViolation ⟨e.kind, e.message, []⟩)), after⟩ ::
                idle after (changes.drop made),
              .checked function d rest true,
              (changes.drop made).foldl (fun current change => change current) after)) := by
  rcases first_offender function d (run changes inner world).1 with
    passing | ⟨good, bad, later, e, split, passing, offends⟩
  · have all : run (changes.take changes.length) inner world = run changes inner world := by rw [List.take_length]
    refine ⟨changes.length, (run changes inner world).1, (run changes inner world).2.1, (run changes inner world).2.2,
      Nat.le_refl _, all, run_length changes inner world, ?_, .inl ⟨rfl, passing, ?_⟩⟩
    · intro pull taken same
      subst same
      exact run_source_taken pull taken changes.length changes world _ _ _ (Nat.le_refl _) all
    · exact run_passing function d inner changes world passing
  · obtain ⟨before, change, remaining, rest, rfl, rfl, pulled⟩ := run_split changes inner world good later bad split
    have ran : run ((before ++ change :: remaining).take (before.length + 1)) inner world =
        ((run before inner world).1 ++ [bad], rest, bad.after) := by
      rw [List.append_cons, List.take_left' (by simp), run_append, pulled]
    have dropped : (before ++ change :: remaining).drop (before.length + 1) = remaining := by
      rw [List.append_cons, List.drop_left' (by simp)]
    have within : before.length + 1 ≤ (before ++ change :: remaining).length := by simp
    refine ⟨before.length + 1, _, rest, bad.after, within, ran, by simp [run_length], ?_,
      .inr ⟨_, bad, e, rfl, passing, offends, ?_⟩⟩
    · intro pull taken same
      subst same
      exact run_source_taken pull taken _ _ world _ _ _ within ran
    · rw [dropped]
      exact run_offending function d inner before remaining change world bad rest e passing pulled offends

def faltering (taken : Nat) (world : World Nat) : Option (Except Fault Value) × World Nat :=
  ([some (.ok (.int 1)), some (.error (.domain "lost")), none, some (.ok (.int 2)), some (.ok (.str "b"))][taken]?.join,
    { world with state := world.state + 1 })

def retyped (t : Ty) (world : World Nat) : World Nat :=
  { world with bindings := world.bindings.defineAs ⟨0, "types"⟩ "T" t }

-- An own error and an end pass. Then the declared name is given to another type, and the next value is refused.
theorem checked_run_faltering :
    let d := Declaration.reference ⟨"T", ⟨0, "types"⟩⟩
    let changes := [retyped (.builtin .int), id, id, retyped (.builtin .str), id, id]
    let ran := run changes (.checked "f" d (.source faltering 0) false) ⟨.empty, 0⟩
    ran.1.map Pull.item =
        [some (.ok (.int 1)), some (.error (.domain "lost")), none,
          some (.error (.violation
            ⟨.returnTypeMismatch, "f() -> <T>: Actual type of return value, <2>, is <int>", []⟩)), none, none] ∧
      ran.2.1 = .checked "f" d (.source faltering 4) true ∧ ran.2.2.state = 4 ∧
      ∃ good bad e, Drawn faltering 0 changes ⟨.empty, 0⟩ (good ++ [bad]) ∧ good.length = 3 ∧
        Passing "f" d good ∧ bad.item = some (.ok (.int 2)) ∧ Offends "f" d bad e := by
  intro d changes ran
  have last : ran.2.1 = .checked "f" d (.source faltering 4) true := rfl
  refine ⟨rfl, last, rfl, ?_⟩
  obtain ⟨made, pulls, rest, after, _, _, length, source, ends⟩ :=
    checked_run "f" d (.source faltering 0) changes ⟨.empty, 0⟩
  obtain ⟨left, drawn⟩ := source faltering 0 rfl
  rcases ends with ⟨_, _, whole⟩ | ⟨good, bad, e, rfl, passing, offends, whole⟩
  · have running : ran.2.1 = .checked "f" d rest false := congrArg (fun result => result.2.1) whole
    rw [last] at running
    cases running
  · have ended : ran.2.1 = .checked "f" d rest true := congrArg (fun result => result.2.1) whole
    rw [last, left, Nat.zero_add] at ended
    cases ended
    have size : good.length = 3 := by simpa using length
    have found : (good ++ [bad])[3]? = some bad := by rw [← size]; simp
    obtain ⟨_, _, _, _, answered⟩ := drawn 3 bad found
    exact ⟨good, bad, e, drawn, size, passing, (congrArg Prod.fst answered).symm, offends⟩

end Sequence

end CallContracts
