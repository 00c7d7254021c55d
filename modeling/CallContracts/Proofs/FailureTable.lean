import CallContracts.Proofs.FailureCauses
import CallContracts.Proofs.Stability

set_option autoImplicit false

namespace CallContracts

namespace Site

theorem mismatch_kind_cases (site : Site) :
    (site ≠ .result ∧ site.mismatchKind = .parameterTypeMismatch) ∨
      (site = .result ∧ site.mismatchKind = .returnTypeMismatch) := by
  cases site <;> simp [mismatchKind]

-- Only a mismatch of types has a kind of its own for the result.
def carryKind (first second : Site) (kind : ViolationKind) : ViolationKind :=
  if kind = first.mismatchKind then second.mismatchKind else kind

theorem carry_kind_kept (first second : Site) (kind : ViolationKind)
    (other : kind ≠ .parameterTypeMismatch ∧ kind ≠ .returnTypeMismatch) : first.carryKind second kind = kind := by
  rw [carryKind, if_neg]
  rcases first.mismatch_kind_cases with ⟨_, same⟩ | ⟨_, same⟩
  · rw [same]
    exact other.1
  · rw [same]
    exact other.2

end Site

structure Carried (first second : Site) (e u : Violation) : Prop where
  trace : u.trace = e.trace
  kind : u.kind = first.carryKind second e.kind

section Carried

variable {first second : Blame} {e u : Violation}

theorem carried_within (frame : String) (carried : Carried first.site second.site e u) :
    Carried first.site second.site (e.within frame) (u.within frame) :=
  ⟨congrArg (· ++ [frame]) carried.trace, carried.kind⟩

theorem carried_raise {kind : ViolationKind} {message message' : String}
    (other : kind ≠ .parameterTypeMismatch ∧ kind ≠ .returnTypeMismatch) :
    Carried first.site second.site (Blame.raise kind message) (Blame.raise kind message') :=
  ⟨rfl, (Site.carry_kind_kept _ _ kind other).symm⟩

theorem carried_type_mismatch (v : Value) (declared : List String) :
    Carried first.site second.site (first.typeMismatch v declared) (second.typeMismatch v declared) := by
  refine ⟨(second.type_mismatch_trace v declared).trans (first.type_mismatch_trace v declared).symm, ?_⟩
  rw [first.type_mismatch_kind, second.type_mismatch_kind]
  cases v.isAbsent with
  | true => exact (Site.carry_kind_kept _ _ .absenceMismatch (by decide)).symm
  | false => simp [Site.carryKind]

theorem carried_unresolved (unresolved : e.kind.IsUnresolved) : Carried first.site second.site e e := by
  obtain ⟨name, scope, same⟩ := unresolved
  exact ⟨rfl, (Site.carry_kind_kept _ _ _ (by simp [same])).symm⟩

end Carried

namespace Declaration

variable (bindings : Bindings)

theorem accepts_error_unresolved (d : Declaration) (v : Value) (u : Violation)
    (failed : d.accepts bindings v = .error u) : u.kind.IsUnresolved ∧ u.trace = [] := by
  obtain ⟨r, _, _, rfl⟩ := accepts_error bindings d v u failed
  exact ⟨⟨r.name, r.scope.name, rfl⟩, rfl⟩

theorem spoils_carried (first second : Blame) (entries : List (Ty × Declaration)) (v : Value) (e : Violation)
    (spoils : Spoils bindings first entries v e) :
    ∃ u, Spoils bindings second entries v u ∧ Carried first.site second.site e u := by
  cases spoils with
  | container unknown =>
      exact ⟨_, .container unknown, carried_within _ (carried_raise (by decide))⟩
  | plain container element found shape =>
      exact ⟨_, .plain container element found shape, carried_within _ (carried_raise (by decide))⟩
  | elements container element items found shape verdicts offends =>
      exact ⟨_, .elements container element items found shape verdicts offends,
        carried_within _ (carried_raise (by decide))⟩
  | undecided container element front back item u found shape verdicts stops =>
      have unresolved := (accepts_error_unresolved bindings element item e stops).1
      exact ⟨e, .undecided container element front back item e found shape verdicts stops,
        carried_unresolved unresolved⟩

theorem breaks_carried (first second : Blame) (d : Declaration) (v : Value) (e : Violation)
    (breaks : Breaks bindings first v d e) :
    ∃ u, Breaks bindings second v d u ∧ Carried first.site second.site e u := by
  cases breaks with
  | refused d tested verdict =>
      exact ⟨_, .refused d tested verdict, carried_within _ (carried_type_mismatch v _)⟩
  | undecided d u tested verdict =>
      have unresolved := (accepts_error_unresolved bindings d v e verdict).1
      exact ⟨e, .undecided d e tested verdict, carried_unresolved unresolved⟩
  | condition c unmet => exact ⟨_, .condition c unmet, carried_within _ (carried_raise (by decide))⟩
  | unexpected given => exact ⟨_, .unexpected given, carried_within _ (carried_raise (by decide))⟩
  | missing entries missing =>
      exact ⟨_, .missing entries missing, carried_within _ (carried_type_mismatch v _)⟩
  | collection entries inner given spoils =>
      obtain ⟨u, spoils', carried⟩ := spoils_carried bindings first second entries v inner spoils
      exact ⟨_, .collection entries u given spoils', carried_within _ carried⟩

def UndefinedFrames (s : Declaration) (v : Value) (trace : List String) : Prop :=
  (((∃ r, s = .reference r) ∨ ∃ members, s = .union members) ∧ trace = []) ∨
    ((∃ entries, s = .collection entries) ∧ v ≠ .absent ∧ trace = ["check"])

structure FailureTable (s : Declaration) (v : Value) (site : Site) (kind : ViolationKind) (trace : List String) :
    Prop where
  resolved : ¬ kind.IsUnresolved
  condition : kind = .conditionFailed ↔ ∃ c, s = .condition c
  absence : kind = .absenceMismatch ↔
    (v = .absent ∧ (s.Tested ∨ ∃ entries, s = .collection entries)) ∨ (v ≠ .absent ∧ s = .absent)
  container : kind = .collectionContainerMismatch ↔
    v ≠ .absent ∧ ∃ entries, s = .collection entries ∧ ¬ HasKey entries v.type
  element : kind = .collectionElementMismatch ↔
    v ≠ .absent ∧ ∃ entries, s = .collection entries ∧ HasKey entries v.type
  parameter : kind = .parameterTypeMismatch ↔ v ≠ .absent ∧ s.Tested ∧ site ≠ .result
  result : kind = .returnTypeMismatch ↔ v ≠ .absent ∧ s.Tested ∧ site = .result
  frames : trace =
    if kind = .collectionContainerMismatch ∨ kind = .collectionElementMismatch then ["check_collection", "check"]
    else ["check"]

theorem tested_excludes (d : Declaration) (tested : d.Tested) :
    (∀ c, d ≠ .condition c) ∧ (∀ entries, d ≠ .collection entries) ∧ d ≠ .absent := by
  cases d with
  | exact | union | reference => simp
  | _ => cases tested

theorem missing_table (s : Declaration) (site : Site) (placed : s.Tested ∨ ∃ entries, s = .collection entries) :
    FailureTable s .absent site .absenceMismatch ["check"] := by
  have notCondition : ∀ c, s ≠ .condition c := by
    rcases placed with tested | ⟨entries, rfl⟩
    · exact (tested_excludes s tested).1
    · simp
  constructor <;> simp [ViolationKind.IsUnresolved, placed, notCondition]

theorem mismatch_table (s : Declaration) (v : Value) (site : Site) (given : v ≠ .absent) (tested : s.Tested) :
    FailureTable s v site site.mismatchKind ["check"] := by
  obtain ⟨notCondition, notCollection, notAbsent⟩ := tested_excludes s tested
  rcases site.mismatch_kind_cases with ⟨parameter, same⟩ | ⟨rfl, same⟩
  · rw [same]
    constructor <;> simp [ViolationKind.IsUnresolved, parameter, given, tested, notCondition, notCollection, notAbsent]
  · rw [same]
    constructor <;> simp [ViolationKind.IsUnresolved, given, tested, notCondition, notCollection, notAbsent]

theorem type_mismatch_table (s : Declaration) (v : Value) (blame : Blame) (declared : List String)
    (placed : s.Tested ∨ (v = .absent ∧ ∃ entries, s = .collection entries)) :
    FailureTable s v blame.site ((blame.typeMismatch v declared).within "check").kind
      ((blame.typeMismatch v declared).within "check").trace := by
  have frames : ((blame.typeMismatch v declared).within "check").trace = ["check"] :=
    congrArg (· ++ ["check"]) (blame.type_mismatch_trace v declared)
  change FailureTable s v blame.site (blame.typeMismatch v declared).kind _
  rw [blame.type_mismatch_kind, frames]
  by_cases missing : v = .absent
  · subst missing
    exact missing_table s blame.site (placed.imp_right And.right)
  · rw [v.given_iff.mpr missing]
    rcases placed with tested | ⟨absent, _⟩
    · exact mismatch_table s v blame.site missing tested
    · exact False.elim (missing absent)

theorem element_table (entries : List (Ty × Declaration)) (v : Value) (site : Site) (given : v ≠ .absent)
    (known : HasKey entries v.type) :
    FailureTable (.collection entries) v site .collectionElementMismatch ["check_collection", "check"] := by
  constructor <;> simp [ViolationKind.IsUnresolved, given, known, Tested]

theorem container_table (entries : List (Ty × Declaration)) (v : Value) (site : Site) (given : v ≠ .absent)
    (unknown : ¬ HasKey entries v.type) :
    FailureTable (.collection entries) v site .collectionContainerMismatch ["check_collection", "check"] := by
  constructor <;> simp [ViolationKind.IsUnresolved, given, unknown, Tested]

theorem spoils_table (blame : Blame) (entries : List (Ty × Declaration)) (v : Value) (e : Violation)
    (given : v ≠ .absent) (spoils : Spoils bindings blame entries v e) :
    (e.kind.IsUnresolved ∧ e.trace = []) ∨
      FailureTable (.collection entries) v blame.site e.kind (e.within "check").trace := by
  cases spoils with
  | container unknown => exact .inr (container_table entries v blame.site given unknown)
  | plain container element found shape =>
      exact .inr (element_table entries v blame.site given (has_key_of_find entries v.type _ found))
  | elements container element items found shape verdicts offends =>
      exact .inr (element_table entries v blame.site given (has_key_of_find entries v.type _ found))
  | undecided container element front back item u found shape verdicts stops =>
      exact .inl (accepts_error_unresolved bindings element item e stops)

theorem undefined_tested (d : Declaration) (v : Value) (u : Violation) (tested : d.Tested)
    (verdict : d.accepts bindings v = .error u) : UndefinedFrames d v u.trace := by
  have frames := (accepts_error_unresolved bindings d v u verdict).2
  cases d with
  | exact type =>
      rw [accepts] at verdict
      cases verdict
  | union members => exact .inl ⟨.inr ⟨members, rfl⟩, frames⟩
  | reference r => exact .inl ⟨.inl ⟨r, rfl⟩, frames⟩
  | _ => cases tested

theorem breaks_table (blame : Blame) (d : Declaration) (v : Value) (e : Violation)
    (breaks : Breaks bindings blame v d e) :
    (e.kind.IsUnresolved ∧ UndefinedFrames d v e.trace) ∨ FailureTable d v blame.site e.kind e.trace := by
  cases breaks with
  | refused d tested verdict => exact .inr (type_mismatch_table d v blame _ (.inl tested))
  | undecided d u tested verdict =>
      exact .inl ⟨(accepts_error_unresolved bindings d v e verdict).1, undefined_tested bindings d v e tested verdict⟩
  | condition c unmet =>
      refine .inr ?_
      change FailureTable _ _ _ .conditionFailed ["check"]
      constructor <;> simp [ViolationKind.IsUnresolved, Tested]
  | unexpected given =>
      refine .inr ?_
      change FailureTable _ _ _ .absenceMismatch ["check"]
      constructor <;> simp [ViolationKind.IsUnresolved, Tested, given]
  | missing entries missing => exact .inr (type_mismatch_table _ v blame _ (.inr ⟨missing, entries, rfl⟩))
  | collection entries inner given spoils =>
      rcases spoils_table bindings blame entries v inner given spoils with ⟨unresolved, none⟩ | table
      · exact .inl ⟨unresolved, .inr ⟨⟨entries, rfl⟩, given, congrArg (· ++ ["check"]) none⟩⟩
      · exact .inr table

-- The site can only turn a mismatch of a parameter into one of the result.
theorem failure_kind_and_trace (d : Declaration) (v : Value) (first second : Blame) :
    (d.check bindings first v = .ok () ↔ d.accepts bindings v = .ok true ∨ (v = .absent ∧ d.HasAbsenceMember)) ∧
    (d.check bindings first v = .ok () ↔ d.check bindings second v = .ok ()) ∧
    (∀ (other : Declaration) (e u : Violation), other.stripAbsence.1 = d.stripAbsence.1 →
      d.check bindings first v = .error e → other.check bindings second v = .error u →
      u.trace = e.trace ∧
        u.kind = if e.kind = first.site.mismatchKind then second.site.mismatchKind else e.kind) ∧
    (∀ e, d.check bindings first v = .error e →
      (e.kind.IsUnresolved ∧ UndefinedFrames d.stripAbsence.1 v e.trace) ∨
        FailureTable d.stripAbsence.1 v first.site e.kind e.trace) := by
  have passes := check_passes_iff bindings first d v
  refine ⟨passes, passes.trans (check_passes_iff bindings second d v).symm, ?_, ?_⟩
  · intro other e u same failed failedToo
    obtain ⟨_, breaks⟩ := (check_error_iff bindings first d v e).mp failed
    obtain ⟨_, breaksToo⟩ := (check_error_iff bindings second other v u).mp failedToo
    obtain ⟨w, carriedOver, carried⟩ := breaks_carried bindings first second _ v e breaks
    have checked := check_stripped_broken bindings second _ v w carriedOver
    rw [← same, check_stripped_broken bindings second _ v u breaksToo] at checked
    cases checked
    exact ⟨carried.trace, carried.kind⟩
  · intro e failed
    obtain ⟨_, breaks⟩ := (check_error_iff bindings first d v e).mp failed
    exact breaks_table bindings first _ v e breaks

theorem failure_kind_and_trace_bare_list :
    (∃ e u, (optional (.exact (.builtin .int))).check .empty ⟨"f", .keyword "x"⟩ (.str "a") = .error e ∧
      (Declaration.exact (.builtin .int)).check .empty ⟨"f", .result⟩ (.str "a") = .error u ∧
      u.trace = e.trace ∧ u.kind = .returnTypeMismatch) ∧
    (∃ e, (collectionOf (.builtin .list) (.exact (.builtin .int))).check .empty ⟨"f", .result⟩
      (.object (.builtin .list) []) = .error e ∧ e.kind = .collectionElementMismatch) := by
  refine ⟨⟨_, _, rfl, rfl, ?_⟩, ⟨_, rfl, ?_⟩⟩
  · have carried := (failure_kind_and_trace .empty (optional (.exact (.builtin .int))) (.str "a") ⟨"f", .keyword "x"⟩
      ⟨"f", .result⟩).2.2.1
    exact carried (.exact (.builtin .int)) _ _ rfl rfl rfl
  · have rows := (failure_kind_and_trace .empty (collectionOf (.builtin .list) (.exact (.builtin .int)))
      (.object (.builtin .list) []) ⟨"f", .result⟩ ⟨"f", .result⟩).2.2.2
    rcases rows _ rfl with ⟨⟨name, scope, same⟩, _⟩ | table
    · cases same
    · exact table.element.mpr ⟨by simp, _, rfl, _, List.mem_singleton.mpr rfl, rfl⟩

end Declaration

end CallContracts
