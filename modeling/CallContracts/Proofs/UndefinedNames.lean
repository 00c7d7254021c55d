import CallContracts.Proofs.FailureTable
import CallContracts.Proofs.Parsing

set_option autoImplicit false

namespace CallContracts

namespace Declaration

mutual

theorem reference_occurs (d : Declaration) (r : Reference) (inside : r ∈ d.references) : Occurs (.reference r) d := by
  cases d with
  | exact type => cases inside
  | union members =>
      obtain ⟨d, member, occurs⟩ := member_reference_occurs members r (by simpa only [references] using inside)
      exact .member members d member occurs
  | absent => cases inside
  | collection entries =>
      obtain ⟨container, d, entry, occurs⟩ := entry_reference_occurs entries r (by simpa only [references] using inside)
      exact .element entries container d entry occurs
  | condition c => cases inside
  | reference other =>
      cases List.mem_singleton.mp (by simpa only [references] using inside)
      exact .here

theorem member_reference_occurs (members : List (Option Declaration)) (r : Reference)
    (inside : r ∈ memberReferences members) : ∃ d, some d ∈ members ∧ Occurs (.reference r) d := by
  cases members with
  | nil => cases inside
  | cons member rest =>
      cases member with
      | none =>
          obtain ⟨d, member, occurs⟩ := member_reference_occurs rest r (by simpa only [memberReferences] using inside)
          exact ⟨d, by simp [member], occurs⟩
      | some d =>
          rw [memberReferences, List.mem_append] at inside
          rcases inside with here | later
          · exact ⟨d, by simp, reference_occurs d r here⟩
          · obtain ⟨e, member, occurs⟩ := member_reference_occurs rest r later
            exact ⟨e, by simp [member], occurs⟩

theorem entry_reference_occurs (entries : List (Ty × Declaration)) (r : Reference)
    (inside : r ∈ entryReferences entries) : ∃ container d, (container, d) ∈ entries ∧ Occurs (.reference r) d := by
  cases entries with
  | nil => cases inside
  | cons entry rest =>
      obtain ⟨container, d⟩ := entry
      rw [entryReferences, List.mem_append] at inside
      rcases inside with here | later
      · exact ⟨container, d, by simp, reference_occurs d r here⟩
      · obtain ⟨other, e, member, occurs⟩ := entry_reference_occurs rest r later
        exact ⟨other, e, by simp [member], occurs⟩

end

theorem occurs_iff_references (r : Reference) (d : Declaration) : Occurs (.reference r) d ↔ r ∈ d.references := by
  refine ⟨fun occurs => ?_, reference_occurs d r⟩
  induction occurs with
  | here => simp [references]
  | member members d inside occurs ih =>
      rw [references, mem_member_references]
      exact ⟨d, inside, ih⟩
  | element entries container d inside occurs ih =>
      rw [references, mem_entry_references]
      exact ⟨(container, d), inside, ih⟩

variable (bindings : Bindings)

def Undefined (d : Declaration) (kind : ViolationKind) : Prop :=
  ∃ r ∈ d.references, bindings.find? r.scope r.name = none ∧ kind = .unresolvedReference r.name r.scope.name

theorem undefined_occurs (d : Declaration) (kind : ViolationKind) (undefined : d.Undefined bindings kind) :
    ∃ r, Occurs (.reference r) d ∧ bindings.find? r.scope r.name = none ∧
      kind = .unresolvedReference r.name r.scope.name := by
  obtain ⟨r, inside, unbound, same⟩ := undefined
  exact ⟨r, (occurs_iff_references r d).mpr inside, unbound, same⟩

theorem reference_unbound (r : Reference) (v : Value) (unbound : bindings.find? r.scope r.name = none) :
    (Declaration.reference r).accepts bindings v = .error (Violation.unresolved r.name r.scope.name) := by
  rw [accepts, Reference.isInstance, Reference.resolve, Bindings.lookup, unbound]
  rfl

theorem accepts_undefined (d : Declaration) (v : Value) (u : Violation) (failed : d.accepts bindings v = .error u) :
    d.Undefined bindings u.kind := by
  obtain ⟨r, inside, unbound, rfl⟩ := accepts_error bindings d v u failed
  exact ⟨r, inside, unbound, rfl⟩

theorem spoils_undefined (blame : Blame) (entries : List (Ty × Declaration)) (v : Value) (e : Violation)
    (given : v ≠ .absent) (spoils : Spoils bindings blame entries v e) (unresolved : e.kind.IsUnresolved) :
    (Declaration.collection entries).Undefined bindings e.kind := by
  cases spoils with
  | container unknown => exact False.elim ((container_table entries v blame.site given unknown).resolved unresolved)
  | plain container element found shape =>
      have known := has_key_of_find entries v.type _ found
      exact False.elim ((element_table entries v blame.site given known).resolved unresolved)
  | elements container element items found shape verdicts offends =>
      have known := has_key_of_find entries v.type _ found
      exact False.elim ((element_table entries v blame.site given known).resolved unresolved)
  | undecided container element front back item u found shape verdicts stops =>
      obtain ⟨r, inside, unbound, kind⟩ := accepts_undefined bindings element item e stops
      refine ⟨r, ?_, unbound, kind⟩
      rw [references, mem_entry_references]
      exact ⟨(container, element), List.mem_of_find?_eq_some found, inside⟩

theorem breaks_undefined (blame : Blame) (d : Declaration) (v : Value) (e : Violation)
    (breaks : Breaks bindings blame v d e) (unresolved : e.kind.IsUnresolved) : d.Undefined bindings e.kind := by
  cases breaks with
  | refused d tested verdict =>
      exact False.elim ((type_mismatch_table d v blame d.describe (.inl tested)).resolved unresolved)
  | undecided d u tested verdict => exact accepts_undefined bindings d v e verdict
  | condition c unmet =>
      obtain ⟨name, scope, same⟩ := unresolved
      cases same
  | unexpected given =>
      obtain ⟨name, scope, same⟩ := unresolved
      cases same
  | missing entries missing =>
      exact False.elim ((type_mismatch_table _ v blame _ (.inr ⟨missing, entries, rfl⟩)).resolved unresolved)
  | collection entries inner given spoils =>
      exact spoils_undefined bindings blame entries v inner given spoils unresolved

theorem check_undefined (blame : Blame) (d : Declaration) (v : Value) (e : Violation)
    (failed : d.check bindings blame v = .error e) (unresolved : e.kind.IsUnresolved) :
    d.Undefined bindings e.kind := by
  obtain ⟨_, breaks⟩ := (check_error_iff bindings blame d v e).mp failed
  obtain ⟨r, inside, unbound, kind⟩ := breaks_undefined bindings blame _ v e breaks unresolved
  exact ⟨r, strip_absence_references d r inside, unbound, kind⟩

-- Only an undefined name of the declaration keeps a value from being judged.
theorem undefined_name_reported (d : Declaration) (v : Value) :
    (∀ u, d.accepts bindings v = .error u →
      u.trace = [] ∧ ∃ r, Occurs (.reference r) d ∧ bindings.find? r.scope r.name = none ∧
        u.kind = .unresolvedReference r.name r.scope.name) ∧
    (∀ blame e, d.check bindings blame v = .error e → e.kind.IsUnresolved →
      ∃ r, Occurs (.reference r) d ∧ bindings.find? r.scope r.name = none ∧
        e.kind = .unresolvedReference r.name r.scope.name) ∧
    ((∀ r, Occurs (.reference r) d → ∃ t, bindings.find? r.scope r.name = some t) →
      (∃ admitted, d.accepts bindings v = .ok admitted) ∧
        ∀ blame e, d.check bindings blame v = .error e → ¬ e.kind.IsUnresolved) ∧
    (∀ r, bindings.find? r.scope r.name = none →
      (Declaration.reference r).accepts bindings v = .error (Violation.unresolved r.name r.scope.name) ∧
        ∀ blame, (Declaration.reference r).check bindings blame v =
          .error (Violation.unresolved r.name r.scope.name)) := by
  refine ⟨?_, ?_, ?_, ?_⟩
  · intro u failed
    have undefined := accepts_undefined bindings d v u failed
    exact ⟨(accepts_error_unresolved bindings d v u failed).2, undefined_occurs bindings d u.kind undefined⟩
  · intro blame e failed unresolved
    exact undefined_occurs bindings d e.kind (check_undefined bindings blame d v e failed unresolved)
  · intro bound
    have defined : ∀ kind, ¬ d.Undefined bindings kind := by
      intro kind undefined
      obtain ⟨r, occurs, unbound, _⟩ := undefined_occurs bindings d kind undefined
      obtain ⟨t, found⟩ := bound r occurs
      rw [unbound] at found
      cases found
    refine ⟨?_, fun blame e failed unresolved => defined _ (check_undefined bindings blame d v e failed unresolved)⟩
    cases verdict : d.accepts bindings v with
    | ok admitted => exact ⟨admitted, rfl⟩
    | error u => exact False.elim (defined _ (accepts_undefined bindings d v u verdict))
  · intro r unbound
    have verdict := reference_unbound bindings r v unbound
    refine ⟨verdict, fun blame => ?_⟩
    exact (check_error_iff bindings blame _ v _).mpr ⟨by simp [HasAbsenceMember], .undecided _ _ trivial verdict⟩

def optionalNodes : Declaration :=
  collectionOf (.builtin .list) (optional (collectionOf (.builtin .bytes) (.reference ⟨"Node", ⟨0, "main"⟩⟩)))

theorem undefined_name_reported_deep :
    (∃ u, optionalNodes.accepts .empty (.list [.absent, .bytes [7]]) = .error u ∧ u.trace = [] ∧
      ∃ r, Occurs (.reference r) optionalNodes ∧ u.kind = .unresolvedReference r.name r.scope.name) ∧
    (∃ admitted, optionalNodes.accepts (Bindings.empty.defineAs ⟨0, "main"⟩ "Node" (.builtin .int))
      (.list [.absent, .bytes [7]]) = .ok admitted) := by
  refine ⟨?_, ?_⟩
  · obtain ⟨trace, r, occurs, _, kind⟩ :=
      (undefined_name_reported .empty optionalNodes (.list [.absent, .bytes [7]])).1 _ rfl
    exact ⟨_, rfl, trace, r, occurs, kind⟩
  · refine ((undefined_name_reported _ optionalNodes (.list [.absent, .bytes [7]])).2.2.1 ?_).1
    intro r occurs
    cases List.mem_singleton.mp ((occurs_iff_references r optionalNodes).mp occurs)
    exact ⟨.builtin .int, rfl⟩

end Declaration

end CallContracts
