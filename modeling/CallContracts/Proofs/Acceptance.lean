import CallContracts.Declaration.Check

set_option autoImplicit false

namespace CallContracts

def Site.mismatchKind : Site → ViolationKind
  | .result => .returnTypeMismatch
  | _ => .parameterTypeMismatch

theorem Blame.type_mismatch_kind (blame : Blame) (v : Value) (declared : List String) :
    (blame.typeMismatch v declared).kind = if v.isAbsent then .absenceMismatch else blame.site.mismatchKind := by
  unfold typeMismatch
  split
  · rfl
  · cases blame.site <;> rfl

theorem Blame.type_mismatch_trace (blame : Blame) (v : Value) (declared : List String) :
    (blame.typeMismatch v declared).trace = [] := by
  unfold typeMismatch
  split
  · rfl
  · split <;> rfl

namespace Declaration

mutual

def references : Declaration → List Reference
  | .exact _ => []
  | .union members => memberReferences members
  | .absent => []
  | .collection entries => entryReferences entries
  | .condition _ => []
  | .reference r => [r]

def memberReferences : List (Option Declaration) → List Reference
  | [] => []
  | none :: rest => memberReferences rest
  | some d :: rest => d.references ++ memberReferences rest

def entryReferences : List (Ty × Declaration) → List Reference
  | [] => []
  | (_, d) :: rest => d.references ++ entryReferences rest

end

theorem mem_member_references (members : List (Option Declaration)) (r : Reference) :
    r ∈ memberReferences members ↔ ∃ d, some d ∈ members ∧ r ∈ d.references := by
  induction members with
  | nil => simp [memberReferences]
  | cons member rest ih => cases member <;> simp [memberReferences, ih, or_and_right, exists_or]

theorem mem_entry_references (entries : List (Ty × Declaration)) (r : Reference) :
    r ∈ entryReferences entries ↔ ∃ entry ∈ entries, r ∈ entry.2.references := by
  induction entries with
  | nil => simp [entryReferences]
  | cons entry rest ih => simp [entryReferences, ih]

theorem of_members_references (ds : List Declaration) (r : Reference) (occurs : r ∈ (ofMembers ds).references) :
    ∃ d ∈ ds, r ∈ d.references := by
  match ds with
  | [] => simp [ofMembers, references] at occurs
  | [d] => exact ⟨d, by simp, occurs⟩
  | d :: e :: rest =>
      change r ∈ memberReferences ((d :: e :: rest).map some) at occurs
      rw [mem_member_references] at occurs
      simpa using occurs

theorem strip_absence_references (d : Declaration) (r : Reference) (occurs : r ∈ d.stripAbsence.1.references) :
    r ∈ d.references := by
  cases d with
  | union members =>
      rw [stripAbsence] at occurs
      split at occurs
      · obtain ⟨d, member, inside⟩ := of_members_references _ r occurs
        rw [references, mem_member_references]
        exact ⟨d, by simpa using member, inside⟩
      · exact occurs
  | _ => exact occurs

theorem all_admitted_error (admits : Value → Except Violation Bool) (items : List Value) (u : Violation)
    (failed : allAdmitted admits items = .error u) : ∃ item ∈ items, admits item = .error u := by
  induction items with
  | nil => cases failed
  | cons item rest ih =>
      rw [allAdmitted] at failed
      cases verdict : admits item with
      | error e =>
          rw [verdict] at failed
          exact ⟨item, by simp, by rw [verdict]; exact failed⟩
      | ok admitted =>
          rw [verdict] at failed
          cases admitted with
          | false => cases failed
          | true =>
              obtain ⟨other, member, same⟩ := ih failed
              exact ⟨other, by simp [member], same⟩

theorem all_admitted_iff (admits : Value → Except Violation Bool) (items : List Value) :
    allAdmitted admits items = .ok true ↔ ∀ item ∈ items, admits item = .ok true := by
  induction items with
  | nil => simp [allAdmitted]
  | cons item rest ih =>
      rw [allAdmitted, List.forall_mem_cons]
      cases verdict : admits item with
      | error e => simp
      | ok admitted => cases admitted <;> simp [ih]

theorem accepts_entry_find (bindings : Bindings) (entries : List (Ty × Declaration)) (v : Value) :
    acceptsEntry bindings entries v =
      match entries.find? fun entry => entry.1 = v.type with
      | none => .ok false
      | some (_, d) =>
          match v.elements with
          | none => .ok false
          | some items => allAdmitted (d.accepts bindings) items := by
  induction entries with
  | nil => rfl
  | cons entry rest ih =>
      obtain ⟨container, d⟩ := entry
      by_cases same : container = v.type
      · cases shape : v.elements <;> simp [acceptsEntry, same, shape]
      · simpa [acceptsEntry, same] using ih

theorem reference_error (bindings : Bindings) (r : Reference) (v : Value) (u : Violation)
    (failed : r.isInstance bindings v = .error u) :
    bindings.find? r.scope r.name = none ∧ u = Violation.unresolved r.name r.scope.name := by
  unfold Reference.isInstance Reference.resolve Bindings.lookup at failed
  cases found : bindings.find? r.scope r.name with
  | some t =>
      rw [found] at failed
      cases failed
  | none =>
      rw [found] at failed
      cases failed
      exact ⟨rfl, rfl⟩

mutual

theorem accepts_error (bindings : Bindings) (d : Declaration) (v : Value) (u : Violation)
    (failed : d.accepts bindings v = .error u) :
    ∃ r ∈ d.references, bindings.find? r.scope r.name = none ∧ u = Violation.unresolved r.name r.scope.name := by
  cases d with
  | exact type =>
      rw [accepts] at failed
      cases failed
  | union members =>
      rw [accepts] at failed
      exact accepts_member_error bindings members v u failed
  | absent =>
      rw [accepts] at failed
      cases failed
  | collection entries =>
      rw [accepts] at failed
      exact accepts_entry_error bindings entries v u failed
  | condition c =>
      rw [accepts] at failed
      cases failed
  | reference r =>
      rw [accepts] at failed
      exact ⟨r, by simp [references], reference_error bindings r v u failed⟩

theorem accepts_member_error (bindings : Bindings) (members : List (Option Declaration)) (v : Value) (u : Violation)
    (failed : acceptsMember bindings members v = .error u) :
    ∃ r ∈ memberReferences members,
      bindings.find? r.scope r.name = none ∧ u = Violation.unresolved r.name r.scope.name := by
  cases members with
  | nil =>
      rw [acceptsMember] at failed
      cases failed
  | cons member rest =>
      cases member with
      | none =>
          rw [acceptsMember] at failed
          split at failed
          · cases failed
          · exact accepts_member_error bindings rest v u failed
      | some d =>
          rw [acceptsMember] at failed
          cases verdict : d.accepts bindings v with
          | error e =>
              rw [verdict] at failed
              cases failed
              obtain ⟨r, member, unbound⟩ := accepts_error bindings d v u verdict
              exact ⟨r, by simp [memberReferences, member], unbound⟩
          | ok admitted =>
              rw [verdict] at failed
              cases admitted with
              | true => cases failed
              | false =>
                  obtain ⟨r, member, unbound⟩ := accepts_member_error bindings rest v u failed
                  exact ⟨r, by simp [memberReferences, member], unbound⟩

theorem accepts_entry_error (bindings : Bindings) (entries : List (Ty × Declaration)) (v : Value) (u : Violation)
    (failed : acceptsEntry bindings entries v = .error u) :
    ∃ r ∈ entryReferences entries,
      bindings.find? r.scope r.name = none ∧ u = Violation.unresolved r.name r.scope.name := by
  cases entries with
  | nil =>
      rw [acceptsEntry] at failed
      cases failed
  | cons entry rest =>
      obtain ⟨container, d⟩ := entry
      rw [acceptsEntry] at failed
      split at failed
      · split at failed
        · rename_i items _
          obtain ⟨item, _, refused⟩ := all_admitted_error (d.accepts bindings) items u failed
          obtain ⟨r, member, unbound⟩ := accepts_error bindings d item u refused
          exact ⟨r, by simp [entryReferences, member], unbound⟩
        · cases failed
      · obtain ⟨r, member, unbound⟩ := accepts_entry_error bindings rest v u failed
        exact ⟨r, by simp [entryReferences, member], unbound⟩

end

end Declaration

end CallContracts
