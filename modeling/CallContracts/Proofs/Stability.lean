import CallContracts.Proofs.Acceptance

set_option autoImplicit false

namespace CallContracts

def Bindings.GrowsTo (before after : Bindings) : Prop :=
  ∀ scope name t, before.find? scope name = some t → after.find? scope name = some t

theorem Bindings.grows_define (bindings : Bindings) (scope : Scope) (name : String) (t : Ty)
    (unbound : bindings.find? scope name = none) : bindings.GrowsTo (bindings.defineAs scope name t) := by
  intro other query held found
  rw [find_define]
  by_cases same : other.id = scope.id ∧ query = name
  · have absent : bindings.find? other query = none := by
      rw [← unbound, same.2, find?, find?, same.1]
    rw [found] at absent
    cases absent
  · rw [if_neg same]
    exact found

def ViolationKind.IsUnresolved (kind : ViolationKind) : Prop := ∃ name scope, kind = .unresolvedReference name scope

-- The second answer is the first, unless the first is a violation of a kind that may be lifted.
def Persists {α : Type} (lifted : ViolationKind → Prop) (first second : Except Violation α) : Prop :=
  second = first ∨ ∃ e, first = .error e ∧ lifted e.kind

section

variable {α : Type} {lifted : ViolationKind → Prop}

theorem persists_refl (answer : Except Violation α) : Persists lifted answer answer := .inl rfl

theorem persists_settled (first second : Except Violation α) (persists : Persists lifted first second)
    (settled : ∀ e, first = .error e → ¬ lifted e.kind) : second = first := by
  rcases persists with same | ⟨e, failed, may⟩
  · exact same
  · exact False.elim (settled e failed may)

theorem persists_decide (first second : Except Violation Bool) (yes yes' no no' : Except Violation α) :
    Persists lifted first second → Persists lifted yes yes' → Persists lifted no no' →
    Persists lifted
      (match first with
      | .ok true => yes
      | .ok false => no
      | .error e => .error e)
      (match second with
      | .ok true => yes'
      | .ok false => no'
      | .error e => .error e) := by
  intro verdict onYes onNo
  rcases verdict with same | ⟨e, failed, may⟩
  · subst same
    cases second with
    | error e => exact persists_refl _
    | ok admitted =>
        cases admitted with
        | true => exact onYes
        | false => exact onNo
  · subst failed
    exact .inr ⟨e, rfl, may⟩

theorem persists_map {β : Type} (f : α → β) (first second : Except Violation α)
    (persists : Persists lifted first second) : Persists lifted (first.map f) (second.map f) := by
  rcases persists with same | ⟨e, failed, may⟩
  · exact .inl (by rw [same])
  · subst failed
    exact .inr ⟨e, rfl, may⟩

theorem persists_within (frame : String) (first second : Except Violation α) (persists : Persists lifted first second) :
    Persists lifted (first.mapError (·.within frame)) (second.mapError (·.within frame)) := by
  rcases persists with same | ⟨e, failed, may⟩
  · exact .inl (by rw [same])
  · subst failed
    exact .inr ⟨e.within frame, rfl, may⟩

end

namespace Declaration

def ReferencesPersist (lifted : ViolationKind → Prop) (before after : Bindings) (references : List Reference) : Prop :=
  ∀ r ∈ references, ∀ v, Persists lifted (r.isInstance before v) (r.isInstance after v)

theorem references_persist_growth (before after : Bindings) (references : List Reference)
    (grows : before.GrowsTo after) : ReferencesPersist ViolationKind.IsUnresolved before after references := by
  intro r _ v
  unfold Reference.isInstance Reference.resolve Bindings.lookup
  cases found : before.find? r.scope r.name with
  | some t =>
      rw [grows r.scope r.name t found]
      exact persists_refl _
  | none => exact .inr ⟨_, rfl, r.name, r.scope.name, rfl⟩

theorem references_persist_agreement (before after : Bindings) (references : List Reference)
    (agree : ∀ r ∈ references, before.find? r.scope r.name = after.find? r.scope r.name) :
    ReferencesPersist (fun _ => False) before after references := by
  intro r occurs v
  unfold Reference.isInstance Reference.resolve Bindings.lookup
  rw [agree r occurs]
  exact persists_refl _

variable {lifted : ViolationKind → Prop} {before after : Bindings}

theorem all_admitted_persists (admits admits' : Value → Except Violation Bool)
    (persists : ∀ v, Persists lifted (admits v) (admits' v)) (items : List Value) :
    Persists lifted (allAdmitted admits items) (allAdmitted admits' items) := by
  induction items with
  | nil => exact persists_refl _
  | cons item rest ih =>
      rw [allAdmitted, allAdmitted]
      exact persists_decide _ _ _ _ _ _ (persists item) ih (persists_refl _)

mutual

theorem accepts_persists (d : Declaration) (v : Value)
    (persist : ReferencesPersist lifted before after d.references) :
    Persists lifted (d.accepts before v) (d.accepts after v) := by
  cases d with
  | exact type =>
      rw [accepts, accepts]
      exact persists_refl _
  | union members =>
      rw [accepts, accepts]
      exact accepts_member_persists members v persist
  | absent =>
      rw [accepts, accepts]
      exact persists_refl _
  | collection entries =>
      rw [accepts, accepts]
      exact accepts_entry_persists entries v persist
  | condition c =>
      rw [accepts, accepts]
      exact persists_refl _
  | reference r =>
      rw [accepts, accepts]
      exact persist r (by simp [references]) v

theorem accepts_member_persists (members : List (Option Declaration)) (v : Value)
    (persist : ReferencesPersist lifted before after (memberReferences members)) :
    Persists lifted (acceptsMember before members v) (acceptsMember after members v) := by
  cases members with
  | nil =>
      rw [acceptsMember, acceptsMember]
      exact persists_refl _
  | cons member rest =>
      cases member with
      | none =>
          rw [acceptsMember, acceptsMember]
          split
          · exact persists_refl _
          · exact accepts_member_persists rest v persist
      | some d =>
          have first := accepts_persists d v fun r occurs => persist r (by simp [memberReferences, occurs])
          have later := accepts_member_persists rest v fun r occurs => persist r (by simp [memberReferences, occurs])
          rw [acceptsMember, acceptsMember]
          exact persists_decide _ _ _ _ _ _ first (persists_refl _) later

theorem accepts_entry_persists (entries : List (Ty × Declaration)) (v : Value)
    (persist : ReferencesPersist lifted before after (entryReferences entries)) :
    Persists lifted (acceptsEntry before entries v) (acceptsEntry after entries v) := by
  cases entries with
  | nil =>
      rw [acceptsEntry, acceptsEntry]
      exact persists_refl _
  | cons entry rest =>
      obtain ⟨container, d⟩ := entry
      rw [acceptsEntry, acceptsEntry]
      split
      · split
        · apply all_admitted_persists
          intro item
          exact accepts_persists d item fun r occurs => persist r (by simp [entryReferences, occurs])
        · exact persists_refl _
      · exact accepts_entry_persists rest v fun r occurs => persist r (by simp [entryReferences, occurs])

end

theorem offenders_persist (d : Declaration) (items : List Value)
    (persist : ReferencesPersist lifted before after d.references) :
    Persists lifted (d.offenders before items) (d.offenders after items) := by
  induction items with
  | nil => exact persists_refl _
  | cons item rest ih =>
      rw [offenders, offenders]
      exact persists_decide _ _ _ _ _ _ (accepts_persists d item persist) ih (persists_map _ _ _ ih)

theorem check_collection_persists (blame : Blame) (entries : List (Ty × Declaration)) (v : Value)
    (persist : ReferencesPersist lifted before after (entryReferences entries)) :
    Persists lifted (checkCollection before blame entries v) (checkCollection after blame entries v) := by
  rw [checkCollection, checkCollection]
  cases found : entries.find? fun entry => entry.1 = v.type with
  | none => exact persists_refl _
  | some entry =>
      obtain ⟨container, element⟩ := entry
      have inside : ReferencesPersist lifted before after element.references := by
        intro r occurs
        exact persist r ((mem_entry_references entries r).mpr ⟨_, List.mem_of_find?_eq_some found, occurs⟩)
      cases shape : v.elements with
      | none => exact persists_refl _
      | some items =>
          dsimp only
          rcases offenders_persist element items inside with same | ⟨e, failed, may⟩
          · rw [same]
            exact persists_refl _
          · rw [failed]
            exact .inr ⟨e, rfl, may⟩

theorem check_stripped_persists (blame : Blame) (d : Declaration) (v : Value)
    (persist : ReferencesPersist lifted before after d.references) :
    Persists lifted (d.checkStripped before blame v) (d.checkStripped after blame v) := by
  have verdict := accepts_persists d v persist
  cases d with
  | exact type => exact persists_decide _ _ _ _ _ _ verdict (persists_refl _) (persists_refl _)
  | union members => exact persists_decide _ _ _ _ _ _ verdict (persists_refl _) (persists_refl _)
  | reference r => exact persists_decide _ _ _ _ _ _ verdict (persists_refl _) (persists_refl _)
  | absent => exact persists_refl _
  | condition c => exact persists_refl _
  | collection entries =>
      rw [checkStripped, checkStripped]
      split
      · exact persists_refl _
      · exact persists_within "check" _ _ (check_collection_persists blame entries v persist)

theorem check_persists (blame : Blame) (d : Declaration) (v : Value)
    (persist : ReferencesPersist lifted before after d.references) :
    Persists lifted (d.check before blame v) (d.check after blame v) := by
  rw [check, check]
  dsimp only
  split
  · exact persists_refl _
  · exact check_stripped_persists blame d.stripAbsence.1 v fun r occurs =>
      persist r (strip_absence_references d r occurs)

-- Only the complaint that a name is not defined can be lifted by a definition.
theorem verdict_stable (before after : Bindings) (blame : Blame) (d : Declaration) (v : Value) :
    (before.GrowsTo after →
      (∀ admitted, d.accepts before v = .ok admitted → d.accepts after v = .ok admitted) ∧
      (d.check before blame v = .ok () → d.check after blame v = .ok ()) ∧
      (∀ e, d.check before blame v = .error e → (∀ name scope, e.kind ≠ .unresolvedReference name scope) →
        d.check after blame v = .error e)) ∧
    ((∀ r ∈ d.references, before.find? r.scope r.name = after.find? r.scope r.name) →
      d.accepts before v = d.accepts after v ∧ d.check before blame v = d.check after blame v) := by
  refine ⟨fun grows => ?_, fun agree => ?_⟩
  · have persist := references_persist_growth before after d.references grows
    have verdict := accepts_persists d v persist
    have report := check_persists blame d v persist
    refine ⟨fun admitted decided => ?_, fun passed => ?_, fun e failed resolved => ?_⟩
    · rw [decided] at verdict
      exact persists_settled _ _ verdict (by simp)
    · rw [passed] at report
      exact persists_settled _ _ report (by simp)
    · rw [failed] at report
      apply persists_settled _ _ report
      intro other same unresolved
      cases same
      obtain ⟨name, scope, kind⟩ := unresolved
      exact resolved name scope kind
  · have persist := references_persist_agreement before after d.references agree
    have verdict := persists_settled _ _ (accepts_persists d v persist) (by simp)
    have report := persists_settled _ _ (check_persists blame d v persist) (by simp)
    exact ⟨verdict.symm, report.symm⟩

theorem verdict_stable_unreached_name :
    ∃ d : Declaration, d = .union [some (.exact (.builtin .int)), some (.reference ⟨"T", ⟨0, "s"⟩⟩)] ∧
      d.accepts .empty (.int 1) = .ok true ∧
      d.accepts (Bindings.empty.defineAs ⟨0, "s"⟩ "T" (.builtin .str)) (.int 1) = .ok true ∧
      (∃ e, (collectionOf (.builtin .tuple) d).check .empty ⟨"f", .result⟩ (.int 1) = .error e ∧
        (collectionOf (.builtin .tuple) d).check (Bindings.empty.defineAs ⟨0, "s"⟩ "T" (.builtin .str)) ⟨"f", .result⟩
          (.int 1) = .error e) ∧
      d.accepts .empty (.list []) = d.accepts (Bindings.empty.defineAs ⟨1, "s"⟩ "T" (.builtin .list)) (.list []) := by
  have grows : Bindings.empty.GrowsTo (Bindings.empty.defineAs ⟨0, "s"⟩ "T" (.builtin .str)) :=
    Bindings.grows_define .empty ⟨0, "s"⟩ "T" (.builtin .str) rfl
  refine ⟨_, rfl, rfl, ?_, ⟨_, rfl, ?_⟩, ?_⟩
  · exact ((verdict_stable _ _ ⟨"f", .result⟩ _ _).1 grows).1 true rfl
  · exact ((verdict_stable _ _ ⟨"f", .result⟩ _ _).1 grows).2.2 _ rfl (by intro name scope same; cases same)
  · exact ((verdict_stable _ _ ⟨"f", .result⟩ _ _).2 (by decide)).1

end Declaration

end CallContracts
