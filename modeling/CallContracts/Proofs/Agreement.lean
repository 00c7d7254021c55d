import CallContracts.Proofs.Acceptance

set_option autoImplicit false

namespace CallContracts

-- Traces are left open, since a collection adds a frame on the way out.
inductive Reports : Except Violation Bool → Except Violation Unit → Prop where
  | passed : Reports (.ok true) (.ok ())
  | refused (e : Violation) : Reports (.ok false) (.error e)
  | undecided (u e : Violation) (kind : e.kind = u.kind) (message : e.message = u.message) :
      Reports (.error u) (.error e)

theorem reports_within (frame : String) (verdict : Except Violation Bool) (report : Except Violation Unit)
    (reports : Reports verdict report) : Reports verdict (report.mapError (·.within frame)) := by
  cases reports with
  | passed => exact .passed
  | refused e => exact .refused (e.within frame)
  | undecided u e kind message => exact .undecided u (e.within frame) kind message

theorem reports_verdict (verdict : Except Violation Bool) (refusal : Violation) :
    Reports verdict
      (match verdict with
      | .ok true => .ok ()
      | .ok false => .error refusal
      | .error e => .error e) := by
  cases verdict with
  | error u => exact .undecided u u rfl rfl
  | ok admitted =>
      cases admitted with
      | true => exact .passed
      | false => exact .refused refusal

namespace Declaration

def HasAbsenceMember (d : Declaration) : Prop := ∃ members, d = .union members ∧ none ∈ members

theorem offenders_empty_iff (bindings : Bindings) (d : Declaration) (items : List Value) :
    d.offenders bindings items = .ok [] ↔ allAdmitted (d.accepts bindings) items = .ok true := by
  induction items with
  | nil => exact ⟨fun _ => rfl, fun _ => rfl⟩
  | cons item rest ih =>
      rw [offenders, allAdmitted]
      cases verdict : d.accepts bindings item with
      | error e => simp
      | ok admitted =>
          cases admitted with
          | true => exact ih
          | false => cases found : d.offenders bindings rest <;> simp [Except.map]

theorem offenders_undecided (bindings : Bindings) (d : Declaration) (items : List Value) (u : Violation)
    (failed : allAdmitted (d.accepts bindings) items = .error u) : d.offenders bindings items = .error u := by
  induction items with
  | nil => cases failed
  | cons item rest ih =>
      rw [allAdmitted] at failed
      rw [offenders]
      cases verdict : d.accepts bindings item with
      | error e =>
          rw [verdict] at failed
          cases failed
          rfl
      | ok admitted =>
          rw [verdict] at failed
          cases admitted with
          | true => exact ih failed
          | false => cases failed

theorem check_collection_reports (bindings : Bindings) (blame : Blame) (entries : List (Ty × Declaration)) (v : Value) :
    Reports (acceptsEntry bindings entries v) (checkCollection bindings blame entries v) := by
  rw [accepts_entry_find, checkCollection]
  cases found : entries.find? fun entry => entry.1 = v.type with
  | none => exact .refused _
  | some entry =>
      obtain ⟨container, element⟩ := entry
      cases shape : v.elements with
      | none => exact .refused _
      | some items =>
          dsimp only
          cases verdict : allAdmitted (element.accepts bindings) items with
          | error u =>
              rw [offenders_undecided bindings element items u verdict]
              exact .undecided u u rfl rfl
          | ok admitted =>
              cases admitted with
              | true =>
                  rw [(offenders_empty_iff bindings element items).mpr verdict]
                  exact .passed
              | false =>
                  cases listed : element.offenders bindings items with
                  | error e => exact .refused e
                  | ok offending =>
                      cases offending with
                      | nil =>
                          have all := (offenders_empty_iff bindings element items).mp listed
                          rw [verdict] at all
                          cases all
                      | cons first others => exact .refused _

theorem accepts_entry_absent (bindings : Bindings) (entries : List (Ty × Declaration)) :
    acceptsEntry bindings entries .absent = .ok false := by
  rw [accepts_entry_find]
  cases entries.find? fun entry => entry.1 = Value.type .absent <;> rfl

theorem check_stripped_reports (bindings : Bindings) (blame : Blame) (d : Declaration) (v : Value) :
    Reports (d.accepts bindings v) (d.checkStripped bindings blame v) := by
  cases d with
  | exact type => exact reports_verdict _ _
  | union members => exact reports_verdict _ _
  | reference r => exact reports_verdict _ _
  | absent =>
      rw [accepts, checkStripped]
      cases v.isAbsent with
      | true => exact .passed
      | false => exact .refused _
  | condition c =>
      rw [accepts, checkStripped]
      cases c.test v with
      | true => exact .passed
      | false => exact .refused _
  | collection entries =>
      rw [accepts, checkStripped]
      cases v with
      | absent =>
          rw [accepts_entry_absent]
          exact .refused _
      | _ => exact reports_within "check" _ _ (check_collection_reports bindings blame entries _)

theorem accepts_member_present (bindings : Bindings) (members : List (Option Declaration)) (v : Value)
    (present : v.isAbsent = false) :
    acceptsMember bindings members v = acceptsMember bindings ((members.filterMap id).map some) v := by
  induction members with
  | nil => rfl
  | cons member rest ih =>
      cases member with
      | none => simpa [acceptsMember, present] using ih
      | some d => simp only [List.filterMap_cons, id, List.map_cons, acceptsMember, ih]

theorem accepts_of_members (bindings : Bindings) (ds : List Declaration) (v : Value) (present : v.isAbsent = false) :
    (ofMembers ds).accepts bindings v = acceptsMember bindings (ds.map some) v := by
  match ds with
  | [] =>
      rw [ofMembers, accepts, present]
      rfl
  | [d] =>
      rw [ofMembers, List.map_cons, acceptsMember]
      cases d.accepts bindings v with
      | error e => rfl
      | ok admitted => cases admitted <;> rfl
  | d :: e :: rest =>
      change (Declaration.union ((d :: e :: rest).map some)).accepts bindings v = _
      rw [accepts]

theorem accepts_strip_absence (bindings : Bindings) (d : Declaration) (v : Value) (present : v.isAbsent = false) :
    d.stripAbsence.1.accepts bindings v = d.accepts bindings v := by
  cases d with
  | union members =>
      rw [stripAbsence]
      split
      · rw [accepts_of_members bindings _ v present, ← accepts_member_present bindings members v present, accepts]
      · rfl
  | _ => rfl

theorem strip_absence_flag (d : Declaration) : d.stripAbsence.2 = true ↔ d.HasAbsenceMember := by
  unfold HasAbsenceMember
  cases d with
  | union members => by_cases some : none ∈ members <;> simp [stripAbsence, some]
  | _ => simp [stripAbsence]

theorem strip_absence_unchanged (d : Declaration) (without : d.stripAbsence.2 = false) : d.stripAbsence.1 = d := by
  cases d with
  | union members =>
      rw [stripAbsence] at without ⊢
      split at without
      · cases without
      · rename_i noAbsence
        rw [if_neg noAbsence]
  | _ => rfl

theorem unserved_flag (d : Declaration) (v : Value) (ordinary : ¬ (v = .absent ∧ d.HasAbsenceMember)) :
    (d.stripAbsence.2 && v.isAbsent) = false := by
  cases flag : d.stripAbsence.2 with
  | false => rfl
  | true =>
      cases v with
      | absent => exact False.elim (ordinary ⟨rfl, (strip_absence_flag d).mp flag⟩)
      | _ => rfl

theorem check_unserved (bindings : Bindings) (blame : Blame) (d : Declaration) (v : Value)
    (ordinary : ¬ (v = .absent ∧ d.HasAbsenceMember)) :
    d.check bindings blame v = d.stripAbsence.1.checkStripped bindings blame v := by
  rw [check]
  simp [unserved_flag d v ordinary]

theorem check_reports (bindings : Bindings) (blame : Blame) (d : Declaration) (v : Value)
    (ordinary : ¬ (v = .absent ∧ d.HasAbsenceMember)) :
    Reports (d.accepts bindings v) (d.check bindings blame v) := by
  have same : d.stripAbsence.1.accepts bindings v = d.accepts bindings v := by
    cases absence : v.isAbsent with
    | false => exact accepts_strip_absence bindings d v absence
    | true =>
        have without : d.stripAbsence.2 = false := by simpa [absence] using unserved_flag d v ordinary
        rw [strip_absence_unchanged d without]
  rw [check_unserved bindings blame d v ordinary, ← same]
  exact check_stripped_reports bindings blame d.stripAbsence.1 v

theorem check_absence_member (bindings : Bindings) (blame : Blame) (d : Declaration) (has : d.HasAbsenceMember) :
    d.check bindings blame .absent = .ok () := by
  rw [check]
  simp [(strip_absence_flag d).mpr has, Value.isAbsent]

theorem check_passes_iff (bindings : Bindings) (blame : Blame) (d : Declaration) (v : Value) :
    d.check bindings blame v = .ok () ↔ d.accepts bindings v = .ok true ∨ (v = .absent ∧ d.HasAbsenceMember) := by
  by_cases served : v = .absent ∧ d.HasAbsenceMember
  · obtain ⟨rfl, has⟩ := served
    simp [check_absence_member bindings blame d has, has]
  · have reports := check_reports bindings blame d v served
    generalize d.accepts bindings v = verdict at reports ⊢
    generalize d.check bindings blame v = report at reports ⊢
    cases reports with
    | passed => simp
    | refused e => simp [served]
    | undecided u e kind message => simp [served]

theorem accepts_absence_member (bindings : Bindings) (members : List (Option Declaration)) (has : none ∈ members) :
    acceptsMember bindings members .absent ≠ .ok false := by
  induction members with
  | nil => cases has
  | cons member rest ih =>
      cases member with
      | none => simp [acceptsMember, Value.isAbsent]
      | some d =>
          rw [acceptsMember]
          cases d.accepts bindings .absent with
          | error e => simp
          | ok admitted =>
              cases admitted with
              | true => simp
              | false => exact ih (by simpa using has)

-- The two part only where absence meets an absence member, and past the first offender of a collection.
theorem check_agrees_with_accepts (bindings : Bindings) (blame : Blame) (d : Declaration) (v : Value) :
    (d.check bindings blame v = .ok () ↔
      d.accepts bindings v = .ok true ∨ (v = .absent ∧ d.HasAbsenceMember)) ∧
    (∀ e, d.check bindings blame v = .error e →
      (∀ name scope, e.kind ≠ .unresolvedReference name scope) → d.accepts bindings v = .ok false) ∧
    (d.accepts bindings v = .ok false → ∃ e, d.check bindings blame v = .error e) ∧
    (∀ u, d.accepts bindings v = .error u →
      (∃ e, d.check bindings blame v = .error e ∧ e.kind = u.kind ∧ e.message = u.message) ∨
      (v = .absent ∧ d.HasAbsenceMember ∧ d.check bindings blame v = .ok ())) := by
  by_cases served : v = .absent ∧ d.HasAbsenceMember
  · obtain ⟨rfl, has⟩ := served
    have passes := check_absence_member bindings blame d has
    refine ⟨⟨fun _ => .inr ⟨rfl, has⟩, fun _ => passes⟩, ?_, ?_, fun u _ => .inr ⟨rfl, has, passes⟩⟩
    · intro e failed
      rw [passes] at failed
      cases failed
    · intro refused
      obtain ⟨members, rfl, member⟩ := has
      rw [accepts] at refused
      exact False.elim (accepts_absence_member bindings members member refused)
  · have reports := check_reports bindings blame d v served
    generalize verdictEq : d.accepts bindings v = verdict at reports ⊢
    generalize d.check bindings blame v = report at reports ⊢
    cases reports with
    | passed => simp
    | refused e => simp [served]
    | undecided u e kind message =>
        obtain ⟨r, _, _, same⟩ := accepts_error bindings d v u verdictEq
        refine ⟨by simp [served], ?_, by simp, ?_⟩
        · intro other failed resolved
          cases failed
          rw [same] at kind
          exact False.elim (resolved _ _ kind)
        · intro other failed
          cases failed
          exact .inl ⟨e, rfl, kind, message⟩

theorem check_agrees_past_refusal :
    ∃ d : Declaration, d = collectionOf (.builtin .tuple) (collectionOf (.builtin .list) (.reference ⟨"T", ⟨0, "s"⟩⟩)) ∧
      d.accepts .empty (.tuple [.int 1, .list [.int 2]]) = .ok false ∧
      (∃ e, d.check .empty ⟨"f", .result⟩ (.tuple [.int 1, .list [.int 2]]) = .error e) ∧
      (∃ e, d.check .empty ⟨"f", .result⟩ (.int 1) = .error e) ∧ d.accepts .empty (.int 1) = .ok false :=
  ⟨_, rfl, rfl, (check_agrees_with_accepts .empty ⟨"f", .result⟩ _ _).2.2.1 rfl, ⟨_, rfl⟩,
    (check_agrees_with_accepts .empty ⟨"f", .result⟩ _ _).2.1 _ rfl (by intro name scope same; cases same)⟩

end Declaration

end CallContracts
