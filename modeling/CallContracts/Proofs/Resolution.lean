import CallContracts.Proofs.Acceptance

set_option autoImplicit false

namespace CallContracts

-- Two reports that differ at most in wording.
inductive Alike (worded : Prop) : Except Violation Unit → Except Violation Unit → Prop where
  | passed : Alike worded (.ok ()) (.ok ())
  | failed (e u : Violation) (kind : u.kind = e.kind) (trace : u.trace = e.trace)
      (message : worded → u.message = e.message) : Alike worded (.error e) (.error u)

section

variable {worded : Prop}

theorem alike_refl (report : Except Violation Unit) : Alike worded report report := by
  cases report with
  | ok _ => exact .passed
  | error e => exact .failed e e rfl rfl fun _ => rfl

theorem alike_within (frame : String) (first second : Except Violation Unit) (alike : Alike worded first second) :
    Alike worded (first.mapError (·.within frame)) (second.mapError (·.within frame)) := by
  cases alike with
  | passed => exact .passed
  | failed e u kind trace message =>
      exact .failed (e.within frame) (u.within frame) kind (congrArg (· ++ [frame]) trace) message

theorem alike_verdict (verdict verdict' : Except Violation Bool) (refusal refusal' : Violation) :
    verdict' = verdict → Alike worded (.error refusal) (.error refusal') →
    Alike worded
      (match verdict with
      | .ok true => .ok ()
      | .ok false => .error refusal
      | .error e => .error e)
      (match verdict' with
      | .ok true => .ok ()
      | .ok false => .error refusal'
      | .error e => .error e) := by
  intro same refused
  subst same
  cases verdict' with
  | error e => exact alike_refl _
  | ok admitted =>
      cases admitted with
      | true => exact .passed
      | false => exact refused

theorem alike_declared (complaint : List String → Violation) (declared declared' : List String) (kind : ViolationKind)
    (trace : List String) (ofKind : ∀ names, (complaint names).kind = kind)
    (withTrace : ∀ names, (complaint names).trace = trace) (wording : worded → declared' = declared) :
    Alike worded (.error (complaint declared)) (.error (complaint declared')) := by
  refine .failed _ _ ?_ ?_ ?_
  · rw [ofKind, ofKind]
  · rw [withTrace, withTrace]
  · intro holds
    rw [wording holds]

theorem alike_eq (first second : Except Violation Unit) (alike : Alike worded first second) (holds : worded) :
    first = second := by
  cases alike with
  | passed => rfl
  | failed e u kind trace message =>
      obtain ⟨eKind, eMessage, eTrace⟩ := e
      obtain ⟨uKind, uMessage, uTrace⟩ := u
      have sameMessage := message holds
      simp only at kind trace sameMessage
      rw [kind, trace, sameMessage]

end

namespace Declaration

mutual

def resolved (bindings : Bindings) : Declaration → Declaration
  | .exact type => .exact type
  | .union members => .union (resolvedMembers bindings members)
  | .absent => .absent
  | .collection entries => .collection (resolvedEntries bindings entries)
  | .condition c => .condition c
  | .reference r =>
      match bindings.find? r.scope r.name with
      | some t => .exact t
      | none => .reference r

def resolvedMembers (bindings : Bindings) : List (Option Declaration) → List (Option Declaration)
  | [] => []
  | none :: rest => none :: resolvedMembers bindings rest
  | some d :: rest => some (d.resolved bindings) :: resolvedMembers bindings rest

def resolvedEntries (bindings : Bindings) : List (Ty × Declaration) → List (Ty × Declaration)
  | [] => []
  | (container, d) :: rest => (container, d.resolved bindings) :: resolvedEntries bindings rest

end

def NamedAsBound (bindings : Bindings) (references : List Reference) : Prop :=
  ∀ r ∈ references, ∀ t, bindings.find? r.scope r.name = some t → t.name = r.name

theorem resolved_members_map (bindings : Bindings) (members : List (Option Declaration)) :
    resolvedMembers bindings members = members.map (Option.map (resolved bindings)) := by
  induction members with
  | nil => simp [resolvedMembers]
  | cons member rest ih => cases member <;> simp [resolvedMembers, ih]

theorem resolved_entries_map (bindings : Bindings) (entries : List (Ty × Declaration)) :
    resolvedEntries bindings entries = entries.map fun entry => (entry.1, entry.2.resolved bindings) := by
  induction entries with
  | nil => simp [resolvedEntries]
  | cons entry rest ih => simp [resolvedEntries, ih]

mutual

theorem resolved_references (bindings : Bindings) (d : Declaration) (r : Reference)
    (occurs : r ∈ (d.resolved bindings).references) :
    r ∈ d.references ∧ bindings.find? r.scope r.name = none := by
  cases d with
  | union members => exact resolved_member_references bindings members r (by simpa only [resolved, references] using occurs)
  | collection entries =>
      exact resolved_entry_references bindings entries r (by simpa only [resolved, references] using occurs)
  | reference other =>
      rw [resolved] at occurs
      cases found : bindings.find? other.scope other.name with
      | some t =>
          rw [found] at occurs
          simp [references] at occurs
      | none =>
          rw [found] at occurs
          have same : r = other := by simpa [references] using occurs
          subst same
          exact ⟨occurs, found⟩
  | _ => simp [resolved, references] at occurs

theorem resolved_member_references (bindings : Bindings) (members : List (Option Declaration)) (r : Reference)
    (occurs : r ∈ memberReferences (resolvedMembers bindings members)) :
    r ∈ memberReferences members ∧ bindings.find? r.scope r.name = none := by
  cases members with
  | nil => simp [resolvedMembers, memberReferences] at occurs
  | cons member rest =>
      cases member with
      | none =>
          rw [resolvedMembers, memberReferences] at occurs
          exact resolved_member_references bindings rest r occurs
      | some d =>
          rw [resolvedMembers, memberReferences, List.mem_append] at occurs
          rw [memberReferences, List.mem_append]
          rcases occurs with first | later
          · have ⟨member, unbound⟩ := resolved_references bindings d r first
            exact ⟨.inl member, unbound⟩
          · have ⟨member, unbound⟩ := resolved_member_references bindings rest r later
            exact ⟨.inr member, unbound⟩

theorem resolved_entry_references (bindings : Bindings) (entries : List (Ty × Declaration)) (r : Reference)
    (occurs : r ∈ entryReferences (resolvedEntries bindings entries)) :
    r ∈ entryReferences entries ∧ bindings.find? r.scope r.name = none := by
  cases entries with
  | nil => simp [resolvedEntries, entryReferences] at occurs
  | cons entry rest =>
      obtain ⟨container, d⟩ := entry
      rw [resolvedEntries, entryReferences, List.mem_append] at occurs
      rw [entryReferences, List.mem_append]
      rcases occurs with first | later
      · have ⟨member, unbound⟩ := resolved_references bindings d r first
        exact ⟨.inl member, unbound⟩
      · have ⟨member, unbound⟩ := resolved_entry_references bindings rest r later
        exact ⟨.inr member, unbound⟩

end

mutual

theorem accepts_resolved (bindings : Bindings) (d : Declaration) (v : Value) :
    (d.resolved bindings).accepts bindings v = d.accepts bindings v := by
  cases d with
  | union members =>
      rw [resolved, accepts, accepts]
      exact accepts_member_resolved bindings members v
  | collection entries =>
      rw [resolved, accepts, accepts]
      exact accepts_entry_resolved bindings entries v
  | reference r =>
      rw [resolved]
      cases found : bindings.find? r.scope r.name with
      | none => rfl
      | some t =>
          rw [accepts, accepts, Reference.isInstance, Reference.resolve, Bindings.lookup, found]
          rfl
  | _ => rw [resolved]

theorem accepts_member_resolved (bindings : Bindings) (members : List (Option Declaration)) (v : Value) :
    acceptsMember bindings (resolvedMembers bindings members) v = acceptsMember bindings members v := by
  cases members with
  | nil => rw [resolvedMembers]
  | cons member rest =>
      cases member with
      | none => rw [resolvedMembers, acceptsMember, acceptsMember, accepts_member_resolved bindings rest v]
      | some d =>
          rw [resolvedMembers, acceptsMember, acceptsMember, accepts_resolved bindings d v,
            accepts_member_resolved bindings rest v]

theorem accepts_entry_resolved (bindings : Bindings) (entries : List (Ty × Declaration)) (v : Value) :
    acceptsEntry bindings (resolvedEntries bindings entries) v = acceptsEntry bindings entries v := by
  cases entries with
  | nil => rw [resolvedEntries]
  | cons entry rest =>
      obtain ⟨container, d⟩ := entry
      have same : (d.resolved bindings).accepts bindings = d.accepts bindings :=
        funext fun item => accepts_resolved bindings d item
      rw [resolvedEntries, acceptsEntry, acceptsEntry, same, accepts_entry_resolved bindings rest v]

end

mutual

theorem describe_resolved (bindings : Bindings) (d : Declaration) (named : NamedAsBound bindings d.references) :
    (d.resolved bindings).describe = d.describe := by
  cases d with
  | union members =>
      rw [resolved, describe, describe]
      exact describe_members_resolved bindings members named
  | collection entries =>
      rw [resolved, describe, describe]
      exact describe_entries_resolved bindings entries named
  | reference r =>
      rw [resolved]
      cases found : bindings.find? r.scope r.name with
      | none => rfl
      | some t =>
          have sameName := named r (by simp [references]) t found
          rw [describe, describe, sameName]
  | _ => rw [resolved]

theorem describe_members_resolved (bindings : Bindings) (members : List (Option Declaration))
    (named : NamedAsBound bindings (memberReferences members)) :
    describeMembers (resolvedMembers bindings members) = describeMembers members := by
  cases members with
  | nil => rw [resolvedMembers]
  | cons member rest =>
      cases member with
      | none => rw [resolvedMembers, describeMembers, describeMembers, describe_members_resolved bindings rest named]
      | some d =>
          have first := describe_resolved bindings d fun r occurs => named r (by simp [memberReferences, occurs])
          have later := describe_members_resolved bindings rest fun r occurs =>
            named r (by simp [memberReferences, occurs])
          rw [resolvedMembers, describeMembers, describeMembers, first, later]

theorem describe_entries_resolved (bindings : Bindings) (entries : List (Ty × Declaration))
    (named : NamedAsBound bindings (entryReferences entries)) :
    describeEntries (resolvedEntries bindings entries) = describeEntries entries := by
  cases entries with
  | nil => rw [resolvedEntries]
  | cons entry rest =>
      obtain ⟨container, d⟩ := entry
      have first := describe_resolved bindings d fun r occurs => named r (by simp [entryReferences, occurs])
      have later := describe_entries_resolved bindings rest fun r occurs =>
        named r (by simp [entryReferences, occurs])
      rw [resolvedEntries, describeEntries, describeEntries, first, later]

end

theorem of_members_resolved (bindings : Bindings) (ds : List Declaration) :
    ofMembers (ds.map (resolved bindings)) = (ofMembers ds).resolved bindings := by
  match ds with
  | [] => rw [List.map_nil, ofMembers, resolved]
  | [d] => rfl
  | d :: e :: rest =>
      change Declaration.union (((d :: e :: rest).map (resolved bindings)).map some) =
        (Declaration.union ((d :: e :: rest).map some)).resolved bindings
      rw [resolved, resolved_members_map]
      simp

theorem strip_absence_resolved (bindings : Bindings) (d : Declaration) :
    (d.resolved bindings).stripAbsence = (d.stripAbsence.1.resolved bindings, d.stripAbsence.2) := by
  cases d with
  | union members =>
      have sameFlag : (resolvedMembers bindings members).any Option.isNone = members.any Option.isNone := by
        rw [resolved_members_map, List.any_map]
        congr 1
        funext member
        cases member <;> rfl
      have sameRest : (resolvedMembers bindings members).filterMap id =
          (members.filterMap id).map (resolved bindings) := by
        rw [resolved_members_map, List.filterMap_map, List.map_filterMap]
        rfl
      rw [resolved, stripAbsence, stripAbsence, sameFlag, sameRest, of_members_resolved]
      split
      · rfl
      · rw [resolved]
  | reference r =>
      change (resolved bindings (.reference r)).stripAbsence = (resolved bindings (.reference r), false)
      rw [resolved]
      cases bindings.find? r.scope r.name <;> rfl
  | _ => simp only [resolved, stripAbsence]

theorem offenders_resolved (bindings : Bindings) (d : Declaration) (items : List Value) :
    (d.resolved bindings).offenders bindings items = d.offenders bindings items := by
  induction items with
  | nil => rfl
  | cons item rest ih => rw [offenders, offenders, accepts_resolved, ih]

theorem find_resolved (bindings : Bindings) (entries : List (Ty × Declaration)) (t : Ty) :
    (resolvedEntries bindings entries).find? (fun entry => entry.1 = t) =
      (entries.find? fun entry => entry.1 = t).map fun entry => (entry.1, entry.2.resolved bindings) := by
  rw [resolved_entries_map, List.find?_map]
  rfl

variable {worded : Prop}

theorem check_collection_resolved (bindings : Bindings) (blame : Blame) (entries : List (Ty × Declaration)) (v : Value)
    (wording : worded → NamedAsBound bindings (entryReferences entries)) :
    Alike worded (checkCollection bindings blame entries v)
      (checkCollection bindings blame (resolvedEntries bindings entries) v) := by
  have sameContainers : (resolvedEntries bindings entries).map (fun entry => entry.1.name) =
      entries.map fun entry => entry.1.name := by
    rw [resolved_entries_map, List.map_map]
    rfl
  rw [checkCollection, checkCollection, find_resolved, sameContainers]
  cases found : entries.find? fun entry => entry.1 = v.type with
  | none => exact alike_refl _
  | some entry =>
      obtain ⟨container, element⟩ := entry
      have sameElement : worded → (element.resolved bindings).describe = element.describe := by
        intro holds
        apply describe_resolved
        intro r occurs
        exact wording holds r ((mem_entry_references entries r).mpr ⟨_, List.mem_of_find?_eq_some found, occurs⟩)
      cases shape : v.elements with
      | none =>
          apply alike_declared (fun declared => (blame.notIterable v declared).within "check_collection") _ _
            .collectionElementMismatch ["check_collection"] (fun _ => rfl) (fun _ => rfl)
          intro holds
          rw [sameElement holds]
      | some items =>
          dsimp only [Option.map_some]
          rw [offenders_resolved]
          cases listed : element.offenders bindings items with
          | error e => exact alike_refl _
          | ok offending =>
              cases offending with
              | nil => exact alike_refl _
              | cons first others =>
                  apply alike_declared (fun declared => (blame.elementMismatch (first :: others) declared
                    (distinctTypeNames (first :: others))).within "check_collection") _ _
                    .collectionElementMismatch ["check_collection"] (fun _ => rfl) (fun _ => rfl)
                  intro holds
                  rw [sameElement holds]

theorem type_mismatch_resolved (bindings : Bindings) (blame : Blame) (d : Declaration) (v : Value)
    (wording : worded → NamedAsBound bindings d.references) :
    Alike worded (.error ((blame.typeMismatch v d.describe).within "check"))
      (.error ((blame.typeMismatch v (d.resolved bindings).describe).within "check")) := by
  apply alike_declared (fun declared => (blame.typeMismatch v declared).within "check") _ _
    (if v.isAbsent then .absenceMismatch else blame.site.mismatchKind) ["check"]
  · intro names
    exact blame.type_mismatch_kind v names
  · intro names
    exact congrArg (· ++ ["check"]) (blame.type_mismatch_trace v names)
  · intro holds
    exact describe_resolved bindings d (wording holds)

theorem check_stripped_resolved (bindings : Bindings) (blame : Blame) (d : Declaration) (v : Value)
    (wording : worded → NamedAsBound bindings d.references) :
    Alike worded (d.checkStripped bindings blame v) ((d.resolved bindings).checkStripped bindings blame v) := by
  have verdict := accepts_resolved bindings d v
  have refusal := type_mismatch_resolved bindings blame d v wording
  cases d with
  | exact type =>
      rw [resolved]
      exact alike_refl _
  | absent =>
      rw [resolved]
      exact alike_refl _
  | condition c =>
      rw [resolved]
      exact alike_refl _
  | collection entries =>
      rw [resolved] at refusal ⊢
      rw [checkStripped, checkStripped]
      split
      · exact refusal
      · exact alike_within "check" _ _ (check_collection_resolved bindings blame entries v wording)
  | union members =>
      rw [resolved] at verdict refusal ⊢
      exact alike_verdict _ _ _ _ verdict refusal
  | reference r =>
      rw [resolved] at verdict refusal ⊢
      generalize bindings.find? r.scope r.name = held at verdict refusal ⊢
      cases held with
      | none => exact alike_refl _
      | some t => exact alike_verdict _ _ _ _ verdict refusal

theorem check_resolved (bindings : Bindings) (blame : Blame) (d : Declaration) (v : Value)
    (wording : worded → NamedAsBound bindings d.references) :
    Alike worded (d.check bindings blame v) ((d.resolved bindings).check bindings blame v) := by
  rw [check, check, strip_absence_resolved]
  dsimp only
  split
  · exact alike_refl _
  · apply check_stripped_resolved
    intro holds r occurs
    exact wording holds r (strip_absence_references d r occurs)

-- An alias shows only in the wording of a failure.
theorem references_stand_for_bound_types (bindings : Bindings) (d : Declaration)
    (bound : ∀ r ∈ d.references, ∃ t, bindings.find? r.scope r.name = some t) (blame : Blame) (v : Value) :
    (d.resolved bindings).references = [] ∧
    (∃ admitted, d.accepts bindings v = .ok admitted ∧ (d.resolved bindings).accepts bindings v = .ok admitted) ∧
    (d.check bindings blame v = .ok () ↔ (d.resolved bindings).check bindings blame v = .ok ()) ∧
    (∀ e u, d.check bindings blame v = .error e → (d.resolved bindings).check bindings blame v = .error u →
      e.kind = u.kind ∧ e.trace = u.trace) ∧
    ((∀ r ∈ d.references, ∀ t, bindings.find? r.scope r.name = some t → t.name = r.name) →
      d.check bindings blame v = (d.resolved bindings).check bindings blame v) := by
  have alike : Alike (NamedAsBound bindings d.references) (d.check bindings blame v)
      ((d.resolved bindings).check bindings blame v) := check_resolved bindings blame d v id
  refine ⟨?_, ?_, ?_, ?_, alike_eq _ _ alike⟩
  · apply List.eq_nil_iff_forall_not_mem.mpr
    intro r occurs
    obtain ⟨member, unbound⟩ := resolved_references bindings d r occurs
    obtain ⟨t, found⟩ := bound r member
    rw [unbound] at found
    cases found
  · rw [accepts_resolved]
    cases verdict : d.accepts bindings v with
    | ok admitted => exact ⟨admitted, rfl, rfl⟩
    | error u =>
        obtain ⟨r, member, unbound, _⟩ := accepts_error bindings d v u verdict
        obtain ⟨t, found⟩ := bound r member
        rw [unbound] at found
        cases found
  · generalize d.check bindings blame v = first at alike ⊢
    generalize (d.resolved bindings).check bindings blame v = second at alike ⊢
    cases alike <;> simp
  · intro e u failed failed'
    rw [failed, failed'] at alike
    cases alike with
    | failed _ _ kind trace _ => exact ⟨kind.symm, trace.symm⟩

def namedElements : Declaration := collectionOf (.builtin .list) (optional (.reference ⟨"T", ⟨0, "s"⟩⟩))

theorem references_stand_for_alias_and_name :
    (∃ bindings e u, bindings = Bindings.empty.defineAs ⟨0, "s"⟩ "T" (.builtin .str) ∧
      namedElements.check bindings ⟨"f", .result⟩ (.list [.int 1]) = .error e ∧
      (namedElements.resolved bindings).check bindings ⟨"f", .result⟩ (.list [.int 1]) = .error u ∧
      (e.kind = u.kind ∧ e.trace = u.trace) ∧ e.message ≠ u.message) ∧
    ∃ bindings, bindings = Bindings.empty.define ⟨0, "s"⟩ (.declared 0 "T" .object []) ∧
      namedElements.check bindings ⟨"f", .result⟩ (.list [.int 1]) =
        (namedElements.resolved bindings).check bindings ⟨"f", .result⟩ (.list [.int 1]) := by
  have mentioned : ∀ r ∈ namedElements.references, r = ⟨"T", ⟨0, "s"⟩⟩ := fun r occurs => List.mem_singleton.mp occurs
  refine ⟨⟨_, _, _, rfl, rfl, rfl, ?_, by decide⟩, _, rfl, ?_⟩
  · refine (references_stand_for_bound_types (Bindings.empty.defineAs ⟨0, "s"⟩ "T" (.builtin .str)) namedElements ?_
      ⟨"f", .result⟩ (.list [.int 1])).2.2.2.1 _ _ rfl rfl
    intro r occurs
    rw [mentioned r occurs]
    exact ⟨_, rfl⟩
  · apply (references_stand_for_bound_types _ namedElements ?_ ⟨"f", .result⟩ (.list [.int 1])).2.2.2.2
    · intro r occurs t found
      rw [mentioned r occurs] at found ⊢
      cases found
      rfl
    · intro r occurs
      rw [mentioned r occurs]
      exact ⟨_, rfl⟩

end Declaration

end CallContracts
