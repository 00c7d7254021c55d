import CallContracts.Proofs.UndefinedNames

set_option autoImplicit false

namespace CallContracts

namespace Declaration

@[elab_as_elim]
theorem nested_induction {motive : Declaration → Prop} (exact : ∀ type, motive (.exact type))
    (union : ∀ members, (∀ d, some d ∈ members → motive d) → motive (.union members)) (absent : motive .absent)
    (collection : ∀ entries, (∀ container d, (container, d) ∈ entries → motive d) → motive (.collection entries))
    (condition : ∀ c, motive (.condition c)) (reference : ∀ r, motive (.reference r)) (d : Declaration) : motive d := by
  refine @Declaration.rec motive (fun members => ∀ d, some d ∈ members → motive d)
    (fun entries => ∀ container d, (container, d) ∈ entries → motive d) (fun member => ∀ d, member = some d → motive d)
    (fun entry => motive entry.2) exact union absent collection condition reference ?_ ?_ ?_ ?_ ?_ ?_ ?_ d
  · intro d inside
    cases inside
  · intro member rest here later d inside
    rcases List.mem_cons.mp inside with same | further
    · exact here d same.symm
    · exact later d further
  · intro container d inside
    cases inside
  · intro entry rest here later container d inside
    rcases List.mem_cons.mp inside with rfl | further
    · exact here
    · exact later container d further
  · intro d none
    cases none
  · intro d holds e same
    cases same
    exact holds
  · intro container d holds
    exact holds

def Bound (bindings : Bindings) (d : Declaration) : Prop :=
  ∀ r, Occurs (.reference r) d → ∃ t, bindings.find? r.scope r.name = some t

def ConditionFree (d : Declaration) : Prop := ∀ c, ¬ Occurs (.condition c) d

theorem condition_free_union_iff (members : List (Option Declaration)) :
    (Declaration.union members).ConditionFree ↔ ∀ d, some d ∈ members → d.ConditionFree := by
  refine ⟨fun free d inside c occurs => free c (.member members d inside occurs), ?_⟩
  intro each c occurs
  cases occurs with
  | member _ d inside occurs => exact each d inside c occurs

theorem condition_free_collection_iff (entries : List (Ty × Declaration)) :
    (Declaration.collection entries).ConditionFree ↔ ∀ container d, (container, d) ∈ entries → d.ConditionFree := by
  refine ⟨fun free container d inside c occurs => free c (.element entries container d inside occurs), ?_⟩
  intro each c occurs
  cases occurs with
  | element _ container d inside occurs => exact each container d inside c occurs

theorem condition_free_exact (type : Ty) : (Declaration.exact type).ConditionFree := by
  intro c occurs
  cases occurs

theorem condition_free_reference (r : Reference) : (Declaration.reference r).ConditionFree := by
  intro c occurs
  cases occurs

variable {bindings : Bindings}

theorem bound_member (members : List (Option Declaration)) (bound : (Declaration.union members).Bound bindings)
    (d : Declaration) (inside : some d ∈ members) : d.Bound bindings :=
  fun r occurs => bound r (.member members d inside occurs)

theorem bound_element (entries : List (Ty × Declaration)) (bound : (Declaration.collection entries).Bound bindings)
    (container : Ty) (d : Declaration) (inside : (container, d) ∈ entries) : d.Bound bindings :=
  fun r occurs => bound r (.element entries container d inside occurs)

theorem bound_iff_references (d : Declaration) :
    d.Bound bindings ↔ ∀ r ∈ d.references, ∃ t, bindings.find? r.scope r.name = some t :=
  forall_congr' fun r => imp_congr_left (occurs_iff_references r d)

theorem has_verdict_of_bound (d : Declaration) (bound : d.Bound bindings) (v : Value) : d.HasVerdict bindings v := by
  cases verdict : d.accepts bindings v with
  | ok admitted => exact ⟨admitted, verdict⟩
  | error u =>
      obtain ⟨r, inside, unbound, _⟩ := accepts_error bindings d v u verdict
      obtain ⟨t, found⟩ := (bound_iff_references d).mp bound r inside
      rw [unbound] at found
      cases found

-- What a declaration means when every name in it is defined. No order of members is left in it, and no way to fail.
inductive Satisfies (bindings : Bindings) : Declaration → Value → Prop where
  | exact (type : Ty) (v : Value) (belongs : v.isInstance type = true) : Satisfies bindings (.exact type) v
  | absence (members : List (Option Declaration)) (has : none ∈ members) : Satisfies bindings (.union members) .absent
  | member (members : List (Option Declaration)) (d : Declaration) (v : Value) (inside : some d ∈ members)
      (satisfies : Satisfies bindings d v) : Satisfies bindings (.union members) v
  | absent : Satisfies bindings .absent .absent
  | elements (entries : List (Ty × Declaration)) (container : Ty) (d : Declaration) (v : Value) (items : List Value)
      (found : (entries.find? fun entry => entry.1 = v.type) = some (container, d)) (shape : v.elements = some items)
      (each : ∀ item ∈ items, Satisfies bindings d item) : Satisfies bindings (.collection entries) v
  | condition (c : Condition) (v : Value) (met : c.test v = true) : Satisfies bindings (.condition c) v
  | reference (r : Reference) (t : Ty) (v : Value) (found : bindings.find? r.scope r.name = some t)
      (belongs : v.isInstance t = true) : Satisfies bindings (.reference r) v

theorem satisfies_absent_iff (v : Value) : Declaration.absent.Satisfies bindings v ↔ v = .absent := by
  refine ⟨fun satisfies => ?_, fun missing => missing ▸ .absent⟩
  cases satisfies with
  | absent => rfl

theorem satisfies_union_iff (members : List (Option Declaration)) (v : Value) :
    (Declaration.union members).Satisfies bindings v ↔
      ∃ member ∈ members, (member.getD .absent).Satisfies bindings v := by
  refine ⟨fun satisfies => ?_, fun ⟨member, inside, satisfies⟩ => ?_⟩
  · cases satisfies with
    | absence _ has => exact ⟨none, has, .absent⟩
    | member _ d _ inside satisfies => exact ⟨some d, inside, satisfies⟩
  · cases member with
    | none =>
        obtain rfl := (satisfies_absent_iff v).mp satisfies
        exact .absence members inside
    | some d => exact .member members d v inside satisfies

theorem satisfies_collection_iff (entries : List (Ty × Declaration)) (v : Value) :
    (Declaration.collection entries).Satisfies bindings v ↔
      ∃ container d items, (entries.find? fun entry => entry.1 = v.type) = some (container, d) ∧
        v.elements = some items ∧ ∀ item ∈ items, d.Satisfies bindings item := by
  refine ⟨fun satisfies => ?_, fun ⟨container, d, items, found, shape, each⟩ => ?_⟩
  · cases satisfies with
    | elements _ container d _ items found shape each => exact ⟨container, d, items, found, shape, each⟩
  · exact .elements entries container d v items found shape each

theorem accepts_member_iff (members : List (Option Declaration)) (v : Value)
    (verdicts : ∀ d, some d ∈ members → d.HasVerdict bindings v) :
    acceptsMember bindings members v = .ok true ↔
      ∃ member ∈ members, (member.getD .absent).accepts bindings v = .ok true := by
  induction members with
  | nil => simp [acceptsMember]
  | cons member rest ih =>
      have later := ih fun d inside => verdicts d (List.mem_cons_of_mem _ inside)
      simp only [List.mem_cons, exists_eq_or_imp, ← later]
      cases member with
      | none =>
          rw [acceptsMember, Option.getD_none, accepts]
          cases v.isAbsent <;> simp
      | some d =>
          obtain ⟨admitted, verdict⟩ := verdicts d List.mem_cons_self
          rw [acceptsMember, Option.getD_some, verdict]
          cases admitted <;> simp

theorem accepts_entry_iff (entries : List (Ty × Declaration)) (v : Value) :
    acceptsEntry bindings entries v = .ok true ↔
      ∃ container d items, (entries.find? fun entry => entry.1 = v.type) = some (container, d) ∧
        v.elements = some items ∧ ∀ item ∈ items, d.accepts bindings item = .ok true := by
  rw [accepts_entry_find]
  cases found : entries.find? fun entry => entry.1 = v.type with
  | none => simp
  | some entry =>
      obtain ⟨container, d⟩ := entry
      cases shape : v.elements with
      | none => simp
      | some items =>
          refine (all_admitted_iff (d.accepts bindings) items).trans ⟨fun each => ?_, fun whole => ?_⟩
          · exact ⟨container, d, items, rfl, rfl, each⟩
          · obtain ⟨_, _, _, sameEntry, sameItems, each⟩ := whole
            cases sameEntry
            cases sameItems
            exact each

theorem accepts_absent_iff (v : Value) :
    Declaration.absent.accepts bindings v = .ok true ↔ Declaration.absent.Satisfies bindings v := by
  rw [accepts, satisfies_absent_iff, ← Value.is_absent_iff, Except.ok.injEq]

theorem accepts_iff_satisfies (d : Declaration) (bound : d.Bound bindings) (v : Value) :
    d.accepts bindings v = .ok true ↔ d.Satisfies bindings v := by
  induction d using nested_induction generalizing v with
  | exact type =>
      rw [accepts]
      refine ⟨fun admitted => .exact type v (Except.ok.inj admitted), fun satisfies => ?_⟩
      cases satisfies with
      | exact _ _ belongs => rw [belongs]
  | union members ih =>
      have inner := bound_member members bound
      rw [accepts, satisfies_union_iff,
        accepts_member_iff members v fun d inside => has_verdict_of_bound d (inner d inside) v]
      refine exists_congr fun member => and_congr_right fun inside => ?_
      cases member with
      | none => exact accepts_absent_iff v
      | some d => exact ih d inside (inner d inside) v
  | absent => exact accepts_absent_iff v
  | collection entries ih =>
      have inner := bound_element entries bound
      rw [accepts, accepts_entry_iff, satisfies_collection_iff]
      refine exists_congr fun container => exists_congr fun d => exists_congr fun items => ?_
      refine and_congr_right fun found => and_congr_right fun _ => ?_
      have inside := List.mem_of_find?_eq_some found
      refine forall_congr' fun item => imp_congr_right fun _ => ?_
      exact ih container d inside (inner container d inside) item
  | condition c =>
      rw [accepts]
      refine ⟨fun admitted => .condition c v (Except.ok.inj admitted), fun satisfies => ?_⟩
      cases satisfies with
      | condition _ _ met => rw [met]
  | reference r =>
      obtain ⟨t, found⟩ := bound r .here
      rw [accepts, Reference.isInstance, Reference.resolve, Bindings.lookup, found]
      refine ⟨fun admitted => .reference r t v found (Except.ok.inj admitted), fun satisfies => ?_⟩
      cases satisfies with
      | reference _ u _ other belongs =>
          cases found.symm.trans other
          exact congrArg Except.ok belongs

theorem check_iff_satisfies (d : Declaration) (bound : d.Bound bindings) (blame : Blame) (v : Value) :
    d.check bindings blame v = .ok () ↔ d.Satisfies bindings v := by
  rw [check_passes_iff, accepts_iff_satisfies d bound v, or_iff_left_iff_imp]
  intro served
  obtain ⟨rfl, members, rfl, has⟩ := served
  exact .absence members has

theorem accepts_eq_of_satisfies (d e : Declaration) (bound : d.Bound bindings) (boundToo : e.Bound bindings) (v : Value)
    (same : d.Satisfies bindings v ↔ e.Satisfies bindings v) : d.accepts bindings v = e.accepts bindings v := by
  obtain ⟨first, verdict⟩ := has_verdict_of_bound d bound v
  obtain ⟨second, verdictToo⟩ := has_verdict_of_bound e boundToo v
  rw [← accepts_iff_satisfies d bound v, ← accepts_iff_satisfies e boundToo v, verdict, verdictToo] at same
  rw [verdict, verdictToo]
  cases first <;> cases second <;> simp at same ⊢

structure Composes {α : Type} (holds : Declaration → α → Prop) : Prop where
  union : ∀ members x, holds (.union members) x ↔ ∃ member ∈ members, holds (member.getD .absent) x
  element : ∀ before after container d e, (∀ x, holds d x → holds e x) →
    ∀ x, holds (.collection (before ++ (container, d) :: after)) x →
      holds (.collection (before ++ (container, e) :: after)) x
  appended : ∀ entries more x, holds (.collection entries) x → holds (.collection (entries ++ more)) x

theorem union_split_iff {α : Type} {holds : Declaration → α → Prop} (composes : Composes holds)
    (before after : List (Option Declaration)) (m : Option Declaration) (x : α) :
    holds (.union (before ++ m :: after)) x ↔ holds (m.getD .absent) x ∨ holds (.union (before ++ after)) x := by
  simp only [composes.union, List.mem_append, List.mem_cons, or_and_right, exists_or, exists_eq_left]
  exact or_left_comm

theorem satisfies_element (before after : List (Ty × Declaration)) (container : Ty) (d e : Declaration)
    (wider : ∀ v, d.Satisfies bindings v → e.Satisfies bindings v) (v : Value)
    (satisfies : (Declaration.collection (before ++ (container, d) :: after)).Satisfies bindings v) :
    (Declaration.collection (before ++ (container, e) :: after)).Satisfies bindings v := by
  obtain ⟨key, f, items, found, shape, each⟩ := (satisfies_collection_iff _ v).mp satisfies
  rw [List.find?_append, Option.or_eq_some_iff] at found
  rcases found with earlier | ⟨unknown, found⟩
  · refine .elements _ key f v items ?_ shape each
    rw [List.find?_append, earlier, Option.some_or]
  · by_cases same : container = v.type
    · rw [List.find?_cons_of_pos (by simpa using same)] at found
      cases found
      refine .elements _ container e v items ?_ shape fun item member => wider item (each item member)
      rw [List.find?_append, unknown, Option.none_or, List.find?_cons_of_pos (by simpa using same)]
    · rw [List.find?_cons_of_neg (by simpa using same)] at found
      refine .elements _ key f v items ?_ shape each
      rw [List.find?_append, unknown, Option.none_or, List.find?_cons_of_neg (by simpa using same), found]

theorem satisfies_appended (entries more : List (Ty × Declaration)) (v : Value)
    (satisfies : (Declaration.collection entries).Satisfies bindings v) :
    (Declaration.collection (entries ++ more)).Satisfies bindings v := by
  obtain ⟨container, d, items, found, shape, each⟩ := (satisfies_collection_iff entries v).mp satisfies
  refine .elements _ container d v items ?_ shape each
  rw [List.find?_append, found, Option.some_or]

theorem satisfies_composes : Composes (Satisfies bindings) :=
  ⟨satisfies_union_iff, satisfies_element, satisfies_appended⟩

theorem occurs_collection_iff (r : Reference) (entries : List (Ty × Declaration)) :
    Occurs (.reference r) (.collection entries) ↔ ∃ entry ∈ entries, Occurs (.reference r) entry.2 := by
  refine ⟨fun occurs => ?_, fun ⟨entry, inside, occurs⟩ => .element entries entry.1 entry.2 inside occurs⟩
  cases occurs with
  | element _ container d inside occurs => exact ⟨(container, d), inside, occurs⟩

theorem reference_composes : Composes fun d r => Occurs (.reference r) d := by
  refine ⟨?_, ?_, ?_⟩
  · intro members r
    refine ⟨fun occurs => ?_, fun ⟨member, inside, occurs⟩ => ?_⟩
    · cases occurs with
      | member _ d inside occurs => exact ⟨some d, inside, occurs⟩
    · cases member with
      | none => cases occurs
      | some d => exact .member members d inside occurs
  · intro before after container d e wider r occurs
    simp only [occurs_collection_iff, List.mem_append, List.mem_cons, or_and_right, exists_or,
      exists_eq_left] at occurs ⊢
    exact occurs.imp_right (Or.imp_left (wider r))
  · intro entries more r occurs
    obtain ⟨entry, inside, occurs⟩ := (occurs_collection_iff r entries).mp occurs
    exact (occurs_collection_iff r _).mpr ⟨entry, List.mem_append_left more inside, occurs⟩

end Declaration

end CallContracts
