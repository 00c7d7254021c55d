import CallContracts.Proofs.Agreement

set_option autoImplicit false

namespace CallContracts

namespace Declaration

-- A member that gives no verdict on absence speaks before any absence member further on.
def Overtakes (bindings : Bindings) (members : List (Option Declaration)) (e : Violation) : Prop :=
  ∃ (front : List Declaration) (d : Declaration) (back : List (Option Declaration)),
    members = front.map some ++ some d :: back ∧ (∀ m ∈ front, m.accepts bindings .absent = .ok false) ∧
      d.accepts bindings .absent = .error e

theorem overtakes_absence (bindings : Bindings) (rest : List (Option Declaration)) (e : Violation) :
    ¬ Overtakes bindings (none :: rest) e := by
  rintro ⟨front, d, back, split, _⟩
  cases front <;> simp at split

theorem overtakes_some (bindings : Bindings) (m : Declaration) (rest : List (Option Declaration)) (e : Violation) :
    Overtakes bindings (some m :: rest) e ↔
      m.accepts bindings .absent = .error e ∨
        (m.accepts bindings .absent = .ok false ∧ Overtakes bindings rest e) := by
  constructor
  · rintro ⟨front, d, back, split, refused, undecided⟩
    cases front with
    | nil =>
        obtain ⟨same, _⟩ := List.cons.inj split
        cases same
        exact .inl undecided
    | cons first front =>
        obtain ⟨same, tail⟩ := List.cons.inj split
        cases same
        have later : ∀ n ∈ front, n.accepts bindings .absent = .ok false := fun n member => refused n (by simp [member])
        exact .inr ⟨refused m (by simp), front, d, back, tail, later, undecided⟩
  · intro ahead
    rcases ahead with undecided | ⟨refuses, front, d, back, rfl, refused, undecided⟩
    · exact ⟨[], m, rest, rfl, by simp, undecided⟩
    · exact ⟨m :: front, d, back, rfl, List.forall_mem_cons.mpr ⟨refuses, refused⟩, undecided⟩

theorem accepts_member_overtaken (bindings : Bindings) (members : List (Option Declaration)) (e : Violation) :
    acceptsMember bindings members .absent = .error e ↔ Overtakes bindings members e := by
  induction members with
  | nil => simp [acceptsMember, Overtakes]
  | cons member rest ih =>
      cases member with
      | none => simp [acceptsMember, Value.isAbsent, overtakes_absence]
      | some m =>
          rw [acceptsMember, overtakes_some, ← ih]
          cases verdict : m.accepts bindings .absent with
          | error u => simp
          | ok admitted => cases admitted <;> simp

theorem overtakes_undefined (bindings : Bindings) (members : List (Option Declaration)) (e : Violation)
    (overtakes : Overtakes bindings members e) :
    ∃ r ∈ memberReferences members,
      bindings.find? r.scope r.name = none ∧ e = Violation.unresolved r.name r.scope.name :=
  accepts_member_error bindings members .absent e ((accepts_member_overtaken bindings members e).mpr overtakes)

theorem accepts_absence_iff (bindings : Bindings) (members : List (Option Declaration)) (has : none ∈ members) :
    (Declaration.union members).accepts bindings .absent = .ok true ↔ ∀ e, ¬ Overtakes bindings members e := by
  rw [accepts]
  simp only [← accepts_member_overtaken]
  have refused := accepts_absence_member bindings members has
  cases verdict : acceptsMember bindings members .absent with
  | error e => simp
  | ok admitted =>
      cases admitted with
      | true => simp
      | false => exact False.elim (refused verdict)

theorem collection_admits (bindings : Bindings) (entries : List (Ty × Declaration)) (v : Value) (container : Ty)
    (element : Declaration) (items : List Value)
    (found : (entries.find? fun entry => entry.1 = v.type) = some (container, element))
    (shape : v.elements = some items) (admitted : ∀ item ∈ items, element.accepts bindings item = .ok true) :
    (Declaration.collection entries).accepts bindings v = .ok true := by
  have all := (all_admitted_iff (element.accepts bindings) items).mpr admitted
  rw [accepts, accepts_entry_find, found]
  simpa [shape] using all

theorem check_of_accepts (bindings : Bindings) (blame : Blame) (d : Declaration) (v : Value)
    (ordinary : ¬ (v = .absent ∧ d.HasAbsenceMember)) (admitted : d.accepts bindings v = .ok true) :
    d.check bindings blame v = .ok () := by
  have reports := check_reports bindings blame d v ordinary
  rw [admitted] at reports
  generalize d.check bindings blame v = report at reports ⊢
  cases reports with
  | passed => rfl

-- Inside another declaration, a member without a verdict before the absence member keeps absence out.
theorem absence_admitted_inside (bindings : Bindings) (members : List (Option Declaration)) (has : none ∈ members) :
    (∀ blame, (Declaration.union members).check bindings blame .absent = .ok ()) ∧
    ((Declaration.union members).accepts bindings .absent = .ok true ↔ ∀ e, ¬ Overtakes bindings members e) ∧
    (∀ e, Overtakes bindings members e → (Declaration.union members).accepts bindings .absent = .error e ∧
      ∃ r ∈ memberReferences members,
        bindings.find? r.scope r.name = none ∧ e = Violation.unresolved r.name r.scope.name) ∧
    ((∀ e, ¬ Overtakes bindings members e) →
      (∀ rest, (Declaration.union (some (.union members) :: rest)).accepts bindings .absent = .ok true) ∧
      (∀ entries v container items,
        (entries.find? fun entry => entry.1 = v.type) = some (container, .union members) → v.elements = some items →
        (∀ item ∈ items, item = .absent ∨ (Declaration.union members).accepts bindings item = .ok true) →
        (Declaration.collection entries).accepts bindings v = .ok true ∧
          ∀ blame, (Declaration.collection entries).check bindings blame v = .ok ())) := by
  have exactly := accepts_absence_iff bindings members has
  refine ⟨fun blame => check_absence_member bindings blame _ ⟨members, rfl, has⟩, exactly, ?_, ?_⟩
  · intro e overtakes
    refine ⟨?_, overtakes_undefined bindings members e overtakes⟩
    rw [accepts]
    exact (accepts_member_overtaken bindings members e).mpr overtakes
  · intro unhindered
    have admitted := exactly.mpr unhindered
    refine ⟨fun rest => ?_, ?_⟩
    · rw [accepts, acceptsMember, admitted]
    · intro entries v container items found shape others
      have each : ∀ item ∈ items, (Declaration.union members).accepts bindings item = .ok true := by
        intro item member
        rcases others item member with rfl | admits
        · exact admitted
        · exact admits
      have whole := collection_admits bindings entries v container _ items found shape each
      refine ⟨whole, fun blame => check_of_accepts bindings blame _ v ?_ whole⟩
      rintro ⟨_, other, union, _⟩
      cases union

theorem absence_admitted_inside_list :
    (collectionOf (.builtin .list) (optional (.exact (.builtin .int)))).accepts .empty (.list [.int 1, .absent]) =
      .ok true := by
  have admits := absence_admitted_inside .empty [some (.exact (.builtin .int)), none] (by simp)
  have unhindered := admits.2.1.mp rfl
  refine ((admits.2.2.2 unhindered).2 _ _ (.builtin .list) [.int 1, .absent] rfl rfl ?_).1
  exact List.forall_mem_cons.mpr ⟨.inr rfl, List.forall_mem_singleton.mpr (.inl rfl)⟩

theorem absence_overtaken_by_undefined_name :
    none ∈ [some (Declaration.reference ⟨"Node", ⟨0, "main"⟩⟩), none] ∧
      (Declaration.union [some (.reference ⟨"Node", ⟨0, "main"⟩⟩), none]).check .empty ⟨"f", .result⟩ .absent = .ok () ∧
      (Declaration.union [some (.reference ⟨"Node", ⟨0, "main"⟩⟩), none]).accepts .empty .absent =
        .error (Violation.unresolved "Node" "main") ∧
      (collectionOf (.builtin .list) (.union [some (.reference ⟨"Node", ⟨0, "main"⟩⟩), none])).check .empty
          ⟨"f", .result⟩ (.list [.absent]) = .error ((Violation.unresolved "Node" "main").within "check") :=
  ⟨by simp, rfl, rfl, rfl⟩

end Declaration

end CallContracts
