import CallContracts.Proofs.Agreement

set_option autoImplicit false

namespace CallContracts

theorem Value.is_absent_iff (v : Value) : v.isAbsent = true ↔ v = .absent := by
  cases v <;> simp [isAbsent]

theorem Value.given_iff (v : Value) : v.isAbsent = false ↔ v ≠ .absent := by
  rw [← Bool.not_eq_true, is_absent_iff]

namespace Declaration

section Elements

variable (bindings : Bindings) (d : Declaration)

def HasVerdict (v : Value) : Prop := ∃ admitted, d.accepts bindings v = .ok admitted

def refuses (v : Value) : Bool :=
  match d.accepts bindings v with
  | .ok false => true
  | _ => false

def refused (items : List Value) : List Value := items.filter (d.refuses bindings)

theorem refuses_iff (v : Value) : d.refuses bindings v = true ↔ d.accepts bindings v = .ok false := by
  rw [refuses]
  cases verdict : d.accepts bindings v with
  | error e => simp
  | ok admitted => cases admitted <;> simp

theorem mem_refused (items : List Value) (v : Value) :
    v ∈ d.refused bindings items ↔ v ∈ items ∧ d.accepts bindings v = .ok false := by
  rw [refused, List.mem_filter, refuses_iff]

theorem offenders_with_verdicts (items : List Value) (verdicts : ∀ item ∈ items, d.HasVerdict bindings item) :
    d.offenders bindings items = .ok (d.refused bindings items) := by
  induction items with
  | nil => rfl
  | cons item rest ih =>
      obtain ⟨⟨admitted, verdict⟩, others⟩ := List.forall_mem_cons.mp verdicts
      rw [offenders, verdict, ih others]
      cases admitted with
      | true => simp [refused, refuses, verdict]
      | false => simp [refused, refuses, verdict, Except.map]

theorem offenders_stopped (front back : List Value) (item : Value) (u : Violation)
    (verdicts : ∀ earlier ∈ front, d.HasVerdict bindings earlier) (stops : d.accepts bindings item = .error u) :
    d.offenders bindings (front ++ item :: back) = .error u := by
  induction front with
  | nil => rw [List.nil_append, offenders, stops]
  | cons first front ih =>
      obtain ⟨⟨admitted, verdict⟩, others⟩ := List.forall_mem_cons.mp verdicts
      rw [List.cons_append, offenders, verdict, ih others]
      cases admitted <;> rfl

theorem verdicts_or_stopped (items : List Value) :
    (∀ item ∈ items, d.HasVerdict bindings item) ∨
      ∃ front item back u, items = front ++ item :: back ∧ (∀ earlier ∈ front, d.HasVerdict bindings earlier) ∧
        d.accepts bindings item = .error u := by
  induction items with
  | nil => exact .inl (by simp)
  | cons item rest ih =>
      cases verdict : d.accepts bindings item with
      | error u => exact .inr ⟨[], item, rest, u, rfl, by simp, verdict⟩
      | ok admitted =>
          have here : d.HasVerdict bindings item := ⟨admitted, verdict⟩
          rcases ih with all | ⟨front, other, back, u, rfl, verdicts, stops⟩
          · exact .inl (List.forall_mem_cons.mpr ⟨here, all⟩)
          · exact .inr ⟨item :: front, other, back, u, rfl, List.forall_mem_cons.mpr ⟨here, verdicts⟩, stops⟩

end Elements

def HasKey (entries : List (Ty × Declaration)) (t : Ty) : Prop := ∃ entry ∈ entries, entry.1 = t

theorem find_none_iff (entries : List (Ty × Declaration)) (t : Ty) :
    (entries.find? fun entry => entry.1 = t) = none ↔ ¬ HasKey entries t := by
  rw [List.find?_eq_none, HasKey]
  simp only [decide_eq_true_eq, not_exists, not_and]

theorem has_key_of_find (entries : List (Ty × Declaration)) (t : Ty) (entry : Ty × Declaration)
    (found : (entries.find? fun entry => entry.1 = t) = some entry) : HasKey entries t :=
  ⟨entry, List.mem_of_find?_eq_some found, by simpa using List.find?_some found⟩

def entryText (container : Ty) (element : Declaration) : String :=
  container.name ++ "[" ++ Text.joined element.describe ++ "]"

inductive Spoils (bindings : Bindings) (blame : Blame) (entries : List (Ty × Declaration)) (v : Value) :
    Violation → Prop where
  | container (unknown : ¬ HasKey entries v.type) :
      Spoils bindings blame entries v
        ((blame.containerMismatch v (entries.map fun entry => entry.1.name)).within "check_collection")
  | plain (container : Ty) (element : Declaration)
      (found : (entries.find? fun entry => entry.1 = v.type) = some (container, element)) (shape : v.elements = none) :
      Spoils bindings blame entries v
        ((blame.notIterable v [entryText container element]).within "check_collection")
  | elements (container : Ty) (element : Declaration) (items : List Value)
      (found : (entries.find? fun entry => entry.1 = v.type) = some (container, element))
      (shape : v.elements = some items) (verdicts : ∀ item ∈ items, element.HasVerdict bindings item)
      (offends : element.refused bindings items ≠ []) :
      Spoils bindings blame entries v
        ((blame.elementMismatch (element.refused bindings items) [entryText container element]
          (distinctTypeNames (element.refused bindings items))).within "check_collection")
  | undecided (container : Ty) (element : Declaration) (front back : List Value) (item : Value) (u : Violation)
      (found : (entries.find? fun entry => entry.1 = v.type) = some (container, element))
      (shape : v.elements = some (front ++ item :: back))
      (verdicts : ∀ earlier ∈ front, element.HasVerdict bindings earlier)
      (stops : element.accepts bindings item = .error u) : Spoils bindings blame entries v u

def Tested : Declaration → Prop
  | .exact _ => True
  | .union _ => True
  | .reference _ => True
  | _ => False

-- What can be wrong with a value, once absence members have been served.
inductive Breaks (bindings : Bindings) (blame : Blame) (v : Value) : Declaration → Violation → Prop where
  | refused (d : Declaration) (tested : d.Tested) (verdict : d.accepts bindings v = .ok false) :
      Breaks bindings blame v d ((blame.typeMismatch v d.describe).within "check")
  | undecided (d : Declaration) (u : Violation) (tested : d.Tested) (verdict : d.accepts bindings v = .error u) :
      Breaks bindings blame v d u
  | condition (c : Condition) (unmet : c.test v = false) :
      Breaks bindings blame v (.condition c) ((blame.conditionFailed v).within "check")
  | unexpected (given : v ≠ .absent) : Breaks bindings blame v .absent ((blame.absenceExpected v).within "check")
  | missing (entries : List (Ty × Declaration)) (missing : v = .absent) :
      Breaks bindings blame v (.collection entries)
        ((blame.typeMismatch v (describe (.collection entries))).within "check")
  | collection (entries : List (Ty × Declaration)) (e : Violation) (given : v ≠ .absent)
      (spoils : Spoils bindings blame entries v e) : Breaks bindings blame v (.collection entries) (e.within "check")

section Causes

variable (bindings : Bindings) (blame : Blame)

theorem check_collection_spoiled (entries : List (Ty × Declaration)) (v : Value) (e : Violation)
    (spoils : Spoils bindings blame entries v e) : checkCollection bindings blame entries v = .error e := by
  cases spoils with
  | container unknown =>
      rw [checkCollection, (find_none_iff entries v.type).mpr unknown]
  | plain container element found shape =>
      rw [checkCollection, found, shape]
      rfl
  | elements container element items found shape verdicts offends =>
      rw [checkCollection, found, shape]
      dsimp only
      rw [offenders_with_verdicts bindings element items verdicts]
      cases listed : element.refused bindings items with
      | nil => exact False.elim (offends listed)
      | cons first others => rfl
  | undecided container element front back item u found shape verdicts stops =>
      rw [checkCollection, found, shape]
      dsimp only
      rw [offenders_stopped bindings element front back item e verdicts stops]

theorem check_collection_cases (entries : List (Ty × Declaration)) (v : Value) :
    checkCollection bindings blame entries v = .ok () ∨ ∃ e, Spoils bindings blame entries v e := by
  cases found : entries.find? fun entry => entry.1 = v.type with
  | none => exact .inr ⟨_, .container ((find_none_iff entries v.type).mp found)⟩
  | some entry =>
      obtain ⟨container, element⟩ := entry
      cases shape : v.elements with
      | none => exact .inr ⟨_, .plain container element found shape⟩
      | some items =>
          rcases verdicts_or_stopped bindings element items with verdicts | ⟨front, item, back, u, rfl, verdicts, stops⟩
          · by_cases clean : element.refused bindings items = []
            · have listed := offenders_with_verdicts bindings element items verdicts
              rw [clean] at listed
              refine .inl ?_
              rw [checkCollection, found, shape]
              dsimp only
              rw [listed]
            · exact .inr ⟨_, .elements container element items found shape verdicts clean⟩
          · exact .inr ⟨u, .undecided container element front back item u found shape verdicts stops⟩

theorem check_tested (d : Declaration) (v : Value) (tested : d.Tested) :
    d.checkStripped bindings blame v =
      match d.accepts bindings v with
      | .ok true => .ok ()
      | .ok false => .error ((blame.typeMismatch v d.describe).within "check")
      | .error e => .error e := by
  cases d with
  | exact type => rfl
  | union members => rfl
  | reference r => rfl
  | absent => cases tested
  | collection entries => cases tested
  | condition c => cases tested

theorem check_stripped_broken (d : Declaration) (v : Value) (e : Violation) (breaks : Breaks bindings blame v d e) :
    d.checkStripped bindings blame v = .error e := by
  cases breaks with
  | refused d tested verdict => rw [check_tested bindings blame d v tested, verdict]
  | undecided d u tested verdict => rw [check_tested bindings blame d v tested, verdict]
  | condition c unmet =>
      rw [checkStripped, unmet]
      rfl
  | unexpected given =>
      rw [checkStripped, v.given_iff.mpr given]
      rfl
  | missing entries missing =>
      rw [missing]
      rfl
  | collection entries u given spoils =>
      have spoiled := check_collection_spoiled bindings blame entries v u spoils
      rw [checkStripped, v.given_iff.mpr given, spoiled]
      rfl

theorem check_tested_cases (d : Declaration) (v : Value) (tested : d.Tested) :
    d.checkStripped bindings blame v = .ok () ∨ ∃ e, Breaks bindings blame v d e := by
  rw [check_tested bindings blame d v tested]
  cases verdict : d.accepts bindings v with
  | error u => exact .inr ⟨u, .undecided d u tested verdict⟩
  | ok admitted =>
      cases admitted with
      | true => exact .inl rfl
      | false => exact .inr ⟨_, .refused d tested verdict⟩

theorem check_stripped_cases (d : Declaration) (v : Value) :
    d.checkStripped bindings blame v = .ok () ∨ ∃ e, Breaks bindings blame v d e := by
  cases d with
  | exact type => exact check_tested_cases bindings blame (.exact type) v trivial
  | union members => exact check_tested_cases bindings blame (.union members) v trivial
  | reference r => exact check_tested_cases bindings blame (.reference r) v trivial
  | absent =>
      by_cases missing : v = .absent
      · exact .inl (by rw [missing]; rfl)
      · exact .inr ⟨_, .unexpected missing⟩
  | condition c =>
      cases met : c.test v with
      | true => exact .inl (by rw [checkStripped, met]; rfl)
      | false => exact .inr ⟨_, .condition c met⟩
  | collection entries =>
      by_cases missing : v = .absent
      · exact .inr ⟨_, .missing entries missing⟩
      · rcases check_collection_cases bindings blame entries v with passed | ⟨e, spoils⟩
        · refine .inl ?_
          rw [checkStripped, v.given_iff.mpr missing, passed]
          rfl
        · exact .inr ⟨_, .collection entries e missing spoils⟩

theorem check_stripped_error_iff (d : Declaration) (v : Value) (e : Violation) :
    d.checkStripped bindings blame v = .error e ↔ Breaks bindings blame v d e := by
  refine ⟨fun failed => ?_, check_stripped_broken bindings blame d v e⟩
  rcases check_stripped_cases bindings blame d v with passed | ⟨u, breaks⟩
  · rw [passed] at failed
    cases failed
  · rw [check_stripped_broken bindings blame d v u breaks] at failed
    cases failed
    exact breaks

theorem check_error_iff (d : Declaration) (v : Value) (e : Violation) :
    d.check bindings blame v = .error e ↔
      ¬ (v = .absent ∧ d.HasAbsenceMember) ∧ Breaks bindings blame v d.stripAbsence.1 e := by
  by_cases served : v = .absent ∧ d.HasAbsenceMember
  · obtain ⟨rfl, has⟩ := served
    simp [check_absence_member bindings blame d has, has]
  · rw [check_unserved bindings blame d v served, check_stripped_error_iff]
    simp [served]

end Causes

end Declaration

end CallContracts
