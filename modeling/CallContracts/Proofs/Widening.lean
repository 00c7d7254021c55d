import CallContracts.Proofs.Meaning
import CallContracts.Proofs.Subtyping

set_option autoImplicit false

namespace CallContracts

namespace Declaration

inductive Widens : Declaration → Declaration → Prop where
  | refl (d : Declaration) : Widens d d
  | trans (d e f : Declaration) (first : Widens d e) (second : Widens e f) : Widens d f
  | exact (t u : Ty) (below : t.isSubtypeOf u = true) : Widens (.exact t) (.exact u)
  | absent : Widens .absent (.exact (.builtin .noneType))
  | choice (members : List (Option Declaration)) (d : Declaration) (inside : some d ∈ members) :
      Widens d (.union members)
  | inserted (members others : List (Option Declaration)) (kept : members.Sublist others) :
      Widens (.union members) (.union others)
  | member (before after : List (Option Declaration)) (d e : Declaration) (inside : Widens d e) :
      Widens (.union (before ++ some d :: after)) (.union (before ++ some e :: after))
  | element (before after : List (Ty × Declaration)) (container : Ty) (d e : Declaration) (inside : Widens d e) :
      Widens (.collection (before ++ (container, d) :: after)) (.collection (before ++ (container, e) :: after))
  | appended (entries more : List (Ty × Declaration)) : Widens (.collection entries) (.collection (entries ++ more))

theorem widens_keeps {α : Type} {holds : Declaration → α → Prop} (composes : Composes holds)
    (exact : ∀ t u x, t.isSubtypeOf u = true → holds (.exact t) x → holds (.exact u) x)
    (absent : ∀ x, holds .absent x → holds (.exact (.builtin .noneType)) x) (d e : Declaration) (widens : Widens d e)
    (x : α) (here : holds d x) : holds e x := by
  induction widens generalizing x with
  | refl d => exact here
  | trans d e f _ _ first second => exact second x (first x here)
  | exact t u below => exact exact t u x below here
  | absent => exact absent x here
  | choice members d inside => exact (composes.union members x).mpr ⟨some d, inside, here⟩
  | inserted members others kept =>
      obtain ⟨member, inside, holds⟩ := (composes.union members x).mp here
      exact (composes.union others x).mpr ⟨member, kept.mem inside, holds⟩
  | member before after d e _ ih =>
      rw [union_split_iff composes, Option.getD_some] at here ⊢
      exact here.imp_left (ih x)
  | element before after container d e _ ih => exact composes.element before after container d e ih x here
  | appended entries more => exact composes.appended entries more x here

variable {bindings : Bindings}

theorem satisfies_widens (d e : Declaration) (widens : Widens d e) (v : Value) (satisfies : d.Satisfies bindings v) :
    e.Satisfies bindings v := by
  refine widens_keeps satisfies_composes ?_ ?_ d e widens v satisfies
  · intro t u v below satisfies
    cases satisfies with
    | exact _ _ belongs => exact .exact u v (Ty.is_subtype_trans v.type t u belongs below)
  · intro v satisfies
    obtain rfl := (satisfies_absent_iff v).mp satisfies
    exact .exact _ _ rfl

theorem bound_widens (d e : Declaration) (widens : Widens d e) (bound : e.Bound bindings) : d.Bound bindings := by
  intro r occurs
  refine bound r (widens_keeps reference_composes ?_ ?_ d e widens r occurs)
  · intro t u r _ occurs
    cases occurs
  · intro r occurs
    cases occurs

variable (bindings)

-- A wider declaration rejects nothing that was admitted before.
theorem widening_never_rejects (d e : Declaration) (widens : Widens d e) (bound : e.Bound bindings) (v : Value) :
    (d.accepts bindings v = .ok true → e.accepts bindings v = .ok true) ∧
      ∀ blame, d.check bindings blame v = .ok () → e.check bindings blame v = .ok () := by
  have boundToo := bound_widens d e widens bound
  refine ⟨fun admitted => ?_, fun blame passes => ?_⟩
  · have satisfied := satisfies_widens d e widens v ((accepts_iff_satisfies d boundToo v).mp admitted)
    exact (accepts_iff_satisfies e bound v).mpr satisfied
  · have satisfied := satisfies_widens d e widens v ((check_iff_satisfies d boundToo blame v).mp passes)
    exact (check_iff_satisfies e bound blame v).mpr satisfied

def optionalFlags : Declaration := collectionOf (.builtin .list) (.union [some (.exact (.builtin .bool)), some .absent])

def optionalCounts (node : Reference) : Declaration :=
  let element :=
    .union [some (.exact (.builtin .int)), some (.reference node), some (.exact (.builtin .noneType))]
  .collection [(.builtin .list, element), (.builtin .list, .exact (.builtin .str))]

theorem optional_flags_widen (node : Reference) : Widens optionalFlags (optionalCounts node) := by
  have flag := Widens.member [] [some .absent] _ _ (.exact (.builtin .bool) (.builtin .int) rfl)
  have missing := Widens.member [some (.exact (.builtin .int))] [] _ _ .absent
  have kept : [some (Declaration.exact (.builtin .int)), some (.exact (.builtin .noneType))].Sublist
      [some (.exact (.builtin .int)), some (.reference node), some (.exact (.builtin .noneType))] :=
    .cons_cons _ (.cons _ (.refl _))
  have inside := Widens.trans _ _ _ flag (.trans _ _ _ missing (.inserted _ _ kept))
  exact .trans _ _ _ (.element [] [] (.builtin .list) _ _ inside) (.appended _ [(_, _)])

theorem widening_never_rejects_counts :
    let node : Reference := ⟨"Node", ⟨0, "main"⟩⟩
    let bindings := Bindings.empty.define ⟨0, "main"⟩ (Ty.declared 0 "Node" .object [])
    let v := Value.list [.bool true, .absent]
    Widens optionalFlags (optionalCounts node) ∧ (optionalCounts node).Bound bindings ∧
      optionalFlags.accepts bindings v = .ok true ∧ (optionalCounts node).accepts bindings v = .ok true ∧
      ∀ blame, (optionalCounts node).check bindings blame v = .ok () := by
  intro node bindings v
  have widens := optional_flags_widen node
  have bound : (optionalCounts node).Bound bindings :=
    (bound_iff_references _).mpr (List.forall_mem_singleton.mpr ⟨_, rfl⟩)
  have admitted : optionalFlags.accepts bindings v = .ok true := rfl
  obtain ⟨silent, reporting⟩ := widening_never_rejects bindings _ _ widens bound v
  exact ⟨widens, bound, admitted, silent admitted, fun blame => reporting blame rfl⟩

end Declaration

end CallContracts
