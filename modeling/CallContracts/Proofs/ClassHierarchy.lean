import CallContracts.Proofs.Subtyping
import Mathlib.Logic.Relation

set_option autoImplicit false

namespace CallContracts

namespace Ty

def Extends (t u : Ty) : Prop := t.base = some u

theorem derives_of_lineage (t u : Ty) (above : u ∈ t.lineage) : Relation.ReflTransGen Extends t u := by
  generalize climb : t.lineage = types at above
  induction types generalizing t with
  | nil => cases above
  | cons first rest ih =>
      rw [lineage_cons] at climb
      obtain ⟨rfl, further⟩ := List.cons.inj climb
      rcases List.mem_cons.mp above with rfl | later
      · exact .refl
      · cases up : t.base with
        | none =>
            rw [up] at further
            subst further
            cases later
        | some base =>
            rw [up] at further
            exact .head up (ih base further later)

theorem is_subtype_iff_derives (t u : Ty) : t.isSubtypeOf u = true ↔ Relation.ReflTransGen Extends t u := by
  refine ⟨fun below => derives_of_lineage t u ((is_subtype_iff t u).mp below), fun derives => ?_⟩
  induction derives with
  | refl => exact is_subtype_refl t
  | tail derives up ih =>
      refine is_subtype_trans t _ _ ih ((is_subtype_iff _ _).mpr ?_)
      rw [lineage_base _ _ up]
      exact List.mem_cons_of_mem _ (lineage_self _)

end Ty

namespace Classes

inductive Declared : Classes → List Ty → Prop where
  | builtins : Declared .empty (Builtin.all.map .builtin)
  | further (classes : Classes) (types : List Ty) (name : String) (base : Ty) (own : List String)
      (before : Declared classes types) (known : base ∈ types) :
      Declared (classes.declare name base own).2 (types ++ [(classes.declare name base own).1])

structure Catalogue (classes : Classes) (types : List Ty) : Prop where
  builtins : ∀ b, Ty.builtin b ∈ types
  distinct : types.Nodup
  numbered : ∀ serial name base own, Ty.declared serial name base own ∈ types → serial < classes.count
  closed : ∀ t ∈ types, ∀ u ∈ t.lineage, u ∈ types

variable (classes : Classes) (types : List Ty)

theorem declared_is_new (catalogue : Catalogue classes types) (name : String) (base : Ty) (own : List String) :
    (classes.declare name base own).1 ∉ types := by
  intro known
  exact Nat.lt_irrefl _ (catalogue.numbered classes.count name base own known)

theorem builtins_catalogue : Catalogue .empty (Builtin.all.map .builtin) where
  builtins b := List.mem_map_of_mem b.all_complete
  distinct := by decide
  numbered := by
    intro serial name base own member
    obtain ⟨b, _, other⟩ := List.mem_map.mp member
    cases other
  closed := by
    intro t member u above
    obtain ⟨b, _, rfl⟩ := List.mem_map.mp member
    obtain ⟨c, rfl⟩ := Ty.builtin_lineage b u above
    exact List.mem_map_of_mem c.all_complete

theorem declare_catalogue (catalogue : Catalogue classes types) (name : String) (base : Ty) (own : List String)
    (known : base ∈ types) :
    Catalogue (classes.declare name base own).2 (types ++ [(classes.declare name base own).1]) where
  builtins b := List.mem_append_left _ (catalogue.builtins b)
  distinct := by
    refine List.nodup_append.mpr ⟨catalogue.distinct, by simp, ?_⟩
    intro t before u last same
    rw [same, List.mem_singleton.mp last] at before
    exact declared_is_new classes types catalogue name base own before
  numbered := by
    intro serial word above fields member
    rcases List.mem_append.mp member with before | last
    · exact Nat.lt_succ_of_lt (catalogue.numbered serial word above fields before)
    · cases List.mem_singleton.mp last
      exact Nat.lt_succ_self _
  closed := by
    intro t member u above
    rcases List.mem_append.mp member with before | last
    · exact List.mem_append_left _ (catalogue.closed t before u above)
    · cases List.mem_singleton.mp last
      rcases List.mem_cons.mp above with rfl | further
      · exact List.mem_append_right _ (List.mem_singleton.mpr rfl)
      · exact List.mem_append_left _ (catalogue.closed base known u further)

theorem declared_catalogue (declared : Declared classes types) : Catalogue classes types := by
  induction declared with
  | builtins => exact builtins_catalogue
  | further classes types name base own _ known ih => exact declare_catalogue classes types ih name base own known

structure RootedTree (types : List Ty) : Prop where
  reflexive : ∀ t ∈ types, t.isSubtypeOf t = true
  transitive : ∀ t ∈ types, ∀ u ∈ types, ∀ w ∈ types,
    t.isSubtypeOf u = true → u.isSubtypeOf w = true → t.isSubtypeOf w = true
  antisymmetric : ∀ (i j : Nat) (t u : Ty), types[i]? = some t → types[j]? = some u →
    t.isSubtypeOf u = true → u.isSubtypeOf t = true → i = j
  rooted : Ty.object ∈ types ∧ ∀ t ∈ types, t.isSubtypeOf .object = true
  comparable : ∀ t ∈ types, ∀ u ∈ types, ∀ w ∈ types,
    t.isSubtypeOf u = true → t.isSubtypeOf w = true → u.isSubtypeOf w = true ∨ w.isSubtypeOf u = true

theorem catalogue_tree (catalogue : Catalogue classes types) : RootedTree types where
  reflexive t _ := t.is_subtype_refl
  transitive t _ u _ w _ := t.is_subtype_trans u w
  antisymmetric := by
    intro i j t u atFirst atSecond lower upper
    have same := Ty.is_subtype_antisymm t u lower upper
    have inside : i < types.length := (List.getElem?_eq_some_iff.mp atFirst).1
    exact (List.getElem?_inj inside catalogue.distinct).mp (by rw [atFirst, atSecond, same])
  rooted := ⟨catalogue.builtins .object, fun t _ => t.is_subtype_object⟩
  comparable t _ u _ w _ := t.supertypes_comparable u w

-- Classes may share names and fields, yet each is a type of its own with one chain of types above it.
theorem subtypes_form_rooted_tree (declared : Declared classes types) :
    RootedTree types ∧
    (∀ b, ∀ t ∈ types, (∀ c, t ≠ .builtin c) → (Ty.builtin b).isSubtypeOf t = false) ∧
    (∀ t ∈ types, ∀ u, t.isSubtypeOf u = true → u ∈ types ∧ u.fields <+: t.fields) ∧
    (∀ t ∈ types, ∀ u, t.isSubtypeOf u = true ↔ Relation.ReflTransGen Ty.Extends t u) ∧
    ∀ name base own, base ∈ types →
      (classes.declare name base own).1 ∉ types ∧ Ty.Extends (classes.declare name base own).1 base ∧
        (classes.declare name base own).1.fields = base.fields ++ own := by
  have catalogue := declared_catalogue classes types declared
  refine ⟨catalogue_tree classes types catalogue, ?_, ?_, fun t _ u => t.is_subtype_iff_derives u, ?_⟩
  · intro b t _ isClass
    rw [← Bool.not_eq_true, Ty.is_subtype_iff]
    intro above
    obtain ⟨c, same⟩ := Ty.builtin_lineage b t above
    exact isClass c same
  · intro t member u below
    rw [Ty.is_subtype_iff] at below
    exact ⟨catalogue.closed t member u below, t.fields_prefix u below⟩
  · intro name base own _
    exact ⟨declared_is_new classes types catalogue name base own, rfl, rfl⟩

def point : Ty := .declared 0 "Point" .object ["x", "y"]

def otherPoint : Ty := .declared 1 "Point" .object ["x", "y"]

def lowerPoint : Ty := .declared 2 "Point" otherPoint ["x"]

def flag : Ty := .declared 3 "Flag" (.builtin .bool) []

def someTypes : List Ty := Builtin.all.map .builtin ++ [point] ++ [otherPoint] ++ [lowerPoint] ++ [flag]

theorem some_types_declared : Declared ⟨4⟩ someTypes := by
  have first := Declared.further _ _ "Point" .object ["x", "y"] .builtins (by decide)
  have second := Declared.further _ _ "Point" .object ["x", "y"] first (by decide)
  have third := Declared.further _ _ "Point" otherPoint ["x"] second (by decide)
  exact Declared.further _ _ "Flag" (.builtin .bool) [] third (by decide)

theorem subtypes_form_rooted_tree_alike :
    Declared ⟨4⟩ someTypes ∧ RootedTree someTypes ∧ lowerPoint.isSubtypeOf point = false ∧
      lowerPoint.isSubtypeOf otherPoint = true ∧ otherPoint.fields <+: lowerPoint.fields ∧
      (flag.isSubtypeOf (.builtin .int) = true ∧ (Ty.builtin .int).isSubtypeOf flag = false) ∧
      (Classes.declare ⟨4⟩ "Point" .object ["x", "y"]).1 ∉ someTypes := by
  obtain ⟨tree, apart, follows, _, new⟩ := subtypes_form_rooted_tree ⟨4⟩ someTypes some_types_declared
  have below : lowerPoint.isSubtypeOf otherPoint = true := by decide
  refine ⟨some_types_declared, tree, by decide, below, ?_, ⟨by decide, ?_⟩, ?_⟩
  · exact (follows lowerPoint (by decide) otherPoint below).2
  · exact apart .int flag (by decide) fun _ => nofun
  · exact (new "Point" .object ["x", "y"] (by decide)).1

end Classes

end CallContracts
