import CallContracts.Ty

set_option autoImplicit false

namespace CallContracts

namespace Builtin

theorem lineage_suffix (b c : Builtin) (above : c ∈ b.lineage) : c.lineage <:+ b.lineage := by
  have table : ∀ b ∈ all, ∀ c ∈ b.lineage, c.lineage <:+ b.lineage := by decide
  exact table b (all_complete b) c above

end Builtin

namespace Ty

theorem lineage_cons (t : Ty) : t.lineage = t :: (t.base.map lineage).getD [] := by
  cases t with
  | builtin b =>
      rw [lineage, Builtin.lineage_cons, List.map_cons, base]
      cases b.base <;> rfl
  | declared serial name base own => rfl

theorem lineage_self (t : Ty) : t ∈ t.lineage := by
  rw [lineage_cons]
  exact List.mem_cons_self

theorem lineage_base (t u : Ty) (up : t.base = some u) : t.lineage = t :: u.lineage := by
  rw [lineage_cons, up]
  rfl

theorem lineage_suffix (t u : Ty) (above : u ∈ t.lineage) : u.lineage <:+ t.lineage := by
  induction t with
  | builtin b =>
      obtain ⟨c, member, rfl⟩ := List.mem_map.mp above
      exact (Builtin.lineage_suffix b c member).map Ty.builtin
  | declared serial name base own ih =>
      cases List.mem_cons.mp above with
      | inl here =>
          subst u
          exact List.suffix_refl _
      | inr further => exact (ih further).trans (List.suffix_cons _ _)

theorem is_subtype_iff (t u : Ty) : t.isSubtypeOf u = true ↔ u ∈ t.lineage := by
  rw [isSubtypeOf, List.contains_iff_mem]

theorem is_subtype_refl (t : Ty) : t.isSubtypeOf t = true := (is_subtype_iff t t).mpr (lineage_self t)

theorem is_subtype_trans (t u w : Ty) (lower : t.isSubtypeOf u = true) (upper : u.isSubtypeOf w = true) :
    t.isSubtypeOf w = true := by
  rw [is_subtype_iff] at lower upper ⊢
  exact (lineage_suffix t u lower).mem upper

-- The lineage of a supertype is the end of the lineage below it. Everything about the order is said of ends of a list.
theorem is_subtype_antisymm (t u : Ty) (lower : t.isSubtypeOf u = true) (upper : u.isSubtypeOf t = true) : t = u := by
  rw [is_subtype_iff] at lower upper
  have shorter := lineage_suffix t u lower
  have longer := lineage_suffix u t upper
  have same : u.lineage = t.lineage := shorter.eq_of_length_le longer.length_le
  rw [lineage_cons u, lineage_cons t] at same
  exact (List.cons.inj same).1.symm

theorem supertypes_comparable (t u w : Ty) (left : t.isSubtypeOf u = true) (right : t.isSubtypeOf w = true) :
    u.isSubtypeOf w = true ∨ w.isSubtypeOf u = true := by
  rw [is_subtype_iff] at left right
  rw [is_subtype_iff, is_subtype_iff]
  rcases List.suffix_or_suffix_of_suffix (lineage_suffix t u left) (lineage_suffix t w right) with inner | outer
  · exact .inr (inner.mem (lineage_self u))
  · exact .inl (outer.mem (lineage_self w))

theorem is_subtype_object (t : Ty) : t.isSubtypeOf .object = true := by
  rw [is_subtype_iff]
  induction t with
  | builtin b =>
      have root : Builtin.object ∈ b.lineage := by cases b <;> decide
      exact List.mem_map_of_mem root
  | declared serial name base own ih => exact List.mem_cons_of_mem _ ih

theorem builtin_lineage (b : Builtin) (u : Ty) (above : u ∈ (Ty.builtin b).lineage) : ∃ c, u = .builtin c := by
  obtain ⟨c, _, rfl⟩ := List.mem_map.mp above
  exact ⟨c, rfl⟩

theorem fields_prefix (t u : Ty) (above : u ∈ t.lineage) : u.fields <+: t.fields := by
  induction t with
  | builtin b =>
      obtain ⟨c, rfl⟩ := builtin_lineage b u above
      exact List.prefix_refl []
  | declared serial name base own ih =>
      rcases List.mem_cons.mp above with rfl | further
      · exact List.prefix_refl _
      · exact (ih further).trans (List.prefix_append _ own)

end Ty

end CallContracts
