import CallContracts.Value.Basic

set_option autoImplicit false

namespace CallContracts

section Agreement

variable {α β γ : Type}

def Agree (a b : Option α) : Prop := ∃ c, a = some c ∧ b = some c

def both (f : α → β → γ) (a : Option α) (b : Option β) : Option γ := a.bind fun x => b.map (f x)

theorem agree_some (a b : α) : Agree (some a) (some b) ↔ a = b := by
  constructor
  · intro agree
    obtain ⟨c, first, second⟩ := agree
    exact Option.some.inj (first.trans second.symm)
  · intro same
    exact ⟨b, by rw [same], rfl⟩

theorem agree_trans (a b c : Option α) (first : Agree a b) (second : Agree b c) : Agree a c := by
  obtain ⟨x, left, middle⟩ := first
  obtain ⟨y, again, right⟩ := second
  cases middle.symm.trans again
  exact ⟨x, left, right⟩

theorem agree_map (f : α → β) (injective : ∀ x y, f x = f y → x = y) (a b : Option α) :
    Agree (a.map f) (b.map f) ↔ Agree a b := by
  constructor
  · intro agree
    obtain ⟨c, first, second⟩ := agree
    obtain ⟨x, left, rfl⟩ := Option.map_eq_some_iff.mp first
    obtain ⟨y, right, same⟩ := Option.map_eq_some_iff.mp second
    obtain rfl := injective y x same
    exact ⟨_, left, right⟩
  · intro agree
    obtain ⟨c, rfl, rfl⟩ := agree
    exact ⟨f c, rfl, rfl⟩

theorem not_agree_map (f g : α → β) (apart : ∀ x y, f x ≠ g y) (a b : Option α) : ¬ Agree (a.map f) (b.map g) := by
  intro agree
  obtain ⟨c, first, second⟩ := agree
  obtain ⟨x, _, rfl⟩ := Option.map_eq_some_iff.mp first
  obtain ⟨y, _, same⟩ := Option.map_eq_some_iff.mp second
  exact apart x y same.symm

theorem agree_both (f : α → β → γ) (injective : ∀ x y z w, f x y = f z w → x = z ∧ y = w) (a b : Option α)
    (c d : Option β) : Agree (both f a c) (both f b d) ↔ Agree a b ∧ Agree c d := by
  constructor
  · intro agree
    obtain ⟨whole, first, second⟩ := agree
    obtain ⟨x, left, mapped⟩ := Option.bind_eq_some_iff.mp first
    obtain ⟨y, right, rfl⟩ := Option.map_eq_some_iff.mp mapped
    obtain ⟨z, otherLeft, otherMapped⟩ := Option.bind_eq_some_iff.mp second
    obtain ⟨w, otherRight, same⟩ := Option.map_eq_some_iff.mp otherMapped
    obtain ⟨rfl, rfl⟩ := injective z w x y same
    exact ⟨⟨z, left, otherLeft⟩, ⟨w, right, otherRight⟩⟩
  · intro agree
    obtain ⟨⟨x, rfl, rfl⟩, ⟨y, rfl, rfl⟩⟩ := agree
    exact ⟨f x y, rfl, rfl⟩

theorem agree_pair (a b : Option α) (c d : Option β) :
    Agree (both Prod.mk a c) (both Prod.mk b d) ↔ Agree a b ∧ Agree c d :=
  agree_both Prod.mk (fun _ _ _ _ same => Prod.mk.inj same) a b c d

theorem agree_cons (a b : Option α) (as bs : Option (List α)) :
    Agree (both List.cons a as) (both List.cons b bs) ↔ Agree a b ∧ Agree as bs :=
  agree_both List.cons (fun _ _ _ _ same => List.cons.inj same) a b as bs

theorem not_agree_cons (a : Option α) (as : Option (List α)) :
    ¬ Agree (some []) (both List.cons a as) ∧ ¬ Agree (both List.cons a as) (some []) := by
  cases a <;> cases as <;> simp [Agree, both]

end Agreement

def Binary64.canonical? (x : Binary64) : Option Binary64 :=
  if x.isNaN then none else if x.isZero then some ⟨0⟩ else some x

theorem Binary64.nonzero (x : Binary64) (other : x.isZero = false) : x ≠ ⟨0⟩ := by
  intro same
  rw [same] at other
  cases other

theorem Binary64.beq_iff_agree (x y : Binary64) : (x == y) = true ↔ Agree x.canonical? y.canonical? := by
  have bits : x.bits = y.bits ↔ x = y := by
    cases x
    cases y
    simp
  change x.beq y = true ↔ _
  unfold Binary64.beq canonical?
  by_cases nan : x.isNaN = true ∨ y.isNaN = true
  · rcases nan with nan | nan <;> simp [nan, Agree]
  · simp only [not_or, Bool.not_eq_true] at nan
    by_cases zero : x.isZero = y.isZero
    · cases zeroY : y.isZero with
      | true => simp [nan, zero, zeroY, agree_some]
      | false => simp [nan, zero, zeroY, agree_some, bits]
    · have different : x ≠ y := by
        intro same
        exact zero (by rw [same])
      cases zeroY : y.isZero with
      | true =>
          have zeroX : x.isZero = false := by simpa [zeroY] using zero
          simp [nan, zeroX, agree_some, bits, different, nonzero x zeroX]
      | false =>
          have zeroX : x.isZero = true := by simpa [zeroY] using zero
          simp [nan, zeroX, agree_some, bits, different, (nonzero y zeroY).symm]

namespace Value

-- One value for all that are equal to it. A value with a NaN inside has none.
mutual

def canonical? : Value → Option Value
  | .absent => some .absent
  | .bool b => some (.bool b)
  | .int n => some (.int n)
  | .float x => x.canonical?.map .float
  | .str text => some (.str text)
  | .bytes octets => some (.bytes octets)
  | .list items => (canonicalItems items).map .list
  | .tuple items => (canonicalItems items).map .tuple
  | .set items => (canonicalItems items).map .set
  | .dict entries => (canonicalEntries entries).map .dict
  | .object type fields => (canonicalFields fields).map (.object type)

def canonicalItems : List Value → Option (List Value)
  | [] => some []
  | v :: vs => both .cons v.canonical? (canonicalItems vs)

def canonicalEntries : List (Value × Value) → Option (List (Value × Value))
  | [] => some []
  | (k, v) :: rest => both .cons (both .mk k.canonical? v.canonical?) (canonicalEntries rest)

def canonicalFields : List (String × Value) → Option (List (String × Value))
  | [] => some []
  | (name, v) :: rest => both .cons (both .mk (some name) v.canonical?) (canonicalFields rest)

end

theorem canonical_constructor (v c : Value) (found : v.canonical? = some c) : c.ctorIdx = v.ctorIdx := by
  cases v with
  | absent | bool | int | str | bytes =>
      cases found
      rfl
  | float | list | tuple | set | dict | object =>
      obtain ⟨_, _, rfl⟩ := Option.map_eq_some_iff.mp found
      rfl

theorem canonical_type (v c : Value) (found : v.canonical? = some c) : c.type = v.type := by
  cases v with
  | absent | bool | int | str | bytes =>
      cases found
      rfl
  | float | list | tuple | set | dict | object =>
      obtain ⟨_, _, rfl⟩ := Option.map_eq_some_iff.mp found
      rfl

theorem beq_constructor (v w : Value) (same : v.beq w = true) : v.ctorIdx = w.ctorIdx := by
  unfold Value.beq at same
  split at same <;> first | rfl | cases same

theorem agree_constructor (v w : Value) (agree : Agree v.canonical? w.canonical?) : v.ctorIdx = w.ctorIdx := by
  obtain ⟨c, first, second⟩ := agree
  rw [← canonical_constructor v c first, canonical_constructor w c second]

mutual

theorem beq_iff_agree (v w : Value) : v.beq w = true ↔ Agree v.canonical? w.canonical? := by
  by_cases kinds : v.ctorIdx = w.ctorIdx
  · cases v with
    | absent =>
        cases w with
        | absent => simp [Value.beq, canonical?, agree_some]
        | _ => cases kinds
    | bool b =>
        cases w with
        | bool c => simp [Value.beq, canonical?, agree_some]
        | _ => cases kinds
    | int n =>
        cases w with
        | int m => simp [Value.beq, canonical?, agree_some]
        | _ => cases kinds
    | float x =>
        cases w with
        | float y =>
            rw [canonical?, canonical?, agree_map _ fun _ _ => Value.float.inj, ← Binary64.beq_iff_agree, Value.beq]
        | _ => cases kinds
    | str text =>
        cases w with
        | str other => simp [Value.beq, canonical?, agree_some]
        | _ => cases kinds
    | bytes octets =>
        cases w with
        | bytes others => simp [Value.beq, canonical?, agree_some]
        | _ => cases kinds
    | list items =>
        cases w with
        | list others =>
            rw [canonical?, canonical?, agree_map _ fun _ _ => Value.list.inj, ← beq_items_iff_agree items, Value.beq]
        | _ => cases kinds
    | tuple items =>
        cases w with
        | tuple others =>
            rw [canonical?, canonical?, agree_map _ fun _ _ => Value.tuple.inj, ← beq_items_iff_agree items, Value.beq]
        | _ => cases kinds
    | set items =>
        cases w with
        | set others =>
            rw [canonical?, canonical?, agree_map _ fun _ _ => Value.set.inj, ← beq_items_iff_agree items, Value.beq]
        | _ => cases kinds
    | dict entries =>
        cases w with
        | dict others =>
            rw [canonical?, canonical?, agree_map _ fun _ _ => Value.dict.inj, ← beq_entries_iff_agree entries,
              Value.beq]
        | _ => cases kinds
    | object type fields =>
        cases w with
        | object other others =>
            have fieldwise := beq_fields_iff_agree fields others
            by_cases same : type = other
            · subst other
              rw [canonical?, canonical?, agree_map _ fun _ _ h => (Value.object.inj h).2, ← fieldwise]
              simp [Value.beq]
            · have apart := not_agree_map (Value.object type) (Value.object other)
                (fun _ _ h => same (Value.object.inj h).1) (canonicalFields fields) (canonicalFields others)
              simp [Value.beq, canonical?, same, apart]
        | _ => cases kinds
  · constructor
    · intro same
      exact absurd (beq_constructor v w same) kinds
    · intro agree
      exact absurd (agree_constructor v w agree) kinds

theorem beq_items_iff_agree (vs ws : List Value) :
    beqItems vs ws = true ↔ Agree (canonicalItems vs) (canonicalItems ws) := by
  cases vs with
  | nil =>
      cases ws with
      | nil => simp [beqItems, canonicalItems, Agree]
      | cons w ws => simp [beqItems, canonicalItems, not_agree_cons]
  | cons v vs =>
      cases ws with
      | nil => simp [beqItems, canonicalItems, not_agree_cons]
      | cons w ws =>
          rw [canonicalItems, canonicalItems, agree_cons, ← beq_iff_agree v w, ← beq_items_iff_agree vs ws, beqItems,
            Bool.and_eq_true]

theorem beq_entries_iff_agree (vs ws : List (Value × Value)) :
    beqEntries vs ws = true ↔ Agree (canonicalEntries vs) (canonicalEntries ws) := by
  cases vs with
  | nil =>
      cases ws with
      | nil => simp [beqEntries, canonicalEntries, Agree]
      | cons w ws => simp [beqEntries, canonicalEntries, not_agree_cons]
  | cons entry vs =>
      cases ws with
      | nil => simp [beqEntries, canonicalEntries, not_agree_cons]
      | cons other ws =>
          obtain ⟨k, v⟩ := entry
          obtain ⟨l, w⟩ := other
          rw [canonicalEntries, canonicalEntries, agree_cons, agree_pair, ← beq_iff_agree k l, ← beq_iff_agree v w,
            ← beq_entries_iff_agree vs ws, beqEntries, Bool.and_eq_true, Bool.and_eq_true]

theorem beq_fields_iff_agree (vs ws : List (String × Value)) :
    beqFields vs ws = true ↔ Agree (canonicalFields vs) (canonicalFields ws) := by
  cases vs with
  | nil =>
      cases ws with
      | nil => simp [beqFields, canonicalFields, Agree]
      | cons w ws => simp [beqFields, canonicalFields, not_agree_cons]
  | cons field vs =>
      cases ws with
      | nil => simp [beqFields, canonicalFields, not_agree_cons]
      | cons other ws =>
          obtain ⟨m, v⟩ := field
          obtain ⟨n, w⟩ := other
          rw [canonicalFields, canonicalFields, agree_cons, agree_pair, agree_some, ← beq_iff_agree v w,
            ← beq_fields_iff_agree vs ws, beqFields, Bool.and_eq_true, Bool.and_eq_true, beq_iff_eq]

end

theorem beq_type (v w : Value) (same : (v == w) = true) : v.type = w.type := by
  obtain ⟨c, first, second⟩ := (beq_iff_agree v w).mp same
  rw [← canonical_type v c first, canonical_type w c second]

theorem beq_symm (v w : Value) (same : (v == w) = true) : (w == v) = true := by
  obtain ⟨c, first, second⟩ := (beq_iff_agree v w).mp same
  exact (beq_iff_agree w v).mpr ⟨c, second, first⟩

theorem beq_trans (u v w : Value) (first : (u == v) = true) (second : (v == w) = true) : (u == w) = true := by
  apply (beq_iff_agree u w).mpr
  exact agree_trans _ _ _ ((beq_iff_agree u v).mp first) ((beq_iff_agree v w).mp second)

instance : PartialEquivBEq Value where
  symm := beq_symm _ _
  trans := beq_trans _ _ _

theorem beq_self_iff (v : Value) : (v == v) = true ↔ v.canonical? ≠ none := by
  refine (beq_iff_agree v v).trans ?_
  rw [Agree, Option.ne_none_iff_exists']
  exact exists_congr fun c => and_self_iff

end Value

end CallContracts
