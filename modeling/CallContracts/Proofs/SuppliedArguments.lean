import CallContracts.Contract

set_option autoImplicit false

namespace CallContracts

inductive Supplied where
  | position (index : Nat) (v : Value)
  | keyword (name : String) (v : Value)

def Supplied.value : Supplied → Value
  | .position _ v => v
  | .keyword _ v => v

def Arguments.supplied (args : Arguments) : List Supplied :=
  (args.positional.zipIdx.map fun (v, index) => .position index v) ++
    args.keyword.map fun (name, v) => .keyword name v

namespace Arguments

end Arguments

section Positions

variable {α : Type}

theorem split_cons_iff (x y : α) (ys : List α) (front : List α → Prop) :
    (∃ before after, y :: ys = before ++ x :: after ∧ front before) ↔
      (y = x ∧ front []) ∨ ∃ before after, ys = before ++ x :: after ∧ front (y :: before) := by
  refine ⟨?_, ?_⟩
  · rintro ⟨before, after, split, holds⟩
    cases before with
    | nil =>
        cases split
        exact .inl ⟨rfl, holds⟩
    | cons first before =>
        cases split
        exact .inr ⟨before, after, rfl, holds⟩
  · rintro (⟨rfl, holds⟩ | ⟨before, after, rfl, holds⟩)
    · exact ⟨[], ys, rfl, holds⟩
    · exact ⟨y :: before, after, rfl, holds⟩

theorem filter_at_iff (keep : α → Bool) (xs : List α) (index : Nat) (x : α) :
    (xs.filter keep)[index]? = some x ↔
      ∃ before after, xs = before ++ x :: after ∧ keep x = true ∧ before.countP keep = index := by
  induction xs generalizing index with
  | nil => simp
  | cons y ys ih =>
      rw [split_cons_iff x y ys fun before => keep x = true ∧ before.countP keep = index]
      by_cases kept : keep y = true
      · rw [List.filter_cons_of_pos kept]
        cases index with
        | zero =>
            have here : y = x → keep x = true := fun same => same ▸ kept
            simpa [List.countP_cons_of_pos kept] using here
        | succ index => simp [List.countP_cons_of_pos kept, ih]
      · have elsewhere : ¬ (y = x ∧ keep x = true ∧ ([] : List α).countP keep = index) := by
          rintro ⟨rfl, holds, _⟩
          exact kept holds
        rw [List.filter_cons_of_neg kept, ih]
        simp only [elsewhere, false_or, List.countP_cons_of_neg kept]

end Positions

namespace Signature

-- The parameter that the positional argument at an index fills: as many of its sort stand before it.
def Placed (signature : Signature) (index : Nat) (p : Parameter) : Prop :=
  ∃ before after, signature.parameters = before ++ p :: after ∧ p.takesPosition = true ∧
    before.countP Parameter.takesPosition = index

def FirstOf (signature : Signature) (collects : Parameter → Bool) (p : Parameter) : Prop :=
  collects p = true ∧ ∃ before after, signature.parameters = before ++ p :: after ∧ ∀ q ∈ before, collects q = false

def Named (signature : Signature) (name : String) : Prop :=
  ∃ p ∈ signature.parameters, p.name = name ∧ (p.takesPosition = true ∨ p.isKeywordOnly = true)

inductive Pairs (signature : Signature) : Supplied → Obligation → Prop where
  | placed (index : Nat) (p : Parameter) (v : Value) (d : Declaration) (placed : signature.Placed index p)
      (declared : signature.declaration? p.name = some d) :
      Pairs signature (.position index v) ⟨.positional (index + 1) p.name, v, d⟩
  | surplus (index : Nat) (collector : Parameter) (v : Value) (d : Declaration)
      (unplaced : ∀ p, ¬ signature.Placed index p) (first : signature.FirstOf Parameter.collectsPositional collector)
      (declared : signature.declaration? collector.name = some d) :
      Pairs signature (.position index v) ⟨.positional (index + 1) collector.name, v, d⟩
  | named (name : String) (v : Value) (d : Declaration) (named : signature.Named name)
      (declared : signature.declaration? name = some d) : Pairs signature (.keyword name v) ⟨.keyword name, v, d⟩
  | collected (name : String) (collector : Parameter) (v : Value) (d : Declaration) (unnamed : ¬ signature.Named name)
      (first : signature.FirstOf Parameter.collectsKeyword collector)
      (declared : signature.declaration? collector.name = some d) :
      Pairs signature (.keyword name v) ⟨.keyword name, v, d⟩

theorem placed_iff (signature : Signature) (index : Nat) (name : String) :
    (Contract.ofSignature signature).parameters[index]? = some name ↔
      ∃ p, signature.Placed index p ∧ p.name = name := by
  simp only [Contract.ofSignature, List.getElem?_map, Option.map_eq_some_iff, filter_at_iff, Placed]

theorem unplaced_iff (signature : Signature) (index : Nat) :
    (Contract.ofSignature signature).parameters.length ≤ index ↔ ∀ p, ¬ signature.Placed index p := by
  rw [← List.getElem?_eq_none_iff, Option.eq_none_iff_forall_ne_some]
  simp only [ne_eq, placed_iff]
  refine ⟨fun unnamed p placed => unnamed p.name ⟨p, placed, rfl⟩, ?_⟩
  intro unplaced name named
  obtain ⟨p, placed, _⟩ := named
  exact unplaced p placed

theorem named_iff (signature : Signature) (name : String) :
    (name ∈ (Contract.ofSignature signature).parameters ∨ name ∈ (Contract.ofSignature signature).keywordOnly) ↔
      signature.Named name := by
  simp only [Contract.ofSignature, List.mem_map, List.mem_filter, Named]
  refine ⟨?_, ?_⟩
  · rintro (⟨p, ⟨member, positional⟩, same⟩ | ⟨p, ⟨member, keywordOnly⟩, same⟩)
    · exact ⟨p, member, same, .inl positional⟩
    · exact ⟨p, member, same, .inr keywordOnly⟩
  · rintro ⟨p, member, same, positional | keywordOnly⟩
    · exact .inl ⟨p, ⟨member, positional⟩, same⟩
    · exact .inr ⟨p, ⟨member, keywordOnly⟩, same⟩

theorem first_of_iff (signature : Signature) (collects : Parameter → Bool) (p : Parameter) :
    signature.parameters.find? collects = some p ↔ signature.FirstOf collects p := by
  rw [List.find?_eq_some_iff_append]
  simp only [FirstOf, Bool.not_eq_true']

theorem first_name_iff (signature : Signature) (collects : Parameter → Bool) (name : String) :
    (signature.parameters.find? collects).map Parameter.name = some name ↔
      ∃ p, signature.FirstOf collects p ∧ p.name = name := by
  simp only [Option.map_eq_some_iff, first_of_iff]

end Signature

namespace Contract

def obligation (contract : Contract) : Supplied → Option Obligation
  | .position index v => contract.positionalObligation index v
  | .keyword name v => contract.keywordObligation name v

theorem bind_supplied (contract : Contract) (args : Arguments) :
    contract.bind args = args.supplied.filterMap contract.obligation := by
  rw [bind, Arguments.supplied, List.filterMap_append, List.filterMap_map, List.filterMap_map]
  rfl

theorem positional_name_iff (signature : Signature) (index : Nat) (name : String) :
    (ofSignature signature).positionalName? index = some name ↔
      (∃ p, signature.Placed index p ∧ p.name = name) ∨
        ((∀ p, ¬ signature.Placed index p) ∧
          ∃ p, signature.FirstOf Parameter.collectsPositional p ∧ p.name = name) := by
  have extra : (ofSignature signature).extraPositional = some name ↔ _ := signature.first_name_iff _ name
  rw [← signature.placed_iff, ← signature.unplaced_iff, ← extra, positionalName?]
  cases placed : (ofSignature signature).parameters[index]? with
  | some held =>
      have inside : index < (ofSignature signature).parameters.length := (List.getElem?_eq_some_iff.mp placed).1
      have notPast : ¬ (ofSignature signature).parameters.length ≤ index := Nat.not_le_of_lt inside
      simp [notPast]
  | none =>
      have past : (ofSignature signature).parameters.length ≤ index := List.getElem?_eq_none_iff.mp placed
      simp [past]

theorem keyword_declaration_iff (signature : Signature) (name : String) (d : Declaration) :
    (ofSignature signature).keywordDeclaration? name = some d ↔
      (signature.Named name ∧ signature.declaration? name = some d) ∨
        (¬ signature.Named name ∧
          ∃ p, signature.FirstOf Parameter.collectsKeyword p ∧ signature.declaration? p.name = some d) := by
  rw [keywordDeclaration?]
  by_cases named : signature.Named name
  · rw [if_pos ((signature.named_iff name).mpr named)]
    refine ⟨fun declared => .inl ⟨named, declared⟩, ?_⟩
    rintro (⟨_, declared⟩ | ⟨unnamed, _⟩)
    · exact declared
    · exact False.elim (unnamed named)
  · rw [if_neg (mt (signature.named_iff name).mp named), Option.bind_eq_some_iff]
    refine ⟨?_, ?_⟩
    · rintro ⟨extra, chosen, declared⟩
      obtain ⟨p, first, rfl⟩ := (signature.first_name_iff _ extra).mp chosen
      exact .inr ⟨named, p, first, declared⟩
    · rintro (⟨known, _⟩ | ⟨_, p, first, declared⟩)
      · exact False.elim (named known)
      · exact ⟨p.name, (signature.first_name_iff _ p.name).mpr ⟨p, first, rfl⟩, declared⟩

theorem positional_obligation_iff (contract : Contract) (index : Nat) (v : Value) (o : Obligation) :
    contract.positionalObligation index v = some o ↔
      ∃ name d, contract.positionalName? index = some name ∧ contract.declaration? name = some d ∧
        ⟨.positional (index + 1) name, v, d⟩ = o := by
  simp [positionalObligation, Option.bind_eq_some_iff]

theorem keyword_obligation_iff (contract : Contract) (name : String) (v : Value) (o : Obligation) :
    contract.keywordObligation name v = some o ↔
      ∃ d, contract.keywordDeclaration? name = some d ∧ ⟨.keyword name, v, d⟩ = o := by
  simp [keywordObligation]

theorem pairs_of_obligation (signature : Signature) (s : Supplied) (o : Obligation)
    (bound : (ofSignature signature).obligation s = some o) : signature.Pairs s o := by
  cases s with
  | position index v =>
      obtain ⟨name, d, found, declared, rfl⟩ := (positional_obligation_iff _ index v o).mp bound
      rcases (positional_name_iff signature index name).mp found with ⟨p, placed, rfl⟩ | ⟨unplaced, p, first, rfl⟩
      · exact .placed index p v d placed declared
      · exact .surplus index p v d unplaced first declared
  | keyword name v =>
      obtain ⟨d, found, rfl⟩ := (keyword_obligation_iff _ name v o).mp bound
      rcases (keyword_declaration_iff signature name d).mp found with ⟨named, declared⟩ | ⟨unnamed, p, first, declared⟩
      · exact .named name v d named declared
      · exact .collected name p v d unnamed first declared

theorem obligation_of_pairs (signature : Signature) (s : Supplied) (o : Obligation) (pair : signature.Pairs s o) :
    (ofSignature signature).obligation s = some o := by
  cases pair with
  | placed index p v d placed declared =>
      have found := (positional_name_iff signature index p.name).mpr (.inl ⟨p, placed, rfl⟩)
      exact (positional_obligation_iff _ index v _).mpr ⟨p.name, d, found, declared, rfl⟩
  | surplus index collector v d unplaced first declared =>
      have found := (positional_name_iff signature index collector.name).mpr (.inr ⟨unplaced, collector, first, rfl⟩)
      exact (positional_obligation_iff _ index v _).mpr ⟨collector.name, d, found, declared, rfl⟩
  | named name v d named declared =>
      have found := (keyword_declaration_iff signature name d).mpr (.inl ⟨named, declared⟩)
      exact (keyword_obligation_iff _ name v _).mpr ⟨d, found, rfl⟩
  | collected name collector v d unnamed first declared =>
      have found := (keyword_declaration_iff signature name d).mpr (.inr ⟨unnamed, collector, first, declared⟩)
      exact (keyword_obligation_iff _ name v _).mpr ⟨d, found, rfl⟩

theorem obligation_iff_pairs (signature : Signature) (s : Supplied) (o : Obligation) :
    (ofSignature signature).obligation s = some o ↔ signature.Pairs s o :=
  ⟨pairs_of_obligation signature s o, obligation_of_pairs signature s o⟩

end Contract

end CallContracts
