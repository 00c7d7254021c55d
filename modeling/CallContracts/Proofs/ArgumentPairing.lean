import CallContracts.Proofs.SuppliedArguments

set_option autoImplicit false

namespace CallContracts

section Partners

variable {α β : Type} {pairs : α → β → Prop}

inductive Partners (pairs : α → β → Prop) : List α → List β → Prop where
  | nil : Partners pairs [] []
  | paired (x : α) (y : β) (xs : List α) (ys : List β) (pair : pairs x y) (rest : Partners pairs xs ys) :
      Partners pairs (x :: xs) (y :: ys)
  | alone (x : α) (xs : List α) (ys : List β) (alone : ∀ y, ¬ pairs x y) (rest : Partners pairs xs ys) :
      Partners pairs (x :: xs) ys

theorem filter_map_partners (f : α → Option β) (exactly : ∀ x y, f x = some y ↔ pairs x y) (xs : List α) :
    Partners pairs xs (xs.filterMap f) := by
  induction xs with
  | nil => exact .nil
  | cons x xs ih =>
      cases partner : f x with
      | none =>
          rw [List.filterMap_cons_none partner]
          refine .alone x xs _ (fun y pair => ?_) ih
          rw [(exactly x y).mpr pair] at partner
          cases partner
      | some y =>
          rw [List.filterMap_cons_some partner]
          exact .paired x y xs _ ((exactly x y).mp partner) ih

theorem partners_filter_map (f : α → Option β) (exactly : ∀ x y, f x = some y ↔ pairs x y) (xs : List α) (ys : List β)
    (partners : Partners pairs xs ys) : xs.filterMap f = ys := by
  induction partners with
  | nil => rfl
  | paired x y xs ys pair rest ih => rw [List.filterMap_cons_some ((exactly x y).mpr pair), ih]
  | alone x xs ys alone rest ih =>
      have none : f x = none := by
        cases partner : f x with
        | none => rfl
        | some y => exact False.elim (alone y ((exactly x y).mp partner))
      rw [List.filterMap_cons_none none, ih]

structure Places (pairs : α → β → Prop) (xs : List α) (ys : List β) (places : List Nat) : Prop where
  ascending : places.Pairwise (· < ·)
  size : places.length = ys.length
  origin : ∀ (k place : Nat) (y : β), places[k]? = some place → ys[k]? = some y → ∃ x, xs[place]? = some x ∧ pairs x y
  complete : ∀ (place : Nat) (x : α) (y : β), xs[place]? = some x → pairs x y → place ∈ places

theorem ascending_shifted (places : List Nat) (ascending : places.Pairwise (· < ·)) :
    (places.map (· + 1)).Pairwise (· < ·) := by
  rw [List.pairwise_map]
  exact ascending.imp Nat.succ_lt_succ

theorem shifted_origin (x : α) (xs : List α) (ys : List β) (places : List Nat) (known : Places pairs xs ys places)
    (k place : Nat) (y : β) (found : (places.map (· + 1))[k]? = some place) (given : ys[k]? = some y) :
    ∃ item, (x :: xs)[place]? = some item ∧ pairs item y := by
  obtain ⟨before, earlier, rfl⟩ : ∃ before, places[k]? = some before ∧ before + 1 = place := by
    simpa using found
  exact known.origin k before y earlier given

theorem shifted_complete (x : α) (xs : List α) (ys : List β) (places : List Nat) (known : Places pairs xs ys places)
    (place : Nat) (item : α) (y : β) (found : (x :: xs)[place + 1]? = some item) (pair : pairs item y) :
    place + 1 ∈ places.map (· + 1) :=
  List.mem_map.mpr ⟨place, known.complete place item y found pair, rfl⟩

theorem places_paired (x : α) (y : β) (xs : List α) (ys : List β) (places : List Nat) (pair : pairs x y)
    (known : Places pairs xs ys places) : Places pairs (x :: xs) (y :: ys) (0 :: places.map (· + 1)) := by
  refine ⟨?_, by simp [known.size], ?_, ?_⟩
  · exact List.pairwise_cons.mpr ⟨by simp, ascending_shifted places known.ascending⟩
  · intro k place partner found given
    cases k with
    | zero =>
        cases found
        cases given
        exact ⟨x, rfl, pair⟩
    | succ k => exact shifted_origin x xs ys places known k place partner found given
  · intro place item partner found pair
    cases place with
    | zero => simp
    | succ place => exact List.mem_cons_of_mem _ (shifted_complete x xs ys places known place item partner found pair)

theorem places_alone (x : α) (xs : List α) (ys : List β) (places : List Nat) (alone : ∀ y, ¬ pairs x y)
    (known : Places pairs xs ys places) : Places pairs (x :: xs) ys (places.map (· + 1)) := by
  refine ⟨ascending_shifted places known.ascending, by simp [known.size], ?_, ?_⟩
  · exact shifted_origin x xs ys places known
  · intro place item partner found pair
    cases place with
    | zero =>
        cases found
        exact False.elim (alone partner pair)
    | succ place => exact shifted_complete x xs ys places known place item partner found pair

theorem partners_places (xs : List α) (ys : List β) (partners : Partners pairs xs ys) :
    ∃ places, Places pairs xs ys places := by
  induction partners with
  | nil => exact ⟨[], .nil, rfl, by simp, by simp⟩
  | paired x y xs ys pair rest ih =>
      obtain ⟨places, known⟩ := ih
      exact ⟨_, places_paired x y xs ys places pair known⟩
  | alone x xs ys alone rest ih =>
      obtain ⟨places, known⟩ := ih
      exact ⟨_, places_alone x xs ys places alone known⟩

end Partners

namespace Parameter

def plain (p : Parameter) : Parameter :=
  match p.kind with
  | .defaulted _ => { p with kind := .positional }
  | .keywordOnly _ => { p with kind := .keywordOnly none }
  | _ => p

theorem plain_name (p : Parameter) : p.plain.name = p.name := by
  obtain ⟨name, kind⟩ := p
  cases kind <;> rfl

def IgnoresDefaults (test : Parameter → Bool) : Prop := ∀ p : Parameter, test p.plain = test p

theorem sorts_ignore_defaults :
    IgnoresDefaults takesPosition ∧ IgnoresDefaults isKeywordOnly ∧ IgnoresDefaults collectsPositional ∧
      IgnoresDefaults collectsKeyword := by
  refine ⟨?_, ?_, ?_, ?_⟩ <;> intro p <;> obtain ⟨name, kind⟩ := p <;> cases kind <;> rfl

theorem names_plain (ps : List Parameter) : (ps.map plain).map name = ps.map name := by
  rw [List.map_map]
  exact List.map_congr_left fun p _ => plain_name p

theorem filter_names_same (test : Parameter → Bool) (ignores : IgnoresDefaults test) (ps qs : List Parameter)
    (same : ps.map plain = qs.map plain) : (ps.filter test).map name = (qs.filter test).map name := by
  have unchanged : test ∘ plain = test := funext ignores
  have kept := congrArg (List.filter test) same
  rw [List.filter_map, List.filter_map, unchanged] at kept
  rw [← names_plain, kept, names_plain]

theorem find_name_same (test : Parameter → Bool) (ignores : IgnoresDefaults test) (ps qs : List Parameter)
    (same : ps.map plain = qs.map plain) : (ps.find? test).map name = (qs.find? test).map name := by
  rw [← List.head?_filter, ← List.head?_filter, ← List.head?_map, ← List.head?_map,
    filter_names_same test ignores ps qs same]

end Parameter

structure Signature.SameButDefaults (first second : Signature) : Prop where
  parameters : first.parameters.map Parameter.plain = second.parameters.map Parameter.plain
  declarations : ∀ name, first.declaration? name = second.declaration? name

namespace Contract

theorem obligation_same (first second : Signature) (same : first.SameButDefaults second) (s : Supplied) :
    (ofSignature first).obligation s = (ofSignature second).obligation s := by
  obtain ⟨positional, keywordOnly, extraPositional, extraKeyword⟩ := Parameter.sorts_ignore_defaults
  have parameters : (ofSignature first).parameters = (ofSignature second).parameters :=
    Parameter.filter_names_same _ positional _ _ same.parameters
  have keywordOnly : (ofSignature first).keywordOnly = (ofSignature second).keywordOnly :=
    Parameter.filter_names_same _ keywordOnly _ _ same.parameters
  have extraPositional : (ofSignature first).extraPositional = (ofSignature second).extraPositional :=
    Parameter.find_name_same _ extraPositional _ _ same.parameters
  have extraKeyword : (ofSignature first).extraKeyword = (ofSignature second).extraKeyword :=
    Parameter.find_name_same _ extraKeyword _ _ same.parameters
  have declarations : (ofSignature first).declaration? = (ofSignature second).declaration? := funext same.declarations
  cases s with
  | position index v =>
      simp only [obligation, positionalObligation, positionalName?, parameters, extraPositional, declarations]
  | keyword name v =>
      simp only [obligation, keywordObligation, keywordDeclaration?, parameters, keywordOnly, extraKeyword,
        declarations]

-- Positions count every positional argument. A parameter without a declaration does not fall to a collector.
theorem arguments_paired_exactly (signature : Signature) (args : Arguments) :
    (∀ obligations, (ofSignature signature).bind args = obligations ↔
      Partners signature.Pairs args.supplied obligations) ∧
    (∃ places, Places signature.Pairs args.supplied ((ofSignature signature).bind args) places) ∧
    (∀ other, signature.SameButDefaults other → (ofSignature other).bind args = (ofSignature signature).bind args) := by
  have exactly := obligation_iff_pairs signature
  have partners := filter_map_partners (ofSignature signature).obligation exactly args.supplied
  rw [← bind_supplied] at partners
  refine ⟨?_, partners_places _ _ partners, ?_⟩
  · intro obligations
    refine ⟨fun same => same ▸ partners, fun others => ?_⟩
    rw [bind_supplied]
    exact partners_filter_map _ exactly _ _ others
  · intro other same
    have alike : (ofSignature signature).obligation = (ofSignature other).obligation :=
      funext (obligation_same signature other same)
    rw [bind_supplied, bind_supplied, alike]

def mixedParameters (y x : ParameterKind) : Signature where
  parameters := [⟨"x", .positional⟩, ⟨"rest", .extraPositional⟩, ⟨"y", y⟩, ⟨"more", .extraPositional⟩, ⟨"x", x⟩,
    ⟨"options", .extraKeyword⟩]
  declarations := [("x", .exact (.builtin .int)), ("rest", .exact (.builtin .str)),
    ("options", .exact (.builtin .bool))]
  returns := none

def mixedArguments : Arguments :=
  ⟨[.int 1, .int 2, .str "a"], [("y", .int 3), ("z", .bool true), ("x", .int 4)]⟩

theorem arguments_paired_mixed :
    Partners (mixedParameters (.defaulted (.int 0)) (.keywordOnly none)).Pairs mixedArguments.supplied
        [⟨.positional 1 "x", .int 1, .exact (.builtin .int)⟩, ⟨.positional 3 "rest", .str "a", .exact (.builtin .str)⟩,
          ⟨.keyword "z", .bool true, .exact (.builtin .bool)⟩, ⟨.keyword "x", .int 4, .exact (.builtin .int)⟩] ∧
      (ofSignature (mixedParameters (.defaulted .absent) (.keywordOnly (some (.int 7))))).bind mixedArguments =
        (ofSignature (mixedParameters (.defaulted (.int 0)) (.keywordOnly none))).bind mixedArguments := by
  obtain ⟨paired, _, same⟩ :=
    arguments_paired_exactly (mixedParameters (.defaulted (.int 0)) (.keywordOnly none)) mixedArguments
  exact ⟨(paired _).mp rfl, same _ ⟨rfl, fun _ => rfl⟩⟩

end Contract

end CallContracts
