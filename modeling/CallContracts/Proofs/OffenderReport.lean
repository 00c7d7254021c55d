import CallContracts.Proofs.DistinctValues
import CallContracts.Proofs.FailureCauses

set_option autoImplicit false

namespace CallContracts

section Names

variable {names others : List String}

theorem erase_dups_snoc (names : List String) (name : String) :
    (names ++ [name]).eraseDups = if name ∈ names then names.eraseDups else names.eraseDups ++ [name] := by
  rw [List.eraseDups_append]
  by_cases known : name ∈ names <;> simp [List.removeAll, List.eraseDups_cons, known]

theorem erase_dups_snoc_same (same : names.eraseDups = others.eraseDups) (name : String) :
    (names ++ [name]).eraseDups = (others ++ [name]).eraseDups := by
  have alike : name ∈ names ↔ name ∈ others := by
    rw [← List.mem_eraseDups, same, List.mem_eraseDups]
  rw [erase_dups_snoc, erase_dups_snoc, same]
  simp only [alike]

def InOrderOfArrival (names distinct : List String) : Prop :=
  distinct.Pairwise fun first second => names.idxOf first < names.idxOf second

theorem in_order_snoc (name : String) (ordered : InOrderOfArrival names names.eraseDups) :
    InOrderOfArrival (names ++ [name]) (names ++ [name]).eraseDups := by
  have kept : InOrderOfArrival (names ++ [name]) names.eraseDups := by
    refine List.Pairwise.imp_of_mem ?_ ordered
    intro first second firstMember secondMember earlier
    rw [List.idxOf_append, List.idxOf_append, if_pos (List.mem_eraseDups.mp firstMember),
      if_pos (List.mem_eraseDups.mp secondMember)]
    exact earlier
  rw [erase_dups_snoc]
  by_cases known : name ∈ names
  · rw [if_pos known]
    exact kept
  · rw [if_neg known]
    refine List.pairwise_append.mpr ⟨kept, List.pairwise_singleton _ _, ?_⟩
    intro first member second last
    cases List.mem_singleton.mp last
    have listed := List.mem_eraseDups.mp member
    have bound := List.idxOf_lt_length_iff.mpr listed
    rw [List.idxOf_append, List.idxOf_append, if_pos listed, if_neg known]
    omega

theorem in_order_append (names later : List String) (ordered : InOrderOfArrival names names.eraseDups) :
    InOrderOfArrival (names ++ later) (names ++ later).eraseDups := by
  induction later generalizing names with
  | nil => simpa using ordered
  | cons name later ih =>
      rw [List.append_cons]
      exact ih (names ++ [name]) (in_order_snoc name ordered)

end Names

structure NamesTypes (vs : List Value) (names : List String) : Prop where
  listed : ∀ name, name ∈ names ↔ ∃ v ∈ vs, v.type.name = name
  ordered : InOrderOfArrival (vs.map fun v => v.type.name) names

theorem in_order_nodup {names distinct : List String} (ordered : InOrderOfArrival names distinct) : distinct.Nodup := by
  refine List.Pairwise.imp ?_ ordered
  intro first second earlier same
  rw [same] at earlier
  exact Nat.lt_irrefl _ earlier

theorem names_types_unique (vs : List Value) (names others : List String) (first : NamesTypes vs names)
    (second : NamesTypes vs others) : names = others := by
  have alike : names.Perm others := by
    refine (List.perm_ext_iff_of_nodup (in_order_nodup first.ordered) (in_order_nodup second.ordered)).mpr ?_
    intro name
    rw [first.listed, second.listed]
  refine List.Perm.eq_of_pairwise ?_ first.ordered second.ordered alike
  intro one other _ _ before after
  exact False.elim (Nat.lt_asymm before after)

theorem Value.set_display (vs : List Value) (some : vs ≠ []) :
    (Value.set vs).display = "\x7b" ++ Text.joined (vs.map Value.render) ++ "\x7d" := by
  obtain ⟨v, rest, rfl⟩ := List.exists_cons_of_ne_nil some
  rw [← Value.render_items_map]
  simp only [Value.display, Value.render, Value.renderItems, Value.renderSet]

namespace Declaration

theorem distinct_names_types (vs : List Value) : NamesTypes vs (distinctTypeNames vs) := by
  refine ⟨fun name => ?_, in_order_append [] _ .nil⟩
  rw [distinctTypeNames, List.mem_eraseDups, List.mem_map]

theorem distinct_names_known (seen : List Value) (v : Value) (known : seen.any (· == v) = true) :
    distinctTypeNames (seen ++ [v]) = distinctTypeNames seen := by
  obtain ⟨w, member, equal⟩ := List.any_eq_true.mp known
  have listed : v.type.name ∈ seen.map fun v => v.type.name :=
    List.mem_map.mpr ⟨w, member, by rw [Value.beq_type w v equal]⟩
  rw [distinctTypeNames, List.map_append]
  exact (erase_dups_snoc _ _).trans (if_pos listed)

theorem distinct_after_names (seen before vs : List Value)
    (same : distinctTypeNames seen = distinctTypeNames before) :
    distinctTypeNames (seen ++ Value.distinctAfter seen vs) = distinctTypeNames (before ++ vs) := by
  -- What is dropped equals a value that was kept, and equal values have one type.
  induction vs generalizing seen before with
  | nil => simpa [Value.distinctAfter] using same
  | cons v vs ih =>
      have extended : distinctTypeNames (seen ++ [v]) = distinctTypeNames (before ++ [v]) := by
        rw [distinctTypeNames, distinctTypeNames, List.map_append, List.map_append]
        exact erase_dups_snoc_same same v.type.name
      rw [Value.distinctAfter, List.append_cons before]
      by_cases known : seen.any (· == v) = true
      · rw [if_pos known]
        exact ih seen (before ++ [v]) ((distinct_names_known seen v known).symm.trans extended)
      · rw [if_neg known, List.append_cons seen]
        exact ih (seen ++ [v]) (before ++ [v]) extended

theorem firsts_names (vs : List Value) : distinctTypeNames (Value.firsts vs) = distinctTypeNames vs := by
  rw [← Value.distinct_eq_firsts]
  exact distinct_after_names [] [] vs rfl

variable (bindings : Bindings) (blame : Blame)

theorem element_mismatch_spoils (entries : List (Ty × Declaration)) (v : Value) (container : Ty) (element : Declaration)
    (items : List Value) (e : Violation)
    (found : (entries.find? fun entry => entry.1 = v.type) = some (container, element))
    (shape : v.elements = some items) (spoils : Spoils bindings blame entries v e)
    (mismatch : e.kind = .collectionElementMismatch) :
    (∀ item ∈ items, element.HasVerdict bindings item) ∧ element.refused bindings items ≠ [] ∧ e =
      (blame.elementMismatch (element.refused bindings items) [entryText container element]
        (distinctTypeNames (element.refused bindings items))).within "check_collection" := by
  cases spoils with
  | container unknown => cases mismatch
  | plain container element found shapeless =>
      rw [shape] at shapeless
      cases shapeless
  | elements container' element' items' found' shape' verdicts offends =>
      rw [found] at found'
      rw [shape] at shape'
      cases found'
      cases shape'
      exact ⟨verdicts, offends, rfl⟩
  | undecided container' element' front back item u found' shape' verdicts stops =>
      obtain ⟨r, _, _, rfl⟩ := accepts_error bindings element' item e stops
      cases mismatch

theorem check_collection_given (entries : List (Ty × Declaration)) (v : Value) (e : Violation) (given : v ≠ .absent) :
    (Declaration.collection entries).check bindings blame v = .error e ↔
      ∃ inner, Spoils bindings blame entries v inner ∧ e = inner.within "check" := by
  rw [check_error_iff]
  refine ⟨fun failed => ?_, fun spoiled => ?_⟩
  · have breaks : Breaks bindings blame v (.collection entries) e := failed.2
    cases breaks with
    | refused d tested verdict => cases tested
    | undecided d u tested verdict => cases tested
    | missing entries missing => exact False.elim (given missing)
    | collection entries inner given spoils => exact ⟨inner, spoils, rfl⟩
  · obtain ⟨inner, spoils, rfl⟩ := spoiled
    exact ⟨fun served => given served.1, .collection entries inner given spoils⟩

theorem firsts_refused (element : Declaration) (items : List Value) (w : Value)
    (member : w ∈ Value.firsts (element.refused bindings items)) :
    w ∈ items ∧ element.accepts bindings w = .ok false := by
  rw [← Value.distinct_eq_firsts] at member
  exact (mem_refused bindings element items w).mp ((Value.distinct_after_sublist [] _).subset member)

theorem firsts_some (vs : List Value) (some : vs ≠ []) : Value.firsts vs ≠ [] := by
  obtain ⟨v, rest, rfl⟩ := List.exists_cons_of_ne_nil some
  rw [← Value.distinct_eq_firsts]
  exact List.cons_ne_nil _ _

theorem refused_covered (element : Declaration) (items : List Value) (item : Value) (member : item ∈ items)
    (refuses : element.accepts bindings item = .ok false) :
    ∃ w ∈ Value.firsts (element.refused bindings items), w = item ∨ (w == item) = true := by
  rw [← Value.distinct_eq_firsts]
  have offends := (mem_refused bindings element items item).mpr ⟨member, refuses⟩
  rcases Value.distinct_after_covers [] _ item offends with kept | ⟨w, kept, equal⟩
  · exact ⟨item, kept, .inl rfl⟩
  · exact ⟨w, kept, .inr equal⟩

-- The message shows exactly the refused elements, of several equal ones the first, and names exactly their types.
theorem offenders_reported (entries : List (Ty × Declaration)) (v : Value) (container : Ty) (element : Declaration)
    (items : List Value) (found : (entries.find? fun entry => entry.1 = v.type) = some (container, element))
    (shape : v.elements = some items) :
    (∀ e, (Declaration.collection entries).check bindings blame v = .error e → e.kind = .collectionElementMismatch →
      (∀ item ∈ items, element.accepts bindings item = .ok true ∨ element.accepts bindings item = .ok false) ∧
      ∃ rendered types text, rendered = Value.firsts (element.refused bindings items) ∧
        text = "\x7b" ++ Text.joined (rendered.map Value.render) ++ "\x7d" ∧
        e.message =
          blame.function ++ "(): " ++ blame.site.label ++ "=" ++
            (if text.length ≤ 32 then text else String.ofList (text.toList.take 32) ++ "...") ++
            ": Declared type=<" ++ (container.name ++ "[" ++ Text.joined element.describe ++ "]") ++
            ">, actual type=<" ++ Text.joined types ++ ">." ∧
        (∀ w ∈ rendered, w ∈ items ∧ element.accepts bindings w = .ok false) ∧
        (∀ item ∈ items, element.accepts bindings item = .ok false →
          ∃ w ∈ rendered, w = item ∨ (w == item) = true) ∧
        NamesTypes (element.refused bindings items) types ∧ NamesTypes rendered types) ∧
    ((∀ item ∈ items, element.HasVerdict bindings item) →
      ∀ item ∈ items, element.accepts bindings item = .ok false →
      ∃ e, (Declaration.collection entries).check bindings blame v = .error e ∧
        e.kind = .collectionElementMismatch) := by
  have given : v ≠ .absent := by
    intro missing
    rw [missing] at shape
    cases shape
  refine ⟨?_, ?_⟩
  · intro e failed mismatch
    obtain ⟨inner, spoils, rfl⟩ := (check_collection_given bindings blame entries v e given).mp failed
    obtain ⟨verdicts, offends, rfl⟩ :=
      element_mismatch_spoils bindings blame entries v container element items inner found shape spoils mismatch
    have names := distinct_names_types (element.refused bindings items)
    have renderedNames := distinct_names_types (Value.firsts (element.refused bindings items))
    rw [firsts_names] at renderedNames
    have display := Value.set_display _ (firsts_some _ offends)
    refine ⟨?_, _, _, _, rfl, rfl, ?_, firsts_refused bindings element items, refused_covered bindings element items,
      names, renderedNames⟩
    · intro item member
      obtain ⟨admitted, verdict⟩ := verdicts item member
      cases admitted with
      | true => exact .inl verdict
      | false => exact .inr verdict
    · rw [← display, ← Value.distinct_eq_firsts]
      rfl
  · intro verdicts item member refuses
    have offends : element.refused bindings items ≠ [] :=
      List.ne_nil_of_mem ((mem_refused bindings element items item).mpr ⟨member, refuses⟩)
    have spoils : Spoils bindings blame entries v _ :=
      .elements container element items found shape verdicts offends
    exact ⟨_, (check_collection_given bindings blame entries v _ given).mpr ⟨_, spoils, rfl⟩, rfl⟩

def notANumber : Value := .float ⟨0x7FF8000000000000⟩

def zerosAndOthers : List Value :=
  [.float ⟨0⟩, .float ⟨0x8000000000000000⟩, .int 1, notANumber, .str "a", notANumber]

-- The zeros are equal and the first is shown. What is no number differs from itself and is shown twice.
theorem offenders_reported_zeros_and_nan :
    ∃ e, (collectionOf (.builtin .list) (.exact (.builtin .int))).check .empty ⟨"f", .result⟩
        (.list zerosAndOthers) = .error e ∧
      e.message =
        "f(): return value=\x7b0.0, nan, 'a', nan\x7d: Declared type=<list[int]>, actual type=<float, str>." ∧
      NamesTypes [.float ⟨0⟩, notANumber, .str "a", notANumber] ["float", "str"] := by
  have reported := (offenders_reported .empty ⟨"f", .result⟩ [(.builtin .list, .exact (.builtin .int))]
    (.list zerosAndOthers) (.builtin .list) (.exact (.builtin .int)) zerosAndOthers rfl rfl).1 _ rfl rfl
  obtain ⟨_, rendered, types, text, same, written, message, _, _, _, names⟩ := reported
  have kept : rendered = [.float ⟨0⟩, notANumber, .str "a", notANumber] := same.trans (by with_unfolding_all rfl)
  rw [kept] at written names
  have listed : types = ["float", "str"] := names_types_unique _ _ _ names (distinct_names_types _)
  rw [listed] at message names
  rw [written] at message
  refine ⟨_, rfl, message.trans ?_, names⟩
  with_unfolding_all rfl

end Declaration

end CallContracts
