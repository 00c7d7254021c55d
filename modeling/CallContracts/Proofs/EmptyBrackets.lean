import CallContracts.Proofs.Parsing

set_option autoImplicit false

namespace CallContracts

namespace Declaration

inductive EmptyBrackets : TokenKind → TokenKind → Declaration → Prop where
  | round : EmptyBrackets .openParen .closeParen (.union [])
  | curly : EmptyBrackets .openCurly .closeCurly (.collection [])

theorem occurs_trans (part middle whole : Declaration) (inner : Occurs part middle) (outer : Occurs middle whole) :
    Occurs part whole := by
  induction outer with
  | here => exact inner
  | member members d inside _ ih => exact .member members d inside ih
  | element entries container d inside _ ih => exact .element entries container d inside ih

variable (bindings : Bindings) (scope : Scope)

theorem closes_occurs (result : Declaration) (frames : List Frame) (d : Declaration) (tokens : List Token)
    (closes : Closes bindings scope result frames d tokens) : Occurs d result := by
  induction frames generalizing d tokens with
  | nil =>
      obtain ⟨_, rfl⟩ := closes
      exact .here
  | cons frame frames ih =>
      cases frame with
      | union members =>
          obtain ⟨further, _, _, rest, _, _, _, outside⟩ := closes
          refine occurs_trans d _ result (.member _ d ?_ .here) (ih _ rest outside)
          simp
      | entry entries container =>
          obtain ⟨further, _, _, rest, _, _, _, outside⟩ := closes
          refine occurs_trans d _ result (.element _ container d ?_ .here) (ih _ rest outside)
          simp

variable (size : Nat)

theorem complete_occurs (d result : Declaration) (frames : List Frame) (tokens : List Token)
    (read : readFrom bindings scope size (.complete d frames) tokens = .ok result) : Occurs d result := by
  rw [read_from_iff, leads_complete] at read
  exact closes_occurs bindings scope result frames d tokens read

theorem read_after (state : Expectation) (front back : List Token) (d : Declaration)
    (read : readFrom bindings scope size state (front ++ back) = .ok d) :
    ∃ later, readFrom bindings scope size later back = .ok d := by
  induction front generalizing state with
  | nil => exact ⟨state, read⟩
  | cons token front ih =>
      obtain ⟨next, _, read⟩ := (read_cons bindings scope size state token (front ++ back) d).mp read
      exact ih next read

theorem step_starts (state next : Expectation) (token : Token)
    (opens : token.kind = .openParen ∨ token.kind = .openCurly) (taken : step bindings scope state token = .ok next) :
    ∃ frames, start scope frames token = .ok next := by
  cases state with
  | declaration frames => exact ⟨frames, taken⟩
  | member members frames =>
      refine ⟨.union members :: frames, ?_⟩
      rcases opens with kind | kind <;> simpa only [step, kind] using taken
  | _ => rcases opens with kind | kind <;> simp [step, kind] at taken

theorem adjacent_split (first second : TokenKind) (tokens : List Token)
    (adjacent : [first, second] <:+: tokens.map Token.kind) :
    ∃ before a b after, tokens = before ++ a :: b :: after ∧ a.kind = first ∧ b.kind = second := by
  obtain ⟨front, back, split⟩ := adjacent
  rw [List.append_assoc] at split
  obtain ⟨before, rest, rfl, _, kinds⟩ := List.map_eq_append_iff.mp split.symm
  obtain ⟨a, rest, rfl, atFirst, kinds⟩ := List.map_eq_cons_iff.mp kinds
  obtain ⟨b, after, rfl, atSecond, _⟩ := List.map_eq_cons_iff.mp kinds
  exact ⟨before, a, b, after, rfl, atFirst, atSecond⟩

section Brackets

variable (opens closes : TokenKind) (empty : Declaration) (brackets : EmptyBrackets opens closes empty)

include brackets

-- A closing bracket is looked for before an item is, on the first round too.
theorem empty_brackets_taken (state inside after : Expectation) (opening closing : Token)
    (openingKind : opening.kind = opens) (closingKind : closing.kind = closes)
    (opened : step bindings scope state opening = .ok inside)
    (closed : step bindings scope inside closing = .ok after) : ∃ frames, after = .complete empty frames := by
  cases brackets with
  | round =>
      obtain ⟨frames, started⟩ := step_starts bindings scope state inside opening (.inl openingKind) opened
      simp only [start, openingKind, Except.ok.injEq] at started
      subst inside
      simp only [step, closingKind, Except.ok.injEq] at closed
      exact ⟨frames, closed.symm⟩
  | curly =>
      obtain ⟨frames, started⟩ := step_starts bindings scope state inside opening (.inr openingKind) opened
      simp only [start, openingKind, Except.ok.injEq] at started
      subst inside
      simp only [step, closingKind, Except.ok.injEq] at closed
      exact ⟨frames, closed.symm⟩

theorem empty_brackets_written (tokens : List Token) (written : Written bindings scope empty tokens) :
    tokens.map Token.kind = [opens, closes] := by
  cases brackets with
  | round =>
      cases written with
      | union _ opening closing _ openingKind closingKind separated =>
          cases separated
          simp [openingKind, closingKind]
  | curly =>
      cases written with
      | collection _ opening closing _ openingKind closingKind separated =>
          cases separated
          simp [openingKind, closingKind]

theorem empty_occurs_iff (d : Declaration) (tokens : List Token) (written : Written bindings scope d tokens) :
    Occurs empty d ↔ [opens, closes] <:+: tokens.map Token.kind := by
  refine ⟨fun occurs => ?_, fun adjacent => ?_⟩
  · obtain ⟨used, itself, within⟩ := written_within bindings scope empty d occurs tokens written
    rw [← empty_brackets_written bindings scope opens closes empty brackets used itself]
    exact within.map Token.kind
  · obtain ⟨before, opening, closing, after, rfl, openingKind, closingKind⟩ :=
      adjacent_split opens closes tokens adjacent
    have read := (read_iff_written bindings scope d 0 _).mpr written
    obtain ⟨state, read⟩ := read_after bindings scope 0 _ before _ d read
    obtain ⟨inside, opened, read⟩ := (read_cons bindings scope 0 _ _ _ d).mp read
    obtain ⟨next, closed, read⟩ := (read_cons bindings scope 0 _ _ _ d).mp read
    obtain ⟨frames, rfl⟩ := empty_brackets_taken bindings scope opens closes empty brackets state inside next opening
      closing openingKind closingKind opened closed
    exact complete_occurs bindings scope 0 empty d frames after read

end Brackets

theorem never_empty_iff {α : Type} (whole : List α → Declaration) (d : Declaration) :
    (∀ items, Occurs (whole items) d → items ≠ []) ↔ ¬ Occurs (whole []) d := by
  refine ⟨fun filled occurs => filled [] occurs rfl, fun missing items occurs empty => ?_⟩
  rw [empty] at occurs
  exact missing occurs

-- A parsed union or collection is empty only where the text closes a bracket right after opening it.
theorem emptiness_is_written (text : String) (d : Declaration) (parsed : parse bindings scope text = .ok d) :
    ∃ tokens, Token.tokenize text = .ok (tokens ++ [.eof (Text.byteSize text.toList)]) ∧
      ((∀ members, Occurs (.union members) d → members ≠ []) ↔
        ¬ [.openParen, .closeParen] <:+: tokens.map Token.kind) ∧
      ((∀ entries, Occurs (.collection entries) d → entries ≠ []) ↔
        ¬ [.openCurly, .closeCurly] <:+: tokens.map Token.kind) := by
  obtain ⟨tokens, scanned, written⟩ := (parse_iff_read bindings scope text d).mp parsed
  refine ⟨tokens, (tokenize_iff text tokens).mpr scanned, ?_, ?_⟩
  · rw [never_empty_iff, empty_occurs_iff bindings scope _ _ _ .round d tokens written]
  · rw [never_empty_iff, empty_occurs_iff bindings scope _ _ _ .curly d tokens written]

theorem emptiness_is_written_inside :
    let d := Declaration.union [some (.exact (.builtin .int)), some (.collection [(.builtin .list, .union [])])]
    parse .empty ⟨0, "main"⟩ "(int, \x7blist: ( )\x7d)" = .ok d ∧
      (¬ ∀ members, Occurs (.union members) d → members ≠ []) ∧
      ∀ entries, Occurs (.collection entries) d → entries ≠ [] := by
  intro d
  have parsed : parse .empty ⟨0, "main"⟩ "(int, \x7blist: ( )\x7d)" = .ok d := by with_unfolding_all rfl
  obtain ⟨tokens, scanned, unions, collections⟩ := emptiness_is_written .empty ⟨0, "main"⟩ _ d parsed
  have lexed : Token.tokenize "(int, \x7blist: ( )\x7d)" =
      .ok ([⟨.openParen, "(", 0⟩, ⟨.identifier, "int", 1⟩, ⟨.comma, ",", 4⟩, ⟨.openCurly, "\x7b", 6⟩,
        ⟨.identifier, "list", 7⟩, ⟨.colon, ":", 11⟩, ⟨.openParen, "(", 13⟩, ⟨.closeParen, ")", 15⟩,
        ⟨.closeCurly, "\x7d", 16⟩, ⟨.closeParen, ")", 17⟩] ++ [.eof 18]) := by
    with_unfolding_all rfl
  have same := List.append_cancel_right (Except.ok.inj (lexed.symm.trans scanned))
  rw [unions, collections, ← same]
  exact ⟨parsed, by decide, by decide⟩

theorem empty_union_parsed :
    parse .empty ⟨0, "main"⟩ "()" = .ok (.union []) ∧
      ¬ ∀ members, Occurs (.union members) (.union []) → members ≠ [] := by
  refine ⟨by with_unfolding_all rfl, ?_⟩
  intro filled
  exact filled [] .here rfl

end Declaration

end CallContracts
