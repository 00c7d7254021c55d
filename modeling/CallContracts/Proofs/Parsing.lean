import CallContracts.Proofs.Reading
import CallContracts.Proofs.Spelling

set_option autoImplicit false

namespace CallContracts

namespace Declaration

inductive Occurs (part : Declaration) : Declaration → Prop where
  | here : Occurs part part
  | member (members : List (Option Declaration)) (d : Declaration) (inside : some d ∈ members)
      (occurs : Occurs part d) : Occurs part (.union members)
  | element (entries : List (Ty × Declaration)) (container : Ty) (d : Declaration) (inside : (container, d) ∈ entries)
      (occurs : Occurs part d) : Occurs part (.collection entries)

variable (bindings : Bindings) (scope : Scope)

theorem separated_within {α : Type} (item : α → List Token → Prop) (items : List α) (tokens : List Token)
    (separated : Separated item items tokens) (x : α) (member : x ∈ items) :
    ∃ used, item x used ∧ used <:+: tokens := by
  induction separated with
  | empty => cases member
  | last y used written =>
      cases List.mem_singleton.mp member
      exact ⟨used, written, List.infix_rfl⟩
  | more y ys used tail comma written separates after ih =>
      rcases List.mem_cons.mp member with rfl | later
      · exact ⟨used, written, (List.prefix_append used _).isInfix⟩
      · obtain ⟨found, itself, inside⟩ := ih later
        exact ⟨found, itself, inside.trans ((List.suffix_cons comma tail).trans (List.suffix_append used _)).isInfix⟩

theorem bracketed_within (opening closing : Token) (inside : List Token) :
    inside <:+: opening :: (inside ++ [closing]) :=
  ⟨[opening], [closing], rfl⟩

theorem written_within (part d : Declaration) (occurs : Occurs part d) (tokens : List Token)
    (written : Written bindings scope d tokens) : ∃ used, Written bindings scope part used ∧ used <:+: tokens := by
  induction occurs generalizing tokens with
  | here => exact ⟨tokens, written, List.infix_rfl⟩
  | member members d inside occurs ih =>
      cases written with
      | union _ opening closing _ _ _ separated =>
          obtain ⟨used, member, within⟩ := separated_within _ members _ separated (some d) inside
          cases member with
          | declaration _ _ written _ =>
              obtain ⟨found, itself, deeper⟩ := ih used written
              exact ⟨found, itself, deeper.trans (within.trans (bracketed_within opening closing _))⟩
  | element entries container d inside occurs ih =>
      cases written with
      | collection _ opening closing _ _ _ separated =>
          obtain ⟨used, entry, within⟩ := separated_within _ entries _ separated (container, d) inside
          cases entry with
          | entry name colon _ _ used _ _ _ written =>
              obtain ⟨found, itself, deeper⟩ := ih used written
              have after : used <:+: name :: colon :: used := (List.suffix_append [name, colon] used).isInfix
              exact ⟨found, itself, deeper.trans (after.trans (within.trans (bracketed_within opening closing _)))⟩

theorem written_part (part d : Declaration) (occurs : Occurs part d) (tokens : List Token)
    (written : Written bindings scope d tokens) : ∃ used, Written bindings scope part used := by
  obtain ⟨used, itself, _⟩ := written_within bindings scope part d occurs tokens written
  exact ⟨used, itself⟩

theorem written_union_members (members : List (Option Declaration)) (tokens : List Token)
    (written : Written bindings scope (.union members) tokens) : some .absent ∉ members := by
  intro inside
  cases written with
  | union _ _ _ _ _ _ separated =>
      obtain ⟨used, member, _⟩ := separated_within _ members _ separated (some .absent) inside
      cases member with
      | declaration _ _ _ other => exact other rfl

theorem read_cons (size : Nat) (state : Expectation) (token : Token) (tokens : List Token) (d : Declaration) :
    readFrom bindings scope size state (token :: tokens) = .ok d ↔
      ∃ next, step bindings scope state token = .ok next ∧ readFrom bindings scope size next tokens = .ok d := by
  rw [readFrom]
  cases step bindings scope state token <;> simp

theorem step_lexeme (state next : Expectation) (token other : Token) (same : other.lexeme = token.lexeme)
    (taken : step bindings scope state token = .ok next) : step bindings scope state other = .ok next := by
  obtain ⟨kind, value, offset⟩ := token
  obtain ⟨_, _, place⟩ := other
  cases same
  cases state <;> cases kind <;> simp_all [step, start]

theorem read_lexemes (size place : Nat) (state : Expectation) (tokens found : List Token)
    (same : found.map Token.lexeme = tokens.map Token.lexeme) (d : Declaration)
    (read : readFrom bindings scope size state tokens = .ok d) : readFrom bindings scope place state found = .ok d := by
  induction tokens generalizing state found with
  | nil =>
      cases List.map_eq_nil_iff.mp same
      rw [read_from_iff] at read ⊢
      exact read
  | cons token tokens ih =>
      obtain ⟨other, others, rfl, first, rest⟩ := List.map_eq_cons_iff.mp same
      obtain ⟨next, taken, read⟩ := (read_cons bindings scope size state token tokens d).mp read
      exact (read_cons bindings scope place state other others d).mpr
        ⟨next, step_lexeme bindings scope state next token other first taken, ih next others rest read⟩

def RefusesWords (state : Expectation) : Prop :=
  ∀ token : Token, token.IsWord → ∀ next, step bindings scope state token ≠ .ok next

theorem complete_refuses_words (d : Declaration) (frames : List Frame) :
    RefusesWords bindings scope (.complete d frames) := by
  intro token isWord next
  match frames with
  | [] => rcases isWord with kind | kind <;> simp [Expectation.complete, step]
  | .union members :: frames => rcases isWord with kind | kind <;> simp [Expectation.complete, step, kind]
  | .entry entries container :: frames => rcases isWord with kind | kind <;> simp [Expectation.complete, step, kind]

theorem word_before_no_word (state next : Expectation) (token : Token) (isWord : token.IsWord)
    (taken : step bindings scope state token = .ok next) : RefusesWords bindings scope next := by
  rcases isWord with kind | kind
  · cases state with
    | declaration frames =>
        simp only [step, start, kind, Except.ok.injEq] at taken
        rw [← taken]
        exact complete_refuses_words bindings scope _ frames
    | member members frames =>
        simp only [step, start, kind, Except.ok.injEq] at taken
        rw [← taken]
        exact complete_refuses_words bindings scope _ (.union members :: frames)
    | container entries frames =>
        simp only [step, kind] at taken
        obtain ⟨container, _, rfl⟩ := (except_map_ok _ _ _).mp taken
        intro second secondWord last
        rcases secondWord with kind | kind <;> simp [step, kind]
    | _ => simp [step, kind] at taken
  · cases state with
    | declaration frames =>
        simp only [step, start, kind, Except.ok.injEq] at taken
        rw [← taken]
        exact complete_refuses_words bindings scope .absent frames
    | member members frames =>
        simp only [step, kind, Except.ok.injEq] at taken
        rw [← taken]
        intro second secondWord last
        rcases secondWord with kind | kind <;> simp [step, kind]
    | _ => simp [step, kind] at taken

theorem read_apart (size : Nat) (state : Expectation) (tokens : List Token) (d : Declaration)
    (read : readFrom bindings scope size state tokens = .ok d) : Token.Apart tokens := by
  induction tokens generalizing state with
  | nil => trivial
  | cons token tokens ih =>
      obtain ⟨next, taken, read⟩ := (read_cons bindings scope size state token tokens d).mp read
      cases tokens with
      | nil => trivial
      | cons second tokens =>
          refine ⟨?_, ih next read⟩
          rintro ⟨firstWord, secondWord⟩
          obtain ⟨last, takenNext, _⟩ := (read_cons bindings scope size next second tokens d).mp read
          exact word_before_no_word bindings scope state next token firstWord taken second secondWord last takenNext

theorem parse_iff_read (text : String) (d : Declaration) :
    parse bindings scope text = .ok d ↔
      ∃ tokens, Token.scan 0 text.toList = .ok tokens ∧ Written bindings scope d tokens := by
  rw [parse]
  cases scanned : Token.scan 0 text.toList with
  | error e => simp
  | ok tokens => simp [read_iff_written]

theorem tokenize_iff (text : String) (tokens : List Token) :
    Token.tokenize text = .ok (tokens ++ [.eof (Text.byteSize text.toList)]) ↔
      Token.scan 0 text.toList = .ok tokens := by
  rw [Token.tokenize, except_map_ok]
  constructor
  · rintro ⟨found, scanned, same⟩
    rw [scanned, List.append_cancel_right same]
  · intro scanned
    exact ⟨tokens, scanned, rfl⟩

theorem parse_spelled (text : String) (d : Declaration) (tokens : List Token)
    (written : Written bindings scope d tokens) (spelled : Token.Spelled tokens text.toList) :
    parse bindings scope text = .ok d := by
  have read := (read_iff_written bindings scope d (Text.byteSize text.toList) tokens).mpr written
  have apart := read_apart bindings scope _ _ tokens d read
  obtain ⟨found, scanned, same⟩ := Token.scan_spelled tokens text.toList spelled apart 0
  have again := read_lexemes bindings scope _ (Text.byteSize text.toList) _ tokens found same d read
  exact (parse_iff_read bindings scope text d).mpr
    ⟨found, scanned, (read_iff_written bindings scope d _ found).mp again⟩

-- Parsing accepts exactly the texts whose tokens write a declaration, and gives that declaration.
theorem parse_exact (text : String) (d : Declaration) :
    (parse bindings scope text = .ok d ↔
      ∃ tokens, Token.tokenize text = .ok (tokens ++ [.eof (Text.byteSize text.toList)]) ∧
        Written bindings scope d tokens) ∧
    (parse bindings scope text = .ok d → ∀ members, Occurs (.union members) d → some .absent ∉ members) ∧
    (parse bindings scope text = .ok d ↔
      ∃ tokens, Written bindings scope d tokens ∧ Token.Spelled tokens text.toList) := by
  simp only [tokenize_iff]
  refine ⟨parse_iff_read bindings scope text d, ?_, ?_, ?_⟩
  · intro parsed members occurs
    obtain ⟨tokens, _, written⟩ := (parse_iff_read bindings scope text d).mp parsed
    obtain ⟨used, union⟩ := written_part bindings scope (.union members) d occurs tokens written
    exact written_union_members bindings scope members used union
  · intro parsed
    obtain ⟨tokens, scanned, written⟩ := (parse_iff_read bindings scope text d).mp parsed
    exact ⟨tokens, written, Token.scan_spells 0 text.toList tokens scanned⟩
  · rintro ⟨tokens, written, spelled⟩
    exact parse_spelled bindings scope text d tokens written spelled

theorem parse_spaced_union :
    parse .empty ⟨0, "s"⟩ " (str,None ,T,) " =
        .ok (.union [some (.exact (.builtin .str)), none, some (.reference ⟨"T", ⟨0, "s"⟩⟩)]) ∧
      some Declaration.absent ∉ [some (.exact (.builtin .str)), none, some (.reference ⟨"T", ⟨0, "s"⟩⟩)] := by
  have parsed : parse .empty ⟨0, "s"⟩ " (str,None ,T,) " =
      .ok (.union [some (.exact (.builtin .str)), none, some (.reference ⟨"T", ⟨0, "s"⟩⟩)]) := by
    with_unfolding_all rfl
  exact ⟨parsed, (parse_exact .empty ⟨0, "s"⟩ _ _).2.1 parsed _ .here⟩

end Declaration

end CallContracts
