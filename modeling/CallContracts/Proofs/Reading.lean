import CallContracts.Proofs.Grammar

set_option autoImplicit false

namespace CallContracts

section Lists

variable {α : Type} (item : α → List Token → Prop)

def Following (items : List α) (tokens : List Token) : Prop :=
  (items = [] ∧ tokens = []) ∨ ∃ comma tail, tokens = comma :: tail ∧ comma.kind = .comma ∧ Separated item items tail

def Bracketed (written : List α → List Token → Prop) (close : TokenKind) (whole : List α → Declaration)
    (outer : Declaration → List Token → Prop) (items : List α) (tokens : List Token) : Prop :=
  ∃ further inside closing rest, tokens = inside ++ closing :: rest ∧ written further inside ∧ closing.kind = close ∧
    outer (whole (items ++ further)) rest

theorem separated_cons_iff (x : α) (xs : List α) (tokens : List Token) :
    Separated item (x :: xs) tokens ↔ ∃ used tail, tokens = used ++ tail ∧ item x used ∧ Following item xs tail := by
  constructor
  · intro separated
    cases separated with
    | last _ _ written => exact ⟨tokens, [], by simp, written, .inl ⟨rfl, rfl⟩⟩
    | more _ _ used tail comma written separates after =>
        exact ⟨used, comma :: tail, rfl, written, .inr ⟨comma, tail, rfl, separates, after⟩⟩
  · intro split
    obtain ⟨used, tail, rfl, written, following⟩ := split
    rcases following with ⟨rfl, rfl⟩ | ⟨comma, rest, rfl, separates, after⟩
    · rw [List.append_nil]
      exact .last x used written
    · exact .more x xs used rest comma written separates after

variable (close : TokenKind) (whole : List α → Declaration) (outer : Declaration → List Token → Prop)

theorem bracketed_separated_cons (items : List α) (token : Token) (tokens : List Token) :
    Bracketed (Separated item) close whole outer items (token :: tokens) ↔
      (token.kind = close ∧ outer (whole items) tokens) ∨
        ∃ x used tail, token :: tokens = used ++ tail ∧ item x used ∧
          Bracketed (Following item) close whole outer (items ++ [x]) tail := by
  constructor
  · rintro ⟨further, inside, closing, rest, split, separated, closes, outside⟩
    cases further with
    | nil =>
        cases separated
        obtain ⟨rfl, rfl⟩ := List.cons.inj split
        exact .inl ⟨closes, by simpa using outside⟩
    | cons x xs =>
        obtain ⟨used, tail, rfl, written, following⟩ := (separated_cons_iff item x xs inside).mp separated
        exact .inr ⟨x, used, tail ++ closing :: rest, by simpa using split, written, xs, tail, closing, rest, rfl,
          following, closes, by simpa using outside⟩
  · intro ahead
    rcases ahead with ⟨closes, outside⟩ | ⟨x, used, _, split, written, bracketed⟩
    · exact ⟨[], [], token, tokens, rfl, .empty, closes, by simpa using outside⟩
    · obtain ⟨xs, tail, closing, rest, rfl, following, closes, outside⟩ := bracketed
      exact ⟨x :: xs, used ++ tail, closing, rest, by simpa using split,
        (separated_cons_iff item x xs (used ++ tail)).mpr ⟨used, tail, rfl, written, following⟩, closes,
        by simpa using outside⟩

theorem bracketed_following_cons (items : List α) (token : Token) (tokens : List Token) :
    Bracketed (Following item) close whole outer items (token :: tokens) ↔
      (token.kind = close ∧ outer (whole items) tokens) ∨
        (token.kind = .comma ∧ Bracketed (Separated item) close whole outer items tokens) := by
  constructor
  · intro bracketed
    obtain ⟨further, inside, closing, rest, split, following, closes, outside⟩ := bracketed
    rcases following with ⟨rfl, rfl⟩ | ⟨comma, tail, rfl, separates, after⟩
    · obtain ⟨rfl, rfl⟩ := List.cons.inj split
      exact .inl ⟨closes, by simpa using outside⟩
    · obtain ⟨rfl, rfl⟩ := List.cons.inj split
      exact .inr ⟨separates, further, tail, closing, rest, rfl, after, closes, outside⟩
  · intro ahead
    rcases ahead with ⟨closes, outside⟩ | ⟨separates, bracketed⟩
    · exact ⟨[], [], token, tokens, rfl, .inl ⟨rfl, rfl⟩, closes, by simpa using outside⟩
    · obtain ⟨further, tail, closing, rest, rfl, after, closes, outside⟩ := bracketed
      exact ⟨further, token :: tail, closing, rest, rfl, .inr ⟨token, tail, rfl, separates, after⟩, closes, outside⟩

end Lists

namespace Declaration

variable (bindings : Bindings) (scope : Scope) (result : Declaration)

-- What the open frames ask of the tokens after a declaration, for the whole to be `result`.
def Closes : List Frame → Declaration → List Token → Prop
  | [], d, tokens => tokens = [] ∧ d = result
  | .union members :: frames, d, tokens =>
      Bracketed (Following (WrittenMember bindings scope)) .closeParen .union (Closes frames) (members ++ [some d])
        tokens
  | .entry entries container :: frames, d, tokens =>
      Bracketed (Following (WrittenEntry bindings scope)) .closeCurly .collection (Closes frames)
        (entries ++ [(container, d)]) tokens

-- The tokens that lead from a state to `result`, said by the grammar and not by the steps.
def Leads : Expectation → List Token → Prop
  | .declaration frames, tokens =>
      ∃ d used rest, tokens = used ++ rest ∧ Written bindings scope d used ∧ Closes bindings scope result frames d rest
  | .member members frames, tokens =>
      Bracketed (Separated (WrittenMember bindings scope)) .closeParen .union (Closes bindings scope result frames)
        members tokens
  | .memberEnd members frames, tokens =>
      Bracketed (Following (WrittenMember bindings scope)) .closeParen .union (Closes bindings scope result frames)
        members tokens
  | .container entries frames, tokens =>
      Bracketed (Separated (WrittenEntry bindings scope)) .closeCurly .collection (Closes bindings scope result frames)
        entries tokens
  | .colon entries container frames, tokens =>
      ∃ colon used rest d, tokens = colon :: (used ++ rest) ∧ colon.kind = .colon ∧ Written bindings scope d used ∧
        Closes bindings scope result (.entry entries container :: frames) d rest
  | .entryEnd entries frames, tokens =>
      Bracketed (Following (WrittenEntry bindings scope)) .closeCurly .collection (Closes bindings scope result frames)
        entries tokens
  | .finished d, tokens => tokens = [] ∧ d = result

theorem leads_complete (d : Declaration) (frames : List Frame) (tokens : List Token) :
    Leads bindings scope result (.complete d frames) tokens ↔ Closes bindings scope result frames d tokens := by
  match frames with
  | [] => exact Iff.rfl
  | .union members :: frames => exact Iff.rfl
  | .entry entries container :: frames => exact Iff.rfl

theorem leads_nil (state : Expectation) : Leads bindings scope result state [] ↔ state = .finished result := by
  cases state with
  | finished d => simp [Leads]
  | declaration frames =>
      constructor
      · rintro ⟨d, used, rest, empty, written, _⟩
        cases (List.append_eq_nil_iff.mp empty.symm).1
        exact False.elim (written_nonempty bindings scope d written)
      · intro same
        cases same
  | _ => simp [Leads, Bracketed]

theorem leads_declaration_first (frames : List Frame) (token : Token) (tokens : List Token) :
    Leads bindings scope result (.declaration frames) (token :: tokens) ↔
      ∃ d used rest, tokens = used ++ rest ∧ Written bindings scope d (token :: used) ∧
        Closes bindings scope result frames d rest := by
  constructor
  · rintro ⟨d, used, rest, split, written, closes⟩
    cases used with
    | nil => exact False.elim (written_nonempty bindings scope d written)
    | cons first used =>
        obtain ⟨rfl, rfl⟩ := List.cons.inj split
        exact ⟨d, used, rest, rfl, written, closes⟩
  · rintro ⟨d, used, rest, rfl, written, closes⟩
    exact ⟨d, token :: used, rest, rfl, written, closes⟩

-- One lemma for each state: the tokens that lead from it begin with one that its step takes, and go on from there.
theorem leads_start (frames : List Frame) (token : Token) (tokens : List Token) :
    Leads bindings scope result (.declaration frames) (token :: tokens) ↔
      ∃ next, start scope frames token = .ok next ∧ Leads bindings scope result next tokens := by
  rw [leads_declaration_first]
  simp only [written_first]
  cases kind : token.kind with
  | absence =>
      simp only [start, kind, Except.ok.injEq, exists_eq_left', leads_complete]
      constructor
      · rintro ⟨d, used, rest, rfl, ⟨rfl, rfl⟩, closes⟩
        exact closes
      · intro closes
        exact ⟨.absent, [], tokens, rfl, ⟨rfl, rfl⟩, closes⟩
  | identifier =>
      simp only [start, kind, Except.ok.injEq, exists_eq_left', leads_complete]
      constructor
      · rintro ⟨d, used, rest, rfl, ⟨rfl, rfl⟩, closes⟩
        exact closes
      · intro closes
        exact ⟨ofName scope token.value, [], tokens, rfl, ⟨rfl, rfl⟩, closes⟩
  | openParen =>
      simp only [start, kind, Except.ok.injEq, exists_eq_left', Leads]
      constructor
      · rintro ⟨d, used, rest, rfl, ⟨members, inside, closing, rfl, rfl, closed, written⟩, closes⟩
        exact ⟨members, inside, closing, rest, by simp, written, closed, closes⟩
      · rintro ⟨members, inside, closing, rest, rfl, written, closed, closes⟩
        exact ⟨.union members, inside ++ [closing], rest, by simp,
          ⟨members, inside, closing, rfl, rfl, closed, written⟩, closes⟩
  | openCurly =>
      simp only [start, kind, Except.ok.injEq, exists_eq_left', Leads]
      constructor
      · rintro ⟨d, used, rest, rfl, ⟨entries, inside, closing, rfl, rfl, closed, written⟩, closes⟩
        exact ⟨entries, inside, closing, rest, by simp, written, closed, closes⟩
      · rintro ⟨entries, inside, closing, rest, rfl, written, closed, closes⟩
        exact ⟨.collection entries, inside ++ [closing], rest, by simp,
          ⟨entries, inside, closing, rfl, rfl, closed, written⟩, closes⟩
  | _ => simp [start, kind]

theorem member_first_iff (members : List (Option Declaration)) (frames : List Frame) (token : Token)
    (tokens : List Token) :
    (∃ member used tail, token :: tokens = used ++ tail ∧ WrittenMember bindings scope member used ∧
        Leads bindings scope result (.memberEnd (members ++ [member]) frames) tail) ↔
      if token.kind = .absence then Leads bindings scope result (.memberEnd (members ++ [none]) frames) tokens
      else Leads bindings scope result (.declaration (.union members :: frames)) (token :: tokens) := by
  split
  · rename_i reserved
    constructor
    · rintro ⟨member, used, tail, split, written, leads⟩
      cases written with
      | absence word _ =>
          obtain ⟨rfl, rfl⟩ := List.cons.inj split
          exact leads
      | declaration d _ written other =>
          cases used with
          | nil => exact False.elim (written_nonempty bindings scope d written)
          | cons first used =>
              obtain ⟨rfl, rfl⟩ := List.cons.inj split
              simp only [written_first, reserved] at written
              exact False.elim (other written.1)
    · intro leads
      exact ⟨none, [token], tokens, rfl, .absence token reserved, leads⟩
  · rename_i unreserved
    constructor
    · rintro ⟨member, used, tail, split, written, leads⟩
      cases written with
      | absence word reserved =>
          obtain ⟨rfl, rfl⟩ := List.cons.inj split
          exact False.elim (unreserved reserved)
      | declaration d _ written other => exact ⟨d, used, tail, split, written, leads⟩
    · intro leads
      obtain ⟨d, used, tail, rfl, written, closes⟩ :=
        (leads_declaration_first bindings scope result _ token tokens).mp leads
      refine ⟨some d, token :: used, tail, rfl, .declaration d _ written ?_, closes⟩
      rintro rfl
      cases written with
      | absent _ reserved => exact unreserved reserved

theorem leads_member (members : List (Option Declaration)) (frames : List Frame) (token : Token)
    (tokens : List Token) :
    Leads bindings scope result (.member members frames) (token :: tokens) ↔
      ∃ next, step bindings scope (.member members frames) token = .ok next ∧
        Leads bindings scope result next tokens := by
  have split : Leads bindings scope result (.member members frames) (token :: tokens) ↔
      (token.kind = .closeParen ∧ Leads bindings scope result (.complete (.union members) frames) tokens) ∨
        ∃ member used tail, token :: tokens = used ++ tail ∧ WrittenMember bindings scope member used ∧
          Leads bindings scope result (.memberEnd (members ++ [member]) frames) tail := by
    rw [leads_complete]
    exact bracketed_separated_cons _ _ _ _ members token tokens
  rw [split, member_first_iff, leads_start]
  cases kind : token.kind <;> simp [step, start, kind]

theorem leads_member_end (members : List (Option Declaration)) (frames : List Frame) (token : Token)
    (tokens : List Token) :
    Leads bindings scope result (.memberEnd members frames) (token :: tokens) ↔
      ∃ next, step bindings scope (.memberEnd members frames) token = .ok next ∧
        Leads bindings scope result next tokens := by
  have split : Leads bindings scope result (.memberEnd members frames) (token :: tokens) ↔
      (token.kind = .closeParen ∧ Leads bindings scope result (.complete (.union members) frames) tokens) ∨
        (token.kind = .comma ∧ Leads bindings scope result (.member members frames) tokens) := by
    rw [leads_complete]
    exact bracketed_following_cons _ _ _ _ members token tokens
  rw [split]
  cases kind : token.kind <;> simp [step, kind]

theorem entry_first_iff (entries : List (Ty × Declaration)) (frames : List Frame) (token : Token)
    (tokens : List Token) :
    (∃ entry used tail, token :: tokens = used ++ tail ∧ WrittenEntry bindings scope entry used ∧
        Leads bindings scope result (.entryEnd (entries ++ [entry]) frames) tail) ↔
      token.kind = .identifier ∧ ∃ container, containerOfName bindings scope token.value = .ok container ∧
        Leads bindings scope result (.colon entries container frames) tokens := by
  constructor
  · rintro ⟨_, _, tail, split, written, leads⟩
    cases written with
    | entry name colon container d used named denotes divides written =>
        obtain ⟨rfl, rfl⟩ := List.cons.inj split
        have known := (container_of_name_iff bindings scope token.value container).mpr denotes
        exact ⟨named, container, known, colon, used, tail, d, rfl, divides, written, leads⟩
  · rintro ⟨named, container, known, colon, used, tail, d, rfl, divides, written, leads⟩
    have denotes := (container_of_name_iff bindings scope token.value container).mp known
    exact ⟨(container, d), token :: colon :: used, tail, rfl,
      .entry token colon container d used named denotes divides written, leads⟩

theorem leads_container (entries : List (Ty × Declaration)) (frames : List Frame) (token : Token)
    (tokens : List Token) :
    Leads bindings scope result (.container entries frames) (token :: tokens) ↔
      ∃ next, step bindings scope (.container entries frames) token = .ok next ∧
        Leads bindings scope result next tokens := by
  have split : Leads bindings scope result (.container entries frames) (token :: tokens) ↔
      (token.kind = .closeCurly ∧ Leads bindings scope result (.complete (.collection entries) frames) tokens) ∨
        ∃ entry used tail, token :: tokens = used ++ tail ∧ WrittenEntry bindings scope entry used ∧
          Leads bindings scope result (.entryEnd (entries ++ [entry]) frames) tail := by
    rw [leads_complete]
    exact bracketed_separated_cons _ _ _ _ entries token tokens
  rw [split, entry_first_iff]
  cases kind : token.kind with
  | identifier => cases known : containerOfName bindings scope token.value <;> simp [step, kind, known, Except.map]
  | _ => simp [step, kind]

theorem leads_colon (entries : List (Ty × Declaration)) (container : Ty) (frames : List Frame) (token : Token)
    (tokens : List Token) :
    Leads bindings scope result (.colon entries container frames) (token :: tokens) ↔
      ∃ next, step bindings scope (.colon entries container frames) token = .ok next ∧
        Leads bindings scope result next tokens := by
  have split : Leads bindings scope result (.colon entries container frames) (token :: tokens) ↔
      token.kind = .colon ∧ Leads bindings scope result (.declaration (.entry entries container :: frames)) tokens := by
    constructor
    · rintro ⟨colon, used, rest, d, same, divides, written, closes⟩
      obtain ⟨rfl, rfl⟩ := List.cons.inj same
      exact ⟨divides, d, used, rest, rfl, written, closes⟩
    · rintro ⟨divides, d, used, rest, rfl, written, closes⟩
      exact ⟨token, used, rest, d, rfl, divides, written, closes⟩
  rw [split]
  cases kind : token.kind <;> simp [step, kind]

theorem leads_entry_end (entries : List (Ty × Declaration)) (frames : List Frame) (token : Token)
    (tokens : List Token) :
    Leads bindings scope result (.entryEnd entries frames) (token :: tokens) ↔
      ∃ next, step bindings scope (.entryEnd entries frames) token = .ok next ∧
        Leads bindings scope result next tokens := by
  have split : Leads bindings scope result (.entryEnd entries frames) (token :: tokens) ↔
      (token.kind = .closeCurly ∧ Leads bindings scope result (.complete (.collection entries) frames) tokens) ∨
        (token.kind = .comma ∧ Leads bindings scope result (.container entries frames) tokens) := by
    rw [leads_complete]
    exact bracketed_following_cons _ _ _ _ entries token tokens
  rw [split]
  cases kind : token.kind <;> simp [step, kind]

theorem leads_cons (state : Expectation) (token : Token) (tokens : List Token) :
    Leads bindings scope result state (token :: tokens) ↔
      ∃ next, step bindings scope state token = .ok next ∧ Leads bindings scope result next tokens := by
  cases state with
  | declaration frames => exact leads_start bindings scope result frames token tokens
  | member members frames => exact leads_member bindings scope result members frames token tokens
  | memberEnd members frames => exact leads_member_end bindings scope result members frames token tokens
  | container entries frames => exact leads_container bindings scope result entries frames token tokens
  | colon entries container frames => exact leads_colon bindings scope result entries container frames token tokens
  | entryEnd entries frames => exact leads_entry_end bindings scope result entries frames token tokens
  | finished d => simp [Leads, step]

theorem read_from_iff (size : Nat) (state : Expectation) (tokens : List Token) :
    readFrom bindings scope size state tokens = .ok result ↔ Leads bindings scope result state tokens := by
  induction tokens generalizing state with
  | nil =>
      rw [leads_nil]
      cases state <;> simp [readFrom]
  | cons token tokens ih =>
      rw [leads_cons, readFrom]
      cases taken : step bindings scope state token with
      | error e => simp
      | ok next => simp [ih]

theorem read_iff_written (size : Nat) (tokens : List Token) :
    readFrom bindings scope size (.declaration []) tokens = .ok result ↔ Written bindings scope result tokens := by
  rw [read_from_iff]
  constructor
  · rintro ⟨d, used, rest, rfl, written, rfl, rfl⟩
    rw [List.append_nil]
    exact written
  · intro written
    exact ⟨result, tokens, [], by simp, written, rfl, rfl⟩

end Declaration

end CallContracts
