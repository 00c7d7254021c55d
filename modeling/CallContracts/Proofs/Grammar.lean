import CallContracts.Declaration.Parse

set_option autoImplicit false

namespace CallContracts

inductive Separated {α : Type} (item : α → List Token → Prop) : List α → List Token → Prop where
  | empty : Separated item [] []
  | last (x : α) (tokens : List Token) (written : item x tokens) : Separated item [x] tokens
  | more (x : α) (xs : List α) (tokens tail : List Token) (comma : Token) (written : item x tokens)
      (separates : comma.kind = .comma) (after : Separated item xs tail) :
      Separated item (x :: xs) (tokens ++ comma :: tail)

def Denotes (bindings : Bindings) (scope : Scope) (name : String) (container : Ty) : Prop :=
  (∃ b : Builtin, name = b.name ∧ container = .builtin b) ∨
    ((∀ b : Builtin, name ≠ b.name) ∧ bindings.find? scope name = some container)

-- The grammar of declarations: which tokens write which declaration. Offsets play no part in it.
mutual

inductive Written (bindings : Bindings) (scope : Scope) : Declaration → List Token → Prop where
  | absent (word : Token) (reserved : word.kind = .absence) : Written bindings scope .absent [word]
  | builtin (word : Token) (b : Builtin) (name : word.kind = .identifier) (known : word.value = b.name) :
      Written bindings scope (.exact (.builtin b)) [word]
  | reference (word : Token) (name : word.kind = .identifier) (other : ∀ b : Builtin, word.value ≠ b.name) :
      Written bindings scope (.reference ⟨word.value, scope⟩) [word]
  | union (members : List (Option Declaration)) (opening closing : Token) (inside : List Token)
      (opens : opening.kind = .openParen) (closes : closing.kind = .closeParen)
      (written : Separated (WrittenMember bindings scope) members inside) :
      Written bindings scope (.union members) (opening :: (inside ++ [closing]))
  | collection (entries : List (Ty × Declaration)) (opening closing : Token) (inside : List Token)
      (opens : opening.kind = .openCurly) (closes : closing.kind = .closeCurly)
      (written : Separated (WrittenEntry bindings scope) entries inside) :
      Written bindings scope (.collection entries) (opening :: (inside ++ [closing]))

-- The reserved word directly inside a union is an absence member, so no member is the declaration of absence.
inductive WrittenMember (bindings : Bindings) (scope : Scope) : Option Declaration → List Token → Prop where
  | absence (word : Token) (reserved : word.kind = .absence) : WrittenMember bindings scope none [word]
  | declaration (d : Declaration) (tokens : List Token) (written : Written bindings scope d tokens)
      (other : d ≠ .absent) : WrittenMember bindings scope (some d) tokens

inductive WrittenEntry (bindings : Bindings) (scope : Scope) : Ty × Declaration → List Token → Prop where
  | entry (name colon : Token) (container : Ty) (d : Declaration) (tokens : List Token)
      (named : name.kind = .identifier) (denotes : Denotes bindings scope name.value container)
      (divides : colon.kind = .colon) (written : Written bindings scope d tokens) :
      WrittenEntry bindings scope (container, d) (name :: colon :: tokens)

end

theorem Builtin.of_name_some_iff (name : String) (b : Builtin) : Builtin.ofName? name = some b ↔ name = b.name := by
  constructor
  · intro found
    have same := List.find?_some found
    simpa using (beq_iff_eq.mp same).symm
  · rintro rfl
    exact b.of_name_name

theorem Builtin.of_name_none_iff (name : String) : Builtin.ofName? name = none ↔ ∀ b : Builtin, name ≠ b.name := by
  constructor
  · intro missing b same
    rw [(Builtin.of_name_some_iff name b).mpr same] at missing
    cases missing
  · intro other
    cases found : Builtin.ofName? name with
    | none => rfl
    | some b => exact False.elim (other b ((Builtin.of_name_some_iff name b).mp found))

namespace Declaration

theorem container_of_name_iff (bindings : Bindings) (scope : Scope) (name : String) (container : Ty) :
    containerOfName bindings scope name = .ok container ↔ Denotes bindings scope name container := by
  unfold containerOfName Denotes
  cases builtin : Builtin.ofName? name with
  | some b =>
      have named := (Builtin.of_name_some_iff name b).mp builtin
      constructor
      · intro same
        cases same
        exact .inl ⟨b, named, rfl⟩
      · rintro (⟨other, same, rfl⟩ | ⟨none, _⟩)
        · cases builtin.symm.trans ((Builtin.of_name_some_iff name other).mpr same)
          rfl
        · exact False.elim (none b named)
  | none =>
      have other := (Builtin.of_name_none_iff name).mp builtin
      cases found : bindings.find? scope name with
      | none => simp [other]
      | some t => simp [other]

theorem written_first (bindings : Bindings) (scope : Scope) (d : Declaration) (token : Token) (tokens : List Token) :
    Written bindings scope d (token :: tokens) ↔
      match token.kind with
      | .absence => d = .absent ∧ tokens = []
      | .identifier => d = ofName scope token.value ∧ tokens = []
      | .openParen => ∃ members inside closing, d = .union members ∧ tokens = inside ++ [closing] ∧
          closing.kind = .closeParen ∧ Separated (WrittenMember bindings scope) members inside
      | .openCurly => ∃ entries inside closing, d = .collection entries ∧ tokens = inside ++ [closing] ∧
          closing.kind = .closeCurly ∧ Separated (WrittenEntry bindings scope) entries inside
      | _ => False := by
  constructor
  · intro written
    cases written with
    | absent _ reserved => simp [reserved]
    | builtin _ b name known =>
        have found := (Builtin.of_name_some_iff token.value b).mpr known
        simp [name, ofName, found]
    | reference _ name other =>
        have missing := (Builtin.of_name_none_iff token.value).mpr other
        simp [name, ofName, missing]
    | union members _ closing inside opens closes written =>
        rw [opens]
        exact ⟨members, inside, closing, rfl, rfl, closes, written⟩
    | collection entries _ closing inside opens closes written =>
        rw [opens]
        exact ⟨entries, inside, closing, rfl, rfl, closes, written⟩
  · intro shape
    split at shape
    · rename_i reserved
      obtain ⟨rfl, rfl⟩ := shape
      exact .absent token reserved
    · rename_i name
      obtain ⟨rfl, rfl⟩ := shape
      unfold ofName
      cases builtin : Builtin.ofName? token.value with
      | some b => exact .builtin token b name ((Builtin.of_name_some_iff token.value b).mp builtin)
      | none => exact .reference token name ((Builtin.of_name_none_iff token.value).mp builtin)
    · rename_i opens
      obtain ⟨members, inside, closing, rfl, rfl, closes, written⟩ := shape
      exact .union members token closing inside opens closes written
    · rename_i opens
      obtain ⟨entries, inside, closing, rfl, rfl, closes, written⟩ := shape
      exact .collection entries token closing inside opens closes written
    · exact False.elim shape

theorem written_nonempty (bindings : Bindings) (scope : Scope) (d : Declaration) :
    ¬ Written bindings scope d [] := by
  intro written
  cases written

end Declaration

end CallContracts
