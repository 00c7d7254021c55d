import CallContracts.Proofs.Parsing

set_option autoImplicit false

namespace CallContracts

def Token.containerNames : List Token → List String
  | name :: colon :: rest =>
      if name.kind = .identifier ∧ colon.kind = .colon then name.value :: containerNames (colon :: rest)
      else containerNames (colon :: rest)
  | _ => []

namespace Token

theorem container_names_skip (token : Token) (tokens : List Token) (other : token.kind ≠ .identifier) :
    containerNames (token :: tokens) = containerNames tokens := by
  cases tokens with
  | nil => rfl
  | cons next rest => rw [containerNames, if_neg fun both => other both.1]

theorem container_names_colon (name colon : Token) (tokens : List Token) (named : name.kind = .identifier)
    (divides : colon.kind = .colon) :
    containerNames (name :: colon :: tokens) = name.value :: containerNames tokens := by
  have other : colon.kind ≠ .identifier := by simp [divides]
  rw [containerNames, if_pos ⟨named, divides⟩, container_names_skip colon tokens other]

theorem container_names_append (front back : List Token)
    (apart : ∀ token rest, back = token :: rest → token.kind ≠ .colon) :
    containerNames (front ++ back) = containerNames front ++ containerNames back := by
  induction front with
  | nil => rfl
  | cons token front ih =>
      cases front with
      | cons next rest =>
          rw [List.cons_append] at ih
          rw [List.cons_append, List.cons_append, containerNames, containerNames, ih]
          split <;> rfl
      | nil =>
          cases back with
          | nil => rfl
          | cons next rest =>
              have notColon := apart next rest rfl
              change containerNames (token :: next :: rest) = _
              rw [containerNames, if_neg fun both => notColon both.2]
              rfl

end Token

theorem separated_names {α : Type} (item : α → List Token → Prop) (x : α) (xs : List α) (tokens : List Token)
    (separated : Separated item (x :: xs) tokens) :
    ∃ used rest, item x used ∧ Separated item xs rest ∧
      Token.containerNames tokens = Token.containerNames used ++ Token.containerNames rest := by
  obtain ⟨used, tail, rfl, written, following⟩ := (separated_cons_iff item x xs tokens).mp separated
  rcases following with ⟨rfl, rfl⟩ | ⟨comma, rest, rfl, separates, after⟩
  · exact ⟨used, [], written, .empty, by simp [Token.containerNames]⟩
  · refine ⟨used, rest, written, after, ?_⟩
    have notName : comma.kind ≠ .identifier := by simp [separates]
    rw [Token.container_names_append, Token.container_names_skip comma rest notName]
    intro token others same
    cases same
    simp [separates]

theorem bracketed_names (opening closing : Token) (inside : List Token) (opens : opening.kind ≠ .identifier)
    (closes : closing.kind ≠ .colon) :
    Token.containerNames (opening :: (inside ++ [closing])) = Token.containerNames inside := by
  rw [Token.container_names_skip opening _ opens, Token.container_names_append inside [closing]]
  · exact List.append_nil _
  · intro token rest same
    cases same
    exact closes

namespace Declaration

mutual

def containerKeys : Declaration → List Ty
  | .exact _ => []
  | .union members => memberKeys members
  | .absent => []
  | .collection entries => entryKeys entries
  | .condition _ => []
  | .reference _ => []

def memberKeys : List (Option Declaration) → List Ty
  | [] => []
  | none :: rest => memberKeys rest
  | some d :: rest => d.containerKeys ++ memberKeys rest

def entryKeys : List (Ty × Declaration) → List Ty
  | [] => []
  | (container, d) :: rest => container :: (d.containerKeys ++ entryKeys rest)

end

variable (bindings : Bindings) (scope : Scope)

mutual

theorem written_keys (d : Declaration) (tokens : List Token) (written : Written bindings scope d tokens) :
    (Token.containerNames tokens).map (containerOfName bindings scope) = d.containerKeys.map .ok := by
  cases written with
  | absent word reserved => rfl
  | builtin word b name known => rfl
  | reference word name other => rfl
  | union members opening closing inside opens closes separated =>
      rw [bracketed_names opening closing inside (by simp [opens]) (by simp [closes]), containerKeys]
      exact written_member_keys members inside separated
  | collection entries opening closing inside opens closes separated =>
      rw [bracketed_names opening closing inside (by simp [opens]) (by simp [closes]), containerKeys]
      exact written_entry_keys entries inside separated

theorem written_member_keys (members : List (Option Declaration)) (inside : List Token)
    (separated : Separated (WrittenMember bindings scope) members inside) :
    (Token.containerNames inside).map (containerOfName bindings scope) = (memberKeys members).map .ok := by
  cases members with
  | nil =>
      cases separated
      rfl
  | cons member rest =>
      obtain ⟨used, others, written, after, names⟩ := separated_names _ member rest inside separated
      have later := written_member_keys rest others after
      cases written with
      | absence word reserved =>
          rw [names, memberKeys]
          exact later
      | declaration d _ written other =>
          rw [names, List.map_append, written_keys d used written, later, memberKeys, List.map_append]

theorem written_entry_keys (entries : List (Ty × Declaration)) (inside : List Token)
    (separated : Separated (WrittenEntry bindings scope) entries inside) :
    (Token.containerNames inside).map (containerOfName bindings scope) = (entryKeys entries).map .ok := by
  cases entries with
  | nil =>
      cases separated
      rfl
  | cons entry rest =>
      obtain ⟨used, others, written, after, names⟩ := separated_names _ entry rest inside separated
      have later := written_entry_keys rest others after
      cases written with
      | entry name colon container d tokens named denotes divides written =>
          have known := (container_of_name_iff bindings scope name.value container).mpr denotes
          rw [names, Token.container_names_colon name colon tokens named divides, List.map_append, List.map_cons,
            written_keys d tokens written, later, known, entryKeys, List.map_cons, List.map_append, List.cons_append]

end

end Declaration

end CallContracts
