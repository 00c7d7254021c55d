import CallContracts.Declaration.Token
import CallContracts.Proofs.ExceptMap

set_option autoImplicit false

namespace CallContracts

namespace Token

def IsWord (token : Token) : Prop := token.kind = .identifier ∨ token.kind = .absence

def lexeme (token : Token) : TokenKind × String := (token.kind, token.value)

inductive Lexical (token : Token) : Prop where
  | word (c : Char) (rest : List Char) (starts : startsWord c = true) (continues : ∀ x ∈ rest, continuesWord x = true)
      (value : token.value = String.ofList (c :: rest)) (kind : token.kind = .ofWord token.value)
  | punctuation (c : Char) (value : token.value = String.singleton c)
      (kind : TokenKind.ofPunctuation? c = some token.kind)

inductive Spelled : List Token → List Char → Prop where
  | done (space : List Char) (blank : ∀ c ∈ space, Text.isBlank c = true) : Spelled [] space
  | token (token : Token) (tokens : List Token) (space rest : List Char) (blank : ∀ c ∈ space, Text.isBlank c = true)
      (lexical : token.Lexical) (after : Spelled tokens rest) :
      Spelled (token :: tokens) (space ++ (token.value.toList ++ rest))

def Apart : List Token → Prop
  | [] => True
  | [_] => True
  | first :: second :: rest => ¬ (first.IsWord ∧ second.IsWord) ∧ Apart (second :: rest)

theorem continues_word_code (c : Char) (continues : continuesWord c = true) :
    (65 ≤ c.toNat ∧ c.toNat ≤ 90) ∨ (97 ≤ c.toNat ∧ c.toNat ≤ 122) ∨ (48 ≤ c.toNat ∧ c.toNat ≤ 57) ∨
      c.toNat = 95 ∨ c.toNat = 46 := by
  delta continuesWord Char.isAlphanum Char.isAlpha Char.isUpper Char.isLower Char.isDigit at continues
  simp only [Bool.or_eq_true, Bool.and_eq_true, decide_eq_true_eq, ge_iff_le, beq_iff_eq] at continues
  rcases continues with (((upper | lower) | digit) | rfl) | rfl
  · exact .inl upper
  · exact .inr (.inl lower)
  · exact .inr (.inr (.inl digit))
  · exact .inr (.inr (.inr (.inl rfl)))
  · exact .inr (.inr (.inr (.inr rfl)))

theorem starts_continues (c : Char) (starts : startsWord c = true) : continuesWord c = true := by
  simp only [startsWord, Bool.or_eq_true] at starts
  rcases starts with alpha | underscore
  · simp [continuesWord, Char.isAlphanum, alpha]
  · simp [continuesWord, underscore]

theorem not_starts (c : Char) (stops : continuesWord c = false) : startsWord c = false := by
  cases starts : startsWord c with
  | false => rfl
  | true =>
      rw [starts_continues c starts] at stops
      cases stops

theorem blank_stops (c : Char) (blank : Text.isBlank c = true) : continuesWord c = false := by
  cases continues : continuesWord c with
  | false => rfl
  | true =>
      have code := continues_word_code c continues
      simp only [Text.isBlank, Bool.or_eq_true, Bool.and_eq_true, decide_eq_true_eq, beq_iff_eq] at blank
      omega

theorem punctuation_cases (c : Char) (kind : TokenKind) (found : TokenKind.ofPunctuation? c = some kind) :
    (c, kind) ∈ [('(', .openParen), (')', .closeParen), ('\x7b', .openCurly), ('\x7d', .closeCurly), (':', .colon),
      (',', TokenKind.comma)] := by
  unfold TokenKind.ofPunctuation? at found
  grind

theorem punctuation_stops (c : Char) (kind : TokenKind) (found : TokenKind.ofPunctuation? c = some kind) :
    continuesWord c = false ∧ Text.isBlank c = false ∧ kind ≠ .identifier ∧ kind ≠ .absence := by
  have cases := punctuation_cases c kind found
  simp only [List.mem_cons, Prod.mk.injEq, List.not_mem_nil, or_false] at cases
  rcases cases with ⟨rfl, rfl⟩ | ⟨rfl, rfl⟩ | ⟨rfl, rfl⟩ | ⟨rfl, rfl⟩ | ⟨rfl, rfl⟩ | ⟨rfl, rfl⟩ <;> decide

theorem word_is_word (token : Token) (kind : token.kind = .ofWord token.value) : token.IsWord := by
  unfold IsWord
  rw [kind, TokenKind.ofWord]
  split
  · exact .inr rfl
  · exact .inl rfl

theorem scan_blank (space text : List Char) (blank : ∀ c ∈ space, Text.isBlank c = true) (offset : Nat) :
    scan offset (space ++ text) = scan (offset + Text.byteSize space) text := by
  induction space generalizing offset with
  | nil => simp [Text.byteSize]
  | cons c space ih =>
      have first := blank c (by simp)
      have noWord := not_starts c (blank_stops c first)
      rw [List.cons_append, scan]
      simp only [noWord, first, Bool.false_eq_true, if_false, if_true]
      rw [ih (fun x member => blank x (by simp [member])), Text.byteSize, Nat.add_assoc]

theorem scan_word (c : Char) (word text : List Char) (starts : startsWord c = true)
    (continues : ∀ x ∈ word, continuesWord x = true) (stops : ∀ x ∈ text.head?, continuesWord x = false)
    (offset : Nat) :
    scan offset (c :: (word ++ text)) =
      (scan (offset + Text.byteSize (c :: word)) text).map
        (⟨.ofWord (String.ofList (c :: word)), String.ofList (c :: word), offset⟩ :: ·) := by
  have taken : text.takeWhile continuesWord = [] := by
    cases text with
    | nil => rfl
    | cons x text => simp [stops x (by simp)]
  have dropped : text.dropWhile continuesWord = text := by
    cases text with
    | nil => rfl
    | cons x text => simp [stops x (by simp)]
  rw [scan]
  simp only [starts, if_true, List.takeWhile_append_of_pos continues, List.dropWhile_append_of_pos continues, taken,
    dropped, List.append_nil]

theorem scan_punctuation (c : Char) (text : List Char) (kind : TokenKind)
    (found : TokenKind.ofPunctuation? c = some kind) (offset : Nat) :
    scan offset (c :: text) =
      (scan (offset + c.utf8Size) text).map (⟨kind, String.singleton c, offset⟩ :: ·) := by
  obtain ⟨stops, visible, _, _⟩ := punctuation_stops c kind found
  rw [scan]
  simp only [not_starts c stops, visible, Bool.false_eq_true, if_false, found]

theorem scan_lexical (token : Token) (text : List Char) (lexical : token.Lexical)
    (stops : token.IsWord → ∀ x ∈ text.head?, continuesWord x = false) (offset : Nat) :
    scan offset (token.value.toList ++ text) =
      (scan (offset + Text.byteSize token.value.toList) text).map ({ token with offset := offset } :: ·) := by
  cases lexical with
  | word c word starts continues value kind =>
      have ends := stops (word_is_word token kind)
      rw [kind, value, String.toList_ofList]
      exact scan_word c word text starts continues ends offset
  | punctuation c value kind =>
      rw [value, String.toList_singleton]
      simpa [Text.byteSize] using scan_punctuation c text token.kind kind offset

theorem spelled_blank (c : Char) (tokens : List Token) (text : List Char) (blank : Text.isBlank c = true)
    (spelled : Spelled tokens text) : Spelled tokens (c :: text) := by
  cases spelled with
  | done _ space => exact .done (c :: text) (List.forall_mem_cons.mpr ⟨blank, space⟩)
  | token token tokens space rest spaceBlank lexical after =>
      exact .token token tokens (c :: space) rest (List.forall_mem_cons.mpr ⟨blank, spaceBlank⟩) lexical after

theorem scan_spells (offset : Nat) (text : List Char) (tokens : List Token) (scanned : scan offset text = .ok tokens) :
    Spelled tokens text := by
  fun_induction scan offset text generalizing tokens with
  | case1 offset =>
      cases scanned
      exact .done [] (by simp)
  | case2 offset c rest starts word value ih =>
      obtain ⟨later, found, rfl⟩ := (except_map_ok _ _ _).mp scanned
      have whole : c :: rest = [] ++ (value.toList ++ rest.dropWhile continuesWord) := by
        simp [value, word, List.takeWhile_append_dropWhile]
      rw [whole]
      have continues := List.all_eq_true.mp (List.all_takeWhile (p := continuesWord) (l := rest))
      exact .token _ later [] _ (by simp) (.word c _ starts continues rfl rfl) (ih later found)
  | case3 offset c rest noWord blank ih => exact spelled_blank c tokens rest blank (ih tokens scanned)
  | case4 offset c rest noWord visible kind found ih =>
      obtain ⟨later, scannedLater, rfl⟩ := (except_map_ok _ _ _).mp scanned
      have whole : c :: rest = [] ++ ((String.singleton c).toList ++ rest) := by simp
      rw [whole]
      exact .token _ later [] rest (by simp) (.punctuation c rfl found) (ih later scannedLater)
  | case5 => cases scanned

theorem apart_tail (token : Token) (tokens : List Token) (apart : Apart (token :: tokens)) : Apart tokens := by
  cases tokens with
  | nil => trivial
  | cons next tokens => exact apart.2

theorem spelled_stops (tokens : List Token) (text : List Char) (spelled : Spelled tokens text)
    (noWord : ∀ token ∈ tokens.head?, ¬ token.IsWord) : ∀ x ∈ text.head?, continuesWord x = false := by
  intro x first
  cases spelled with
  | done _ blank => exact blank_stops x (blank x (List.mem_of_mem_head? first))
  | token token tokens space rest blank lexical after =>
      cases space with
      | cons y space =>
          cases first
          exact blank_stops x (blank x (by simp))
      | nil =>
          cases lexical with
          | word c word starts continues value kind =>
              exact False.elim (noWord token rfl (word_is_word token kind))
          | punctuation c value kind =>
              have same : c = x := by simpa [value] using first
              rw [← same]
              exact (punctuation_stops c token.kind kind).1

theorem scan_spelled (tokens : List Token) (text : List Char) (spelled : Spelled tokens text) (apart : Apart tokens)
    (offset : Nat) : ∃ found, scan offset text = .ok found ∧ found.map lexeme = tokens.map lexeme := by
  induction spelled generalizing offset with
  | done space blank =>
      have all := scan_blank space [] blank offset
      rw [List.append_nil] at all
      exact ⟨[], by rw [all, scan], rfl⟩
  | token token tokens space rest blank lexical after ih =>
      have stops : token.IsWord → ∀ x ∈ rest.head?, continuesWord x = false := by
        intro isWord
        apply spelled_stops tokens rest after
        intro next first nextWord
        cases tokens with
        | nil => cases first
        | cons second others =>
            cases first
            exact apart.1 ⟨isWord, nextWord⟩
      obtain ⟨found, scanned, same⟩ := ih (apart_tail token tokens apart)
        (offset + Text.byteSize space + Text.byteSize token.value.toList)
      refine ⟨{ token with offset := offset + Text.byteSize space } :: found, ?_, ?_⟩
      · rw [scan_blank space _ blank, scan_lexical token rest lexical stops, scanned]
        rfl
      · simp [lexeme, same]

end Token

end CallContracts
