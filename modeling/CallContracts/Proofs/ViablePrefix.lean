import CallContracts.Proofs.Parsing
import CallContracts.Proofs.Tiling

set_option autoImplicit false

namespace CallContracts

namespace TokenStream

def tokens (stream : TokenStream) : List Token := stream.current :: stream.following

def ahead (stream : TokenStream) : Nat → TokenStream
  | 0 => stream
  | n + 1 => (stream.ahead n).advance

theorem of_text_tokens (text : String) (tokens : List Token) (tokenized : Token.tokenize text = .ok tokens) :
    ∃ stream, ofText text = .ok stream ∧ stream.tokens = tokens := by
  obtain ⟨words, whole, _, _⟩ := (Token.tokenize_iff_tiles text tokens).mp tokenized
  cases tokens with
  | nil => simp at whole
  | cons token following => exact ⟨⟨token, following⟩, by rw [ofText, tokenized], rfl⟩

theorem advance_tokens (stream : TokenStream) :
    stream.advance.tokens = stream.tokens.drop (min 1 stream.following.length) := by
  obtain ⟨current, following⟩ := stream
  cases following with
  | nil => rfl
  | cons token following => simp [advance, tokens]

theorem ahead_tokens (stream : TokenStream) (n : Nat) :
    (stream.ahead n).tokens = stream.tokens.drop (min n stream.following.length) := by
  induction n with
  | zero => simp [ahead]
  | succ n ih =>
      have left : (stream.ahead n).following.length = stream.following.length - n := by
        have size := congrArg List.length ih
        simp only [tokens, List.length_cons, List.length_drop] at size
        omega
      rw [ahead, advance_tokens, ih, List.drop_drop, left]
      congr 1
      omega

theorem ahead_current (stream : TokenStream) (n : Nat) :
    stream.tokens[min n (stream.tokens.length - 1)]? = some (stream.ahead n).current := by
  have shown : (stream.ahead n).tokens[0]? = some (stream.ahead n).current := rfl
  rw [ahead_tokens, List.getElem?_drop] at shown
  simpa [tokens] using shown

end TokenStream

namespace Declaration

variable (bindings : Bindings) (scope : Scope)

inductive Look where
  | accepted (d : Declaration)
  | refused (e : ParseError)
  | taken (next : Expectation)

def look (state : Expectation) (token : Token) : Look :=
  match step bindings scope state token with
  | .ok next => .taken next
  | .error e =>
      match state, token.kind with
      | .finished d, .eof => .accepted d
      | _, _ => .refused e

-- The positions in a sequence of tokens, end marker included, that the reader comes to look at, with its state there.
inductive Reads (tokens : List Token) : Nat → Expectation → Prop where
  | first : Reads tokens 0 (.declaration [])
  | next (position : Nat) (state next : Expectation) (token : Token) (reads : Reads tokens position state)
      (found : tokens[position]? = some token) (taken : look bindings scope state token = .taken next) :
      Reads tokens (position + 1) next

def Decides (tokens : List Token) (position : Nat) (answer : Look) : Prop :=
  ∃ state token, Reads bindings scope tokens position state ∧ tokens[position]? = some token ∧
    look bindings scope state token = answer

-- The same, seen by a reader that has only a stream: it looks at the current token and advances when it takes it.
inductive Walks (stream : TokenStream) : TokenStream → Expectation → Prop where
  | first : Walks stream stream (.declaration [])
  | next (s : TokenStream) (state next : Expectation) (walks : Walks stream s state)
      (taken : step bindings scope state s.current = .ok next) : Walks stream s.advance next

def Parses (tokens : List Token) : Prop := ∃ position d, Decides bindings scope tokens position (.accepted d)

def Viable (tokens : List Token) : Prop :=
  ∃ words size, (∀ token ∈ words, token.Lexical) ∧ Parses bindings scope (tokens ++ (words ++ [.eof size]))

theorem step_end (state : Expectation) (token : Token) (ended : token.kind = .eof) :
    step bindings scope state token = .error (token.unexpected state.wanted) := by
  cases state <;> simp [step, start, ended, Expectation.wanted]

theorem look_taken_iff (state next : Expectation) (token : Token) :
    look bindings scope state token = .taken next ↔ step bindings scope state token = .ok next := by
  unfold look
  cases step bindings scope state token with
  | ok other => simp
  | error e => cases state <;> cases token.kind <;> simp

theorem look_refused (state : Expectation) (token : Token) (e : ParseError) (word : token.kind ≠ .eof)
    (failed : step bindings scope state token = .error e) : look bindings scope state token = .refused e := by
  unfold look
  rw [failed]
  cases state with
  | finished d => cases kind : token.kind <;> simp_all
  | _ => rfl

theorem container_unknown (name : String) (e : ParseError)
    (failed : containerOfName bindings scope name = .error e) :
    (∀ b : Builtin, name ≠ b.name) ∧ bindings.find? scope name = none ∧ e = .unknownContainer name := by
  unfold containerOfName at failed
  cases builtin : Builtin.ofName? name with
  | some b =>
      rw [builtin] at failed
      cases failed
  | none =>
      rw [builtin] at failed
      cases found : bindings.find? scope name with
      | some t =>
          rw [found] at failed
          cases failed
      | none =>
          rw [found] at failed
          cases failed
          exact ⟨(Builtin.of_name_none_iff name).mp builtin, rfl, rfl⟩

theorem step_refused (state : Expectation) (token : Token) (e : ParseError)
    (failed : step bindings scope state token = .error e) :
    e = token.unexpected state.wanted ∨
      ∃ entries frames, state = .container entries frames ∧ token.kind = .identifier ∧
        (∀ b : Builtin, token.value ≠ b.name) ∧ bindings.find? scope token.value = none ∧
        e = .unknownContainer token.value := by
  by_cases named : token.kind = .identifier
  · cases state with
    | container entries frames =>
        simp only [step, named] at failed
        cases known : containerOfName bindings scope token.value with
        | ok container =>
            rw [known] at failed
            cases failed
        | error reason =>
            rw [known] at failed
            cases failed
            exact .inr ⟨entries, frames, rfl, named, container_unknown bindings scope token.value e known⟩
    | _ =>
        left
        simp_all [step, start, Expectation.wanted]
  · left
    cases state <;> cases kind : token.kind <;> simp_all [step, start, Expectation.wanted]

theorem reads_unique (tokens : List Token) (position : Nat) (state other : Expectation)
    (reads : Reads bindings scope tokens position state) (again : Reads bindings scope tokens position other) :
    state = other := by
  induction reads generalizing other with
  | first =>
      cases again
      rfl
  | next position state next token reads found taken ih =>
      cases again with
      | next _ before _ second readsBefore foundSecond takenSecond =>
          cases ih before readsBefore
          cases found.symm.trans foundSecond
          cases taken.symm.trans takenSecond
          rfl

theorem reads_halt (tokens : List Token) (position : Nat) (answer : Look) (halts : ∀ next, answer ≠ .taken next)
    (decided : Decides bindings scope tokens position answer) (later : Nat) (state : Expectation)
    (reads : Reads bindings scope tokens later state) : later ≤ position := by
  obtain ⟨last, token, readsLast, found, looked⟩ := decided
  induction reads with
  | first => exact Nat.zero_le position
  | next later state next second reads foundSecond taken ih =>
      by_cases same : later = position
      · subst later
        cases reads_unique bindings scope tokens position last state readsLast reads
        cases found.symm.trans foundSecond
        exact absurd (looked.symm.trans taken) (halts next)
      · omega

theorem decides_unique (tokens : List Token) (position place : Nat) (answer other : Look)
    (halts : ∀ next, answer ≠ .taken next) (decided : Decides bindings scope tokens position answer)
    (haltsToo : ∀ next, other ≠ .taken next) (decidedToo : Decides bindings scope tokens place other) :
    answer = other := by
  have ⟨state, token, reads, found, looked⟩ := decided
  have ⟨last, second, readsLast, foundSecond, lookedSecond⟩ := decidedToo
  have early := reads_halt bindings scope tokens position answer halts decided place last readsLast
  have late := reads_halt bindings scope tokens place other haltsToo decidedToo position state reads
  cases Nat.le_antisymm early late
  cases reads_unique bindings scope tokens position state last reads readsLast
  cases found.symm.trans foundSecond
  exact looked.symm.trans lookedSecond

theorem reads_prefix (tokens other : List Token) (position : Nat) (state : Expectation)
    (reads : Reads bindings scope tokens position state)
    (same : ∀ index < position, other[index]? = tokens[index]?) : Reads bindings scope other position state := by
  induction reads with
  | first => exact .first
  | next position state next token reads found taken ih =>
      have before := ih fun index bound => same index (by omega)
      exact .next position state next token before ((same position (by omega)).trans found) taken

def answerOf : Except ParseError Declaration → Look
  | .ok d => .accepted d
  | .error e => .refused e

theorem answer_halts (answer : Except ParseError Declaration) (next : Expectation) : answerOf answer ≠ .taken next := by
  cases answer <;> simp [answerOf]

theorem answer_injective (answer other : Except ParseError Declaration) (same : answerOf answer = answerOf other) :
    answer = other := by
  cases answer <;> cases other <;> cases same <;> rfl

theorem look_finished (s : TokenStream) (d : Declaration) (answer : Except ParseError Declaration) :
    look bindings scope (.finished d) s.current = answerOf answer ↔
      (s.expect .eof "end of declaration").map (fun _ => d) = answer := by
  have same : look bindings scope (.finished d) s.current =
      answerOf ((s.expect .eof "end of declaration").map fun _ => d) := by
    unfold look TokenStream.expect
    cases kind : s.current.kind <;> simp [step, Expectation.wanted, answerOf, Except.map]
  rw [same]
  exact ⟨answer_injective _ answer, congrArg answerOf⟩

theorem look_unfinished (state : Expectation) (token : Token) (unfinished : ∀ d, state ≠ .finished d)
    (answer : Except ParseError Declaration) :
    look bindings scope state token = answerOf answer ↔
      ∃ e, step bindings scope state token = .error e ∧ answer = .error e := by
  unfold look
  cases step bindings scope state token with
  | ok next => cases answer <;> simp [answerOf]
  | error e =>
      cases state with
      | finished d => exact False.elim (unfinished d rfl)
      | _ => cases answer <;> simp [answerOf, eq_comm]

theorem look_end (size : Nat) (state : Expectation) :
    look bindings scope state (.eof size) = answerOf (readFrom bindings scope size state []) := by
  unfold look
  rw [step_end bindings scope state (.eof size) rfl]
  cases state <;> rfl

theorem read_decides (size : Nat) (front back : List Token) (words : ∀ token ∈ back, token.kind ≠ .eof)
    (state : Expectation) (reads : Reads bindings scope (front ++ (back ++ [.eof size])) front.length state) :
    ∃ position, Decides bindings scope (front ++ (back ++ [.eof size])) position
      (answerOf (readFrom bindings scope size state back)) := by
  -- By induction on the tokens ahead: what reading answers is decided at one of the positions.
  induction back generalizing front state with
  | nil => exact ⟨front.length, state, .eof size, reads, by simp, look_end bindings scope size state⟩
  | cons token back ih =>
      obtain ⟨word, others⟩ := List.forall_mem_cons.mp words
      have found : (front ++ (token :: back ++ [.eof size]))[front.length]? = some token := by simp
      cases stepped : step bindings scope state token with
      | ok next =>
          have taken := (look_taken_iff bindings scope state next token).mpr stepped
          have further := Reads.next front.length state next token reads found taken
          have whole : front ++ (token :: back ++ [.eof size]) = front ++ [token] ++ (back ++ [.eof size]) := by simp
          have length : front.length + 1 = (front ++ [token]).length := by simp
          rw [whole, length] at further
          rw [whole, readFrom, stepped]
          exact ih (front ++ [token]) others next further
      | error e =>
          rw [readFrom, stepped]
          exact ⟨front.length, state, token, reads, found, look_refused bindings scope state token e word stepped⟩

def closers : List Frame → List Token
  | [] => []
  | .union _ :: frames => ⟨.closeParen, ")", 0⟩ :: closers frames
  | .entry _ _ :: frames => ⟨.closeCurly, "\x7d", 0⟩ :: closers frames

def absence : Token := ⟨.absence, "None", 0⟩

def closing : Expectation → List Token
  | .declaration frames => absence :: closers frames
  | .member members frames => closers (.union members :: frames)
  | .memberEnd members frames => closers (.union members :: frames)
  | .container _ frames => ⟨.closeCurly, "\x7d", 0⟩ :: closers frames
  | .colon entries container frames => ⟨.colon, ":", 0⟩ :: absence :: closers (.entry entries container :: frames)
  | .entryEnd _ frames => ⟨.closeCurly, "\x7d", 0⟩ :: closers frames
  | .finished _ => []

theorem closers_lexical (frames : List Frame) : ∀ token ∈ closers frames, token.Lexical := by
  induction frames with
  | nil => simp [closers]
  | cons frame frames ih =>
      cases frame with
      | union members => exact List.forall_mem_cons.mpr ⟨.punctuation ')' rfl rfl, ih⟩
      | entry entries container => exact List.forall_mem_cons.mpr ⟨.punctuation '\x7d' rfl rfl, ih⟩

theorem absence_lexical : absence.Lexical := .word 'N' ['o', 'n', 'e'] rfl (List.all_eq_true.mp rfl) rfl rfl

theorem closing_lexical (state : Expectation) : ∀ token ∈ closing state, token.Lexical := by
  cases state with
  | declaration frames => exact List.forall_mem_cons.mpr ⟨absence_lexical, closers_lexical frames⟩
  | member members frames => exact closers_lexical (.union members :: frames)
  | memberEnd members frames => exact closers_lexical (.union members :: frames)
  | container entries frames => exact List.forall_mem_cons.mpr ⟨.punctuation '\x7d' rfl rfl, closers_lexical frames⟩
  | colon entries container frames =>
      have rest := List.forall_mem_cons.mpr ⟨absence_lexical, closers_lexical (.entry entries container :: frames)⟩
      exact List.forall_mem_cons.mpr ⟨.punctuation ':' rfl rfl, rest⟩
  | entryEnd entries frames => exact List.forall_mem_cons.mpr ⟨.punctuation '\x7d' rfl rfl, closers_lexical frames⟩
  | finished d => simp [closing]

theorem read_closers (size : Nat) (frames : List Frame) (d : Declaration) :
    ∃ result, readFrom bindings scope size (.complete d frames) (closers frames) = .ok result := by
  induction frames generalizing d with
  | nil => exact ⟨d, rfl⟩
  | cons frame frames ih =>
      cases frame with
      | union members => exact ih (.union (members ++ [some d]))
      | entry entries container => exact ih (.collection (entries ++ [(container, d)]))

-- Nothing is a dead end: every state can be finished.
theorem read_closing (size : Nat) (state : Expectation) :
    ∃ result, readFrom bindings scope size state (closing state) = .ok result := by
  cases state with
  | declaration frames => exact read_closers bindings scope size frames .absent
  | member members frames => exact read_closers bindings scope size frames (.union members)
  | memberEnd members frames => exact read_closers bindings scope size frames (.union members)
  | container entries frames => exact read_closers bindings scope size frames (.collection entries)
  | colon entries container frames =>
      exact read_closers bindings scope size (.entry entries container :: frames) .absent
  | entryEnd entries frames => exact read_closers bindings scope size frames (.collection entries)
  | finished d => exact ⟨d, rfl⟩

theorem reads_viable (tokens : List Token) (position : Nat) (state : Expectation)
    (bound : position ≤ tokens.length) (reads : Reads bindings scope tokens position state) :
    Viable bindings scope (tokens.take position) := by
  have lexical := closing_lexical state
  refine ⟨closing state, 0, lexical, ?_⟩
  have length : (tokens.take position).length = position := by
    rw [List.length_take]
    omega
  have same : Reads bindings scope (tokens.take position ++ (closing state ++ [.eof 0])) position state := by
    apply reads_prefix bindings scope tokens _ position state reads
    intro index early
    rw [List.getElem?_append_left (by omega), List.getElem?_take_of_lt early]
  obtain ⟨result, read⟩ := read_closing bindings scope 0 state
  have words : ∀ token ∈ closing state, token.kind ≠ .eof := by
    intro token member
    exact Token.lexical_kind token (lexical token member)
  obtain ⟨place, decided⟩ := read_decides bindings scope 0 (tokens.take position) (closing state) words state
    (by rw [length]; exact same)
  rw [read] at decided
  exact ⟨place, result, decided⟩

theorem refused_not_viable (tokens : List Token) (position : Nat) (e : ParseError)
    (decided : Decides bindings scope tokens position (.refused e)) (more : List Token) :
    ¬ Parses bindings scope (tokens.take (position + 1) ++ more) := by
  obtain ⟨state, token, reads, found, refused⟩ := decided
  have bound : position < tokens.length := (List.getElem?_eq_some_iff.mp found).1
  have same : ∀ index < position + 1, (tokens.take (position + 1) ++ more)[index]? = tokens[index]? := by
    intro index early
    have inside : index < (tokens.take (position + 1)).length := by
      rw [List.length_take]
      omega
    rw [List.getElem?_append_left inside, List.getElem?_take_of_lt early]
  have again := reads_prefix bindings scope tokens _ position state reads fun index early => same index (by omega)
  have refusedAgain : Decides bindings scope (tokens.take (position + 1) ++ more) position (.refused e) :=
    ⟨state, token, again, (same position (by omega)).trans found, refused⟩
  intro parses
  obtain ⟨place, d, accepted⟩ := parses
  have alike := decides_unique bindings scope _ position place _ _ (answer_halts (.error e)) refusedAgain
    (answer_halts (.ok d)) accepted
  cases alike

section Texts

variable (text : String) (tokens : List Token) (tokenized : Token.tokenize text = .ok tokens)

include tokenized

theorem parse_decides (answer : Except ParseError Declaration) :
    parse bindings scope text = answer ↔ ∃ position, Decides bindings scope tokens position (answerOf answer) := by
  obtain ⟨words, rfl, kinds, tiles⟩ := (Token.tokenize_iff_tiles text tokens).mp tokenized
  have scanned := (Token.scan_iff_tiles text.toList words).mpr tiles
  have decided := read_decides bindings scope (Text.byteSize text.toList) [] words kinds (.declaration []) .first
  rw [List.nil_append] at decided
  have parsed : parse bindings scope text =
      readFrom bindings scope (Text.byteSize text.toList) (.declaration []) words := by rw [parse, scanned]
  rw [← parsed] at decided
  constructor
  · intro same
    rw [← same]
    exact decided
  · intro other
    obtain ⟨place, decided⟩ := decided
    obtain ⟨position, decidedToo⟩ := other
    exact answer_injective _ _
      (decides_unique bindings scope _ place position _ _ (answer_halts _) decided (answer_halts answer) decidedToo)

theorem reads_inside (position : Nat) (state : Expectation) (reads : Reads bindings scope tokens position state) :
    position < tokens.length := by
  obtain ⟨words, rfl, _, _⟩ := (Token.tokenize_iff_tiles text tokens).mp tokenized
  induction reads with
  | first => simp
  | next position state next token reads found taken ih =>
      by_cases last : position = words.length
      · have ended : token = .eof (Text.byteSize text.toList) := by simpa [last] using found.symm
        rw [look_taken_iff, step_end bindings scope state token (by rw [ended]; rfl)] at taken
        cases taken
      · rw [List.length_append, List.length_singleton] at ih ⊢
        omega

theorem reads_current (stream : TokenStream) (shows : stream.tokens = tokens) (position : Nat) (state : Expectation)
    (reads : Reads bindings scope tokens position state) :
    tokens[position]? = some (stream.ahead position).current := by
  have inside := reads_inside bindings scope text tokens tokenized position state reads
  have found := stream.ahead_current position
  rwa [shows, Nat.min_eq_left (by omega)] at found

theorem walks_iff_reads (stream : TokenStream) (shows : stream.tokens = tokens) (s : TokenStream)
    (state : Expectation) :
    Walks bindings scope stream s state ↔
      ∃ position, s = stream.ahead position ∧ Reads bindings scope tokens position state := by
  refine ⟨fun walks => ?_, ?_⟩
  · induction walks with
    | first => exact ⟨0, rfl, .first⟩
    | next s state next walks taken ih =>
        obtain ⟨position, rfl, reads⟩ := ih
        have found := reads_current bindings scope text tokens tokenized stream shows position state reads
        have looked := (look_taken_iff bindings scope state next _).mpr taken
        exact ⟨position + 1, rfl, .next position state next _ reads found looked⟩
  · rintro ⟨position, rfl, reads⟩
    induction reads with
    | first => exact .first
    | next position state next token reads found taken ih =>
        rw [reads_current bindings scope text tokens tokenized stream shows position state reads] at found
        cases found
        exact .next _ state next ih ((look_taken_iff bindings scope state next _).mp taken)

theorem parse_walks (stream : TokenStream) (shows : stream.tokens = tokens) (answer : Except ParseError Declaration) :
    parse bindings scope text = answer ↔
      (∃ s d, Walks bindings scope stream s (.finished d) ∧
        (s.expect .eof "end of declaration").map (fun _ => d) = answer) ∨
      ∃ s state e, Walks bindings scope stream s state ∧ (∀ d, state ≠ .finished d) ∧
        step bindings scope state s.current = .error e ∧ answer = .error e := by
  have walks := walks_iff_reads bindings scope text tokens tokenized stream shows
  have current := reads_current bindings scope text tokens tokenized stream shows
  rw [parse_decides bindings scope text tokens tokenized answer]
  refine ⟨?_, ?_⟩
  · rintro ⟨position, state, token, reads, found, looked⟩
    rw [current position state reads] at found
    cases found
    have walked := (walks _ state).mpr ⟨position, rfl, reads⟩
    by_cases finished : ∃ d, state = .finished d
    · obtain ⟨d, rfl⟩ := finished
      exact .inl ⟨_, d, walked, (look_finished bindings scope _ d answer).mp looked⟩
    · have unfinished : ∀ d, state ≠ .finished d := fun d same => finished ⟨d, same⟩
      obtain ⟨e, failed, same⟩ := (look_unfinished bindings scope state _ unfinished answer).mp looked
      exact .inr ⟨_, state, e, walked, unfinished, failed, same⟩
  · rintro (⟨s, d, walked, expected⟩ | ⟨s, state, e, walked, unfinished, failed, same⟩)
    · obtain ⟨position, rfl, reads⟩ := (walks s (.finished d)).mp walked
      exact ⟨position, _, _, reads, current position _ reads, (look_finished bindings scope _ d answer).mpr expected⟩
    · obtain ⟨position, rfl, reads⟩ := (walks s state).mp walked
      exact ⟨position, state, _, reads, current position state reads,
        (look_unfinished bindings scope state _ unfinished answer).mpr ⟨e, failed, same⟩⟩

theorem parse_refused (e : ParseError) (failed : parse bindings scope text = .error e) :
    ∃ position token state, tokens[position]? = some token ∧ Reads bindings scope tokens position state ∧
      look bindings scope state token = .refused e ∧ Viable bindings scope (tokens.take position) ∧
      ∀ more, ¬ Parses bindings scope (tokens.take (position + 1) ++ more) := by
  obtain ⟨position, decided⟩ := (parse_decides bindings scope text tokens tokenized (.error e)).mp failed
  have ⟨state, token, reads, found, refused⟩ := decided
  have inside := reads_inside bindings scope text tokens tokenized position state reads
  exact ⟨position, token, state, found, reads, refused,
    reads_viable bindings scope tokens position state (Nat.le_of_lt inside) reads,
    refused_not_viable bindings scope tokens position e decided⟩

end Texts

theorem look_refused_cases (state : Expectation) (token : Token) (e : ParseError)
    (refused : look bindings scope state token = .refused e) :
    e = token.unexpected state.wanted ∨
      ∃ entries frames, state = .container entries frames ∧ token.kind = .identifier ∧
        (∀ b : Builtin, token.value ≠ b.name) ∧ bindings.find? scope token.value = none ∧
        e = .unknownContainer token.value := by
  apply step_refused bindings scope state token e
  unfold look at refused
  cases stepped : step bindings scope state token with
  | ok next =>
      rw [stepped] at refused
      cases refused
  | error reason =>
      rw [stepped] at refused
      cases state <;> cases kind : token.kind <;> simp_all

-- An error points at the first token that no declaration goes on with.
theorem parse_error_at_first_refusal (text : String) (tokens : List Token)
    (tokenized : Token.tokenize text = .ok tokens) :
    (∀ position state, Reads bindings scope tokens position state → position < tokens.length) ∧
    (∀ answer, parse bindings scope text = answer ↔
      ∃ position, Decides bindings scope tokens position (answerOf answer)) ∧
    (∀ value offset expected, parse bindings scope text = .error (.unexpectedToken value offset expected) →
      ∃ k token, tokens[k]? = some token ∧ token.value = value ∧ token.offset = offset ∧
        Viable bindings scope (tokens.take k) ∧ ∀ more, ¬ Parses bindings scope (tokens.take (k + 1) ++ more)) ∧
    (∀ name, parse bindings scope text = .error (.unknownContainer name) →
      ∃ k token entries frames, tokens[k]? = some token ∧ token.kind = .identifier ∧ token.value = name ∧
        Reads bindings scope tokens k (.container entries frames) ∧ (∀ b : Builtin, name ≠ b.name) ∧
        bindings.find? scope name = none ∧ Viable bindings scope (tokens.take k) ∧
        ∀ more, ¬ Parses bindings scope (tokens.take (k + 1) ++ more)) ∧
    (∃ stream, TokenStream.ofText text = .ok stream ∧
      (∀ n, tokens[min n (tokens.length - 1)]? = some (stream.ahead n).current) ∧
      ∀ answer, parse bindings scope text = answer ↔
        (∃ s d, Walks bindings scope stream s (.finished d) ∧
          (s.expect .eof "end of declaration").map (fun _ => d) = answer) ∨
        ∃ s state e, Walks bindings scope stream s state ∧ (∀ d, state ≠ .finished d) ∧
          step bindings scope state s.current = .error e ∧ answer = .error e) := by
  refine ⟨reads_inside bindings scope text tokens tokenized, parse_decides bindings scope text tokens tokenized,
    ?_, ?_, ?_⟩
  · intro value offset expected failed
    obtain ⟨k, token, state, found, reads, refused, viable, dead⟩ :=
      parse_refused bindings scope text tokens tokenized _ failed
    rcases look_refused_cases bindings scope state token _ refused with unexpected | ⟨_, _, _, _, _, _, other⟩
    · cases unexpected
      exact ⟨k, token, found, rfl, rfl, viable, dead⟩
    · cases other
  · intro name failed
    obtain ⟨k, token, state, found, reads, refused, viable, dead⟩ :=
      parse_refused bindings scope text tokens tokenized _ failed
    rcases look_refused_cases bindings scope state token _ refused with
      unexpected | ⟨entries, frames, rfl, named, noBuiltin, unbound, same⟩
    · cases unexpected
    · cases same
      exact ⟨k, token, entries, frames, found, named, rfl, reads, noBuiltin, unbound, viable, dead⟩
  · obtain ⟨stream, opened, shows⟩ := TokenStream.of_text_tokens text tokens tokenized
    refine ⟨stream, opened, fun n => ?_, parse_walks bindings scope text tokens tokenized stream shows⟩
    rw [← shows]
    exact stream.ahead_current n

theorem parse_error_at_word_and_container :
    (∃ tokens, Token.tokenize "(T S" = .ok tokens ∧
      parse .empty ⟨0, "s"⟩ "(T S" = .error (.unexpectedToken "S" 3 "`,` or `)`") ∧
      ∃ k token, tokens[k]? = some token ∧ token.value = "S" ∧ token.offset = 3 ∧
        Viable .empty ⟨0, "s"⟩ (tokens.take k) ∧ ∀ more, ¬ Parses .empty ⟨0, "s"⟩ (tokens.take (k + 1) ++ more)) ∧
    (∃ tokens, Token.tokenize "(T, \x7bBag T" = .ok tokens ∧
      parse .empty ⟨0, "s"⟩ "(T, \x7bBag T" = .error (.unknownContainer "Bag") ∧
      ∃ k token entries frames, tokens[k]? = some token ∧ token.kind = .identifier ∧ token.value = "Bag" ∧
        Reads .empty ⟨0, "s"⟩ tokens k (.container entries frames) ∧ (∀ b : Builtin, "Bag" ≠ b.name) ∧
        Bindings.empty.find? ⟨0, "s"⟩ "Bag" = none ∧ Viable .empty ⟨0, "s"⟩ (tokens.take k) ∧
        ∀ more, ¬ Parses .empty ⟨0, "s"⟩ (tokens.take (k + 1) ++ more)) := by
  have words : Token.tokenize "(T S" =
      .ok [⟨.openParen, "(", 0⟩, ⟨.identifier, "T", 1⟩, ⟨.identifier, "S", 3⟩, .eof 4] := by with_unfolding_all rfl
  have second : parse .empty ⟨0, "s"⟩ "(T S" = .error (.unexpectedToken "S" 3 "`,` or `)`") := by
    with_unfolding_all rfl
  have container : Token.tokenize "(T, \x7bBag T" =
      .ok [⟨.openParen, "(", 0⟩, ⟨.identifier, "T", 1⟩, ⟨.comma, ",", 2⟩, ⟨.openCurly, "\x7b", 4⟩,
        ⟨.identifier, "Bag", 5⟩, ⟨.identifier, "T", 9⟩, .eof 10] := by with_unfolding_all rfl
  have unknown : parse .empty ⟨0, "s"⟩ "(T, \x7bBag T" = .error (.unknownContainer "Bag") := by
    with_unfolding_all rfl
  exact ⟨⟨_, words, second, (parse_error_at_first_refusal _ _ _ _ words).2.2.1 _ _ _ second⟩,
    ⟨_, container, unknown, (parse_error_at_first_refusal _ _ _ _ container).2.2.2.1 _ unknown⟩⟩

end Declaration

end CallContracts
