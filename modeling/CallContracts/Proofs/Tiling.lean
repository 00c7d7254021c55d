import CallContracts.Proofs.ScanLoop

set_option autoImplicit false

namespace CallContracts

namespace Text

def Slice (text : List Char) (start stop : Nat) (part : List Char) : Prop :=
  ∃ front back, text = front ++ (part ++ back) ∧ byteSize front = start ∧ byteSize (front ++ part) = stop

def Gap (text : List Char) (start stop : Nat) : Prop :=
  ∃ space, Slice text start stop space ∧ ∀ c ∈ space, isBlank c = true

theorem byte_size_split (front back other rest : List Char) (whole : front ++ back = other ++ rest)
    (size : byteSize front = byteSize other) : front = other ∧ back = rest := by
  induction front generalizing other with
  | nil =>
      cases other with
      | nil => exact ⟨rfl, whole⟩
      | cons c other =>
          have positive := byte_size_pos c other
          simp only [byteSize] at size positive
          omega
  | cons c front ih =>
      cases other with
      | nil =>
          have positive := byte_size_pos c front
          simp only [byteSize] at size positive
          omega
      | cons d other =>
          obtain ⟨rfl, tails⟩ := List.cons.inj whole
          simp only [byteSize, Nat.add_left_cancel_iff] at size
          obtain ⟨rfl, same⟩ := ih other tails size
          exact ⟨rfl, same⟩

theorem slice_here (front part back : List Char) :
    Slice (front ++ (part ++ back)) (byteSize front) (byteSize front + byteSize part) part :=
  ⟨front, back, rfl, rfl, byte_size_append front part⟩

theorem slice_ahead (front ahead part : List Char) (stop : Nat)
    (slice : Slice (front ++ ahead) (byteSize front) stop part) :
    ∃ back, ahead = part ++ back ∧ stop = byteSize front + byteSize part := by
  obtain ⟨other, back, whole, start, size⟩ := slice
  obtain ⟨rfl, rest⟩ := byte_size_split front ahead other (part ++ back) whole start.symm
  exact ⟨back, rest, by rw [← size, byte_size_append]⟩

theorem gap_to_end (front ahead : List Char) :
    Gap (front ++ ahead) (byteSize front) (byteSize (front ++ ahead)) ↔ ∀ c ∈ ahead, isBlank c = true := by
  constructor
  · intro gap
    obtain ⟨space, slice, blank⟩ := gap
    obtain ⟨back, rfl, size⟩ := slice_ahead front ahead space _ slice
    cases back with
    | nil =>
        rw [List.append_nil]
        exact blank
    | cons c back =>
        have positive := byte_size_pos c back
        simp only [byte_size_append] at size
        omega
  · intro blank
    have space := slice_here front ahead []
    rw [List.append_nil, ← byte_size_append] at space
    exact ⟨ahead, space, blank⟩

end Text

namespace Token

open Text

def Letter (c : Char) : Prop := ('a' ≤ c ∧ c ≤ 'z') ∨ ('A' ≤ c ∧ c ≤ 'Z') ∨ c = '_'

def NamePart (c : Char) : Prop := Letter c ∨ ('0' ≤ c ∧ c ≤ '9') ∨ c = '.'

def IsName (word : List Char) : Prop := ∃ c rest, word = c :: rest ∧ Letter c ∧ ∀ x ∈ rest, NamePart x

def marks : List (Char × TokenKind) :=
  [('(', .openParen), (')', .closeParen), ('\x7b', .openCurly), ('\x7d', .closeCurly), (':', .colon), (',', .comma)]

def stop (token : Token) : Nat := token.offset + byteSize token.value.toList

structure Tile (text : List Char) (token : Token) : Prop where
  valued : (IsName token.value.toList ∧ token.IsWord) ∨ ∃ c, token.value.toList = [c] ∧ (c, token.kind) ∈ marks
  reserved : token.kind = .absence ↔ token.value = "None"
  sliced : Slice text token.offset token.stop token.value.toList
  -- a name is not followed by a character that could prolong it
  maximal : token.IsWord → ∀ c after, Slice text token.stop after [c] → ¬ NamePart c

structure Tiles (text : List Char) (start : Nat) (tokens : List Token) : Prop where
  each : ∀ token ∈ tokens, Tile text token
  increasing : tokens.Pairwise fun left right => left.offset < right.offset
  spaced : ∀ gap ∈ (start :: tokens.map stop).zip (tokens.map offset ++ [byteSize text]), Gap text gap.1 gap.2

def Laid : Nat → List Token → List Char → Prop
  | _, [], text => ∀ c ∈ text, isBlank c = true
  | start, token :: tokens, text =>
      ∃ space rest, text = space ++ (token.value.toList ++ rest) ∧ (∀ c ∈ space, isBlank c = true) ∧ token.Lexical ∧
        token.offset = start + byteSize space ∧ (token.IsWord → ∀ x ∈ rest.head?, continuesWord x = false) ∧
        Laid token.stop tokens rest

theorem starts_word_iff (c : Char) : startsWord c = true ↔ Letter c := by
  delta startsWord Char.isAlpha Char.isUpper Char.isLower Letter
  simp only [Bool.or_eq_true, Bool.and_eq_true, decide_eq_true_eq, ge_iff_le, beq_iff_eq]
  rw [or_comm (a := 'A'.val ≤ c.val ∧ c.val ≤ 'Z'.val), or_assoc]
  exact Iff.rfl

theorem continues_word_iff (c : Char) : continuesWord c = true ↔ NamePart c := by
  have letter := starts_word_iff c
  unfold startsWord at letter
  delta continuesWord Char.isAlphanum Char.isDigit NamePart
  simp only [Bool.or_eq_true, Bool.and_eq_true, decide_eq_true_eq, ge_iff_le, beq_iff_eq] at letter ⊢
  rw [← letter, or_assoc, or_assoc, or_assoc, or_left_comm (b := c = '_')]
  exact Iff.rfl

theorem name_iff (word : List Char) :
    IsName word ↔ ∃ c rest, word = c :: rest ∧ startsWord c = true ∧ ∀ x ∈ rest, continuesWord x = true := by
  simp only [IsName, starts_word_iff, continues_word_iff]

theorem mark_iff (c : Char) (kind : TokenKind) : (c, kind) ∈ marks ↔ TokenKind.ofPunctuation? c = some kind := by
  constructor
  · intro listed
    simp only [marks, List.mem_cons, Prod.mk.injEq, List.not_mem_nil, or_false] at listed
    rcases listed with ⟨rfl, rfl⟩ | ⟨rfl, rfl⟩ | ⟨rfl, rfl⟩ | ⟨rfl, rfl⟩ | ⟨rfl, rfl⟩ | ⟨rfl, rfl⟩ <;> rfl
  · exact punctuation_cases c kind

theorem of_word_iff (token : Token) :
    token.kind = .ofWord token.value ↔ token.IsWord ∧ (token.kind = .absence ↔ token.value = "None") := by
  unfold IsWord TokenKind.ofWord
  by_cases reserved : token.value = "None"
  · cases token.kind <;> simp [reserved]
  · cases token.kind <;> simp [reserved]

theorem lexical_iff (token : Token) :
    token.Lexical ↔
      ((IsName token.value.toList ∧ token.IsWord) ∨ ∃ c, token.value.toList = [c] ∧ (c, token.kind) ∈ marks) ∧
        (token.kind = .absence ↔ token.value = "None") := by
  constructor
  · intro lexical
    cases lexical with
    | word c rest starts continues value kind =>
        have named : IsName token.value.toList := (name_iff _).mpr ⟨c, rest, by simp [value], starts, continues⟩
        obtain ⟨isWord, reserved⟩ := (of_word_iff token).mp kind
        exact ⟨.inl ⟨named, isWord⟩, reserved⟩
    | punctuation c value kind =>
        have single : token.value.toList = [c] := by simp [value]
        refine ⟨.inr ⟨c, single, (mark_iff c token.kind).mpr kind⟩, ?_⟩
        have other : token.value ≠ "None" := by
          intro same
          rw [same] at single
          cases single
        simp [other, (punctuation_stops c token.kind kind).2.2.2]
  · intro conditions
    obtain ⟨⟨named, isWord⟩ | ⟨c, single, listed⟩, reserved⟩ := conditions
    · obtain ⟨c, rest, value, starts, continues⟩ := (name_iff _).mp named
      exact .word c rest starts continues (String.toList_inj.mp (by simp [value]))
        ((of_word_iff token).mpr ⟨isWord, reserved⟩)
    · exact .punctuation c (String.toList_inj.mp (by simp [single])) ((mark_iff c token.kind).mp listed)

theorem lexical_kind (token : Token) (lexical : token.Lexical) : token.kind ≠ .eof := by
  intro ended
  rcases ((lexical_iff token).mp lexical).1 with ⟨_, isWord⟩ | ⟨c, _, listed⟩
  · simp [IsWord, ended] at isWord
  · simp [marks, ended] at listed

theorem laid_blank (start : Nat) (c : Char) (text : List Char) (tokens : List Token) (blank : isBlank c = true)
    (laid : Laid (start + c.utf8Size) tokens text) : Laid start tokens (c :: text) := by
  cases tokens with
  | nil => exact List.forall_mem_cons.mpr ⟨blank, laid⟩
  | cons token tokens =>
      obtain ⟨space, rest, rfl, spaceBlank, lexical, place, maximal, after⟩ := laid
      refine ⟨c :: space, rest, rfl, List.forall_mem_cons.mpr ⟨blank, spaceBlank⟩, lexical, ?_, maximal, after⟩
      rw [place, byteSize, Nat.add_assoc]

theorem drop_while_stops (text : List Char) :
    ∀ x ∈ (text.dropWhile continuesWord).head?, continuesWord x = false := by
  intro x first
  have stopped := List.head?_dropWhile_not continuesWord text
  rw [Option.mem_def.mp first] at stopped
  simpa using stopped

theorem laid_of_scan (start : Nat) (text : List Char) (tokens : List Token) (scanned : scan start text = .ok tokens) :
    Laid start tokens text := by
  fun_induction scan start text generalizing tokens with
  | case1 start =>
      cases scanned
      intro c member
      cases member
  | case2 start c rest starts word value ih =>
      obtain ⟨later, found, rfl⟩ := (except_map_ok _ _ _).mp scanned
      have continues := List.all_eq_true.mp (List.all_takeWhile (p := continuesWord) (l := rest))
      refine ⟨[], rest.dropWhile continuesWord, ?_, by simp, .word c _ starts continues rfl rfl, rfl, ?_, ?_⟩
      · simp [value, word, List.takeWhile_append_dropWhile]
      · intro _
        exact drop_while_stops rest
      · simpa [stop, value] using ih later found
  | case3 start c rest noWord blank ih => exact laid_blank start c rest tokens blank (ih tokens scanned)
  | case4 start c rest noWord visible kind found ih =>
      obtain ⟨later, scannedLater, rfl⟩ := (except_map_ok _ _ _).mp scanned
      refine ⟨[], rest, by simp, by simp, .punctuation c rfl found, rfl, ?_, ?_⟩
      · intro isWord
        obtain ⟨_, _, noName, noAbsence⟩ := punctuation_stops c kind found
        exact absurd isWord (not_or.mpr ⟨noName, noAbsence⟩)
      · simpa [stop, byteSize] using ih later scannedLater
  | case5 => cases scanned

theorem scan_of_laid (start : Nat) (text : List Char) (tokens : List Token) (laid : Laid start tokens text) :
    scan start text = .ok tokens := by
  induction tokens generalizing start text with
  | nil =>
      have skipped := scan_blank text [] laid start
      rw [List.append_nil] at skipped
      rw [skipped, scan]
  | cons token tokens ih =>
      obtain ⟨space, rest, rfl, blank, lexical, place, maximal, after⟩ := laid
      rw [scan_blank space _ blank, ← place, scan_lexical token rest lexical maximal]
      have later := ih token.stop rest after
      rw [stop] at later
      rw [later]
      rfl

theorem laid_offsets (start : Nat) (tokens : List Token) (text : List Char) (laid : Laid start tokens text) :
    ∀ token ∈ tokens, start ≤ token.offset := by
  induction tokens generalizing start text with
  | nil => simp
  | cons token tokens ih =>
      obtain ⟨space, rest, rfl, blank, lexical, place, maximal, after⟩ := laid
      intro other member
      rcases List.mem_cons.mp member with rfl | later
      · omega
      · have bound := ih token.stop rest after other later
        rw [stop] at bound
        omega

theorem lexical_pos (token : Token) (lexical : token.Lexical) : 0 < byteSize token.value.toList := by
  cases lexical with
  | word c rest starts continues value kind =>
      rw [value, String.toList_ofList]
      exact byte_size_pos c rest
  | punctuation c value kind =>
      rw [value, String.toList_singleton]
      exact byte_size_pos c []

theorem tile_here (token : Token) (front rest : List Char) (place : token.offset = byteSize front) :
    Tile (front ++ (token.value.toList ++ rest)) token ↔
      token.Lexical ∧ (token.IsWord → ∀ x ∈ rest.head?, continuesWord x = false) := by
  have ends : token.stop = byteSize (front ++ token.value.toList) := by rw [stop, place, byte_size_append]
  have whole : front ++ (token.value.toList ++ rest) = front ++ token.value.toList ++ rest :=
    (List.append_assoc _ _ _).symm
  constructor
  · intro tile
    refine ⟨(lexical_iff token).mpr ⟨tile.valued, tile.reserved⟩, ?_⟩
    intro isWord x first
    obtain ⟨rest, rfl⟩ := List.head?_eq_some_iff.mp first
    have follows := slice_here (front ++ token.value.toList) [x] rest
    rw [← ends, List.append_assoc] at follows
    have noPart := tile.maximal isWord x _ follows
    cases continues : continuesWord x with
    | false => rfl
    | true => exact absurd ((continues_word_iff x).mp continues) noPart
  · intro conditions
    obtain ⟨lexical, stops⟩ := conditions
    obtain ⟨valued, reserved⟩ := (lexical_iff token).mp lexical
    refine ⟨valued, reserved, ?_, ?_⟩
    · rw [place, stop, place]
      exact slice_here front token.value.toList rest
    · intro isWord c after slice part
      rw [ends, whole] at slice
      obtain ⟨back, rfl, _⟩ := slice_ahead _ _ _ _ slice
      have halted := stops isWord c rfl
      rw [(continues_word_iff c).mpr part] at halted
      cases halted

theorem tiles_cons (text : List Char) (start : Nat) (token : Token) (tokens : List Token) :
    Tiles text start (token :: tokens) ↔
      Tile text token ∧ Gap text start token.offset ∧ (∀ later ∈ tokens, token.offset < later.offset) ∧
        Tiles text token.stop tokens := by
  constructor
  · intro tiles
    obtain ⟨tile, each⟩ := List.forall_mem_cons.mp tiles.each
    obtain ⟨before, increasing⟩ := List.pairwise_cons.mp tiles.increasing
    obtain ⟨gap, spaced⟩ := List.forall_mem_cons.mp tiles.spaced
    exact ⟨tile, gap, before, each, increasing, spaced⟩
  · intro parts
    obtain ⟨tile, gap, before, tiles⟩ := parts
    exact ⟨List.forall_mem_cons.mpr ⟨tile, tiles.each⟩, List.pairwise_cons.mpr ⟨before, tiles.increasing⟩,
      List.forall_mem_cons.mpr ⟨gap, tiles.spaced⟩⟩

theorem tiles_nil (text : List Char) (start : Nat) : Tiles text start [] ↔ Gap text start (byteSize text) := by
  constructor
  · intro tiles
    exact tiles.spaced _ (List.mem_singleton.mpr rfl)
  · intro gap
    exact ⟨by simp, .nil, List.forall_mem_singleton.mpr gap⟩

theorem stop_after_space (token : Token) (front space : List Char)
    (place : token.offset = byteSize front + byteSize space) :
    token.stop = byteSize (front ++ space ++ token.value.toList) := by
  simp only [stop, place, byte_size_append]

theorem laid_iff_tiles (tokens : List Token) (front ahead : List Char) :
    Laid (byteSize front) tokens ahead ↔ Tiles (front ++ ahead) (byteSize front) tokens := by
  -- Both walk over the tokens with what has been passed of the text in front.
  induction tokens generalizing front ahead with
  | nil => rw [tiles_nil, gap_to_end, Laid]
  | cons token tokens ih =>
      rw [tiles_cons]
      constructor
      · intro laid
        obtain ⟨space, rest, rfl, blank, lexical, place, maximal, after⟩ := laid
        have whole : front ++ (space ++ (token.value.toList ++ rest)) =
            front ++ space ++ (token.value.toList ++ rest) := (List.append_assoc _ _ _).symm
        have ends := stop_after_space token front space place
        have gap := slice_here front space (token.value.toList ++ rest)
        rw [← place] at gap
        rw [← byte_size_append] at place
        have positive := lexical_pos token lexical
        have later := laid_offsets token.stop tokens rest after
        refine ⟨?_, ⟨space, gap, blank⟩, ?_, ?_⟩
        · rw [whole]
          exact (tile_here token (front ++ space) rest place).mpr ⟨lexical, maximal⟩
        · intro other member
          have bound := later other member
          rw [stop] at bound
          omega
        · rw [ends] at after ⊢
          have tiles := (ih (front ++ space ++ token.value.toList) rest).mp after
          simpa only [List.append_assoc] using tiles
      · intro parts
        obtain ⟨tile, ⟨space, slice, blank⟩, _, tiles⟩ := parts
        obtain ⟨back, rfl, place⟩ := slice_ahead front ahead space token.offset slice
        rw [← List.append_assoc] at tile tiles
        have here := tile.sliced
        rw [place, ← byte_size_append] at here
        obtain ⟨rest, rfl, _⟩ := slice_ahead (front ++ space) back token.value.toList token.stop here
        have offset : token.offset = byteSize (front ++ space) := by rw [place, byte_size_append]
        obtain ⟨lexical, maximal⟩ := (tile_here token (front ++ space) rest offset).mp tile
        refine ⟨space, rest, rfl, blank, lexical, place, maximal, ?_⟩
        rw [stop_after_space token front space place] at tiles ⊢
        apply (ih (front ++ space ++ token.value.toList) rest).mpr
        simpa only [List.append_assoc] using tiles

theorem scan_iff_tiles (text : List Char) (tokens : List Token) :
    scan 0 text = .ok tokens ↔ Tiles text 0 tokens := by
  have same := laid_iff_tiles tokens [] text
  rw [List.nil_append, byteSize] at same
  rw [← same]
  exact ⟨laid_of_scan 0 text tokens, scan_of_laid 0 text tokens⟩

theorem tiles_kind (text : List Char) (start : Nat) (tokens : List Token) (tiles : Tiles text start tokens) :
    ∀ token ∈ tokens, token.kind ≠ .eof := by
  intro token member
  have tile := tiles.each token member
  exact lexical_kind token ((lexical_iff token).mpr ⟨tile.valued, tile.reserved⟩)

theorem tokenize_iff_tiles (text : String) (tokens : List Token) :
    tokenize text = .ok tokens ↔
      ∃ words, tokens = words ++ [.eof (byteSize text.toList)] ∧ (∀ token ∈ words, token.kind ≠ .eof) ∧
        Tiles text.toList 0 words := by
  rw [tokenize, except_map_ok]
  constructor
  · intro success
    obtain ⟨words, scanned, rfl⟩ := success
    have tiles := (scan_iff_tiles text.toList words).mp scanned
    exact ⟨words, rfl, tiles_kind text.toList 0 words tiles, tiles⟩
  · intro tiled
    obtain ⟨words, rfl, _, tiles⟩ := tiled
    exact ⟨words, (scan_iff_tiles text.toList words).mpr tiles, rfl⟩

end Token

end CallContracts
