import CallContracts.Value.Render

set_option autoImplicit false

namespace CallContracts

namespace Value

-- Values without floats and objects, whose texts follow rules of their own.
inductive Plain : Value → Prop where
  | absent : Plain .absent
  | bool (b : Bool) : Plain (.bool b)
  | int (n : Int64) : Plain (.int n)
  | str (text : String) : Plain (.str text)
  | bytes (octets : List UInt8) : Plain (.bytes octets)
  | list (items : List Value) (inside : ∀ v ∈ items, Plain v) : Plain (.list items)
  | tuple (items : List Value) (inside : ∀ v ∈ items, Plain v) : Plain (.tuple items)
  | set (items : List Value) (inside : ∀ v ∈ items, Plain v) : Plain (.set items)
  | dict (entries : List (Value × Value)) (keys : ∀ entry ∈ entries, Plain entry.1)
      (values : ∀ entry ∈ entries, Plain entry.2) : Plain (.dict entries)

inductive Form where
  | absent
  | truth
  | number
  | text
  | octets
  | list
  | tuple
  | emptySet
  | braces
deriving DecidableEq

def Form.ofFirst (c : Char) : Option Form :=
  if c = '-' ∨ c.isDigit then some .number
  else if c = 'N' then some .absent
  else if c = 'T' ∨ c = 'F' then some .truth
  else if c = '\'' then some .text
  else if c = 'b' then some .octets
  else if c = '[' then some .list
  else if c = '(' then some .tuple
  else if c = 's' then some .emptySet
  else if c = '\x7b' then some .braces
  else none

inductive HasForm : Value → Form → Prop where
  | absent : HasForm .absent .absent
  | truth (b : Bool) : HasForm (.bool b) .truth
  | number (n : Int64) : HasForm (.int n) .number
  | text (text : String) : HasForm (.str text) .text
  | octets (octets : List UInt8) : HasForm (.bytes octets) .octets
  | list (items : List Value) : HasForm (.list items) .list
  | tuple (items : List Value) : HasForm (.tuple items) .tuple
  | emptySet : HasForm (.set []) .emptySet
  | set (x : Value) (xs : List Value) : HasForm (.set (x :: xs)) .braces
  | dict (entries : List (Value × Value)) : HasForm (.dict entries) .braces

def characters (v : Value) : List Char := v.render.toList

def numeral : Int → List Char
  | .ofNat m => Nat.toDigits 10 m
  | .negSucc m => '-' :: Nat.toDigits 10 (m + 1)

def entryCharacters (entry : Value × Value) : List Char :=
  entry.1.characters ++ ':' :: ' ' :: entry.2.characters

def following {α : Type} (text : α → List Char) (xs : List α) : List Char := xs.flatMap fun x => ',' :: ' ' :: text x

def series {α : Type} (text : α → List Char) : List α → List Char
  | [] => []
  | x :: xs => text x ++ following text xs

def tupleRest : List Value → List Char
  | [] => [',', ')']
  | x :: xs => following characters (x :: xs) ++ [')']

theorem intercalate_series {α : Type} (text : α → List Char) (xs : List α) :
    [',', ' '].intercalate (xs.map text) = series text xs := by
  induction xs with
  | nil => rfl
  | cons x xs ih =>
      cases xs with
      | nil => simp [series, following]
      | cons y ys =>
          rw [List.map_cons, List.map_cons, List.intercalate_cons_cons, ← List.map_cons, ih]
          simp [series, following]

theorem joined_items (items : List Value) : (Text.joined (renderItems items)).toList = series characters items := by
  rw [Text.joined, String.toList_intercalate, render_items_map, List.map_map]
  exact intercalate_series characters items

theorem render_entries_map (entries : List (Value × Value)) :
    renderEntries entries = entries.map fun entry => entry.1.render ++ ": " ++ entry.2.render := by
  induction entries with
  | nil => simp [renderEntries]
  | cons entry rest ih => simp [renderEntries, ih]

theorem joined_entries (entries : List (Value × Value)) :
    (Text.joined (renderEntries entries)).toList = series entryCharacters entries := by
  have each : (String.toList ∘ fun entry : Value × Value => entry.1.render ++ ": " ++ entry.2.render) = entryCharacters := by
    funext entry
    simp [entryCharacters, characters]
  rw [Text.joined, String.toList_intercalate, render_entries_map, List.map_map, each]
  exact intercalate_series entryCharacters entries

theorem characters_list (items : List Value) :
    (list items).characters = '[' :: (series characters items ++ [']']) := by
  simp [characters, render, joined_items]

theorem characters_tuple (x : Value) (xs : List Value) :
    (tuple (x :: xs)).characters = '(' :: (x.characters ++ tupleRest xs) := by
  cases xs with
  | nil => simp [characters, render, renderItems, renderTuple, tupleRest]
  | cons y ys =>
      have several : renderTuple (renderItems (x :: y :: ys)) = "(" ++ Text.joined (renderItems (x :: y :: ys)) ++ ")" := rfl
      simp [characters, render, several, joined_items, series, tupleRest]

theorem characters_set (x : Value) (xs : List Value) :
    (set (x :: xs)).characters = '\x7b' :: (series characters (x :: xs) ++ ['\x7d']) := by
  have several : renderSet (renderItems (x :: xs)) = "\x7b" ++ Text.joined (renderItems (x :: xs)) ++ "\x7d" := rfl
  simp [characters, render, several, joined_items]

theorem characters_dict (entries : List (Value × Value)) :
    (dict entries).characters = '\x7b' :: (series entryCharacters entries ++ ['\x7d']) := by
  simp [characters, render, joined_entries]

theorem characters_str (text : String) :
    (str text).characters = '\'' :: (text.toList.flatMap escapeText ++ ['\'']) := by
  simp [characters, render]

theorem characters_bytes (octets : List UInt8) :
    (bytes octets).characters = 'b' :: '\'' :: (octets.flatMap escapeOctet ++ ['\'']) := by
  simp [characters, render]

theorem characters_int (n : Int64) : (int n).characters = numeral n.toInt := by
  rw [characters, render]
  cases n.toInt with
  | ofNat m => exact Nat.toList_repr
  | negSucc m => simp [toString, Int.repr, numeral, Nat.toList_repr]

def Stops (rest : List Char) : Prop := ∀ c more, rest = c :: more → Form.ofFirst c = none

theorem stops_nil : Stops [] := by
  intro c more same
  cases same

theorem stops_cons (c : Char) (rest : List Char) (apart : Form.ofFirst c = none) : Stops (c :: rest) := by
  intro d more same
  cases same
  exact apart

-- Two texts cannot run on into one another: what was written is told, and where it ends.
def Cancels {α : Type} (text : α → List Char) (x y : α) : Prop :=
  ∀ r s, Stops r → Stops s → text x ++ r = text y ++ s → x = y ∧ r = s

theorem cancels_symm {α : Type} (text : α → List Char) (x y : α) (cancels : Cancels text x y) : Cancels text y x := by
  intro r s stopsR stopsS same
  obtain ⟨sameValue, sameRest⟩ := cancels s r stopsS stopsR same.symm
  exact ⟨sameValue.symm, sameRest.symm⟩

def Opens (text : List Char) (form : Form) : Prop := ∃ c more, text = c :: more ∧ Form.ofFirst c = some form

theorem opens_not_stops (text rest : List Char) (form : Form) (opens : Opens text form) : ¬ Stops (text ++ rest) := by
  obtain ⟨c, more, rfl, first⟩ := opens
  intro stops
  have none := stops c (more ++ rest) rfl
  rw [first] at none
  cases none

theorem opens_same (one other r s : List Char) (form form' : Form) (opens : Opens one form) (opens' : Opens other form')
    (same : one ++ r = other ++ s) : form = form' := by
  obtain ⟨c, more, rfl, first⟩ := opens
  obtain ⟨c', more', rfl, first'⟩ := opens'
  cases List.head_eq_of_cons_eq same
  rw [first] at first'
  exact Option.some.inj first'

theorem digit_form (m : Nat) (c : Char) (inside : c ∈ Nat.toDigits 10 m) : Form.ofFirst c = some .number := by
  have digit := Nat.isDigit_of_mem_toDigits (by decide) (by decide) inside
  rw [Form.ofFirst, if_pos (.inr digit)]

theorem numeral_form (i : Int) (c : Char) (inside : c ∈ numeral i) : Form.ofFirst c = some .number := by
  cases i with
  | ofNat m => exact digit_form m c inside
  | negSucc m =>
      rcases List.mem_cons.mp inside with rfl | digit
      · rfl
      · exact digit_form (m + 1) c digit

theorem numeral_opens (i : Int) : Opens (numeral i) .number := by
  cases written : numeral i with
  | nil =>
      cases i with
      | ofNat m => exact absurd written Nat.toDigits_ne_nil
      | negSucc m => cases written
  | cons c more => exact ⟨c, more, rfl, numeral_form i c (by simp [written])⟩

theorem digits_injective (m n : Nat) (same : Nat.toDigits 10 m = Nat.toDigits 10 n) : m = n := by
  have read := congrArg (fun digits => Nat.ofDigitChars 10 digits 0) same
  simpa [Nat.ofDigitChars_toDigits] using read

theorem digits_unsigned (m : Nat) (rest : List Char) : Nat.toDigits 10 m ≠ '-' :: rest := by
  intro same
  have digit : '-'.isDigit = true := Nat.isDigit_of_mem_toDigits (by decide) (by decide) (same ▸ List.mem_cons_self)
  cases digit

theorem numeral_injective (i j : Int) (same : numeral i = numeral j) : i = j := by
  cases i with
  | ofNat m =>
      cases j with
      | ofNat n => rw [digits_injective m n same]
      | negSucc n => exact absurd same (digits_unsigned m _)
  | negSucc m =>
      cases j with
      | ofNat n => exact absurd same.symm (digits_unsigned n _)
      | negSucc n =>
          have digits := digits_injective (m + 1) (n + 1) (List.tail_eq_of_cons_eq same)
          rw [Nat.succ.inj digits]

theorem numeral_taken (i : Int) (rest : List Char) (stops : Stops rest) :
    (numeral i ++ rest).takeWhile (fun c => Form.ofFirst c = some .number) = numeral i := by
  have ends : rest.takeWhile (fun c => Form.ofFirst c = some .number) = [] := by
    cases rest with
    | nil => rfl
    | cons c more => simp [stops c more rfl]
  rw [List.takeWhile_append_of_pos, ends, List.append_nil]
  intro c inside
  simpa using numeral_form i c inside

theorem numeral_cancels (i j : Int) : Cancels numeral i j := by
  intro r s stopsR stopsS same
  have taken := congrArg (List.takeWhile fun c => Form.ofFirst c = some .number) same
  rw [numeral_taken i r stopsR, numeral_taken j s stopsS] at taken
  rw [taken] at same
  exact ⟨numeral_injective i j taken, List.append_cancel_left same⟩

theorem plain_opens (v : Value) (plain : Plain v) : ∃ form, HasForm v form ∧ Opens v.characters form := by
  cases plain with
  | absent => exact ⟨.absent, .absent, 'N', _, rfl, rfl⟩
  | bool b =>
      cases b with
      | false => exact ⟨.truth, .truth false, 'F', _, rfl, rfl⟩
      | true => exact ⟨.truth, .truth true, 'T', _, rfl, rfl⟩
  | int n =>
      rw [characters_int]
      exact ⟨.number, .number n, numeral_opens n.toInt⟩
  | str text => exact ⟨.text, .text text, '\'', _, characters_str text, rfl⟩
  | bytes octets => exact ⟨.octets, .octets octets, 'b', _, characters_bytes octets, rfl⟩
  | list items _ => exact ⟨.list, .list items, '[', _, characters_list items, rfl⟩
  | tuple items _ =>
      cases items with
      | nil => exact ⟨.tuple, .tuple [], '(', _, rfl, rfl⟩
      | cons x xs => exact ⟨.tuple, .tuple (x :: xs), '(', _, characters_tuple x xs, rfl⟩
  | set items _ =>
      cases items with
      | nil => exact ⟨.emptySet, .emptySet, 's', _, rfl, rfl⟩
      | cons x xs => exact ⟨.braces, .set x xs, '\x7b', _, characters_set x xs, rfl⟩
  | dict entries _ _ => exact ⟨.braces, .dict entries, '\x7b', _, characters_dict entries, rfl⟩

theorem plain_not_stops (v : Value) (plain : Plain v) (rest : List Char) : ¬ Stops (v.characters ++ rest) := by
  obtain ⟨form, _, opens⟩ := plain_opens v plain
  exact opens_not_stops v.characters rest form opens

theorem cancels_of_forms (a b : Value) (plainA : Plain a) (plainB : Plain b)
    (cancels : ∀ form, HasForm a form → HasForm b form → Cancels characters a b) : Cancels characters a b := by
  intro r s stopsR stopsS same
  obtain ⟨form, hasA, opensA⟩ := plain_opens a plainA
  obtain ⟨form', hasB, opensB⟩ := plain_opens b plainB
  cases opens_same _ _ r s form form' opensA opensB same
  exact cancels form hasA hasB r s stopsR stopsS same

end Value

end CallContracts
