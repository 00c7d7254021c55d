import CallContracts.Proofs.Escapes
import CallContracts.Proofs.RenderedText

set_option autoImplicit false

namespace CallContracts

namespace Value

theorem following_stops {α : Type} (text : α → List Char) (xs : List α) (rest : List Char) (stops : Stops rest) :
    Stops (following text xs ++ rest) := by
  cases xs with
  | nil => exact stops
  | cons x xs => exact stops_cons ',' _ rfl

theorem following_cancel {α : Type} (text : α → List Char) (close : Char) (closing : Form.ofFirst close = none)
    (apart : close ≠ ',') (xs ys : List α) (cancels : ∀ x ∈ xs, ∀ y ∈ ys, Cancels text x y) (r s : List Char)
    (same : following text xs ++ close :: r = following text ys ++ close :: s) : xs = ys ∧ r = s := by
  induction xs generalizing ys with
  | nil =>
      cases ys with
      | nil => exact ⟨rfl, List.tail_eq_of_cons_eq same⟩
      | cons y ys => exact absurd (List.head_eq_of_cons_eq same) apart
  | cons x xs ih =>
      cases ys with
      | nil => exact absurd (List.head_eq_of_cons_eq same).symm apart
      | cons y ys =>
          have stops := fun (zs : List α) rest => following_stops text zs (close :: rest) (stops_cons close rest closing)
          have first : text x ++ (following text xs ++ close :: r) = text y ++ (following text ys ++ close :: s) := by
            simpa [following] using same
          obtain ⟨rfl, rest⟩ := cancels x (by simp) y (by simp) _ _ (stops xs r) (stops ys s) first
          obtain ⟨rfl, sameEnd⟩ := ih ys (fun v inside w among => cancels v (by simp [inside]) w (by simp [among])) rest
          exact ⟨rfl, sameEnd⟩

theorem series_cancel {α : Type} (text : α → List Char) (close : Char) (closing : Form.ofFirst close = none)
    (apart : close ≠ ',') (xs ys : List α) (startX : ∀ x ∈ xs, ∀ rest, ¬ Stops (text x ++ rest))
    (startY : ∀ y ∈ ys, ∀ rest, ¬ Stops (text y ++ rest)) (cancels : ∀ x ∈ xs, ∀ y ∈ ys, Cancels text x y)
    (r s : List Char) (same : series text xs ++ close :: r = series text ys ++ close :: s) : xs = ys ∧ r = s := by
  have closes := fun rest => stops_cons close rest closing
  cases xs with
  | nil =>
      cases ys with
      | nil => exact ⟨rfl, List.tail_eq_of_cons_eq same⟩
      | cons y ys =>
          rw [series, series, List.nil_append, List.append_assoc] at same
          exact absurd (same ▸ closes r) (startY y List.mem_cons_self _)
  | cons x xs =>
      cases ys with
      | nil =>
          rw [series, series, List.nil_append, List.append_assoc] at same
          exact absurd (same.symm ▸ closes s) (startX x List.mem_cons_self _)
      | cons y ys =>
          apply following_cancel text close closing apart (x :: xs) (y :: ys) cancels r s
          have behind : ',' :: ' ' :: (series text (x :: xs) ++ close :: r) =
              ',' :: ' ' :: (series text (y :: ys) ++ close :: s) := by rw [same]
          simpa [series, following] using behind

theorem tuple_rest_stops (xs : List Value) (rest : List Char) : Stops (tupleRest xs ++ rest) := by
  cases xs with
  | nil => exact stops_cons ',' _ rfl
  | cons x xs => exact stops_cons ',' _ rfl

theorem tuple_rest_cancel (xs ys : List Value) (cancels : ∀ x ∈ xs, ∀ y ∈ ys, Cancels characters x y)
    (r s : List Char) (same : tupleRest xs ++ r = tupleRest ys ++ s) : xs = ys ∧ r = s := by
  cases xs with
  | nil =>
      cases ys with
      | nil => exact ⟨rfl, List.append_cancel_left same⟩
      | cons y ys => cases same
  | cons x xs =>
      cases ys with
      | nil => cases same
      | cons y ys =>
          rw [tupleRest, tupleRest, List.append_assoc, List.append_assoc] at same
          exact following_cancel characters ')' rfl (by decide) (x :: xs) (y :: ys) cancels r s same

theorem entry_cancels (one other : Value × Value) (keys : Cancels characters one.1 other.1)
    (values : Cancels characters one.2 other.2) : Cancels entryCharacters one other := by
  intro r s stopsR stopsS same
  rw [entryCharacters, entryCharacters, List.append_assoc, List.append_assoc] at same
  obtain ⟨sameKey, rest⟩ := keys _ _ (stops_cons ':' _ rfl) (stops_cons ':' _ rfl) same
  obtain ⟨sameValue, sameRest⟩ := values r s stopsR stopsS (by simpa using rest)
  exact ⟨Prod.ext sameKey sameValue, sameRest⟩

theorem set_apart_from_dict (x : Value) (xs : List Value) (entries : List (Value × Value)) (plain : Plain x)
    (cancels : ∀ entry ∈ entries, Cancels characters x entry.1) (r s : List Char) :
    series characters (x :: xs) ++ '\x7d' :: r ≠ series entryCharacters entries ++ '\x7d' :: s := by
  intro same
  rw [series, List.append_assoc] at same
  cases entries with
  | nil =>
      rw [series, List.nil_append] at same
      have stops : Stops ('\x7d' :: s) := stops_cons '\x7d' s rfl
      exact plain_not_stops x plain _ (same ▸ stops)
  | cons entry rest =>
      have stops := following_stops characters xs ('\x7d' :: r) (stops_cons '\x7d' r rfl)
      have key : x.characters ++ (following characters xs ++ '\x7d' :: r) = entry.1.characters ++
          ':' :: ' ' :: (entry.2.characters ++ following entryCharacters rest ++ '\x7d' :: s) := by
        simpa [series, entryCharacters] using same
      obtain ⟨_, behind⟩ := cancels entry List.mem_cons_self _ _ stops (stops_cons ':' _ rfl) key
      cases xs with
      | nil => cases behind
      | cons y ys => cases behind

theorem cancels_refl (v : Value) : Cancels characters v v := by
  intro r s _ _ same
  exact ⟨rfl, List.append_cancel_left same⟩

theorem bool_cancels (b c : Bool) : Cancels characters (.bool b) (.bool c) := by
  cases b with
  | false =>
      cases c with
      | false => exact cancels_refl (.bool false)
      | true =>
          intro r s _ _ same
          cases List.head_eq_of_cons_eq same
  | true =>
      cases c with
      | false =>
          intro r s _ _ same
          cases List.head_eq_of_cons_eq same
      | true => exact cancels_refl (.bool true)

theorem int_cancels (m n : Int64) : Cancels characters (.int m) (.int n) := by
  intro r s stopsR stopsS same
  rw [characters_int, characters_int] at same
  obtain ⟨sameNumber, sameRest⟩ := numeral_cancels m.toInt n.toInt r s stopsR stopsS same
  rw [Int64.toInt_inj] at sameNumber
  exact ⟨congrArg int sameNumber, sameRest⟩

theorem str_cancels (one other : String) : Cancels characters (.str one) (.str other) := by
  intro r s _ _ same
  rw [characters_str, characters_str] at same
  obtain ⟨sameText, sameRest⟩ := quoted_cancel escapeText readCharacter read_character (fun _ => rfl)
    one.toList other.toList r s (by simpa using same)
  rw [String.toList_inj] at sameText
  exact ⟨congrArg str sameText, sameRest⟩

theorem bytes_cancels (one other : List UInt8) : Cancels characters (.bytes one) (.bytes other) := by
  intro r s _ _ same
  rw [characters_bytes, characters_bytes] at same
  obtain ⟨sameOctets, sameRest⟩ := quoted_cancel escapeOctet readOctet read_octet (fun _ => rfl)
    one other r s (by simpa using same)
  exact ⟨congrArg bytes sameOctets, sameRest⟩

theorem list_cancels (xs ys : List Value) (plainX : ∀ x ∈ xs, Plain x) (plainY : ∀ y ∈ ys, Plain y)
    (cancels : ∀ x ∈ xs, ∀ y ∈ ys, Cancels characters x y) : Cancels characters (.list xs) (.list ys) := by
  intro r s _ _ same
  rw [characters_list, characters_list] at same
  obtain ⟨rfl, sameRest⟩ := series_cancel characters ']' rfl (by decide) xs ys
    (fun x inside => plain_not_stops x (plainX x inside)) (fun y inside => plain_not_stops y (plainY y inside))
    cancels r s (by simpa using same)
  exact ⟨rfl, sameRest⟩

theorem tuple_cancels (xs ys : List Value) (plainX : ∀ x ∈ xs, Plain x) (plainY : ∀ y ∈ ys, Plain y)
    (cancels : ∀ x ∈ xs, ∀ y ∈ ys, Cancels characters x y) : Cancels characters (.tuple xs) (.tuple ys) := by
  have empty : (tuple []).characters = ['(', ')'] := rfl
  have closes := fun rest : List Char => stops_cons ')' rest rfl
  intro r s _ _ same
  cases xs with
  | nil =>
      cases ys with
      | nil => exact ⟨rfl, List.append_cancel_left same⟩
      | cons y ys =>
          rw [empty, characters_tuple] at same
          have inner : ')' :: r = y.characters ++ (tupleRest ys ++ s) := by simpa using same
          exact absurd (inner ▸ closes r) (plain_not_stops y (plainY y List.mem_cons_self) _)
  | cons x xs =>
      cases ys with
      | nil =>
          rw [empty, characters_tuple] at same
          have inner : x.characters ++ (tupleRest xs ++ r) = ')' :: s := by simpa using same
          exact absurd (inner.symm ▸ closes s) (plain_not_stops x (plainX x List.mem_cons_self) _)
      | cons y ys =>
          rw [characters_tuple, characters_tuple] at same
          have inner : x.characters ++ (tupleRest xs ++ r) = y.characters ++ (tupleRest ys ++ s) := by simpa using same
          obtain ⟨rfl, rest⟩ := cancels x List.mem_cons_self y List.mem_cons_self _ _ (tuple_rest_stops xs r)
            (tuple_rest_stops ys s) inner
          obtain ⟨rfl, sameRest⟩ := tuple_rest_cancel xs ys
            (fun v inside w among => cancels v (List.mem_cons_of_mem x inside) w (List.mem_cons_of_mem x among)) r s rest
          exact ⟨rfl, sameRest⟩

theorem set_cancels (x y : Value) (xs ys : List Value) (plainX : ∀ v ∈ x :: xs, Plain v)
    (plainY : ∀ v ∈ y :: ys, Plain v) (cancels : ∀ v ∈ x :: xs, ∀ w ∈ y :: ys, Cancels characters v w) :
    Cancels characters (.set (x :: xs)) (.set (y :: ys)) := by
  intro r s _ _ same
  rw [characters_set, characters_set] at same
  obtain ⟨sameItems, sameRest⟩ := series_cancel characters '\x7d' rfl (by decide) (x :: xs) (y :: ys)
    (fun v inside => plain_not_stops v (plainX v inside)) (fun v inside => plain_not_stops v (plainY v inside))
    cancels r s (by simpa using same)
  exact ⟨congrArg set sameItems, sameRest⟩

theorem entry_not_stops (entry : Value × Value) (plain : Plain entry.1) (rest : List Char) :
    ¬ Stops (entryCharacters entry ++ rest) := by
  rw [entryCharacters, List.append_assoc]
  exact plain_not_stops entry.1 plain _

theorem dict_cancels (xs ys : List (Value × Value)) (plainX : ∀ x ∈ xs, Plain x.1) (plainY : ∀ y ∈ ys, Plain y.1)
    (keys : ∀ x ∈ xs, ∀ y ∈ ys, Cancels characters x.1 y.1) (values : ∀ x ∈ xs, ∀ y ∈ ys, Cancels characters x.2 y.2) :
    Cancels characters (.dict xs) (.dict ys) := by
  intro r s _ _ same
  rw [characters_dict, characters_dict] at same
  obtain ⟨rfl, sameRest⟩ := series_cancel entryCharacters '\x7d' rfl (by decide) xs ys
    (fun x inside => entry_not_stops x (plainX x inside)) (fun y inside => entry_not_stops y (plainY y inside))
    (fun x inside y among => entry_cancels x y (keys x inside y among) (values x inside y among))
    r s (by simpa using same)
  exact ⟨rfl, sameRest⟩

theorem set_dict_cancels (x : Value) (xs : List Value) (entries : List (Value × Value)) (plain : Plain x)
    (cancels : ∀ entry ∈ entries, Cancels characters x entry.1) :
    Cancels characters (.set (x :: xs)) (.dict entries) := by
  intro r s _ _ same
  rw [characters_set, characters_dict] at same
  exact absurd (by simpa using same) (set_apart_from_dict x xs entries plain cancels r s)

theorem plain_cancels (a b : Value) (plainA : Plain a) (plainB : Plain b) : Cancels characters a b := by
  -- By induction on the first value. The second one has the same form, and the items of both cancel by hypothesis.
  induction plainA generalizing b with
  | absent =>
      apply cancels_of_forms _ _ .absent plainB
      intro form hasA hasB
      cases hasA
      cases hasB
      exact cancels_refl .absent
  | bool value =>
      apply cancels_of_forms _ _ (.bool value) plainB
      intro form hasA hasB
      cases hasA
      cases hasB with
      | truth other => exact bool_cancels value other
  | int n =>
      apply cancels_of_forms _ _ (.int n) plainB
      intro form hasA hasB
      cases hasA
      cases hasB with
      | number other => exact int_cancels n other
  | str text =>
      apply cancels_of_forms _ _ (.str text) plainB
      intro form hasA hasB
      cases hasA
      cases hasB with
      | text other => exact str_cancels text other
  | bytes octets =>
      apply cancels_of_forms _ _ (.bytes octets) plainB
      intro form hasA hasB
      cases hasA
      cases hasB with
      | octets other => exact bytes_cancels octets other
  | list items inside ih =>
      apply cancels_of_forms _ _ (.list items inside) plainB
      intro form hasA hasB
      cases hasA
      cases hasB with
      | list others =>
          cases plainB with
          | list _ among =>
              exact list_cancels items others inside among fun x member y other => ih x member y (among y other)
  | tuple items inside ih =>
      apply cancels_of_forms _ _ (.tuple items inside) plainB
      intro form hasA hasB
      cases hasA
      cases hasB with
      | tuple others =>
          cases plainB with
          | tuple _ among =>
              exact tuple_cancels items others inside among fun x member y other => ih x member y (among y other)
  | set items inside ih =>
      apply cancels_of_forms _ _ (.set items inside) plainB
      intro form hasA hasB
      cases hasA with
      | emptySet =>
          cases hasB
          exact cancels_refl (.set [])
      | set x xs =>
          cases plainB with
          | set others among =>
              cases hasB with
              | set y ys => exact set_cancels x y xs ys inside among fun v member w other => ih v member w (among w other)
          | dict entries keys _ =>
              have first : x ∈ x :: xs := List.mem_cons_self
              exact set_dict_cancels x xs entries (inside x first) fun entry other => ih x first entry.1 (keys entry other)
          | _ => cases hasB
  | dict entries keys values ihKeys ihValues =>
      apply cancels_of_forms _ _ (.dict entries keys values) plainB
      intro form hasA hasB
      cases hasA
      cases plainB with
      | set others among =>
          cases hasB with
          | set y ys =>
              have first := among y List.mem_cons_self
              apply cancels_symm
              exact set_dict_cancels y ys entries first fun entry member => cancels_symm _ _ _ (ihKeys entry member y first)
      | dict others otherKeys otherValues =>
          exact dict_cancels entries others keys otherKeys
            (fun x member y other => ihKeys x member y.1 (otherKeys y other))
            (fun x member y other => ihValues x member y.2 (otherValues y other))
      | _ => cases hasB

-- A text is the text of one value only, down to every element.
theorem render_unambiguous (a b : Value) (plainA : Plain a) (plainB : Plain b) (same : a.render = b.render) : a = b := by
  have texts : a.characters ++ [] = b.characters ++ [] := by rw [characters, characters, same]
  exact (plain_cancels a b plainA plainB [] [] stops_nil stops_nil texts).1

theorem render_unambiguous_nested :
    ∃ one other, one = Value.tuple [.setOf [.int 1, .int 1], .dict [(.str "it's", .bytes [39, 255])]] ∧
      other = Value.tuple [.set [.int 1], .dict [(.str "it's", .bytes [39, 255])]] ∧
      one.render = other.render ∧ one = other := by
  have distinct : Value.setOf [.int 1, .int 1] = .set [.int 1] := by with_unfolding_all rfl
  have number : Plain (.set [.int 1]) := .set _ (List.forall_mem_singleton.mpr (.int 1))
  have entry : Plain (.dict [(.str "it's", .bytes [39, 255])]) :=
    .dict _ (List.forall_mem_singleton.mpr (.str _)) (List.forall_mem_singleton.mpr (.bytes _))
  have plain : Plain (.tuple [.set [.int 1], .dict [(.str "it's", .bytes [39, 255])]]) :=
    .tuple _ (List.forall_mem_cons.mpr ⟨number, List.forall_mem_singleton.mpr entry⟩)
  have texts := congrArg (fun v => (Value.tuple [v, .dict [(.str "it's", .bytes [39, 255])]]).render) distinct
  exact ⟨_, _, rfl, rfl, texts, render_unambiguous _ _ (distinct ▸ plain) plain texts⟩

end Value

end CallContracts
