set_option autoImplicit false

namespace CallContracts.Text

def byteSize : List Char → Nat
  | [] => 0
  | c :: rest => c.utf8Size + byteSize rest

@[simp] theorem byte_size_append (front back : List Char) :
    byteSize (front ++ back) = byteSize front + byteSize back := by
  induction front with
  | nil => simp [byteSize]
  | cons c rest ih => simp [byteSize, ih, Nat.add_assoc]

theorem byte_size_pos (c : Char) (rest : List Char) : 0 < byteSize (c :: rest) :=
  Nat.add_pos_left c.utf8Size_pos _

structure Cursor where
  text : List Char
  position : Nat

namespace Cursor

def start (text : String) : Cursor := ⟨text.toList, 0⟩

def advance (cursor : Cursor) (bytes : Nat) : Cursor := { cursor with position := cursor.position + bytes }

end Cursor

end CallContracts.Text
