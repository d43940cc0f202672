/-!
# Formulary.Text.Bytes

Lengths and offsets of a text in bytes of UTF-8.

An offset is between two characters if `column?` finds the number of
characters before it; `slice?` takes the characters between two such offsets.
-/

namespace Formulary.Text

/-! ## Lengths -/

/-- The number of bytes of a text. -/
def byteLength (text : List Char) : Nat := text.foldr (fun c bytes => c.utf8Size + bytes) 0

@[simp] theorem byteLength_nil : byteLength [] = 0 := rfl

@[simp] theorem byteLength_cons (c : Char) (text : List Char) :
    byteLength (c :: text) = c.utf8Size + byteLength text := rfl

/-- The bytes of a text are those of its parts. -/
@[simp] theorem byteLength_append (front rest : List Char) :
    byteLength (front ++ rest) = byteLength front + byteLength rest := by
  induction front with
  | nil => simp
  | cons c front ih => rw [List.cons_append, byteLength_cons, byteLength_cons, ih, Nat.add_assoc]

/-! ## Offsets -/

/-- The number of characters before a byte offset, if the offset is between two characters. -/
def column? : List Char → Nat → Option Nat
  | _, 0 => some 0
  | [], _ => none
  | c :: rest, offset =>
    if c.utf8Size ≤ offset then (column? rest (offset - c.utf8Size)).map (· + 1) else none

/-- The offset behind the front of a text is after its characters. -/
theorem column?_append (front rest : List Char) :
    column? (front ++ rest) (byteLength front) = some front.length := by
  induction front with
  | nil => cases rest <;> rfl
  | cons c front ih =>
    have := c.utf8Size_pos
    obtain ⟨k, hk⟩ : ∃ k, c.utf8Size + byteLength front = k + 1 :=
      ⟨c.utf8Size + byteLength front - 1, by omega⟩
    rw [byteLength_cons, List.cons_append, hk]
    simp only [column?]
    rw [← hk, if_pos (by omega), Nat.add_sub_cancel_left, ih]
    rfl

/-- The characters from one byte offset to another, if both are between two characters. -/
def slice? (text : List Char) (start stop : Nat) : Option (List Char) := do
  let first ← column? text start
  let last ← column? text stop
  return (text.take last).drop first

/-- The offsets of a part of a text give the part. -/
theorem slice?_append (front part rest : List Char) :
    slice? (front ++ part ++ rest) (byteLength front) (byteLength (front ++ part)) = some part := by
  have first := column?_append front (part ++ rest)
  have last := column?_append (front ++ part) rest
  rw [← List.append_assoc] at first
  have taken : (front ++ part ++ rest).take (front ++ part).length = front ++ part :=
    List.take_left
  unfold slice?
  rw [first, last]
  change some (List.drop front.length (List.take (front ++ part).length _)) = _
  rw [taken, List.drop_left]

end Formulary.Text
