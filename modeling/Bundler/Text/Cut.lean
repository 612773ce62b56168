/-!
# Cutting text at byte offsets

Offsets count the bytes of the UTF-8 form. A cut inside a character, or past the end, does not
exist.
-/

namespace Bundler.Text

/-- The length of a text in bytes. -/
def size : List Char → Nat
  | [] => 0
  | c :: cs => c.utf8Size + size cs

/-- The two halves of a text around a byte offset. -/
def cut? (offset : Nat) : List Char → Option (List Char × List Char)
  | [] => if offset = 0 then some ([], []) else none
  | c :: cs =>
    if offset = 0 then some ([], c :: cs)
    else if c.utf8Size ≤ offset then
      (cut? (offset - c.utf8Size) cs).map fun (before, after) => (c :: before, after)
    else none

/-- The part of a text between two byte offsets. -/
def slice? (start stop : Nat) (text : List Char) : Option (List Char) := do
  guard (start ≤ stop)
  let (_, after) ← cut? start text
  let (part, _) ← cut? (stop - start) after
  return part

/-- The part of a text from a byte offset on. -/
def drop? (start : Nat) (text : List Char) : Option (List Char) :=
  (cut? start text).map (·.2)

/-! ## Halves put together again -/

@[simp]
theorem size_nil : size [] = 0 := rfl

@[simp]
theorem size_cons (c : Char) (cs : List Char) : size (c :: cs) = c.utf8Size + size cs := rfl

theorem size_append (a b : List Char) : size (a ++ b) = size a + size b := by
  induction a with
  | nil => simp
  | cons c cs ih => simp [ih, Nat.add_assoc]

theorem length_le_size (text : List Char) : text.length ≤ size text := by
  induction text with
  | nil => simp
  | cons c cs ih =>
    have := Char.utf8Size_pos c
    simp only [List.length_cons, size_cons]
    omega

theorem cut?_size (a b : List Char) : cut? (size a) (a ++ b) = some (a, b) := by
  induction a with
  | nil => cases b <;> simp [cut?]
  | cons c cs ih =>
    have hpos : 0 < c.utf8Size := Char.utf8Size_pos c
    simp only [cut?, size_cons, List.cons_append, Nat.le_add_right, Nat.add_sub_cancel_left, ih]
    rw [if_neg (by omega)]
    rfl

end Bundler.Text
