import Bundler.Proofs.Bytes
import Bundler.Script.Lexer
import Mathlib.Data.List.Basic

/-!
# Literals are read back

A literal of the bundle is read by the rules for strings of a script as the text that it was written
for, so no two texts have one literal. Whatever follows it is not read, and it ends no line.
-/

namespace Bundler.Literal
open Script

/-- What a written character is read as. -/
def pieceOf (c : Char) : Piece :=
  if c ≠ '\n' ∧ c ≠ '\r' ∧ c ≠ '\t' ∧ (isControl c || isSeparator c) then .unit c.toNat else .char c

theorem hexDigit?_hexDigit : ∀ n < 16, hexDigit? (hexDigit n) = some n := by decide

theorem hexDigit_ne_brace : ∀ n < 16, hexDigit n ≠ '{' := by decide

theorem toNat_lt_of_coded {c : Char} (h : (isControl c || isSeparator c) = true) : c.toNat < 0x10000 := by
  simp only [isControl, isSeparator, Bool.or_eq_true, Bool.and_eq_true, decide_eq_true_eq] at h
  omega

theorem hex4?_hex4 {n : Nat} (h : n < 0x10000) :
    hex4? (hexDigit (n / 4096 % 16)) (hexDigit (n / 256 % 16)) (hexDigit (n / 16 % 16)) (hexDigit (n % 16)) =
      some n := by
  simp only [hex4?, hex2?, hexDigit?_hexDigit _ (Nat.mod_lt _ (by decide : 0 < 16)), bind, Option.bind, pure]
  congr 1
  omega

theorem escape_coded {n : Nat} (h : n < 0x10000) (more : List Char) :
    Script.escape false ('u' :: hex4 n ++ more) = ⟨some [.unit n], 5, 5⟩ := by
  have hunicode : unicodeEscape (hex4 n ++ more) = ⟨some [.unit n], 5, 5⟩ := by
    rw [hex4]
    simp only [List.cons_append]
    unfold unicodeEscape
    split
    · next hbrace => exact absurd (List.cons.inj hbrace).1 (hexDigit_ne_brace _ (Nat.mod_lt _ (by decide)))
    · next hdigits =>
      simp only [List.cons.injEq] at hdigits
      obtain ⟨rfl, rfl, rfl, rfl, -⟩ := hdigits
      rw [hex4?_hex4 h]
      rfl
    · next hnone => exact absurd rfl (hnone _ _ _ _ _)
  rw [List.cons_append, ← hunicode]
  rfl

theorem utf8Size_hexDigit : ∀ n < 16, (hexDigit n).utf8Size = 1 := by decide

theorem size_coded (n : Nat) : Text.size ('\\' :: 'u' :: hex4 n) = 1 + 5 := by
  simp only [hex4, Text.size_cons, Text.size_nil, utf8Size_hexDigit _ (Nat.mod_lt _ (by decide : 0 < 16))]
  rfl

theorem readText_backslash {e : Char} (tail more : List Char) {piece : Piece} {count size : Nat}
    (h : Script.escape false (e :: tail ++ more) = ⟨some [piece], count, size⟩) (hcount : count = tail.length + 1) :
    readText '"' 0 ('\\' :: e :: tail ++ more) = (readText '"' 0 more).map fun found =>
      { found with value := piece :: found.value, size := 1 + size + found.size } := by
  have hskip : ∀ (l : List Char), readText '"' l.length (l ++ more) = readText '"' 0 more := by
    intro l
    induction l with
    | nil => rfl
    | cons c l ih => simpa [readText] using ih
  have hpassed := hskip (e :: tail)
  rw [List.length_cons, ← hcount] at hpassed
  rw [List.cons_append, readText]
  simp only [h, Char.reduceEq, if_false, Bool.or_self, Bool.false_eq_true, if_true, decide_false]
  rw [hpassed]
  cases readText '"' 0 more <;> rfl

theorem readText_escape (c : Char) (more : List Char) :
    readText '"' 0 (escape c ++ more) = (readText '"' 0 more).map fun found =>
      { found with value := pieceOf c :: found.value, size := Text.size (escape c) + found.size } := by
  unfold escape
  split
  · next h =>
    subst h
    exact readText_backslash [] more rfl rfl
  split
  · next h =>
    subst h
    exact readText_backslash [] more rfl rfl
  split
  · next h =>
    subst h
    exact readText_backslash [] more rfl rfl
  split
  · next h =>
    subst h
    exact readText_backslash [] more rfl rfl
  split
  · next h =>
    subst h
    exact readText_backslash [] more rfl rfl
  split
  · next hnl hcr htab hcoded =>
    have hn := toNat_lt_of_coded hcoded
    have hpiece : pieceOf c = .unit c.toNat := if_pos ⟨hnl, hcr, htab, hcoded⟩
    rw [hpiece]
    rw [size_coded]
    exact readText_backslash (hex4 c.toNat) more (escape_coded hn more) rfl
  · next hquote hslash hnl hcr htab hplain =>
    have hpiece : pieceOf c = .char c := if_neg fun h => hplain h.2.2.2
    rw [hpiece]
    rw [List.singleton_append, readText]
    simp only [hquote, hslash, hnl, hcr, if_false, decide_false, Bool.or_self, Bool.false_eq_true, Text.size_cons,
      Text.size_nil, Nat.add_zero]
    cases readText '"' 0 more <;> rfl

theorem readText_quoteChars (text rest : List Char) :
    readText '"' 0 (text.flatMap escape ++ '"' :: rest) =
      some { value := text.map pieceOf, size := Text.size (text.flatMap escape) + 1, rest := rest } := by
  induction text with
  | nil => simp [readText]
  | cons c text ih =>
    rw [List.flatMap_cons, List.append_assoc, readText_escape, ih, Text.size_append]
    simp [Nat.add_assoc]

/-! ## The value of a literal -/

theorem pair_unit {n : Nat} (hhigh : Piece.isHigh n = false) (hlow : Piece.isLow n = false) (rest : List Piece) :
    Piece.pair (.unit n :: rest) = .char (Char.ofNat n) :: Piece.pair rest := by
  cases rest with
  | nil => simp [Piece.pair, hhigh, hlow]
  | cons piece rest => cases piece <;> simp [Piece.pair, hhigh, hlow]

/-- No character that is written by its code is half of a surrogate pair. -/
theorem pair_pieceOf (c : Char) (rest : List Piece) : Piece.pair (pieceOf c :: rest) = .char c :: Piece.pair rest := by
  unfold pieceOf
  split
  · next hcoded =>
    have hrange : c.toNat < 0xD800 := by
      have := hcoded.2.2.2
      simp only [isControl, isSeparator, Bool.or_eq_true, Bool.and_eq_true, decide_eq_true_eq] at this
      omega
    have hhigh : Piece.isHigh c.toNat = false := by
      simp only [Piece.isHigh, Bool.and_eq_false_iff, decide_eq_false_iff_not]
      omega
    have hlow : Piece.isLow c.toNat = false := by
      simp only [Piece.isLow, Bool.and_eq_false_iff, decide_eq_false_iff_not]
      omega
    rw [pair_unit hhigh hlow, Char.ofNat_toNat]
  · rfl

theorem value_pieceOf (text : List Char) : Piece.value (text.map pieceOf) = String.ofList text := by
  have hpair : Piece.pair (text.map pieceOf) = text.map .char := by
    induction text with
    | nil => rfl
    | cons c text ih => rw [List.map_cons, pair_pieceOf, ih, List.map_cons]
  have hwhole : (text.map Piece.char).any Piece.isHalf = false := by simp [Piece.isHalf]
  simp [Piece.value, hpair, hwhole, List.flatMap_map, Piece.plainChars]

theorem toList_quote_append (text rest : String) :
    (quote text ++ rest).toList = '"' :: (text.toList.flatMap escape ++ '"' :: rest.toList) := by
  simp [quote, quoteChars]

theorem token?_quote (text rest : String) :
    Lexer.token? (quote text ++ rest).toList = some ⟨.text text, (quote text).utf8ByteSize, rest.toList⟩ := by
  have hsize : (quote text).utf8ByteSize = 1 + (Text.size (text.toList.flatMap escape) + 1) := by
    rw [Text.utf8ByteSize_eq, quote, String.toList_ofList, quoteChars, List.cons_append, Text.size_cons,
      Text.size_append]
    rfl
  rw [toList_quote_append, hsize, Lexer.token?, if_pos (by rfl), readText_quoteChars, Option.map_some, value_pieceOf,
    String.ofList_toList]

theorem quote_injective : Function.Injective quote := by
  intro a b h
  have hread := token?_quote a ""
  rw [h, token?_quote b ""] at hread
  simpa using hread.symm

/-! ## Characters of a literal -/

/-- A character that is no control character and ends no line. -/
def Plain (c : Char) : Prop :=
  0x20 ≤ c.toNat ∧ (c.toNat < 0x7F ∨ 0x9F < c.toNat) ∧ c.toNat ≠ 0x2028 ∧ c.toNat ≠ 0x2029

instance : DecidablePred Plain := fun c =>
  inferInstanceAs (Decidable (0x20 ≤ c.toNat ∧ (c.toNat < 0x7F ∨ 0x9F < c.toNat) ∧ c.toNat ≠ 0x2028 ∧
    c.toNat ≠ 0x2029))

theorem plain_hexDigit : ∀ n < 16, Plain (hexDigit n) := by decide

theorem plain_hex4 {n : Nat} : ∀ d ∈ hex4 n, Plain d := by
  have hdigit : ∀ m, Plain (hexDigit (m % 16)) := fun m => plain_hexDigit _ (Nat.mod_lt _ (by decide))
  simp [hex4, hdigit]

theorem plain_pair {a b : Char} (ha : Plain a) (hb : Plain b) : ∀ d ∈ [a, b], Plain d :=
  List.forall_mem_cons.2 ⟨ha, List.forall_mem_singleton.2 hb⟩

theorem plain_escape (c : Char) : ∀ d ∈ escape c, Plain d := by
  unfold escape
  split
  · exact plain_pair (by decide) (by decide)
  split
  · exact plain_pair (by decide) (by decide)
  split
  · exact plain_pair (by decide) (by decide)
  split
  · exact plain_pair (by decide) (by decide)
  split
  · exact plain_pair (by decide) (by decide)
  split
  · intro d hd
    rcases List.mem_cons.1 hd with rfl | hd
    · decide
    rcases List.mem_cons.1 hd with rfl | hd
    · decide
    exact plain_hex4 d hd
  · next hcoded =>
    intro d hd
    rw [List.mem_singleton.1 hd]
    simp only [isControl, isSeparator, Bool.or_eq_true, Bool.and_eq_true, decide_eq_true_eq] at hcoded
    unfold Plain
    omega

theorem plain_quote (text : String) : ∀ c ∈ (quote text).toList, Plain c := by
  intro c hc
  rw [quote, String.toList_ofList, quoteChars, List.cons_append, List.mem_cons, List.mem_append,
    List.mem_flatMap, List.mem_singleton] at hc
  rcases hc with rfl | ⟨d, -, hd⟩ | rfl
  · decide
  · exact plain_escape d c hd
  · decide

theorem Plain.not_isLineEnd {c : Char} (h : Plain c) : isLineEnd c = false := by
  obtain ⟨hlow, -, hline, hparagraph⟩ := h
  have hne : ∀ d : Char, d.toNat < 0x20 → c ≠ d := by
    rintro d hd rfl
    omega
  simp [isLineEnd, hline, hparagraph, hne '\n' (by decide), hne '\r' (by decide)]

/-- A literal is read as its text and no further, whatever follows it. -/
theorem quote_self_delimiting :
    (∀ text rest : String,
      Lexer.token? (quote text ++ rest).toList = some ⟨.text text, (quote text).utf8ByteSize, rest.toList⟩) ∧
    (∀ text : String, ∀ c ∈ (quote text).toList, Plain c ∧ isLineEnd c = false) ∧
    Function.Injective quote :=
  ⟨token?_quote, fun text c hc => ⟨plain_quote text c hc, (plain_quote text c hc).not_isLineEnd⟩, quote_injective⟩

end Bundler.Literal
