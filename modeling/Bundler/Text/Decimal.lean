/-!
# Decimals of binary numbers

The fewest digits that read back as the same number, the nearest of them where several do, and how
they are written.
-/

namespace Bundler.Text.Decimal

/-- A positive binary number `mantissa * 2 ^ power`, with the numbers that round to it. -/
structure Binary where
  mantissa : Nat
  power : Int
  /-- The number below it is only half as far away as the one above. -/
  narrowBelow : Bool

/-- One more than the largest fraction, which has 52 bits. -/
def fractionEnd : Nat := 4503599627370496

/-- One more than all bits but that of the sign. -/
def signBit : Nat := 9223372036854775808

/-- The parts of a finite positive float. -/
def Binary.ofBits (bits : Nat) : Binary :=
  let fraction : Nat := bits % fractionEnd
  let exponent : Nat := bits / fractionEnd % 2048
  if exponent = 0 then ⟨fraction, -1074, false⟩
  else ⟨fraction + fractionEnd, (exponent : Int) - 1075, fraction = 0 && exponent > 1⟩

/-- Digits and the power of ten they are multiplied by. -/
structure Digits where
  digits : Nat
  power : Int
deriving DecidableEq, Repr

/-- A number on a common scale: `numerator / denominator` is four times the number. -/
def scale (b : Binary) : Nat × Nat :=
  match b.power with
  | .ofNat n => (4 * b.mantissa * Nat.pow 2 n, 1)
  | .negSucc n => (4 * b.mantissa, Nat.pow 2 (n + 1))

/-- The ends of the interval that rounds to the number, on the scale of `scale`. -/
def ends (b : Binary) : Nat × Nat :=
  let unit := match b.power with
    | .ofNat n => Nat.pow 2 n
    | .negSucc _ => 1
  let (value, _) := scale b
  (value - (if b.narrowBelow then unit else 2 * unit), value + 2 * unit)

/-- The candidate with a given power of ten: the nearest of the two around the number that rounds
to it. -/
def candidate? (b : Binary) (power : Int) : Option Digits :=
  let (value, denominator) := scale b
  let (low, high) := ends b
  -- A number of digits d stands for d * up / down on the scale.
  let (up, down) : Nat × Nat := match power with
    | .ofNat n => (4 * Nat.pow 10 n * denominator, 1)
    | .negSucc n => (4 * denominator, Nat.pow 10 (n + 1))
  let even := b.mantissa % 2 = 0
  let inside (d : Nat) : Bool :=
    let x := d * up
    if even then low * down ≤ x && x ≤ high * down else low * down < x && x < high * down
  let below := value * down / up
  let above := below + 1
  let distance (d : Nat) : Nat := (d * up - value * down) + (value * down - d * up)
  match inside below && below ≠ 0, inside above with
  | true, true =>
    if distance below < distance above then some ⟨below, power⟩
    else if distance above < distance below then some ⟨above, power⟩
    else if below % 2 = 0 then some ⟨below, power⟩ else some ⟨above, power⟩
  | true, false => some ⟨below, power⟩
  | false, true => some ⟨above, power⟩
  | false, false => none

/-- The first candidate when the power of ten falls one by one. -/
def search (b : Binary) : Nat → Int → Digits
  | 0, power => ⟨0, power⟩
  | n + 1, power => (candidate? b power).getD (search b n (power - 1))

/-- Digits without zeros at their end, at most so many of them. -/
def trim : Nat → Digits → Digits
  | 0, d => d
  | n + 1, d =>
    if d.digits ≠ 0 ∧ d.digits % 10 = 0 then trim n ⟨d.digits / 10, d.power + 1⟩ else d

/-- The fewest digits of a positive float. -/
def shortest (bits : Nat) : Digits :=
  trim 400 (search (Binary.ofBits bits) 700 310)

/-- Digits as they are written: with a point for middle sizes, with an exponent for others. -/
def write (d : Digits) : String :=
  let digits := Nat.toDigits 10 d.digits
  let count : Int := digits.length
  let point := count + d.power
  if 0 ≤ d.power && point ≤ 16 then
    String.ofList (digits ++ List.replicate d.power.toNat '0') ++ ".0"
  else if 0 < point && point ≤ 16 then
    String.ofList (digits.take point.toNat ++ '.' :: digits.drop point.toNat)
  else if -5 < point && point ≤ 0 then
    String.ofList ('0' :: '.' :: List.replicate (-point).toNat '0' ++ digits)
  else
    let exponent := toString (point - 1)
    match digits with
    | [d] => String.ofList [d] ++ "e" ++ exponent
    | d :: rest => String.ofList (d :: '.' :: rest) ++ "e" ++ exponent
    | [] => ""

/-- The text of a finite float. -/
def text (f : Float) : String :=
  let bits := f.toBits.toNat
  let sign := if bits / signBit = 1 then "-" else ""
  let bits := bits % signBit
  if bits = 0 then sign ++ "0.0" else sign ++ write (shortest bits)

end Bundler.Text.Decimal
