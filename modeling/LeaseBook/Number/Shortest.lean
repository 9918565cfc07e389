import LeaseBook.Number.Binary64

/-!
The shortest decimal text of a binary number: the fewest digits that read back as the number, and
of those the nearest to it. Positions are written out for exponents from −4 up to 15, and whole
numbers keep one zero behind the point.
-/

namespace LeaseBook.Binary64

/-- The reals that read back as a positive number, in quarters of its last bit: the number
itself, the two ends, and whether the ends belong. -/
structure Neighbourhood where
  low : Nat
  value : Nat
  high : Nat
  closed : Bool

/-- The neighbourhood of a mantissa. Below a power of two the numbers lie twice as close. -/
def neighbourhood (mantissa : Nat) (exponent : Int) : Neighbourhood where
  low := 4 * mantissa - (if mantissa = 2 ^ (precision - 1) ∧ minExponent < exponent then 1 else 2)
  value := 4 * mantissa
  high := 4 * mantissa + 2
  closed := mantissa % 2 = 0

def Neighbourhood.holds (r : Neighbourhood) (num den : Nat) : Bool :=
  if r.closed then r.low * den ≤ num && num ≤ r.high * den
  else r.low * den < num && num < r.high * den

/-- The point of the grid of step `step = num / den` that is nearest to the value of a
neighbourhood, among the two around it that lie in the neighbourhood. -/
def Neighbourhood.nearest? (r : Neighbourhood) (num den : Nat) : Option Nat :=
  let below := r.value * den / num
  let above := below + 1
  match r.holds (below * num) den, r.holds (above * num) den with
  | false, false => none
  | true, false => some below
  | false, true => some above
  | true, true =>
    let down := r.value * den - below * num
    let up := above * num - r.value * den
    some (if down < up then below else if up < down then above else below + below % 2)

/-- A grid step `10 ^ power` in quarters of the last bit of a number with this exponent. -/
def gridStep (power : Int) (exponent : Int) : Nat × Nat :=
  let (n, d) := scale 1 1 (2 - exponent)
  if 0 ≤ power then (n * 10 ^ power.toNat, d) else (n, d * 10 ^ (-power).toNat)

/-- The greatest power of ten, up to `10 ^ (top - 1)`, whose grid step is at most the value. -/
def leadingPower (value : Nat) (exponent : Int) : Nat → Int → Int
  | 0, top => top
  | fuel + 1, top =>
    let (n, d) := gridStep top exponent
    if n ≤ value * d then top else leadingPower value exponent fuel (top - 1)

/-- Tries one more digit at a time, from `count` digits on, for `fuel` tries. -/
def shortestFrom (r : Neighbourhood) (exponent leading : Int) (count : Nat) : Nat → Nat × Int
  | 0 => (r.value, exponent)
  | fuel + 1 =>
    let power := leading - (count - 1 : Nat)
    let (n, d) := gridStep power exponent
    match r.nearest? n d with
    | some digits => (digits, power)
    | none => shortestFrom r exponent leading (count + 1) fuel

/-- The fewest decimal digits that read back as `mantissa · 2 ^ exponent`, and the power of ten
of the last of them. -/
def shortest (mantissa : Nat) (exponent : Int) : Nat × Int :=
  let r := neighbourhood mantissa exponent
  let top := ((Nat.log2 mantissa : Int) + exponent) * 30103 / 100000 + 2
  shortestFrom r exponent (leadingPower r.value exponent 6 top) 1 20

/-- Digits without the zeros at their end, and how many there were. -/
def dropZeros (ds : List Char) : List Char × Nat :=
  let kept := (ds.reverse.dropWhile (· == '0')).reverse
  (kept, ds.length - kept.length)

/-- The text of digits `ds` whose point stands `point` places behind the first of them. -/
def layout (ds : List Char) (point : Int) : List Char :=
  if 16 < point ∨ point ≤ -4 then
    let e := point - 1
    let shown := (toString e.natAbs).toList
    let shown := if shown.length < 2 then '0' :: shown else shown
    let fraction := if ds.length ≤ 1 then [] else '.' :: ds.drop 1
    ds.take 1 ++ fraction ++ 'e' :: (if e < 0 then '-' else '+') :: shown
  else if point ≤ 0 then
    '0' :: '.' :: (List.replicate (-point).toNat '0' ++ ds)
  else if ds.length ≤ point.toNat then
    ds ++ List.replicate (point.toNat - ds.length) '0' ++ ['.', '0']
  else ds.take point.toNat ++ '.' :: ds.drop point.toNat

def text : Binary64 → String
  | .nan => "nan"
  | .infinite negative => if negative then "-inf" else "inf"
  | .finite negative mantissa exponent =>
    let body :=
      if mantissa = 0 then ['0', '.', '0']
      else
        let (digits, power) := shortest mantissa exponent
        let (ds, zeros) := dropZeros (toString digits).toList
        layout ds (ds.length + zeros + power)
    String.ofList (if negative then '-' :: body else body)

end LeaseBook.Binary64
