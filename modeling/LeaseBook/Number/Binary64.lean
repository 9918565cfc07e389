import LeaseBook.Number.Power

/-!
Binary floating-point numbers of 64 bits, as exact values: a sign, a whole mantissa and a power
of two. Everything here is arithmetic on whole numbers, so that signs and truncation can be argued
about.
-/

namespace LeaseBook

/-- A number `± mantissa · 2 ^ exponent`, an infinity, or no number. -/
inductive Binary64 where
  | finite (negative : Bool) (mantissa : Nat) (exponent : Int)
  | infinite (negative : Bool)
  | nan
  deriving DecidableEq, Repr

namespace Binary64

def precision : Nat := 53

def minExponent : Int := -1074

/-- The greatest exponent of a mantissa with all its bits. -/
def maxExponent : Int := 971

/-- The whole number nearest to `num / den`, the even one of two. -/
def roundHalfEven (num den : Nat) : Nat :=
  let q := num / den
  let twice := 2 * (num % den)
  if twice < den then q else if den < twice then q + 1 else q + q % 2

/-- The fraction `num / den` times `2 ^ k`, as a numerator and a denominator. -/
def scale (num den : Nat) (k : Int) : Nat × Nat :=
  if 0 ≤ k then (num * 2 ^ k.toNat, den) else (num, den * 2 ^ (-k).toNat)

/-- The greatest `k` with `2 ^ k ≤ num / den`, for positive `num` and `den`. -/
def floorLog2 (num den : Nat) : Int :=
  let guess := (Nat.log2 num : Int) - Nat.log2 den
  let (n, d) := scale num den (-guess)
  if d ≤ n then guess else guess - 1

/-- The number nearest to `num / den`, with the even mantissa where two are as near. -/
def ofRatio (negative : Bool) (num den : Nat) : Binary64 :=
  if num = 0 then .finite negative 0 minExponent
  else
    let e := max (floorLog2 num den - (precision - 1 : Nat)) minExponent
    let (n, d) := scale num den (-e)
    let m := roundHalfEven n d
    let (m, e) := if m = 2 ^ precision then (2 ^ (precision - 1), e + 1) else (m, e)
    if maxExponent < e then .infinite negative else .finite negative m e

/-- The number nearest to `digits · 10 ^ exponent`. Far outside the range of finite numbers the
power is never formed. -/
def ofDecimal (negative : Bool) (digits : Nat) (exponent : Int) : Binary64 :=
  let size : Int := (Nat.log2 digits : Int) * 3 / 10 + exponent
  if digits = 0 then .finite negative 0 minExponent
  else if 400 < size then .infinite negative
  else if size < -800 then .finite negative 0 minExponent
  else if 0 ≤ exponent then ofRatio negative (digits * 10 ^ exponent.toNat) 1
  else ofRatio negative digits (10 ^ (-exponent).toNat)

/-- Whether a number is at most zero. What is no number is not, and it is not above zero either. -/
def isNonpositive : Binary64 → Bool
  | .finite negative mantissa _ => negative || mantissa == 0
  | .infinite negative => negative
  | .nan => false

def isZero : Binary64 → Bool
  | .finite _ mantissa _ => mantissa == 0
  | _ => false

def wholePart (mantissa : Nat) (exponent : Int) : Nat :=
  if 0 ≤ exponent then mantissa * 2 ^ exponent.toNat else mantissa / 2 ^ (-exponent).toNat

def isWhole (mantissa : Nat) (exponent : Int) : Bool :=
  0 ≤ exponent || mantissa % 2 ^ (-exponent).toNat == 0

/-- The whole number that a finite number truncates to, toward zero. -/
def truncate? : Binary64 → Option Int
  | .finite negative mantissa exponent =>
    let w : Int := wholePart mantissa exponent
    some (if negative then -w else w)
  | _ => none

def floor? : Binary64 → Option Int
  | .finite negative mantissa exponent =>
    let w : Int := wholePart mantissa exponent
    if negative then some (if isWhole mantissa exponent then -w else -w - 1) else some w
  | _ => none

def whole? : Binary64 → Option Int
  | .finite negative mantissa exponent =>
    if isWhole mantissa exponent then
      let w : Int := wholePart mantissa exponent
      some (if negative then -w else w)
    else none
  | _ => none

/-- Numerical equality: zeros of both signs are equal, and what is no number equals nothing. -/
def same : Binary64 → Binary64 → Bool
  | .finite s m e, .finite s' m' e' =>
    if m = 0 then m' == 0
    else s == s' && m * 2 ^ (e - min e e').toNat == m' * 2 ^ (e' - min e e').toNat
  | .infinite s, .infinite s' => s == s'
  | _, _ => false

end Binary64
end LeaseBook
