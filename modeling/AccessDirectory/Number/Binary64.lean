/-! Binary floating-point numbers of 64 bits, as sign, mantissa and exponent. A ratio is rounded to the
nearest such number, a tie to the even mantissa; every operation here is exact arithmetic on
naturals followed by one such rounding. -/

namespace AccessDirectory

/-- A finite number is `mantissa * 2 ^ exponent` with its sign. The mantissa is below `2 ^ 53`, and at
least `2 ^ 52` unless the exponent is the least one. -/
inductive Binary64
  | nan
  | infinite (negative : Bool)
  | finite (negative : Bool) (mantissa : Nat) (exponent : Int)
deriving DecidableEq, Repr, Inhabited

namespace Binary64

def leastExponent : Int := -1074
def greatestExponent : Int := 971

/-- `num / den` rounded to a whole number, a tie to the even one. -/
def halfEven (num den : Nat) : Nat :=
  let q := num / den
  let r := num % den
  if 2 * r < den then q else if den < 2 * r then q + 1 else q + q % 2

theorem halfEven_near (num den : Nat) (h : 0 < den) :
    2 * num ≤ 2 * halfEven num den * den + den ∧ 2 * halfEven num den * den ≤ 2 * num + den := by
  have hdiv := Nat.div_add_mod num den
  have hmod := Nat.mod_lt num h
  rw [Nat.mul_comm] at hdiv
  unfold halfEven
  simp only
  have hpar : num / den % 2 = 0 ∨ num / den % 2 = 1 := by omega
  split
  · constructor <;> rw [Nat.mul_assoc] <;> omega
  · split
    · constructor <;> rw [Nat.mul_assoc, Nat.add_mul] <;> omega
    · rcases hpar with hp | hp <;> rw [hp] <;>
        constructor <;> rw [Nat.mul_assoc, Nat.add_mul] <;> omega

def scale (num den : Nat) (e : Int) : Nat × Nat :=
  (num * Nat.pow 2 (-e).toNat, den * Nat.pow 2 e.toNat)

def pack (negative : Bool) (mantissa : Nat) (exponent : Int) : Binary64 :=
  let (m, e) := if mantissa = Nat.pow 2 53 then (Nat.pow 2 52, exponent + 1) else (mantissa, exponent)
  if greatestExponent < e then infinite negative else finite negative m e

def zero (negative : Bool) : Binary64 := finite negative 0 leastExponent

def exponentFor (num den : Nat) : Int :=
  let e := max leastExponent ((num.log2 : Int) - den.log2 - 53)
  let (n, d) := scale num den e
  if n / d < Nat.pow 2 53 then e else e + 1

def ofRatio (negative : Bool) (num den : Nat) : Binary64 :=
  if num = 0 then zero negative
  else
    let e := exponentFor num den
    let (n, d) := scale num den e
    pack negative (halfEven n d) e

/-- The number nearest to `digits * 10 ^ exponent`. As ten exceeds `2 ^ 3`, the number of bits tells
early that a large exponent leaves the finite range or reaches zero. -/
def ofDecimal (negative : Bool) (digits : Nat) (exponent : Int) : Binary64 :=
  if digits = 0 then zero negative
  else
    let size : Int := digits.log2
    if 0 < exponent && 1024 ≤ size + 3 * exponent then infinite negative
    else if exponent < 0 && size + 3 * exponent < -1075 then zero negative
    else ofRatio negative (digits * Nat.pow 10 exponent.toNat) (Nat.pow 10 (-exponent).toNat)

def truncate? : Binary64 → Option Int
  | finite negative m e =>
    let whole : Nat := m * Nat.pow 2 e.toNat / Nat.pow 2 (-e).toNat
    some (if negative then -(whole : Int) else whole)
  | _ => none

def scaleBy (k : Nat) : Binary64 → Binary64
  | finite negative m e => ofRatio negative (m * k * Nat.pow 2 e.toNat) (Nat.pow 2 (-e).toNat)
  | x => x

def intLe (n : Int) : Binary64 → Bool
  | nan => false
  | infinite negative => !negative
  | finite negative m e =>
    let value : Int := (m * Nat.pow 2 e.toNat : Nat)
    n * Nat.pow 2 (-e).toNat ≤ (if negative then -value else value)

def quotient? : Binary64 → Option (Int × Nat)
  | finite negative m e =>
    let value : Int := (m * Nat.pow 2 e.toNat : Nat)
    some (if negative then -value else value, Nat.pow 2 (-e).toNat)
  | _ => none

def isZero : Binary64 → Bool
  | finite _ m _ => m = 0
  | _ => false

def ofIntRatio (num : Int) (den : Nat) : Binary64 := ofRatio (num < 0) num.natAbs den

end Binary64

end AccessDirectory
