import SchoolRegister.Number.Binary64
import SchoolRegister.Text.Digit

/-! # Written numbers

Whole numbers are written in plain decimal digits.  A double is written with the digits of its
shortest decimal: positionally while its order of magnitude lies between
`Notation.lowest` and `Notation.highest`, a whole number keeping one zero after the point, and
otherwise with an exponent of a sign and at least two digits.  `nan`, `inf` and `-inf` are the
words for the rest. -/

namespace SchoolRegister.Number

/-- The decimal digits of a number, most significant first; zero has one digit. -/
def digitsOf (n : Nat) : List Char := Nat.toDigits 10 n

/-- A whole number in decimal digits, with a minus sign if it is negative. -/
def integerText (n : Int) : String :=
  String.ofList (if n < 0 then '-' :: digitsOf n.natAbs else digitsOf n.natAbs)

/-- A number padded with zeros on the left to a width. -/
def paddedDigits (width n : Nat) : List Char :=
  let ds := digitsOf n
  List.replicate (width - ds.length) '0' ++ ds

namespace Notation

/-- The smallest order of magnitude that is written positionally. -/
def lowest : Int := -3

/-- The largest order of magnitude that is written positionally. -/
def highest : Int := 16

/-- The digits of a decimal with a point after the first `k` of them. -/
def positional (ds : List Char) (k : Int) : List Char :=
  if k ≤ 0 then '0' :: '.' :: List.replicate (-k).toNat '0' ++ ds
  else if ds.length ≤ k.toNat then ds ++ List.replicate (k.toNat - ds.length) '0' ++ ['.', '0']
  else ds.take k.toNat ++ '.' :: ds.drop k.toNat

/-- The digits of a decimal with a point after the first one and an exponent. -/
def scientific (ds : List Char) (k : Int) : List Char :=
  let point := match ds with
    | d :: rest => if rest.isEmpty then [d] else d :: '.' :: rest
    | [] => []
  let e := k - 1
  point ++ 'e' :: (if e < 0 then '-' else '+') :: paddedDigits 2 e.natAbs

def magnitude (coefficient : Nat) (exponent : Int) : List Char :=
  if coefficient = 0 then ['0', '.', '0']
  else
    let ds := digitsOf coefficient
    let k := exponent + ds.length
    if lowest ≤ k ∧ k ≤ highest then positional ds k else scientific ds k

end Notation

def Binary64.text : Binary64 → String
  | .nan => "nan"
  | .infinite negative => if negative then "-inf" else "inf"
  | .finite negative m e =>
    let (c, g) := shortestMagnitude m e
    let body := Notation.magnitude c g
    String.ofList (if negative then '-' :: body else body)

end SchoolRegister.Number
