/-!
# Double-precision values

A double is `NaN`, an infinity, or a finite value `± m · 2^e` with `m < 2^53` and `e ≥ -1074`,
zero with its sign included. Two conversions tie doubles to decimals:

* `Binary64.ofDecimal` rounds a decimal `d · 10^k` to the nearest double, a tie going to the even
  mantissa. A value that rounds to `2^1024` or more is an infinity; one at or below half the
  smallest subnormal is zero.
* `Binary64.shortest` gives the fewest significant digits that read back as the same double, and
  of those the digits nearest to it.

`Binary64.display` writes a double positionally from its shortest digits, never with an exponent:
`1e21` is `1000000000000000000000`, `1.5e-7` is `0.00000015`, `-0.0` is `-0`, and the others are
`NaN`, `inf` and `-inf`.

All arithmetic is exact, on natural numbers: a comparison of `a · 2^i · 10^j` with
`b · 2^k · 10^l` moves the negative powers to the other side.
-/

namespace Augment.Number

/-- A double-precision value. -/
inductive Binary64 where
  /-- Not a number. -/
  | nan
  /-- An infinity, negative or positive. -/
  | infinite (negative : Bool)
  /-- The finite value `± mantissa · 2^exponent`. -/
  | finite (negative : Bool) (mantissa : Nat) (exponent : Int)
  deriving DecidableEq, Repr, Inhabited

namespace Binary64

/-- The exponent of the smallest subnormal, `2^-1074`. -/
def minExponent : Int := -1074

/-- The exponent of the largest finite double, `(2^53 - 1) · 2^971`. -/
def maxExponent : Int := 971

/-! ### Exact arithmetic -/

/-- Compares `a · 2^a2 · 10^a10` with `b · 2^b2 · 10^b10`. -/
def compareScaled (a : Nat) (a2 a10 : Int) (b : Nat) (b2 b10 : Int) : Ordering :=
  let d2 := a2 - b2
  let d10 := a10 - b10
  compare (a * Nat.pow 2 d2.toNat * Nat.pow 10 d10.toNat)
    (b * Nat.pow 2 (-d2).toNat * Nat.pow 10 (-d10).toNat)

/-- `n / d` rounded to the nearest natural number, a tie going to the even one. -/
def roundHalfEven (n d : Nat) : Nat :=
  let q := n / d
  let r := n % d
  if 2 * r < d then q
  else if 2 * r > d then q + 1
  else if q % 2 == 0 then q else q + 1

/-- Whether `num / (den · 2^e)` has 53 bits before the point: it lies in `[2^52, 2^53)`. -/
def fitsMantissa (num den : Nat) (e : Int) : Bool :=
  let n := num * Nat.pow 2 (-e).toNat
  let d := den * Nat.pow 2 e.toNat
  Nat.pow 2 52 * d ≤ n && n < Nat.pow 2 53 * d

/-- The exponent `e` with `num / (den · 2^e)` in `[2^52, 2^53)`, for `num, den > 0`. The binary
logarithms of `num` and `den` leave two choices. -/
def normalExponent (num den : Nat) : Int :=
  let e0 : Int := (Nat.log2 num : Int) - (Nat.log2 den : Int) - 52
  if fitsMantissa num den (e0 - 1) then e0 - 1
  else if fitsMantissa num den e0 then e0
  else e0 + 1

/-- The double nearest to `num / den` (`num, den > 0`), with a sign. -/
def ofRatio (negative : Bool) (num den : Nat) : Binary64 :=
  let e := max (normalExponent num den) minExponent
  let m := roundHalfEven (num * Nat.pow 2 (-e).toNat) (den * Nat.pow 2 e.toNat)
  let (m, e) := if m == Nat.pow 2 53 then (Nat.pow 2 52, e + 1) else (m, e)
  if e > maxExponent then .infinite negative else .finite negative m e

/-- The number of decimal digits of a natural number, one for zero. -/
def decimalLength (n : Nat) : Nat :=
  (toString n).length

/-- The double nearest to `digits · 10^exp10`, with a sign. Past `10^310` the value is an
infinity and below `10^-324` it is zero, without computing the powers. -/
def ofDecimal (negative : Bool) (digits : Nat) (exp10 : Int) : Binary64 :=
  if digits == 0 then .finite negative 0 0
  else
    let len : Int := decimalLength digits
    if len - 1 + exp10 > 309 then .infinite negative
    else if len + exp10 < -324 then .finite negative 0 0
    else ofRatio negative (digits * Nat.pow 10 exp10.toNat) (Nat.pow 10 (-exp10).toNat)

/-! ### Shortest digits -/

/-- Moves `p` up while `10^(p+1) ≤ n · 2^s`. -/
def raiseExponent (n : Nat) (s : Int) : Nat → Int → Int
  | 0, p => p
  | fuel + 1, p =>
    if compareScaled 1 0 (p + 1) n s 0 != .gt then raiseExponent n s fuel (p + 1) else p

/-- Moves `p` down while `10^p > n · 2^s`. -/
def lowerExponent (n : Nat) (s : Int) : Nat → Int → Int
  | 0, p => p
  | fuel + 1, p =>
    if compareScaled 1 0 p n s 0 == .gt then lowerExponent n s fuel (p - 1) else p

/-- The decimal exponent of `n · 2^s` (`n > 0`): the `p` with `10^p ≤ n · 2^s < 10^(p+1)`. The
binary logarithm gives it to within one. -/
def decimalExponent (n : Nat) (s : Int) : Int :=
  let b : Int := (Nat.log2 n : Int) + s
  let p0 := b * 30103 / 100000
  raiseExponent n s 4 (lowerExponent n s 4 p0)

/-- The digits nearest to `m · 2^e` among `k`-digit decimals that read back as it, if any. The
double's reals lie between the midpoints with its neighbours, `lo` and `hi` quarters of `2^e`
around `4m`, ends included when `m` is even. -/
def digitsAt (m : Nat) (e : Int) (lo hi : Nat) (p : Int) (k : Nat) : Option (Nat × Int) :=
  let v := 4 * m
  let inclusive := m % 2 == 0
  let t := p - k + 1
  let c := (v * Nat.pow 2 (e - 2).toNat * Nat.pow 10 (-t).toNat) /
    (Nat.pow 2 (2 - e).toNat * Nat.pow 10 t.toNat)
  let lowOk := match compareScaled c 0 t lo (e - 2) 0 with
    | .gt => true
    | .eq => inclusive
    | .lt => false
  let highOk := match compareScaled (c + 1) 0 t hi (e - 2) 0 with
    | .lt => true
    | .eq => inclusive
    | .gt => false
  match lowOk, highOk with
  | true, true =>
    match compareScaled (2 * v) (e - 2) 0 (2 * c + 1) 0 t with
    | .lt => some (c, t)
    | .gt => some (c + 1, t)
    | .eq => some (if c % 2 == 0 then c else c + 1, t)
  | true, false => some (c, t)
  | false, true => some (c + 1, t)
  | false, false => none

/-- The fewest significant digits that read back as the double `m · 2^e` (`m > 0`), the nearest
to it of those: `(d, t)` for the decimal `d · 10^t`. Seventeen digits always suffice. -/
def shortest (m : Nat) (e : Int) : Nat × Int :=
  let lowerGap := if m == Nat.pow 2 52 && e > minExponent then 1 else 2
  let lo := 4 * m - lowerGap
  let hi := 4 * m + 2
  let p := decimalExponent (4 * m) (e - 2)
  let found := (List.range 17).findSome? fun i => digitsAt m e lo hi p (i + 1)
  found.getD ((4 * m * Nat.pow 2 (e - 2).toNat) / Nat.pow 2 (2 - e).toNat, 0)

/-! ### Text -/

/-- Removes the trailing zeros of `d · 10^t` into the exponent. -/
def trimZeros : Nat → Nat → Int → Nat × Int
  | 0, d, t => (d, t)
  | fuel + 1, d, t => if d != 0 && d % 10 == 0 then trimZeros fuel (d / 10) (t + 1) else (d, t)

/-- The decimal `d · 10^t` written positionally: the digits, zeros for a positive exponent, a
point inside or zeros after `0.` for a negative one. -/
def positional (d : Nat) (t : Int) : String :=
  let (d, t) := trimZeros (decimalLength d) d t
  let s := toString d
  if t ≥ 0 then s ++ String.ofList (List.replicate t.toNat '0')
  else
    let k := (-t).toNat
    let n := s.length
    if k < n then String.ofList (s.toList.take (n - k) ++ '.' :: s.toList.drop (n - k))
    else "0." ++ String.ofList (List.replicate (k - n) '0') ++ s

/-- A double's text: its shortest digits written positionally, with a minus sign when negative;
`NaN`, `inf` and `-inf` for the others. -/
def display : Binary64 → String
  | .nan => "NaN"
  | .infinite negative => if negative then "-inf" else "inf"
  | .finite negative m e =>
    let sign := if negative then "-" else ""
    if m == 0 then sign ++ "0"
    else
      let (d, t) := shortest m e
      sign ++ positional d t

/-- Whether a double is finite. -/
def isFinite : Binary64 → Bool
  | .finite .. => true
  | _ => false

/-- The number written by decimal digits. -/
def digitsValue (cs : List Char) : Nat :=
  cs.foldl (fun acc c => acc * 10 + (c.toNat - '0'.toNat)) 0

/-- Reads a decimal float text: an optional sign, then `inf`, `nan`, or digits with an optional
fraction and an optional exponent; the double nearest to it. -/
def ofText? (cs : List Char) : Option Binary64 :=
  let (negative, body) := match cs with
    | '-' :: rest => (true, rest)
    | '+' :: rest => (false, rest)
    | _ => (false, cs)
  if body == ['i', 'n', 'f'] then some (.infinite negative)
  else if body == ['n', 'a', 'n'] then some .nan
  else
    let intPart := body.takeWhile Char.isDigit
    let afterInt := body.drop intPart.length
    let (frac, afterFrac) := match afterInt with
      | '.' :: rest => (rest.takeWhile Char.isDigit, rest.dropWhile Char.isDigit)
      | _ => ([], afterInt)
    let expo : Option Int := match afterFrac with
      | [] => some 0
      | c :: rest =>
        if c != 'e' && c != 'E' then none
        else
          let (eneg, ds) := match rest with
            | '-' :: ds => (true, ds)
            | '+' :: ds => (false, ds)
            | ds => (false, ds)
          if ds.isEmpty || !ds.all Char.isDigit then none
          else
            let n : Int := digitsValue ds
            some (if eneg then -n else n)
    if intPart.isEmpty && frac.isEmpty then none
    else expo.map fun x => ofDecimal negative (digitsValue (intPart ++ frac)) (x - frac.length)

end Binary64

end Augment.Number
