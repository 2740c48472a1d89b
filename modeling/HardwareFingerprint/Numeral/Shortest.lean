import HardwareFingerprint.Numeral.Decimal

/-!
# Shortest decimal text of a float

A finite float is the number `m · 2 ^ q` of its bits, and the reals that round to it form an
interval whose ends belong to it if `m` is even. The text has the fewest digits of any decimal in
the interval, and among those the nearest to the number. All steps are exact on natural numbers.
-/
namespace HardwareFingerprint.Numeral

set_option autoImplicit false

/-- A positive number with the interval of reals that round to it, over one denominator. -/
structure Rounding where
  low : Nat
  value : Nat
  high : Nat
  denominator : Nat
  closed : Bool

/-- The interval of the positive float `m · 2 ^ (e - 1075)`, where `e` is at least 1. Below a power
of two the gap to the next float is half as wide. -/
def Rounding.of (m e : Nat) : Rounding :=
  let below := if m = countOf 52 ∧ 1 < e then 1 else 2
  let up := countOf (e - 1075)
  { low := (4 * m - below) * up
    value := 4 * m * up
    high := (4 * m + 2) * up
    denominator := 4 * countOf (1075 - e)
    closed := m % 2 = 0 }

/-- Does the number `d · unit` lie in the interval, both scaled alike? -/
def Rounding.holds (r : Rounding) (scale unit d : Nat) : Bool :=
  let x := d * unit
  if r.closed then r.low * scale ≤ x && x ≤ r.high * scale
  else r.low * scale < x && x < r.high * scale

/-- The multiple of `10 ^ k` nearest to the number among those in the interval, as the count of
`10 ^ k`. A tie goes to the even count. -/
def Rounding.onGrid? (r : Rounding) (k : Int) : Option Nat :=
  let scale := Nat.pow 10 (-k).toNat
  let unit := r.denominator * Nat.pow 10 k.toNat
  let x := r.value * scale
  let d := x / unit
  let lower := r.holds scale unit d && 0 < d
  let upper := r.holds scale unit (d + 1)
  if lower && upper then
    let past := 2 * (x - d * unit)
    if past < unit || (past = unit && d % 2 = 0) then some d else some (d + 1)
  else if lower then some d
  else if upper then some (d + 1)
  else none

/-- The first grid with a decimal in the interval, from `10 ^ k` downwards for so many steps. -/
def Rounding.firstGrid (r : Rounding) : Nat → Int → Nat × Int
  | 0, k => (0, k)
  | steps + 1, k =>
    match r.onGrid? k with
    | some d => (d, k)
    | none => r.firstGrid steps (k - 1)

/-- Places for the digits and the point: positional from `1e-5` up to below `1e16`, with a point in
every text, and otherwise one digit before the point and a signed exponent. -/
def placed (ds : List Char) (k : Int) : List Char :=
  let point : Int := k + ds.length
  if 0 ≤ k ∧ point ≤ 16 then ds ++ List.replicate k.toNat '0' ++ ['.', '0']
  else if 0 < point ∧ point ≤ 16 then ds.take point.toNat ++ ['.'] ++ ds.drop point.toNat
  else if -5 < point ∧ point ≤ 0 then ['0', '.'] ++ List.replicate (-point).toNat '0' ++ ds
  else
    let exponent := point - 1
    let tail := (if exponent < 0 then '-' else '+') :: digits exponent.natAbs
    match ds with
    | d :: rest => d :: ((if rest.isEmpty then [] else '.' :: rest) ++ 'e' :: tail)
    | [] => tail

/-- The shortest text that reads back as the float. -/
def shortest (x : Float) : List Char :=
  let bits := x.toBits.toNat
  let sign := if bits < countOf 63 then [] else ['-']
  let exponent := bits / countOf 52 % countOf 11
  let fraction := bits % countOf 52
  if exponent = 0 ∧ fraction = 0 then sign ++ ['0', '.', '0']
  else
    let r := if exponent = 0 then Rounding.of fraction 1
      else Rounding.of (countOf 52 + fraction) exponent
    let (d, k) := r.firstGrid 660 309
    sign ++ placed (digits d) k

end HardwareFingerprint.Numeral
