import MapQuery.Number.Double

/-!
# The shortest text of a double

A double is written with the fewest digits that read back as it, and of those with the ones nearest to
it.

* `Shortest.Parts` — a finite double as a whole number times a power of two.
* `Shortest.digits` — the digits, and the power of ten of the first of them.
* `Shortest.shown` — positional from `1e-4` up to `1e16`, with an exponent outside.
-/

namespace MapQuery.Shortest

/-- The value `mantissa · 2 ^ exponent`; `narrow` says that the double below is nearer than the one
above. -/
structure Parts where
  mantissa : Nat
  exponent : Int
  narrow : Bool

/-- The parts of a finite double, its sign apart. -/
def Parts.ofFloat (f : Float) : Parts :=
  let bits := Double.magnitude f
  let field : Nat := bits / 4503599627370496
  let fraction : Nat := bits % 4503599627370496
  if field = 0 then ⟨fraction, -1074, false⟩
  else ⟨4503599627370496 + fraction, (field : Int) - 1075, fraction = 0 && field > 1⟩

/-- A fraction of whole numbers. -/
structure Ratio where
  num : Nat
  den : Nat

/-- The number `n · 2 ^ e` as a fraction. -/
def Ratio.scaled (n : Nat) (e : Int) : Ratio :=
  if 0 ≤ e then ⟨n * Nat.pow 2 e.toNat, 1⟩ else ⟨n, Nat.pow 2 (-e).toNat⟩

/-- The fraction divided by a power of ten. -/
def Ratio.over (r : Ratio) (e : Int) : Ratio :=
  if 0 ≤ e then ⟨r.num, r.den * Nat.pow 10 e.toNat⟩ else ⟨r.num * Nat.pow 10 (-e).toNat, r.den⟩

/-- The greatest power of ten, from `guess` down, that is not above the value. -/
def leading (value : Ratio) : (fuel : Nat) → (guess : Int) → Int
  | 0, guess => guess
  | fuel + 1, guess =>
    let r := value.over guess
    if r.den ≤ r.num then guess else leading value fuel (guess - 1)

/-- A whole number of the grid `10 ^ g` that reads back as the double, the nearer of two. -/
def onGrid? (p : Parts) (g : Int) : Option Nat :=
  let value := (Ratio.scaled (4 * p.mantissa) (p.exponent - 2)).over g
  let low := (Ratio.scaled (4 * p.mantissa - if p.narrow then 1 else 2) (p.exponent - 2)).over g
  let high := (Ratio.scaled (4 * p.mantissa + 2) (p.exponent - 2)).over g
  let closed := p.mantissa % 2 = 0
  let inside (n : Nat) : Bool :=
    if closed then low.num ≤ n * low.den && n * high.den ≤ high.num
    else low.num < n * low.den && n * high.den < high.num
  let down := value.num / value.den
  let up := down + 1
  let upNearer := 2 * (value.num % value.den) ≥ value.den
  if inside down && inside up then some (if upNearer then up else down)
  else if inside down then some down
  else if inside up then some up
  else none

/-- The fewest digits, starting with `count` of them, and the grid they lie on. -/
def search (p : Parts) (first : Int) : (fuel : Nat) → (count : Nat) → Nat × Int
  | 0, count => (0, first - count + 1)
  | fuel + 1, count =>
    let g := first - count + 1
    match onGrid? p g with
    | some n => (n, g)
    | none => search p first fuel (count + 1)

/-- Drops the zeros at the end. -/
def dropZeros : (fuel : Nat) → Nat × Int → Nat × Int
  | 0, d => d
  | fuel + 1, (n, g) => if n ≠ 0 ∧ n % 10 = 0 then dropZeros fuel (n / 10, g + 1) else (n, g)

/-- The digits of a positive finite double, and the power of ten that the first of them stands for. -/
def digits (f : Float) : List Char × Int :=
  let p := Parts.ofFloat f
  let first := leading (Ratio.scaled p.mantissa p.exponent) 640 309
  let (n, g) := dropZeros 20 (search p first 20 1)
  let ds := Nat.toDigits 10 n
  (ds, g + ds.length - 1)

/-- Digits with the point after the first `whole` of them, and at least one digit on each side. -/
def positional (ds : List Char) (first : Int) : List Char :=
  if first < 0 then '0' :: '.' :: List.replicate (-first - 1).toNat '0' ++ ds
  else
    let whole := first.toNat + 1
    if ds.length ≤ whole then ds ++ List.replicate (whole - ds.length) '0' ++ ['.', '0']
    else ds.take whole ++ '.' :: ds.drop whole

/-- One digit, the others behind a point, and the power of ten. -/
def scientific (ds : List Char) (first : Int) : List Char :=
  (match ds with
    | [] => []
    | [d] => [d]
    | d :: rest => d :: '.' :: rest) ++ 'e' :: (toString first).toList

/-- The text of a finite double. -/
def shown (f : Float) : String :=
  let sign := if Double.isNegative f then ['-'] else []
  String.ofList (sign ++
    if Double.magnitude f = 0 then ['0', '.', '0']
    else
      let (ds, first) := digits f
      if -4 ≤ first && first < 16 then positional ds first else scientific ds first)

end MapQuery.Shortest
