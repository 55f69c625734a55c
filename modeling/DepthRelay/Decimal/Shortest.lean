namespace DepthRelay.Decimal

/-!
# Shortest decimal text of a binary64 number

A binary64 number is shown by the fewest digits that still read back as it.

* `Binary` — a positive number as `mantissa * 2 ^ exponent`, with the shape of the gap below it.
* `shortest` — the point of the coarsest power-of-ten grid that reads back as the number; of two
  such points the nearer one, of two equally near ones the even one.
* `text` — the layout: positional from `1e-5` up to but not including `1e16`, with at least one
  decimal, and with a signed exponent otherwise.
-/

/-- A positive binary64 number. -/
structure Binary where
  mantissa : Nat
  exponent : Int
  /-- Whether the next smaller number is only half as far away as the next larger one. -/
  narrowBelow : Bool
  deriving Repr

/-- The magnitude of the finite number with the given pattern. -/
def Binary.ofBits (bits : UInt64) : Binary :=
  let fraction : Nat := (bits &&& 0xfffffffffffff).toNat
  let biased : Nat := (bits >>> 52 &&& 0x7ff).toNat
  if biased = 0 then ⟨fraction, -1074, false⟩
  else ⟨0x10000000000000 + fraction, (biased : Int) - 1075, fraction == 0 && biased != 1⟩

/-- `quarters / 4 * 2 ^ exponent` over `10 ^ p`, as numerator and denominator. -/
def Binary.onGrid (b : Binary) (p : Int) (quarters : Nat) : Nat × Nat :=
  (quarters * Nat.pow 2 (b.exponent - 2).toNat * Nat.pow 10 (-p).toNat,
    Nat.pow 2 (2 - b.exponent).toNat * Nat.pow 10 p.toNat)

/-- Whether `d * 10 ^ p` reads back as `b`: it lies between the midpoints to `b`'s neighbours, and
    a midpoint itself reads back as the neighbour with the even mantissa. -/
def Binary.readsBack (b : Binary) (p : Int) (d : Nat) : Bool :=
  let low := b.onGrid p (4 * b.mantissa - if b.narrowBelow then 1 else 2)
  let high := b.onGrid p (4 * b.mantissa + 2)
  if b.mantissa % 2 = 0 then low.1 ≤ d * low.2 && d * high.2 ≤ high.1
  else low.1 < d * low.2 && d * high.2 < high.1

/-- The grid point of step `10 ^ p` that reads back as `b` and is nearest to it, if there is one. -/
def Binary.nearest? (b : Binary) (p : Int) : Option Nat :=
  let v := b.onGrid p (4 * b.mantissa)
  let below := v.1 / v.2
  let gapBelow := v.1 - below * v.2
  let gapAbove := (below + 1) * v.2 - v.1
  match b.readsBack p below, b.readsBack p (below + 1) with
  | true, true =>
    if gapBelow < gapAbove ∨ gapBelow = gapAbove ∧ below % 2 = 0 then some below else some (below + 1)
  | true, false => some below
  | false, true => some (below + 1)
  | false, false => none

/-- `(d, p)` such that `d * 10 ^ p` is the shortest decimal that reads back as `b`: the steps are
    tried from the coarsest on, and a coarser step means fewer digits. -/
def shortest (b : Binary) : Nat × Int :=
  let step (i : Nat) : Int := 310 - i
  ((List.range 700).findSome? fun i => (b.nearest? (step i)).map (·, step i)).getD (0, 0)

/-- Lays out `d * 10 ^ p` for a positive `d`. -/
def layout (d : Nat) (p : Int) : String :=
  let digits := Nat.toDigits 10 d
  let point : Int := digits.length + p
  let zeros (n : Int) : List Char := List.replicate n.toNat '0'
  if -4 ≤ point ∧ point ≤ 16 then
    let whole := if point ≤ 0 then ['0'] else digits.take point.toNat ++ zeros (point - digits.length)
    let fraction := zeros (-point) ++ digits.drop point.toNat
    String.ofList (whole ++ '.' :: if fraction = [] then ['0'] else fraction)
  else
    let fraction := digits.drop 1
    let exponent := point - 1
    String.ofList (digits.take 1 ++ (if fraction = [] then [] else '.' :: fraction)) ++
      (if exponent < 0 then "e-" else "e+") ++ toString exponent.natAbs

/-- Shortest text of a finite number. -/
def text (x : Float) : String :=
  let bits := x.toBits
  let magnitude :=
    if bits <<< 1 = 0 then "0.0"
    else
      let (d, p) := shortest (Binary.ofBits bits)
      layout d p
  if bits >>> 63 = 0 then magnitude else "-" ++ magnitude

end DepthRelay.Decimal
