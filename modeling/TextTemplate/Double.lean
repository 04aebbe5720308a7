/-!
# The range of a double

A decimal number `m · 10 ^ e` is out of range if a double cannot hold its magnitude. There are two
ways to find out, which differ close to the limit: `exceeds` looks at the number itself, and
`productExceeds` at the product of two doubles, the one nearest to `m` and the one nearest to the
power of ten. Both compare whole numbers, so no floating point arithmetic is needed.
-/

namespace TextTemplate.Double

/-- The least magnitude that rounds to infinity: half a unit in the last place above the largest
double. -/
def limit : Nat := Nat.pow 2 1024 - Nat.pow 2 970

/-- The number of bits of a significand. -/
def precision : Nat := 53

/-- **The nearest double of a natural number** below the limit. A number in the middle between two
goes to the one whose last bit is zero. -/
def nearest (n : Nat) : Nat :=
  let unit := Nat.pow 2 (n.log2 + 1 - precision)
  let below := n / unit
  let rest := n % unit
  if unit < 2 * rest || (unit == 2 * rest && below % 2 == 1) then (below + 1) * unit
  else below * unit

/-- **Whether `m · 10 ^ e` rounds to infinity.** Counting the digits first keeps the powers small. -/
def exceeds (m : Nat) (e : Int) : Bool :=
  let magnitude : Int := (Nat.toDigits 10 m).length + e
  if m == 0 || magnitude < 300 then false
  else if 320 < magnitude then true
  else if 0 ≤ e then limit ≤ m * Nat.pow 10 e.toNat
  else limit * Nat.pow 10 (-e).toNat ≤ m

/-- The largest exponent of a power of ten within range. -/
def maxPower : Int := 308

/-- **Whether the product of the doubles of `m` and `10 ^ e` rounds to infinity.** A quotient never
does. -/
def productExceeds (m : Nat) (e : Int) : Bool :=
  if m == 0 || e < 0 then false
  else if maxPower < e then true
  else limit ≤ nearest m * nearest (Nat.pow 10 e.toNat)

/-- A number of at most 53 bits is a double. -/
theorem nearest_of_lt {n : Nat} (h : n.log2 < precision) : nearest n = n := by
  have : n.log2 + 1 - precision = 0 := by omega
  simp only [nearest, this]
  simp [Nat.mod_one]

end TextTemplate.Double
