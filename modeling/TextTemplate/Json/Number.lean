import TextTemplate.Double
import TextTemplate.Json.Value

/-!
# JSON numbers as written

A number literal split into its parts. `Number.value?` decides what it stands for: an integer of at
most 64 bits, another number, or nothing when it is too large for a double. Of a long literal only
the leading digits count, as many as a 64-bit word holds. `-0` is not an integer, because the
integers have no negative zero.
-/

namespace TextTemplate.Json

/-- **A number literal**: sign, digits before the point, digits after it, and the exponent with its
sign and digits. -/
structure Number where
  negative : Bool
  whole : List Char
  fraction : Option (List Char)
  exponent : Option (Bool × List Char)
deriving Repr

/-- The number that a list of decimal digits writes. -/
def ofDigits (digits : List Char) : Nat :=
  digits.foldl (fun n c => 10 * n + (c.toNat - '0'.toNat)) 0

/-- Appends digits to a number for as long as it fits a 64-bit word. The digits from the first one
on that does not fit are left over. -/
def appendDigits (n : Nat) : List Char → Nat × List Char
  | [] => (n, [])
  | c :: rest =>
    let next := 10 * n + (c.toNat - '0'.toNat)
    if next < UInt64.size then appendDigits next rest else (n, c :: rest)

namespace Number

/-- The literal as written, with a small `e`. -/
def literal (n : Number) : String :=
  String.ofList <|
    (if n.negative then ['-'] else []) ++ n.whole
      ++ (match n.fraction with | none => [] | some f => '.' :: f)
      ++ (match n.exponent with
          | none => []
          | some (negative, digits) => 'e' :: (if negative then '-' :: digits else digits))

/-- The exponent that is written, or zero. -/
def power (n : Number) : Int :=
  match n.exponent with
  | none => 0
  | some (negative, digits) => if negative then -(ofDigits digits : Int) else ofDigits digits

/-- **The literal as a product** `m · 10 ^ e`, in which `m` fits a 64-bit word. A digit in front of
the point that no longer fits counts as a zero, one behind the point is dropped with all that
follow it. -/
def scaled (n : Number) : Nat × Int :=
  let (m, overflow) := appendDigits 0 n.whole
  let fraction := n.fraction.getD []
  let (m, dropped) := appendDigits m fraction
  (m, n.power + overflow.length - (fraction.length - dropped.length : Nat))

/-- Whether the literal is too large for a double. -/
def isHuge (n : Number) : Bool := Double.productExceeds n.scaled.1 n.scaled.2

/-- The integer that the literal writes, if it has neither point nor exponent, is not `-0` and fits
a 64-bit word, unsigned or signed. -/
def int? (n : Number) : Option Int :=
  match n.fraction, n.exponent with
  | none, none =>
    let magnitude := ofDigits n.whole
    if n.negative then
      if magnitude ≠ 0 ∧ magnitude ≤ UInt64.size / 2 then some (-(magnitude : Int)) else none
    else
      if magnitude < UInt64.size then some magnitude else none
  | _, _ => none

/-- **What the literal stands for**, or `none` if it is too large for a double. -/
def value? (n : Number) : Option Value :=
  match n.int? with
  | some i => some (.int i)
  | none => if n.isHuge then none else some (.decimal n.literal)

end Number

end TextTemplate.Json
