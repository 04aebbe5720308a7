import TextTemplate.Double
import TextTemplate.Json.Fragment
import TextTemplate.Toml.Value

/-!
# TOML numbers and times

Numbers and times start alike, so each is tried in turn: a time, a number with a point or exponent,
an integer. Nothing here computes with a number; what matters is which texts are one. A time is
brought to the normal form of its text: a `T` between date and time, capital `Z`, and the fraction
of the second without needless zeros.
-/

namespace TextTemplate.Toml

open Json (ofDigits hexDigit?)

/-! ## Numbers -/

/-- Digits, between any two of which one underscore may stand. The flag says whether a digit is in
front. -/
def digitsWith (isDigit : Char → Bool) : Bool → List Char → List Char × List Char
  | true, '_' :: c :: rest =>
    if isDigit c then
      let (ds, rest) := digitsWith isDigit true rest
      (c :: ds, rest)
    else ([], '_' :: c :: rest)
  | _, c :: rest =>
    if isDigit c then
      let (ds, rest) := digitsWith isDigit true rest
      (c :: ds, rest)
    else ([], c :: rest)
  | _, [] => ([], [])

/-- At least one digit. -/
def digits1? (isDigit : Char → Bool) (cs : List Char) : Option (List Char × List Char) :=
  match digitsWith isDigit false cs with
  | ([], _) => none
  | found => some found

/-- A sign, if there is one. -/
def sign : List Char → Bool × List Char
  | '-' :: rest => (true, rest)
  | '+' :: rest => (false, rest)
  | cs => (false, cs)

/-- Decimal digits that do not start with `0`, or `0` alone. -/
def decimalDigits? : List Char → Option (List Char × List Char)
  | '0' :: rest => some (['0'], rest)
  | cs => digits1? Char.isDigit cs

/-- The integer of digits in some base, if it fits a signed 64-bit word. -/
def baseInt? (base : Nat) (isDigit : Char → Bool) (cs : List Char) : Option (Value × List Char) := do
  let (digits, rest) ← digits1? isDigit cs
  let n ← digits.foldlM (fun n c => (hexDigit? c).map (base * n + ·)) 0
  if n < UInt64.size / 2 then return (.int n, rest) else none

/-- Whether a character is a hexadecimal digit. -/
def isHexDigit (c : Char) : Bool := (hexDigit? c).isSome

/-- **An integer**, decimal with a sign or in another base without. -/
def readInt? : List Char → Option (Value × List Char)
  | '0' :: 'x' :: rest => baseInt? 16 isHexDigit rest
  | '0' :: 'o' :: rest => baseInt? 8 (fun c => '0' ≤ c && c ≤ '7') rest
  | '0' :: 'b' :: rest => baseInt? 2 (fun c => c == '0' || c == '1') rest
  | cs => do
    let (negative, cs) := sign cs
    let (digits, rest) ← decimalDigits? cs
    let n := ofDigits digits
    if negative then
      if n ≤ UInt64.size / 2 then return (.int (-(n : Int)), rest) else none
    else
      if n < UInt64.size / 2 then return (.int n, rest) else none

/-- The digits behind a point, if there is one. -/
def fraction? : List Char → Option (Option (List Char) × List Char)
  | '.' :: rest => do
    let (ds, rest) ← digits1? Char.isDigit rest
    return (some ds, rest)
  | cs => some (none, cs)

/-- The sign and digits behind the mark of an exponent, if there is one. -/
def exponent? : List Char → Option (Option (Bool × List Char) × List Char)
  | c :: rest =>
    if c == 'e' || c == 'E' then do
      let (negative, rest) := sign rest
      let (ds, rest) ← digits1? Char.isDigit rest
      return (some (negative, ds), rest)
    else some (none, c :: rest)
  | [] => some (none, [])

/-- **A number with a point or exponent, an infinity or no number at all.** A positive number too
large for a double is none. -/
def readDecimal? (cs : List Char) : Option (Value × List Char) :=
  let (negative, unsigned) := sign cs
  match unsigned with
  | 'i' :: 'n' :: 'f' :: rest => some (.infinity negative, rest)
  | 'n' :: 'a' :: 'n' :: rest => some (.noNumber, rest)
  | unsigned => do
    let (whole, rest) ← decimalDigits? unsigned
    let (fraction, rest) ← fraction? rest
    let (exponent, rest) ← exponent? rest
    guard (fraction.isSome || exponent.isSome)
    let n : Json.Number := { negative, whole, fraction, exponent }
    let places := fraction.getD []
    guard (negative || !Double.exceeds (ofDigits (whole ++ places)) (n.power - places.length))
    return (.decimal n.literal, rest)

/-! ## Times -/

/-- Two digits whose number is within bounds. -/
def twoDigits? (lo hi : Nat) : List Char → Option (List Char × List Char)
  | a :: b :: rest =>
    if a.isDigit && b.isDigit && lo ≤ ofDigits [a, b] && ofDigits [a, b] ≤ hi then
      some ([a, b], rest)
    else none
  | _ => none

/-- The number of days of a month. -/
def daysIn (year month : Nat) : Nat :=
  if month == 2 then
    if (year % 4 == 0 && year % 100 != 0) || year % 400 == 0 then 29 else 28
  else if month == 4 || month == 6 || month == 9 || month == 11 then 30
  else 31

/-- The character, and what follows it. -/
def expect? (c : Char) : List Char → Option (List Char)
  | d :: rest => if c == d then some rest else none
  | [] => none

/-- A date. -/
def date? : List Char → Option (List Char × List Char)
  | a :: b :: c :: d :: rest => do
    let year := [a, b, c, d]
    guard (year.all Char.isDigit)
    let (month, rest) ← twoDigits? 1 12 (← expect? '-' rest)
    let (day, rest) ← twoDigits? 1 (daysIn (ofDigits year) (ofDigits month)) (← expect? '-' rest)
    return (year ++ '-' :: month ++ '-' :: day, rest)
  | _ => none

/-- The normal form of the fraction of a second: nine digits at most, no zeros at the end, and no
point if nothing is left. -/
def secondFraction (digits : List Char) : List Char :=
  match ((digits.take 9).reverse.dropWhile (· == '0')).reverse with
  | [] => []
  | digits => '.' :: digits

/-- A time of day. -/
def timeOfDay? (cs : List Char) : Option (List Char × List Char) := do
  let (hour, rest) ← twoDigits? 0 23 cs
  let (minute, rest) ← twoDigits? 0 59 (← expect? ':' rest)
  let (second, rest) ← twoDigits? 0 60 (← expect? ':' rest)
  let time := hour ++ ':' :: minute ++ ':' :: second
  match rest with
  | '.' :: digits =>
    guard (digits.head?.any Char.isDigit)
    return (time ++ secondFraction (digits.takeWhile Char.isDigit), digits.dropWhile Char.isDigit)
  | rest => return (time, rest)

/-- An offset from universal time. No offset at all has a plus. -/
def offset? : List Char → Option (List Char × List Char)
  | c :: rest =>
    if c == 'Z' || c == 'z' then some (['Z'], rest)
    else if c == '+' || c == '-' then do
      let (hours, rest) ← twoDigits? 0 23 rest
      let (minutes, rest) ← twoDigits? 0 59 (← expect? ':' rest)
      let sign := if ofDigits (hours ++ minutes) == 0 then '+' else c
      return (sign :: hours ++ ':' :: minutes, rest)
    else none
  | [] => none

/-- The time of day behind a date, with its offset if it has one. -/
def dayTime? : List Char → Option (List Char × List Char)
  | c :: rest => do
    guard (c == 'T' || c == 't' || c == ' ')
    let (time, rest) ← timeOfDay? rest
    let (offset, rest) := (offset? rest).getD ([], rest)
    return ('T' :: time ++ offset, rest)
  | [] => none

/-- **A date, a time of day or both**, in its normal form. -/
def readTime? (cs : List Char) : Option (Value × List Char) := do
  let (text, rest) ← match date? cs with
    | some (date, rest) =>
      let (time, rest) := (dayTime? rest).getD ([], rest)
      some (date ++ time, rest)
    | none => timeOfDay? cs
  return (.time (String.ofList text), rest)

/-- **A number or time.** -/
def readNumber? (cs : List Char) : Option (Value × List Char) :=
  readTime? cs <|> readDecimal? cs <|> readInt? cs

end TextTemplate.Toml
