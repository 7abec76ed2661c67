import TableQuery.Number.Shortest

/-! How numbers are written. Both forms write a whole number of magnitude below 10 ^ 15 as an
integer. Otherwise the plain form never uses an exponent, and the JSON form uses one for
magnitudes below 10 ^ -5 or from 10 ^ 16 up. -/

namespace TableQuery.Number

def signText (negative : Bool) : List Char := if negative then ['-'] else []

def Decimal.positional (d : Decimal) : List Char :=
  let written := digits d.coefficient
  let places := (-d.exponent).toNat
  if 0 ≤ d.exponent then written ++ List.replicate d.exponent.toNat '0'
  else if places < written.length then
    written.take (written.length - places) ++ '.' :: written.drop (written.length - places)
  else '0' :: '.' :: List.replicate (places - written.length) '0' ++ written

def Decimal.leadingPower (d : Decimal) : Int := (digits d.coefficient).length + d.exponent - 1

def Decimal.scientific (d : Decimal) : List Char :=
  let mantissa := match digits d.coefficient with
    | first :: [] => [first]
    | first :: rest => first :: '.' :: rest
    | [] => []
  let power := d.leadingPower
  mantissa ++ 'e' :: (if power < 0 then '-' else '+') :: digits power.natAbs

/-- Both zeros are written alike. -/
def wholeText? (n : Float) : Option (List Char) :=
  (wholeMagnitude? (magnitudeIndex n)).map fun whole =>
    signText (isNegative n && whole != 0) ++ digits whole

def plainText (n : Float) : List Char :=
  if isNaN n then "NaN".toList
  else if isFinite n then
    (wholeText? n).getD
      (signText (isNegative n) ++ (shortest .up n).positional)
  else signText (isNegative n) ++ "inf".toList

def jsonFraction (d : Decimal) : List Char :=
  if -5 ≤ d.leadingPower ∧ d.leadingPower < 16 then
    if 0 ≤ d.exponent then d.positional ++ ".0".toList else d.positional
  else d.scientific

/-- The numbers that are not finite have no JSON form of their own and are written as null. -/
def jsonText (n : Float) : List Char :=
  if isFinite n then
    (wholeText? n).getD (signText (isNegative n) ++ jsonFraction (shortest .even n))
  else "null".toList

end TableQuery.Number
