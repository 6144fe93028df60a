import StoryScript.Number.Shortest

/-!
Two written forms of a number. To readers it is shown positionally, without an exponent; in a dump
of the story's state very large and very small numbers have one, and whole numbers end in `.0`.
-/

namespace StoryScript

namespace Decimal

def digitText (number : Decimal) : List Char :=
  Nat.toDigits 10 number.digits

def zeros (count : Nat) : List Char :=
  List.replicate count '0'

def positional (number : Decimal) : List Char :=
  let digits := number.digitText
  match number.exponent with
  | .ofNat zeroCount => digits ++ zeros zeroCount
  | .negSucc decimals =>
      let places := decimals + 1
      if places < digits.length then
        digits.take (digits.length - places) ++ '.' :: digits.drop (digits.length - places)
      else '0' :: '.' :: zeros (places - digits.length) ++ digits

def scientific (number : Decimal) : List Char :=
  let digits := number.digitText
  let exponent : Int := number.exponent + (digits.length - 1 : Nat)
  let fraction := if digits.length = 1 then [] else '.' :: digits.drop 1
  let sign := if exponent < 0 then '-' else '+'
  digits.take 1 ++ fraction ++ 'e' :: sign :: Nat.toDigits 10 exponent.natAbs

end Decimal

namespace Number

def signed (value : Float) (text : List Char) : List Char :=
  if Binary64.isNegative value then '-' :: text else text

/-- What readers see. Both zeros are shown alike. -/
def display (value : Float) : List Char :=
  let bits := Binary64.magnitude value
  if bits > Binary64.infinityBits then "NaN".toList
  else if bits = Binary64.infinityBits then signed value "Infinity".toList
  else if bits = 0 then ['0']
  else signed value (Decimal.shortest .up bits).positional

/-- What a dump of the state holds, where numbers that are not finite are `null`. From a
hundred-thousandth up to below ten to the sixteenth there is no exponent. -/
def dump (value : Float) : List Char :=
  let bits := Binary64.magnitude value
  if bits ≥ Binary64.infinityBits then "null".toList
  else if bits = 0 then signed value "0.0".toList
  else
    let number := Decimal.shortest .even bits
    let top : Int := number.exponent + number.digitText.length
    signed value <|
      if -5 < top && top ≤ 16 then
        if 0 ≤ number.exponent then number.positional ++ ".0".toList else number.positional
      else number.scientific

end Number

end StoryScript
