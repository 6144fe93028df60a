import StoryScript.Number.Binary64
import StoryScript.Text.Blank

/-!
The texts that are numbers: nothing, which is zero; `Infinity`, or digits with a point and an
exponent where wanted, after one sign or none; and unsigned hexadecimal, octal and binary digits.
-/

namespace StoryScript.Number

def digit? (base : Nat) (c : Char) : Option Nat :=
  let value? :=
    if c.isDigit then some (c.toNat - '0'.toNat)
    else if 'a' ≤ c && c ≤ 'f' then some (c.toNat - 'a'.toNat + 10)
    else if 'A' ≤ c && c ≤ 'F' then some (c.toNat - 'A'.toNat + 10)
    else none
  value?.filter (· < base)

def ofDigits (digits : List Char) : Nat :=
  digits.foldl (fun value c => 10 * value + (c.toNat - '0'.toNat)) 0

def exponent? (text : List Char) : Option Int :=
  let (negative, digits) := match text with
    | '-' :: rest => (true, rest)
    | '+' :: rest => (false, rest)
    | _ => (false, text)
  if digits.isEmpty || !digits.all Char.isDigit then none
  else some (if negative then -(ofDigits digits : Int) else ofDigits digits)

def fraction (text : List Char) : List Char × List Char :=
  match text with
  | '.' :: rest => (rest.takeWhile Char.isDigit, rest.dropWhile Char.isDigit)
  | _ => ([], text)

def decimal? (text : List Char) : Option Float :=
  let whole := text.takeWhile Char.isDigit
  let (decimals, rest) := fraction (text.dropWhile Char.isDigit)
  let digits := ofDigits (whole ++ decimals)
  if whole.isEmpty && decimals.isEmpty then none
  else
    match rest with
    | [] => some (Binary64.ofDecimal digits (-decimals.length))
    | mark :: rest =>
        if mark = 'e' || mark = 'E' then
          (exponent? rest).map fun exponent =>
            Binary64.ofDecimal digits (exponent - decimals.length)
        else none

def infinity : Float :=
  Float.ofBits (UInt64.ofNat Binary64.infinityBits)

def unsigned? (text : List Char) : Option Float :=
  if text = "Infinity".toList then some infinity else decimal? text

/-- Digits in a base, each step rounded to binary64. -/
def based? (base : Nat) (digits : List Char) : Option Float :=
  if digits.isEmpty then none
  else digits.foldlM (fun value c =>
    (digit? base c).map fun digit => value * Float.ofNat base + Float.ofNat digit) 0

def radix? (mark : Char) : Option Nat :=
  if mark = 'x' || mark = 'X' then some 16
  else if mark = 'o' || mark = 'O' then some 8
  else if mark = 'b' || mark = 'B' then some 2
  else none

def read? (text : List Char) : Option Float :=
  match Text.trim text with
  | [] => some 0
  | '-' :: rest => (unsigned? rest).map Float.neg
  | '+' :: rest => unsigned? rest
  | '0' :: mark :: digits =>
      match radix? mark with
      | some base => based? base digits
      | none => unsigned? ('0' :: mark :: digits)
  | rest => unsigned? rest

end StoryScript.Number
