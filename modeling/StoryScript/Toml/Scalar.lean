import StoryScript.Number.Reading
import StoryScript.Toml

/-!
Scalars of TOML that are written without quotes: truth values, integers, decimals and moments.
-/

namespace StoryScript.Toml

def isScalar (c : Char) : Bool :=
  c.isAlphanum || c == '+' || c == '-' || c == '_' || c == '.' || c == ':'

/-- The digits of a number, without the underscores that may stand between two of them. -/
def digits? (isDigit : Char → Bool) (text : List Char) : Option (List Char) :=
  let groups := text.splitOn '_'
  if groups.all fun group => !group.isEmpty && group.all isDigit then some groups.flatten else none

def wholeDigits? (text : List Char) : Option (List Char) := do
  let digits ← digits? Char.isDigit text
  if digits.head? = some '0' && digits.length > 1 then none else some digits

def ofBase (base : Nat) (digits : List Char) : Nat :=
  digits.foldl (fun value c => base * value + ((Number.digit? base c).getD 0)) 0

def boundedInteger? (value : Int) : Option Toml :=
  if value < Int64.minValue.toInt || Int64.maxValue.toInt < value then none
  else some (integer value)

def basedInteger? (base : Nat) (text : List Char) : Option Toml := do
  let digits ← digits? (fun c => (Number.digit? base c).isSome) text
  boundedInteger? (ofBase base digits)

def signOf (text : List Char) : Bool × List Char :=
  match text with
  | '-' :: rest => (true, rest)
  | '+' :: rest => (false, rest)
  | _ => (false, text)

def integer? (text : List Char) : Option Toml :=
  match text with
  | '0' :: 'x' :: rest => basedInteger? 16 rest
  | '0' :: 'o' :: rest => basedInteger? 8 rest
  | '0' :: 'b' :: rest => basedInteger? 2 rest
  | _ => do
      let (negative, rest) := signOf text
      let value : Int := ofBase 10 (← wholeDigits? rest)
      boundedInteger? (if negative then -value else value)

def isExponentMark (c : Char) : Bool :=
  c == 'e' || c == 'E'

def exponent? (text : List Char) : Option Int :=
  match text with
  | [] => some 0
  | _ :: rest => do
      let (negative, digits) := signOf rest
      let value : Int := ofBase 10 (← digits? Char.isDigit digits)
      return if negative then -value else value

def decimals? (text : List Char) : Option (List Char) :=
  match text with
  | '.' :: rest => digits? Char.isDigit rest
  | [] => some []
  | _ => none

/-- A finite decimal, which has a point or an exponent. One that is too great is none. -/
def finite? (text : List Char) : Option Float :=
  if !text.any (fun c => c == '.' || isExponentMark c) then none
  else do
    let mantissa := text.takeWhile (!isExponentMark ·)
    let whole ← wholeDigits? (mantissa.takeWhile (· != '.'))
    let decimals ← decimals? (mantissa.dropWhile (· != '.'))
    let exponent ← exponent? (text.dropWhile (!isExponentMark ·))
    let value := Binary64.ofDecimal (ofBase 10 (whole ++ decimals)) (exponent - decimals.length)
    if value.isInf then none else some value

def decimal? (text : List Char) : Option Toml := do
  let (negative, rest) := signOf text
  let magnitude ←
    if rest = "inf".toList then some Number.infinity
    else if rest = "nan".toList then some (0 / 0)
    else finite? rest
  return decimal (if negative then magnitude.neg else magnitude)

def truth? (text : List Char) : Option Toml :=
  if text = "true".toList then some (truth true)
  else if text = "false".toList then some (truth false)
  else none

def field? (count greatest : Nat) (text : List Char) : Option (Nat × List Char) :=
  let digits := text.take count
  let value := ofBase 10 digits
  if digits.length = count && digits.all Char.isDigit && value ≤ greatest then
    some (value, text.drop count)
  else none

def daysIn (year month : Nat) : Nat :=
  if month = 2 then
    if year % 4 = 0 && (year % 100 ≠ 0 || year % 400 = 0) then 29 else 28
  else if month = 4 || month = 6 || month = 9 || month = 11 then 30
  else 31

def date? (text : List Char) : Option (List Char × List Char) := do
  let (year, rest) ← field? 4 9999 text
  let (month, rest) ← field? 2 12 (← ['-'].isPrefixOf? rest)
  let (day, rest) ← field? 2 (daysIn year month) (← ['-'].isPrefixOf? rest)
  if month = 0 || day = 0 then none else some (text.take 10, rest)

/-- A fraction of a second to nine digits, without zeros at its end. -/
def fraction (digits : List Char) : List Char :=
  match ((digits.take 9).reverse.dropWhile (· == '0')).reverse with
  | [] => []
  | digits => '.' :: digits

def seconds? (text : List Char) : Option (List Char × List Char) :=
  match text with
  | ':' :: start => do
      let (_, rest) ← field? 2 60 start
      let whole := ':' :: start.take 2
      match rest with
      | '.' :: rest =>
          let digits := rest.takeWhile Char.isDigit
          if digits.isEmpty then none
          else some (whole ++ fraction digits, rest.dropWhile Char.isDigit)
      | _ => some (whole, rest)
  | _ => some ([':', '0', '0'], text)

def time? (text : List Char) : Option (List Char × List Char) := do
  let (_, rest) ← field? 2 23 text
  let (_, rest) ← field? 2 59 (← [':'].isPrefixOf? rest)
  let (seconds, rest) ← seconds? rest
  return (text.take 5 ++ seconds, rest)

/-- An offset from universal time, where there is one. That of zero has a plus sign. -/
def offset? (text : List Char) : Option (List Char) :=
  match text with
  | [] => some []
  | ['Z'] => some ['Z']
  | sign :: start => do
      let (hours, rest) ← field? 2 23 start
      let (minutes, rest) ← field? 2 59 (← [':'].isPrefixOf? rest)
      if !rest.isEmpty || (sign != '+' && sign != '-') then none
      else if hours = 0 && minutes = 0 then some ('+' :: start)
      else some (sign :: start)

def normalMoment? (text : List Char) : Option (List Char) :=
  match date? text with
  | some (date, []) => some date
  | some (date, separator :: rest) => do
      let (time, rest) ← time? rest
      let offset ← offset? rest
      if separator = 'T' then some (date ++ 'T' :: time ++ offset) else none
  | none => do
      let (time, rest) ← time? text
      if rest.isEmpty then some time else none

def moment? (text : List Char) : Option Toml :=
  (normalMoment? (text.map Char.toUpper)).map fun normal => moment (String.ofList normal)

def scalar? (text : List Char) : Option Toml :=
  truth? text <|> integer? text <|> moment? text <|> decimal? text

end StoryScript.Toml
