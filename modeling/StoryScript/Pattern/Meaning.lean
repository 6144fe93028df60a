import StoryScript.Pattern
import StoryScript.Pattern.Property
import StoryScript.Pattern.Reading

/-!
What the forms of a pattern mean under the flags that hold where they stand.
-/

namespace StoryScript.Pattern

structure Modes where
  anyCase : Bool := false
  lines : Bool := false
  dotAll : Bool := false
  unicode : Bool := true
  anyLineEnd : Bool := false
  deriving DecidableEq, Repr

def Modes.change (modes : Modes) (change : Flag × Bool) : Modes :=
  match change with
  | (.anyCase, isOn) => { modes with anyCase := isOn }
  | (.lines, isOn) => { modes with lines := isOn }
  | (.dotAll, isOn) => { modes with dotAll := isOn }
  | (.unicode, isOn) => { modes with unicode := isOn }
  | (.anyLineEnd, isOn) => { modes with anyLineEnd := isOn }
  | (.few, _) => modes
  | (.spaced, _) => modes

def Modes.changeAll (modes : Modes) (changes : FlagChanges) : Modes :=
  changes.foldl Modes.change modes

def inCase (modes : Modes) (set : CharSet) : CharSet :=
  if !modes.anyCase then set else if modes.unicode then set.anyCase else set.anyAsciiCase

/-- A set, or the characters that are not in it. Under a flag all of them have to be of ASCII. -/
def signed (modes : Modes) (span : Span) (negated : Bool) (set : CharSet) :
    Except Refusal CharSet :=
  let set := if negated then set.complement else set
  if !modes.unicode && !set.isAscii then refuse .noText span else .ok set

def checkByte (modes : Modes) (letter : Letter) : Except Refusal Unit :=
  if !modes.unicode && letter.isByte && 0x7f < letter.char.toNat then refuse .noText letter.span
  else .ok ()

def memberOf (modes : Modes) (letter : Letter) : Except Refusal Char := do
  checkByte modes letter
  if !modes.unicode && 0x7f < letter.char.toNat then refuse .noUnicode letter.span
  else return letter.char

def shortSet (modes : Modes) (set : ShortSet) : CharSet :=
  match set, modes.unicode with
  | .digit, true => .digit
  | .blank, true => .blank
  | .word, true => .word
  | .digit, false => .ofRanges [digitRange]
  | .blank, false => .ofRanges [('\t', '\r'), (' ', ' ')]
  | .word, false => .ofRanges [digitRange, upperRange, ('_', '_'), lowerRange]

mutual

def SetForm.meaning (modes : Modes) : SetForm → Except Refusal CharSet
  | empty _ => .ok .empty
  | letter written => do return .single (← memberOf modes written)
  | range _ first last => do
      return .range (← memberOf modes first) (← memberOf modes last)
  | named span negated ranges => signed modes span negated (inCase modes (.ofRanges ranges))
  | short span negated set => signed modes span negated (shortSet modes set)
  | property span negated name value =>
      if !modes.unicode then refuse .noUnicode span
      else do
        let set ← match value with
          | none => namedProperty span name
          | some value => valuedProperty span name value
        signed modes span negated (inCase modes set)
  | bracketed span negated set => do signed modes span negated (inCase modes (← set.meaning modes))
  | union _ items => unionOf modes items
  | combined _ operation left right => do
      let left ← left.meaning modes
      let right ← right.meaning modes
      let left := inCase modes left
      let right := inCase modes right
      return match operation with
        | .intersection => left.intersection right
        | .difference => left.difference right
        | .symmetricDifference => left.symmetricDifference right

def SetForm.unionOf (modes : Modes) : List SetForm → Except Refusal CharSet
  | [] => .ok .empty
  | item :: rest => do
      let set ← item.meaning modes
      return set.union (← unionOf modes rest)

end

def edgeOf (modes : Modes) : EdgeForm → Edge
  | .lineStart =>
      if !modes.lines then .textStart
      else if modes.anyLineEnd then .anyLineStart
      else .lineStart
  | .lineEnd =>
      if !modes.lines then .textEnd
      else if modes.anyLineEnd then .anyLineEnd
      else .lineEnd
  | .textStart => .textStart
  | .textEnd => .textEnd
  | .word edge => .word edge (!modes.unicode)

def dotSet (modes : Modes) : CharSet :=
  if modes.dotAll then CharSet.empty.complement
  else if modes.anyLineEnd then (CharSet.ofRanges [('\n', '\n'), ('\r', '\r')]).complement
  else (CharSet.single '\n').complement

mutual

def Form.meaning (modes : Modes) : Form → Except Refusal (Pattern × Modes)
  | empty _ => .ok (.empty, modes)
  | flags _ changes => .ok (.empty, modes.changeAll changes)
  | letter written => do
      checkByte modes written
      let c := written.char
      return (.single (if modes.anyCase then .oneOf (inCase modes (.single c)) else .char c), modes)
  | dot span =>
      if modes.unicode then .ok (.single (.oneOf (dotSet modes)), modes) else refuse .noText span
  | edge _ written => .ok (.single (.edge (edgeOf modes written)), modes)
  | oneOf set => do return (.single (.oneOf (← set.meaning modes)), modes)
  | repeated _ least most body => do
      let (pattern, after) ← body.meaning modes
      return (.repeated least most pattern, after)
  | group _ changes body => do
      let (pattern, _) ← body.meaning (modes.changeAll changes)
      return (pattern, modes)
  | choice _ branches => choiceOf modes branches
  | sequence _ parts => sequenceOf modes parts

def Form.choiceOf (modes : Modes) : List Form → Except Refusal (Pattern × Modes)
  | [] => .ok (.empty, modes)
  | [form] => form.meaning modes
  | form :: rest => do
      let (first, modes) ← form.meaning modes
      let (second, modes) ← choiceOf modes rest
      return (.choice first second, modes)

def Form.sequenceOf (modes : Modes) : List Form → Except Refusal (Pattern × Modes)
  | [] => .ok (.empty, modes)
  | form :: rest => do
      let (first, modes) ← form.meaning modes
      let (second, modes) ← sequenceOf modes rest
      return (.sequence first second, modes)

end

def Part.size : Part → Nat
  | .char c => 32 * c.utf8Size
  | .oneOf set => set.size
  | .edge _ => 32

def Arrangement.size : Pattern → Nat
  | empty => 32
  | single part => part.size
  | sequence first second => first.size + second.size
  | choice first second => first.size + second.size + 36
  | repeated least none body => (max 1 least) * body.size + 40
  | repeated least (some most) body => least * body.size + (most - least) * (body.size + 40) + 32

def ofText? (text : String) : Except Refusal Pattern := do
  let form ← formOf? text.toList
  let (pattern, _) ← form.meaning {}
  if greatestSize < pattern.size then .error .tooLarge else return pattern

end StoryScript.Pattern
