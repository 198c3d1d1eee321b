import DeliveryRules.Log.Mark
import DeliveryRules.Number.Rounded
import DeliveryRules.Value.Display

/-! Messages: patterns whose marks are replaced by arguments, one after the other or by name. -/

namespace DeliveryRules.Log

/-- Why a message cannot be completed. -/
inductive MessageError
  | tooFewArguments
  | tooManyArguments
  | noMembers
  | noSuchMember
  | notASize
  | notANumber
  | notWhole
  | notACharacter
  | undefined
  | infinite
  | tooLarge
  | sizeTooLarge
  | unknownForm
  | unfinished
deriving DecidableEq

/-- The arguments still to be used: a sequence of them, or the members of an only one. -/
inductive Arguments
  | sequence (rest : List Value)
  -- The next value is the object itself until a member of it is asked for.
  | members (all : Members) (next : Option Value)

namespace Arguments

/-- The arguments of a message; an object that is the only one gives its members. -/
def ofList : List Value → Arguments
  | [.object (first :: rest)] =>
    .members (first :: rest) (some (.object (first :: rest)))
  | items => .sequence items

/-- The next argument, and those after it. -/
def take : Arguments → Except MessageError (Value × Arguments)
  | .sequence (item :: rest) => .ok (item, .sequence rest)
  | .members all (some item) => .ok (item, .members all none)
  | _ => .error .tooFewArguments

/-- The arguments with a member put next. -/
def select (arguments : Arguments) : MarkKey → Except MessageError Arguments
  | .none => .ok arguments
  | key =>
    match arguments, key with
    | .members all _, .named name =>
      match all.lookup name with
      | some item => .ok (.members all (some item))
      | none => .error .noSuchMember
    | .members _ _, _ => .error .unfinished
    | .sequence _, _ => .error .noMembers

/-- Whether every argument has been used, members being free to stay unused. -/
def areUsed : Arguments → Bool
  | .sequence rest => rest.isEmpty
  | .members _ _ => true

end Arguments

/-- The greatest width of a place. -/
def widest : Nat := (1 <<< 63) - 1

/-- The greatest precision. -/
def finest : Nat := (1 <<< 31) - 1

/-- An argument taken as a size. -/
def sizeFrom (limit : Nat) (value : Value) : Except MessageError Int :=
  match value.numeral? with
  | some (.int n) =>
    if n ≤ Int.ofNat limit && -Int.ofNat limit - 1 ≤ n then .ok n else .error .tooLarge
  | _ => .error .notASize

/-- A size in a mark, and the arguments left after it. -/
def resolveSize (limit : Nat) (size : MarkSize) (arguments : Arguments) :
    Except MessageError (Option Int × Arguments) :=
  match size with
  | .unset => .ok (none, arguments)
  | .given n => if limit < n then .error .sizeTooLarge else .ok (some (Int.ofNat n), arguments)
  | .argument => do
    let (item, rest) ← arguments.take
    let size ← sizeFrom limit item
    return (some size, rest)

/-- A text for the place of a mark: a sign, what introduces the digits, and the rest. -/
structure Shown where
  numeric : Bool
  negative : Bool
  lead : List Char
  body : List Char

namespace Shown

/-- A text that is no number, cut to a precision. -/
def plain (precision : Option Nat) (text : String) : Shown :=
  let characters := text.toList
  ⟨false, false, [], (precision.map characters.take).getD characters⟩

/-- A text laid out in its place: numbers have signs, and zeros may fill the place behind them. -/
def layOut (shown : Shown) (mark : Mark) (flushLeft : Bool) (width : Nat) : List Char :=
  let sign : List Char :=
    if shown.negative then ['-']
    else if shown.numeric && mark.signed then ['+']
    else if shown.numeric && mark.spaced then [' ']
    else []
  let front := sign ++ shown.lead
  let missing := width - (front.length + shown.body.length)
  if flushLeft then front ++ shown.body ++ List.replicate missing ' '
  else if shown.numeric && mark.zeroFilled then
    front ++ List.replicate missing '0' ++ shown.body
  else List.replicate missing ' ' ++ front ++ shown.body

end Shown

/-- A value without its fraction. -/
def wholeOf (value : Value) : Except MessageError Int :=
  match value.numeral? with
  | some (.int n) => .ok n
  | some (.float (.finite x)) => .ok x.toInt
  | some (.float (.infinity _)) => .error .infinite
  | some (.float .nan) => .error .undefined
  | none => .error .notANumber

/-- A whole number in some base, with as many digits as a precision asks for. -/
def wholeText (base : Nat) (upper : Bool) (lead : List Char) (precision : Option Nat) (n : Int) :
    Shown :=
  let digits := Nat.toDigits base n.natAbs
  let padded := List.replicate (precision.getD 0 - digits.length) '0' ++ digits
  ⟨true, n < 0, lead, if upper then padded.map Char.toUpper else padded⟩

/-- A whole number in a base other than ten; an alternate form says which. -/
def basedText (mark : Mark) (precision : Option Nat) (base : Nat) (letter : Char)
    (value : Value) : Except MessageError Shown :=
  match value.numeral? with
  | some (.int n) =>
    .ok (wholeText base (letter = 'X') (if mark.alternate then ['0', letter] else []) precision n)
  | some (.float _) => .error .notWhole
  | none => .error .notANumber

/-- A value as a floating-point number. -/
def floatOf (value : Value) : Except MessageError Binary64 :=
  match value.numeral? with
  | some (.float x) => .ok x
  | some (.int n) =>
    match Binary64.ofInt n with
    | .infinity _ => .error .tooLarge
    | x => .ok x
  | none => .error .notANumber

/-- A floating-point number in a notation, with six digits unless a precision is given. -/
def floatText (mark : Mark) (precision : Option Nat) (style : NumberStyle) (upper : Bool) :
    Binary64 → Shown
  | .nan => ⟨true, false, [], (if upper then "NAN" else "nan").toList⟩
  | .infinity negative => ⟨true, negative, [], (if upper then "INF" else "inf").toList⟩
  | .finite x =>
    let body := x.roundedText style mark.alternate (precision.getD 6)
    ⟨true, x.negative, [], if upper then body.map Char.toUpper else body⟩

/-- A single character, given as such or by its code point. -/
def characterText : Value → Except MessageError Shown
  | .text content =>
    match content.toList with
    | [c] => .ok ⟨false, false, [], [c]⟩
    | _ => .error .notACharacter
  | value =>
    match value.numeral? with
    | some (.int n) =>
      if 0 ≤ n && n < 0x110000 then .ok ⟨false, false, [], [Char.ofNat n.toNat]⟩
      else .error .tooLarge
    | _ => .error .notACharacter

/-- The escape of a character in a text of ASCII alone. -/
def asciiChar (c : Char) : List Char :=
  if c.toNat < 0x80 then [c]
  else if c.toNat < 0x100 then '\\' :: 'x' :: hexDigits 2 c.toNat
  else if c.toNat < 0x10000 then '\\' :: 'u' :: hexDigits 4 c.toNat
  else '\\' :: 'U' :: hexDigits 8 c.toNat

/-- A value in the notation of messages, in ASCII alone. -/
def asciiDisplay (value : Value) : String :=
  String.ofList (value.display.toList.flatMap asciiChar)

/-- An argument in the form that a mark asks for. -/
def showAs (mark : Mark) (precision : Option Nat) (form : Char) (value : Value) :
    Except MessageError Shown :=
  if form = 's' then .ok (.plain precision value.spoken)
  else if form = 'r' then .ok (.plain precision value.display)
  else if form = 'a' then .ok (.plain precision (asciiDisplay value))
  else if form = 'd' || form = 'i' || form = 'u' then
    (wholeOf value).map (wholeText 10 false [] precision)
  else if form = 'x' || form = 'X' then basedText mark precision 16 form value
  else if form = 'o' then basedText mark precision 8 form value
  else if form = 'f' || form = 'F' then
    (floatOf value).map (floatText mark precision .fixed (form = 'F'))
  else if form = 'e' || form = 'E' then
    (floatOf value).map (floatText mark precision .scientific (form = 'E'))
  else if form = 'g' || form = 'G' then
    (floatOf value).map (floatText mark precision .general (form = 'G'))
  else if form = 'c' then characterText value
  else .error .unknownForm

/-- The text in the place of a mark, and the arguments left after it. -/
def Mark.fill (mark : Mark) (arguments : Arguments) :
    Except MessageError (List Char × Arguments) := do
  let arguments ← arguments.select mark.key
  let (width, arguments) ← resolveSize widest mark.width arguments
  let (precision, arguments) ← resolveSize finest mark.precision arguments
  match mark.form with
  | none => .error .unfinished
  | some form =>
    let (item, rest) ← arguments.take
    let shown ← showAs mark (precision.map Int.toNat) form item
    -- A width below zero asks for a place filled up on the right.
    let size := width.getD 0
    return (shown.layOut mark (mark.flushLeft || size < 0) size.natAbs, rest)

/-- The text of the remaining pieces of a pattern, which have to use up the arguments. -/
def fillPieces (arguments : Arguments) : List Piece → Except MessageError (List Char)
  | [] => if arguments.areUsed then .ok [] else .error .tooManyArguments
  | .char c :: rest => (fillPieces arguments rest).map (c :: ·)
  | .mark mark :: rest => do
    let (text, arguments) ← mark.fill arguments
    let tail ← fillPieces arguments rest
    return text ++ tail

/-- A message completed with its arguments; without arguments its text stays as it is. -/
def message (pattern : String) (arguments : List Value) : Except MessageError String :=
  if arguments.isEmpty then .ok pattern
  else (fillPieces (.ofList arguments) (piecesOf pattern)).map String.ofList

end DeliveryRules.Log
