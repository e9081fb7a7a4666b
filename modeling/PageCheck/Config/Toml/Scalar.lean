import PageCheck.Config.Numeral
import PageCheck.Config.Reader
import PageCheck.Config.Setting

/-! Numbers, truth values, dates and times in TOML.  Dates and times have no type
of their own among settings: they are kept as texts in one spelling. -/

set_option autoImplicit false

namespace PageCheck

namespace Toml

/-! ### Numbers -/

/-- The text without underscores, each of which has to stand between digits. -/
def plainDigits? (isDigit : Char → Bool) : List Char → Option (List Char)
  | [] => some []
  | '_' :: _ => none
  | [digit] => if isDigit digit then some [digit] else none
  | digit :: '_' :: next :: rest =>
      if isDigit digit then (plainDigits? isDigit (next :: rest)).map (digit :: ·) else none
  | digit :: rest =>
      if isDigit digit then (plainDigits? isDigit rest).map (digit :: ·) else none

def digits? (isDigit : Char → Bool) (text : List Char) : Option (List Char) :=
  if text.isEmpty then none else plainDigits? isDigit text

def isRadixDigit (radix : Nat) (char : Char) : Bool :=
  (Text.hexDigit? char).any (· < radix)

def whole? (text : List Char) : Option (List Char) :=
  match digits? Text.isAsciiDigit text with
  | some ['0'] => some ['0']
  | some ('0' :: _) => none
  | digits => digits

def integer? (text : List Char) : Option Int :=
  let prefixed (radix : Nat) (digits : List Char) : Option Int :=
    (digits? (isRadixDigit radix) digits).bind (Numeral.integer? radix)
  match text with
  | '0' :: 'x' :: digits => prefixed 16 digits
  | '0' :: 'o' :: digits => prefixed 8 digits
  | '0' :: 'b' :: digits => prefixed 2 digits
  | _ => do
      let (negative, rest) := Numeral.sign text
      let digits ← whole? rest
      let value := Numeral.signed negative (Numeral.natValue digits)
      if Numeral.fitsSigned value then some value else none

def power? : List Char → Option Int
  | [] => some 0
  | mark :: rest =>
      if mark = 'e' ∨ mark = 'E' then do
        let (negative, rest) := Numeral.sign rest
        let digits ← digits? Text.isAsciiDigit rest
        return Numeral.signed negative (Numeral.natValue digits)
      else
        none

def isMantissaChar (char : Char) : Bool :=
  Text.isAsciiDigit char || char == '_'

def afterPoint? : Reader (List Char)
  | '.' :: rest =>
      (digits? Text.isAsciiDigit (rest.takeWhile isMantissaChar)).map fun fraction =>
        (fraction, rest.dropWhile isMantissaChar)
  | rest => some ([], rest)

def fraction? (text : List Char) : Option Numeral.Real :=
  let (negative, rest) := Numeral.sign text
  match rest with
  | ['i', 'n', 'f'] => some (.infinite negative)
  | ['n', 'a', 'n'] => some .notANumber
  | _ => do
      let whole ← whole? (rest.takeWhile isMantissaChar)
      if rest.all isMantissaChar then
        none
      let (fraction, rest) ← afterPoint? (rest.dropWhile isMantissaChar)
      let power ← power? rest
      let value := Numeral.Real.ofParts negative whole fraction power
      if value.isFinite then some value else none

/-! ### Dates and times -/

def pad (width value : Nat) : List Char :=
  let digits := Nat.toDigits 10 value
  List.replicate (width - digits.length) '0' ++ digits

def daysIn (year month : Nat) : Nat :=
  if month = 2 then
    if year % 4 = 0 ∧ (year % 100 ≠ 0 ∨ year % 400 = 0) then 29 else 28
  else if month = 4 ∨ month = 6 ∨ month = 9 ∨ month = 11 then 30
  else 31

def date? : Reader (List Char) := fun text => do
  let (year, rest) ← Reader.decimal 4 text
  let (_, rest) ← Reader.expect '-' rest
  let (month, rest) ← Reader.decimal 2 rest
  let (_, rest) ← Reader.expect '-' rest
  let (day, rest) ← Reader.decimal 2 rest
  if 1 ≤ month ∧ month ≤ 12 ∧ 1 ≤ day ∧ day ≤ daysIn year month then
    return (pad 4 year ++ '-' :: pad 2 month ++ '-' :: pad 2 day, rest)
  else
    none

/-- The digits behind the seconds: the first nine, without the zeros at the end,
but one of them at least. -/
def secondsFraction? : Reader (List Char)
  | '.' :: rest =>
      match rest.takeWhile Text.isAsciiDigit with
      | [] => none
      | digits =>
          let kept := ((digits.take 9).reverse.dropWhile (· == '0')).reverse
          some ('.' :: (if kept.isEmpty then ['0'] else kept), rest.dropWhile Text.isAsciiDigit)
  | rest => some ([], rest)

def seconds? : Reader (List Char)
  | ':' :: rest => do
      let (second, rest) ← Reader.decimal 2 rest
      let (fraction, rest) ← secondsFraction? rest
      if second ≤ 60 then some (':' :: pad 2 second ++ fraction, rest) else none
  | rest => some ([], rest)

def time? : Reader (List Char) := fun text => do
  let (hour, rest) ← Reader.decimal 2 text
  let (_, rest) ← Reader.expect ':' rest
  let (minute, rest) ← Reader.decimal 2 rest
  let (seconds, rest) ← seconds? rest
  if hour < 24 ∧ minute < 60 then
    return (pad 2 hour ++ ':' :: pad 2 minute ++ seconds, rest)
  else
    none

def offset? : Reader (List Char)
  | [] => some ([], [])
  | mark :: rest =>
      if mark = 'Z' ∨ mark = 'z' then
        some (['Z'], rest)
      else if mark = '+' ∨ mark = '-' then do
        let (hour, rest) ← Reader.decimal 2 rest
        let (_, rest) ← Reader.expect ':' rest
        let (minute, rest) ← Reader.decimal 2 rest
        if hour < 24 ∧ minute < 60 then
          let sign := if hour = 0 ∧ minute = 0 then '+' else mark
          return (sign :: pad 2 hour ++ ':' :: pad 2 minute, rest)
        else
          none
      else
        some ([], mark :: rest)

def moment? (text : List Char) : Option (List Char) :=
  match date? text with
  | some (date, []) => some date
  | some (date, mark :: rest) =>
      if mark = 'T' ∨ mark = 't' ∨ mark = ' ' then do
        let (time, rest) ← time? rest
        let (offset, rest) ← offset? rest
        if rest.isEmpty then some (date ++ 'T' :: time ++ offset) else none
      else
        none
  | none => do
      let (time, rest) ← time? text
      if rest.isEmpty then some time else none

/-! ### Any of them -/

def isScalarChar (char : Char) : Bool :=
  Text.isAsciiLetter char || Text.isAsciiDigit char || ['+', '-', '_', '.', ':'].contains char

/-- A word, and what follows it; a date takes a time behind a space with it. -/
def word (text : List Char) : List Char × List Char :=
  let first := text.takeWhile isScalarChar
  let rest := text.dropWhile isScalarChar
  match rest with
  | ' ' :: digit :: _ =>
      if (date? first).any (fun (_, after) => after.isEmpty) && Text.isAsciiDigit digit then
        (first ++ ' ' :: (rest.drop 1).takeWhile isScalarChar, (rest.drop 1).dropWhile isScalarChar)
      else
        (first, rest)
  | _ => (first, rest)

def scalarOf? (text : List Char) : Option Setting :=
  if text = "true".toList then some (.bool true)
  else if text = "false".toList then some (.bool false)
  else
    match integer? text with
    | some value => some (.number (Numeral.integerText value))
    | none =>
        match fraction? text with
        | some value => some (.number value.text)
        | none => (moment? text).map fun moment => .text (String.ofList moment)

def scalar? : Reader Setting := fun text =>
  let (written, rest) := word text
  (scalarOf? written).map fun setting => (setting, rest)

end Toml

end PageCheck
