import OperatorShell.Text.Digits
import OperatorShell.Toml.Table

/-!
# TOML scalars

Values without quotes and brackets: truth values, whole numbers, floating-point
numbers, dates and times.  A scalar is read as the whole run of characters that can
stand in one, and then has to have one of these forms.
-/

namespace OperatorShell.Toml

open Text

/-- Whether a character can stand in a scalar. -/
def isScalarChar (character : Char) : Bool :=
  character.isAlphanum || ['_', '+', '-', '.', ':'].contains character

/-- Whether a character is a digit of a base. -/
def isDigitOf (base : Nat) (character : Char) : Bool :=
  (digitValue? base character).isSome

/-- Whether a text is made of digits with single underscores between them. -/
def isDigitGroup (base : Nat) : List Char → Bool
  | [] => false
  | [digit] => isDigitOf base digit
  | digit :: '_' :: rest => isDigitOf base digit && isDigitGroup base rest
  | digit :: rest => isDigitOf base digit && isDigitGroup base rest

/-- Whether a text is a decimal number without a sign and without idle zeros. -/
def isDecimal (text : List Char) : Bool :=
  isDigitGroup 10 text && (text == ['0'] || text.head? != some '0')

/-- The number that a group of digits writes. -/
def groupValue (base : Nat) (digits : List Char) : Nat :=
  (number? base (digits.filter (· != '_'))).getD 0

/-- The largest whole number. -/
def maxInteger : Nat := 0x7FFFFFFFFFFFFFFF

/-- A number that is not above a limit. -/
def within? (limit value : Nat) : Option Nat :=
  if value ≤ limit then some value else none

/-- The whole number that a text writes in a base. -/
def prefixed? (base : Nat) (digits : List Char) : Option Int :=
  if isDigitGroup base digits then
    (within? maxInteger (groupValue base digits)).map Int.ofNat
  else none

/-- The absolute value of a decimal number. -/
def magnitude? (limit : Nat) (text : List Char) : Option Nat :=
  if isDecimal text then within? limit (groupValue 10 text) else none

/-- The whole number that a text writes. -/
def integer? : List Char → Option Int
  | '0' :: 'x' :: digits => prefixed? 16 digits
  | '0' :: 'o' :: digits => prefixed? 8 digits
  | '0' :: 'b' :: digits => prefixed? 2 digits
  | '-' :: digits =>
      (magnitude? (maxInteger + 1) digits).map fun value => -Int.ofNat value
  | '+' :: digits => (magnitude? maxInteger digits).map Int.ofNat
  | digits => (magnitude? maxInteger digits).map Int.ofNat

/-- A decimal fraction without its sign: a whole number times a power of ten. -/
structure Decimal where
  digits : List Char
  exponent : Int

/-- Whether a character can stand in a group of decimal digits. -/
def isGroupChar (character : Char) : Bool := character.isDigit || character == '_'

/-- The exponent after its mark. -/
def exponent? (text : List Char) : Option Int :=
  let (negative, digits) :=
    match text with
    | '-' :: digits => (true, digits)
    | '+' :: digits => (false, digits)
    | digits => (false, digits)
  if isDigitGroup 10 digits then
    let value := Int.ofNat (groupValue 10 digits)
    some (if negative then -value else value)
  else none

/-- The exponent of a floating-point number, if the text has one. -/
def exponentPart? : List Char → Option Int
  | [] => some 0
  | mark :: rest => if mark = 'e' ∨ mark = 'E' then exponent? rest else none

/-- The floating-point number that a text without a sign writes.  It has a fraction,
an exponent or both. -/
def decimal? (text : List Char) : Option Decimal :=
  let whole := text.takeWhile isGroupChar
  if isDecimal whole then
    match text.dropWhile isGroupChar with
    | [] => none
    | '.' :: rest =>
        let fraction := rest.takeWhile isGroupChar
        if isDigitGroup 10 fraction then
          let digits := (whole ++ fraction).filter (· != '_')
          let places := (fraction.filter (· != '_')).length
          (exponentPart? (rest.dropWhile isGroupChar)).map fun exponent =>
            ⟨digits, exponent - places⟩
        else none
    | rest =>
        (exponentPart? rest).map fun exponent =>
          ⟨whole.filter (· != '_'), exponent⟩
  else none

/-- The smallest number that is too large for a floating-point number of 64 bits. -/
def floatBound : Nat := Nat.pow 2 1024 - Nat.pow 2 970

/-- Number of decimal digits of numbers that are surely not too large. -/
def safeDigits : Nat := 308

/-- Whether a number is too large for a floating-point number of 64 bits. -/
def Decimal.overflows (number : Decimal) : Bool :=
  let value := groupValue 10 number.digits
  if value = 0 then false
  else
    match number.exponent with
    | .ofNat exponent =>
        decide (safeDigits < exponent) || decide (floatBound ≤ value * Nat.pow 10 exponent)
    | .negSucc exponent =>
        decide (exponent + 1 + safeDigits < number.digits.length) &&
          decide (floatBound * Nat.pow 10 (exponent + 1) ≤ value)

/-- Whether a text without a sign names one of the special floating-point numbers. -/
def isSpecialFloat (text : List Char) : Bool :=
  text == "inf".toList || text == "nan".toList

/-- Whether a text is a floating-point number. -/
def isFloat : List Char → Bool
  | '-' :: text => isSpecialFloat text || (decimal? text).isSome
  | '+' :: text => isSpecialFloat text || (decimal? text).any (!·.overflows)
  | text => isSpecialFloat text || (decimal? text).any (!·.overflows)

/-- Number of days in a month. -/
def daysIn (year month : Nat) : Nat :=
  if month = 2 then
    if year % 4 = 0 ∧ (year % 100 ≠ 0 ∨ year % 400 = 0) then 29 else 28
  else if month = 4 ∨ month = 6 ∨ month = 9 ∨ month = 11 then 30
  else 31

/-- The text after a date. -/
def afterDate? : List Char → Option (List Char)
  | year1 :: year2 :: year3 :: year4 :: '-' :: month1 :: month2 :: '-' :: day1 ::
      day2 :: rest => do
      let year ← number? 10 [year1, year2, year3, year4]
      let month ← number? 10 [month1, month2]
      let day ← number? 10 [day1, day2]
      if 1 ≤ month ∧ month ≤ 12 ∧ 1 ≤ day ∧ day ≤ daysIn year month then some rest
      else none
  | _ => none

/-- The text after an hour and a minute. -/
def afterMinutes? : List Char → Option (List Char)
  | hour1 :: hour2 :: ':' :: minute1 :: minute2 :: rest => do
      let hour ← number? 10 [hour1, hour2]
      let minute ← number? 10 [minute1, minute2]
      if hour ≤ 23 ∧ minute ≤ 59 then some rest else none
  | _ => none

/-- The text after a fraction of a second, if there is one. -/
def afterFraction? : List Char → Option (List Char)
  | '.' :: rest =>
      if (rest.head?.map Char.isDigit).getD false then
        some (rest.dropWhile Char.isDigit)
      else none
  | rest => some rest

/-- The text after a time of day.  A minute can have a leap second. -/
def afterTime? (text : List Char) : Option (List Char) :=
  match afterMinutes? text with
  | some (':' :: second1 :: second2 :: rest) => do
      let second ← number? 10 [second1, second2]
      if second ≤ 60 then afterFraction? rest else none
  | _ => none

/-- Whether a text is what can follow the time of a date. -/
def isOffset : List Char → Bool
  | [] => true
  | ['Z'] => true
  | ['z'] => true
  | sign :: rest => (sign == '+' || sign == '-') && afterMinutes? rest == some []

/-- Whether a text is a date, a time or both. -/
def isDateTime (text : List Char) : Bool :=
  match afterDate? text with
  | some [] => true
  | some (separator :: time) =>
      ['T', 't', ' '].contains separator && (afterTime? time).any isOffset
  | none => afterTime? text == some []

/-- The value of a scalar. -/
def scalar? (text : List Char) : Option Value :=
  match integer? text with
  | some value => some (.integer value)
  | none =>
      if text = "true".toList ∨ text = "false".toList ∨ isFloat text ∨
          isDateTime text then
        some .other
      else none

/-- The run of scalar characters at the start of a text, and the rest.  A time can
stand behind a date with a space between them. -/
def scalarRun (text : List Char) : List Char × List Char :=
  let run := text.takeWhile isScalarChar
  let rest := text.dropWhile isScalarChar
  match afterDate? run, rest with
  | some [], ' ' :: later =>
      let time := later.takeWhile isScalarChar
      if (afterTime? time).isSome then
        (run ++ ' ' :: time, later.dropWhile isScalarChar)
      else (run, rest)
  | _, _ => (run, rest)

/-- Read a scalar. -/
def readScalar? (text : List Char) : Option (Value × List Char) :=
  let (run, rest) := scalarRun text
  (scalar? run).map (·, rest)

end OperatorShell.Toml
