import LidarOdometry.Decimal.Read
import LidarOdometry.Numeric.Word
import LidarOdometry.Settings.Reader
import LidarOdometry.Settings.Value

/-!
# Literals of TOML

Numbers, strings, truth values and moments, as they stand in TOML documents, together with the
blanks and comments between them.

## Main definitions

* `Toml.quoted`, `Toml.text`: strings of one line, and strings of either kind.
* `Toml.integer`, `Toml.real`: numbers. Integers keep to signed 64-bit words; a real number that
  is too large for a float is refused.
* `Toml.moment`: dates and times.
* `Toml.literal`: any of them.
-/

namespace LidarOdometry.Toml

open Reader

/-! ### Blanks -/

/-- A space or a tab. -/
def isBlank (c : Char) : Bool :=
  c == ' ' || c == '\t'

/-- Spaces and tabs. -/
def blanks : Reader Unit := do
  let _ ← many (satisfy isBlank)

/-- The end of a line. -/
def newline : Reader Unit :=
  exactly ['\n'] <|> exactly ['\r', '\n']

/-- A character that may stand in comments and strings: no control character but the tab. -/
def isPrintable (c : Char) : Bool :=
  c == '\t' || (' ' ≤ c && c ≠ '\x7f')

/-- A comment, up to the end of its line. -/
def comment : Reader Unit := do
  char '#'
  let _ ← many (satisfy isPrintable)

/-- What may stand between the parts of a value that spans lines: blanks and, line by line,
comments. -/
def gaps : Reader Unit := do
  let _ ← many do
    blanks
    let _ ← optional comment
    newline
  blanks

/-! ### Strings -/

/-- The value of a hexadecimal digit. -/
def hexValue (c : Char) : Nat :=
  if c.isDigit then c.toNat - '0'.toNat else c.toLower.toNat - 'a'.toNat + 10

/-- Whether a character is a hexadecimal digit. -/
def isHexDigit (c : Char) : Bool :=
  c.isDigit || ('a' ≤ c.toLower && c.toLower ≤ 'f')

/-- The number that digits stand for in a base. -/
def valueOf (base : Nat) (digits : List Char) : Nat :=
  digits.foldl (fun n c => base * n + hexValue c) 0

/-- A character given by a number of hexadecimal digits. -/
def codePoint (digits : Nat) : Reader Char := do
  let code := valueOf 16 (← times digits (satisfy isHexDigit))
  if code < 0xD800 ∨ (0xDFFF < code ∧ code < 0x110000) then return Char.ofNat code else failure

/-- A character given by a backslash and what follows it. -/
def escaped : Reader Char := do
  char '\\'
  match ← satisfy fun _ => true with
  | 'b' => return '\x08'
  | 't' => return '\t'
  | 'n' => return '\n'
  | 'f' => return '\x0c'
  | 'r' => return '\r'
  | '"' => return '"'
  | '\\' => return '\\'
  | 'u' => codePoint 4
  | 'U' => codePoint 8
  | _ => failure

/-- A string of one line in double quotes, in which the backslash escapes. -/
def escapedLine : Reader (List Char) := do
  char '"'
  let cs ← many (escaped <|> satisfy fun c => isPrintable c && c != '"' && c != '\\')
  char '"'
  return cs

/-- A string of one line in single quotes, taken as it is. -/
def plainLine : Reader (List Char) := do
  char '\''
  let cs ← many (satisfy fun c => isPrintable c && c != '\'')
  char '\''
  return cs

/-- A string of one line. -/
def quoted : Reader String := do
  return String.ofList (← escapedLine <|> plainLine)

/-- The end of a line within a string, which reads as a line feed whatever it is. -/
def lineFeed : Reader (List Char) := do
  newline
  return ['\n']

/-- A backslash at the end of a line, which joins it to the next text that is not blank. -/
def joint : Reader (List Char) := do
  char '\\'
  blanks
  newline
  let _ ← many ((do let _ ← satisfy isBlank) <|> newline)
  return []

/-- A quote that is not the first of three. -/
def loneQuote (quote : Char) : Reader (List Char) := do
  notFollowedBy [quote, quote, quote]
  char quote
  return [quote]

/-- Three quotes that end a string, after up to two that still belong to it. -/
def closing (quote : Char) : Reader (List Char) :=
  (do exactly (List.replicate 5 quote); return [quote, quote]) <|>
  (do exactly (List.replicate 4 quote); return [quote]) <|>
  (do exactly (List.replicate 3 quote); return [])

/-- A string over several lines between three quotes, made of the given pieces. A line end right
after the opening quotes does not count. -/
def lines (quote : Char) (piece : Reader (List Char)) : Reader (List Char) := do
  exactly [quote, quote, quote]
  let _ ← optional newline
  let pieces ← many (loneQuote quote <|> lineFeed <|> piece)
  let last ← closing quote
  return pieces.flatten ++ last

/-- A string over several lines in which the backslash escapes. -/
def escapedLines : Reader (List Char) :=
  lines '"' (joint <|> (do return [← escaped]) <|>
    (do return [← satisfy fun c => isPrintable c && c != '"' && c != '\\']))

/-- A string over several lines, taken as it is. -/
def plainLines : Reader (List Char) :=
  lines '\'' (do return [← satisfy fun c => isPrintable c && c != '\''])

/-- **A string.** -/
def text : Reader Setting := do
  return .text (String.ofList (← escapedLines <|> plainLines <|> escapedLine <|> plainLine))

/-! ### Numbers -/

/-- Digits of a kind, single underscores between which do not count. -/
def digits (isWanted : Char → Bool) : Reader (List Char) := do
  let first ← satisfy isWanted
  let rest ← many (satisfy isWanted <|> do char '_'; satisfy isWanted)
  return first :: rest

/-- A sign, if there is one; whether it is a minus. -/
def sign : Reader Bool :=
  (do char '-'; return true) <|> (do char '+'; return false) <|> pure false

/-- The digits of a whole number, which begin with zero only if that is all. -/
def wholeDigits : Reader (List Char) :=
  (do char '0'; return ['0']) <|> digits Char.isDigit

/-- A whole number with a sign. -/
def decimalInteger : Reader Int := do
  let isNegative ← sign
  let n := valueOf 10 (← wholeDigits)
  return if isNegative then -(n : Int) else n

/-- A number in another base, announced by a zero and a letter. -/
def basedInteger (letter : Char) (base : Nat) (isWanted : Char → Bool) : Reader Int := do
  exactly ['0', letter]
  return (valueOf base (← digits isWanted) : Nat)

/-- **An integer** of a signed 64-bit word. -/
def integer : Reader Setting := do
  let n ← basedInteger 'x' 16 isHexDigit <|>
    basedInteger 'o' 8 (fun c => '0' ≤ c && c ≤ '7') <|>
    basedInteger 'b' 2 (fun c => c == '0' || c == '1') <|> decimalInteger
  if Word.least ≤ n ∧ n ≤ Word.greatest then return .integer n else failure

/-- The exponent of a real number. -/
def exponent : Reader Int := do
  let _ ← satisfy fun c => c == 'e' || c == 'E'
  let isNegative ← sign
  let n := valueOf 10 (← digits Char.isDigit)
  return if isNegative then -(n : Int) else n

/-- The places after the point of a real number. -/
def places : Reader (List Char) := do
  char '.'
  digits Char.isDigit

/-- A real number with places or an exponent, or both. -/
def finiteReal : Reader Float := do
  let isNegative ← sign
  let whole ← wholeDigits
  let fraction ← optional places
  let power ← if fraction.isSome then optional exponent else some <$> exponent
  let fraction := fraction.getD []
  let x := Decimal.toFloat (valueOf 10 (whole ++ fraction)) (power.getD 0 - fraction.length)
  let x := if isNegative then -x else x
  if x == 1.0 / 0.0 then failure else return x

/-- The values that no digits stand for. -/
def specialReal : Reader Float := do
  let isNegative ← sign
  let x ← (do exactly ['i', 'n', 'f']; return (1.0 / 0.0 : Float)) <|>
    (do exactly ['n', 'a', 'n']; return (0.0 / 0.0 : Float))
  return if isNegative then -x else x

/-- **A real number.** -/
def real : Reader Setting := do
  return .real (← finiteReal <|> specialReal)

/-! ### Moments -/

/-- A number of a fixed count of digits, within bounds. -/
def bounded (count least greatest : Nat) : Reader Nat := do
  let n := valueOf 10 (← times count (satisfy Char.isDigit))
  if least ≤ n ∧ n ≤ greatest then return n else failure

/-- The number of days of a month. -/
def daysOf (year month : Nat) : Nat :=
  if month = 2 then
    if (year % 4 = 0 ∧ year % 100 ≠ 0) ∨ year % 400 = 0 then 29 else 28
  else if month ∈ [4, 6, 9, 11] then 30 else 31

/-- A date. -/
def date : Reader Unit := do
  let year ← bounded 4 0 9999
  char '-'
  let month ← bounded 2 1 12
  char '-'
  let _ ← bounded 2 1 (daysOf year month)

/-- A time of day. A minute may have a leap second. -/
def timeOfDay : Reader Unit := do
  let _ ← bounded 2 0 23
  char ':'
  let _ ← bounded 2 0 59
  char ':'
  let _ ← bounded 2 0 60
  let _ ← optional do
    char '.'
    many1 (satisfy Char.isDigit)

/-- The difference of a time from universal time. -/
def zone : Reader Unit :=
  (do let _ ← satisfy fun c => c == 'Z' || c == 'z') <|> do
    let _ ← satisfy fun c => c == '+' || c == '-'
    let _ ← bounded 2 0 23
    char ':'
    let _ ← bounded 2 0 59

/-- **A date, a time, or both.** -/
def moment : Reader Setting := do
  (do
    date
    let _ ← optional do
      let _ ← satisfy fun c => c == 'T' || c == 't' || c == ' '
      timeOfDay
      optional zone) <|> timeOfDay
  return .moment

/-! ### Literals -/

/-- A truth value. -/
def boolean : Reader Setting :=
  (do exactly "true".toList; return .boolean true) <|>
  (do exactly "false".toList; return .boolean false)

/-- **A value without parts.** -/
def literal : Reader Setting :=
  text <|> boolean <|> moment <|> real <|> integer

end LidarOdometry.Toml
