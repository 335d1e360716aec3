import LogicAnalyzer.Text.Printable

/-!
# Quoted texts

Messages show a text that a caller handed over between double quotes.  A character that
would end the quotation, break the line or not show at all is written as an escape, so the
reader of a message sees exactly which characters the text has.

## Main definitions

* `Text.escape`: the written form of one character
* `Text.quote`: a whole text between quotes
* `Text.hex`: a number in hexadecimal, padded to a least number of digits
-/

namespace LogicAnalyzer.Text

/-- A number in lower-case hexadecimal, with zeros in front up to `digits` digits. -/
def hex (digits value : Nat) : List Char :=
  let shown := Nat.toDigits 16 value
  List.replicate (digits - shown.length) '0' ++ shown

/-- **The written form of a character** inside double quotes: six characters have an escape
of their own, one that does not show for itself is written by its code point, and all
others stand as they are. -/
def escape (c : Char) : List Char :=
  if c = '\x00' then ['\\', '0']
  else if c = '\t' then ['\\', 't']
  else if c = '\r' then ['\\', 'r']
  else if c = '\n' then ['\\', 'n']
  else if c = '\\' then ['\\', '\\']
  else if c = '"' then ['\\', '"']
  else if isAttaching c || isUnprintable c then
    ['\\', 'u', '\x7b'] ++ hex 1 c.toNat ++ ['\x7d']
  else [c]

/-- A text between double quotes. -/
def quote (text : String) : String :=
  String.ofList (['"'] ++ text.toList.flatMap escape ++ ['"'])

end LogicAnalyzer.Text
