import BlockExplorer.Number.Power
import BlockExplorer.Text.Printable

/-!
Quoted text for messages. Single quotes stand around the text unless it holds a single quote and no
double quote. The surrounding quote, the backslash and the usual control characters are written with
a backslash; any other unprintable code point is written in hexadecimal, with two, four or eight
digits. The written form is plain characters even where the text holds a lone surrogate.
-/

namespace BlockExplorer

namespace CodePoint

abbrev singleQuote : Nat := 0x27

abbrev doubleQuote : Nat := 0x22

abbrev backslash : Nat := 0x5C

def hexDigit (n : Nat) : Nat := if n < 10 then 0x30 + n else 0x57 + n

end CodePoint

namespace Text

open CodePoint

def hexDigits : (width : Nat) → Nat → Text
  | 0, _ => []
  | width + 1, n => hexDigit (n / power 16 width % 16) :: hexDigits width n

def quoteFor (text : Text) : Nat :=
  if text.contains singleQuote && !text.contains doubleQuote then doubleQuote else singleQuote

def escaped (quote c : Nat) : Text :=
  if c = quote ∨ c = backslash then [backslash, c]
  else if c = 0x0A then [backslash, 0x6E]
  else if c = 0x0D then [backslash, 0x72]
  else if c = 0x09 then [backslash, 0x74]
  else if CodePoint.isPrintable c then [c]
  else if c < 0x100 then backslash :: 0x78 :: hexDigits 2 c
  else if c < 0x10000 then backslash :: 0x75 :: hexDigits 4 c
  else backslash :: 0x55 :: hexDigits 8 c

def quoted (text : Text) : String :=
  let quote := quoteFor text
  toString (quote :: (text.flatMap (escaped quote) ++ [quote]))

end Text

def quote (s : String) : String := Text.quoted (Text.ofString s)

end BlockExplorer
