import RunLog.Text.Printable

/-!
# Quoted text

Diagnostics show a text between quotes.  The quote is `'`, unless the text holds that quote and no
`"`.  A backslash, the quote in use, a line feed, a carriage return and a tabulator are shown as
two-character escapes, every other code point that is not printable by its number.
-/

namespace RunLog
namespace Text

/-- The lower-case hexadecimal digits of a number, filled up with zeros to a least width. -/
def hexNumber (width number : Nat) : Text :=
  let digits := (Nat.toDigits 16 number).map CodePoint.ofChar
  List.replicate (width - digits.length) (CodePoint.ofChar '0') ++ digits

/-- How a code point stands inside quotes. -/
def quotedPoint (quote : CodePoint) (point : CodePoint) : Text :=
  if point == quote || point.is '\\' then [CodePoint.ofChar '\\', point]
  else if point.is '\n' then "\\n"
  else if point.is '\r' then "\\r"
  else if point.is '\t' then "\\t"
  else if isPrintable point then [point]
  else if point.val < 0x100 then "\\x" ++ hexNumber 2 point.val
  else if point.val < 0x10000 then "\\u" ++ hexNumber 4 point.val
  else "\\U" ++ hexNumber 8 point.val

/-- The quote that is used around a text. -/
def quoteFor (text : Text) : CodePoint :=
  if text.any (·.is '\'') && !text.any (·.is '"') then CodePoint.ofChar '"'
  else CodePoint.ofChar '\''

/-- A text between quotes, as diagnostics show it. -/
def quoted (text : Text) : Text :=
  let quote := quoteFor text
  quote :: text.flatMap (quotedPoint quote) ++ [quote]

end Text
end RunLog
