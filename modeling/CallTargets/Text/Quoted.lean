import CallTargets.Text.Printable

/-!
# Quoted text

A text in quotes, in which everything that cannot be shown as it is appears as an escape, and a list of such texts.
-/

namespace CallTargets

namespace Quoted

/-- A character as it appears between quotes. -/
def showChar (c : Char) : String :=
  if c = '"' then "\\\""
  else if c = '\\' then "\\\\"
  else if c = '\n' then "\\n"
  else if c = '\r' then "\\r"
  else if c = '\t' then "\\t"
  else if c.toNat = 0 then "\\0"
  else if isPrintable c then c.toString
  else "\\u\x7b" ++ String.ofList (Nat.toDigits 16 c.toNat) ++ "\x7d"

/-- A text in quotes. -/
def quote (s : String) : String := "\"" ++ String.join (s.toList.map showChar) ++ "\""

/-- A list of texts in quotes. -/
def quoteAll (texts : List String) : String := "[" ++ ", ".intercalate (texts.map quote) ++ "]"

end Quoted

end CallTargets
