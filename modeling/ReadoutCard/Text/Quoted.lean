import ReadoutCard.Text.Hex
import ReadoutCard.Text.Hidden

/-! # Text in quotation marks, with everything visible

A quotation mark and a backslash get a backslash before them; null, tab, line feed and carriage
return are written by letter; every other hidden character is written by its code point.
-/

namespace ReadoutCard.Text.Quoted

/-- What stands for one character between the quotation marks. -/
def escape (c : Char) : String :=
  match c with
  | '\x22' => "\\\""
  | '\\' => "\\\\"
  | '\x00' => "\\0"
  | '\t' => "\\t"
  | '\n' => "\\n"
  | '\r' => "\\r"
  | c => if isHidden c then "\\u\x7b" ++ hex c.toNat ++ "\x7d" else String.singleton c

/-- The text in quotation marks. -/
def quote (text : String) : String :=
  "\"" ++ String.join (text.toList.map escape) ++ "\""

end ReadoutCard.Text.Quoted
