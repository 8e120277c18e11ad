import ApiPage.Datum.Basic

/-!
# JSON

The JSON text of a datum, in ASCII and without spaces. A character outside ASCII is written by its
UTF-16 units. What can be called is written as a string with its source form.
-/

namespace ApiPage.Datum

open Decimal (FloatStyle)

/-- A UTF-16 unit by number. -/
def jsonUnit (n : Nat) : Text := Text.of "\\u" ++ Text.hex 4 n

/-- One character of a JSON string. -/
def jsonChar (c : Char) : Text :=
  let n := c.toNat
  match c with
  | '"' => Text.of "\\\""
  | '\\' => Text.of "\\\\"
  | '\n' => Text.of "\\n"
  | '\r' => Text.of "\\r"
  | '\t' => Text.of "\\t"
  | '\x08' => Text.of "\\b"
  | '\x0c' => Text.of "\\f"
  | _ =>
    if 32 ≤ n && n < 127 then [c]
    else if n < 0x10000 then jsonUnit n
    else jsonUnit (0xD800 + (n - 0x10000) / 0x400) ++ jsonUnit (0xDC00 + (n - 0x10000) % 0x400)

/-- A JSON string. -/
def jsonString (t : Text) : Text := '"' :: t.flatMap jsonChar ++ ['"']

/-- The style of a JSON number that is no integer. -/
def jsonStyle : FloatStyle := { FloatStyle.real with infinity := Text.of "Infinity" }

mutual

/-- **JSON text** of a datum. -/
def json : Datum → Text
  | null => Text.of "null"
  | bool b => Text.of (if b then "true" else "false")
  | int i => Text.ofInt i
  | real x => x.toText jsonStyle
  | text t => jsonString t
  | list xs => '[' :: Text.join [','] (jsonItems xs) ++ [']']
  | record fs => '\x7b' :: Text.join [','] (jsonFields fs) ++ ['\x7d']
  | callable _ form _ => jsonString form

/-- The JSON texts of some data. -/
def jsonItems : List Datum → List Text
  | [] => []
  | x :: xs => json x :: jsonItems xs

/-- The JSON texts of some fields. -/
def jsonFields : List (Text × Datum) → List Text
  | [] => []
  | (k, x) :: fs => (jsonString k ++ ':' :: json x) :: jsonFields fs

end

end ApiPage.Datum
