import ApiPage.Text.Basic
import ApiPage.Text.Printable

/-!
# Quoted literals

The written form of a string or of bytes between quotes. A quote is an apostrophe, unless the
content holds an apostrophe and no double quote. Inside, the quote and the backslash are escaped,
tab, newline and carriage return are written by letter, and what is not printable by number.
-/

namespace ApiPage.Text

/-- The escape of a code point: by letter, by two, four or eight hexadecimal digits. -/
def escapeCode (n : Nat) : Text :=
  if n = 9 then of "\\t"
  else if n = 10 then of "\\n"
  else if n = 13 then of "\\r"
  else if n = 92 then of "\\\\"
  else if n < 0x100 then of "\\x" ++ hex 2 n
  else if n < 0x10000 then of "\\u" ++ hex 4 n
  else of "\\U" ++ hex 8 n

/-- The quote a literal is written with: an apostrophe if it can stand unescaped or if a double
quote could not either. -/
def quoteFor (s : List Nat) : Char :=
  if s.contains 39 && !s.contains 34 then '"' else '\''

/-- One code point inside a literal quoted by `q`. -/
def quotedCode (q : Char) (n : Nat) : Text :=
  if n = q.toNat then ['\\', q]
  else if n = 92 || !isPrintable n then escapeCode n
  else [Char.ofNat n]

/-- **Quoted string**: the literal that denotes the code points `s`. -/
def quote (s : List Nat) : Text :=
  let q := quoteFor s
  q :: s.flatMap (quotedCode q) ++ [q]

/-- One byte inside a literal quoted by `q`. -/
def quotedByte (q : Char) (n : Nat) : Text :=
  if n = q.toNat then ['\\', q]
  else if n = 92 || n < 32 || 127 ≤ n then escapeCode n
  else [Char.ofNat n]

/-- **Quoted bytes**: the literal that denotes the bytes `s`. -/
def quoteBytes (s : List Nat) : Text :=
  let q := quoteFor s
  'b' :: q :: s.flatMap (quotedByte q) ++ [q]

end ApiPage.Text
