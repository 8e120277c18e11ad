import ApiPage.Text.Named

/-!
# Escapes in string literals

What the text between the quotes of a literal denotes. A backslash before a character that begins no
escape stands for itself.

## Main definitions

* `unescape`: the code points that the text of a string denotes.
* `unescapeBytes`: the bytes that the text of a byte string denotes.
-/

namespace ApiPage.Syntax

/-- An octal digit. -/
def isOctalChar (c : Char) : Bool := '0' ≤ c && c ≤ '7'

/-- A hexadecimal digit. -/
def isHexDigit (c : Char) : Bool :=
  ('0' ≤ c && c ≤ '9') || ('a' ≤ c && c ≤ 'f') || ('A' ≤ c && c ≤ 'F')

/-- The value of a digit of base sixteen. -/
def hexDigitValue (c : Char) : Nat :=
  if c ≤ '9' then c.toNat - 48 else if c ≤ 'F' then c.toNat - 55 else c.toNat - 87

/-- The number that `n` digits of base sixteen at the start of `t` denote. -/
def hexRun? (n : Nat) (t : Text) : Option Nat :=
  let ds := t.take n
  if ds.length = n && ds.all isHexDigit then
    some (ds.foldl (fun v c => v * 16 + hexDigitValue c) 0)
  else none

/-- The characters that an escape of one letter stands for. -/
def letterEscape? : Char → Option Nat
  | '\\' => some 92
  | '\'' => some 39
  | '"' => some 34
  | 'a' => some 7
  | 'b' => some 8
  | 'f' => some 12
  | 'n' => some 10
  | 'r' => some 13
  | 't' => some 9
  | 'v' => some 11
  | _ => none

/-- **Escape**: what it stands for and the number of characters it takes after the backslash. -/
structure Escape where
  codes : List Nat
  size : Nat

/-- An escape of `n` hexadecimal digits. -/
def hexEscape? (n : Nat) (t : Text) : Option Escape :=
  match hexRun? n t with
  | some v => if v ≤ 0x10ffff then some ⟨[v], n + 1⟩ else none
  | none => none

/-- An escape of up to three octal digits. -/
def octalEscape (t : Text) : Escape :=
  let ds := (t.take 3).takeWhile isOctalChar
  ⟨[ds.foldl (fun v c => v * 8 + (c.toNat - 48)) 0], ds.length⟩

/-- An escape that names a character. -/
def nameEscape? : Text → Option Escape
  | '\x7b' :: t =>
    let name := t.takeWhile (· != '\x7d')
    if name.length < t.length then
      (Text.charNamed? name).map fun n => ⟨[n], name.length + 3⟩
    else none
  | _ => none

/-- The escape of a string that follows a backslash; `none` if it is wrong. -/
def escapeAt : Text → Option Escape
  | [] => some ⟨[92], 0⟩
  | '\n' :: _ => some ⟨[], 1⟩
  | 'x' :: t => hexEscape? 2 t
  | 'u' :: t => hexEscape? 4 t
  | 'U' :: t => hexEscape? 8 t
  | 'N' :: t => nameEscape? t
  | c :: t =>
    match letterEscape? c with
    | some n => some ⟨[n], 1⟩
    | none => if isOctalChar c then some (octalEscape (c :: t)) else some ⟨[92], 0⟩

/-- The escape of a byte string that follows a backslash; `none` if it is wrong. -/
def byteEscapeAt : Text → Option Escape
  | [] => none
  | '\n' :: _ => some ⟨[], 1⟩
  | 'x' :: t => hexEscape? 2 t
  | c :: t =>
    match letterEscape? c with
    | some n => some ⟨[n], 1⟩
    | none =>
      if isOctalChar c then
        let e := octalEscape (c :: t)
        some { e with codes := e.codes.map (· % 256) }
      else some ⟨[92], 0⟩

/-- Replaces the escapes that `escape` finds. The first argument counts the characters that the last
escape takes yet. -/
def unescapeWith (escape : Text → Option Escape) : Nat → Text → Option (List Nat)
  | _, [] => some []
  | n + 1, _ :: t => unescapeWith escape n t
  | 0, c :: t =>
    if c == '\\' then
      match escape t with
      | some e => (unescapeWith escape e.size t).map (e.codes ++ ·)
      | none => none
    else (unescapeWith escape 0 t).map (c.toNat :: ·)

/-- **What the text of a string denotes**; `none` if an escape is wrong. -/
def unescape (t : Text) : Option (List Nat) := unescapeWith escapeAt 0 t

/-- **What the text of a byte string denotes**; `none` if an escape is wrong. -/
def unescapeBytes (t : Text) : Option (List Nat) := unescapeWith byteEscapeAt 0 t

end ApiPage.Syntax
