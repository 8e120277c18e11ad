import ApiPage.Text.Range

/-!
# Text

A text is a list of characters. The functions here look at characters through predicates and at
texts through their lists, so that every one of them is a plain recursion.

## Conventions

A *line* ends at `\n` alone. *White space* is the white space of Unicode 14.0 together with the four
information separators of ASCII. Code points are natural numbers, because a string literal may
denote a surrogate, which is no character. A text holds characters alone, so where code points
become a text a surrogate is lost.
-/

namespace ApiPage

/-- **Text**: a list of characters. -/
abbrev Text := List Char

namespace Text

/-- The text of a string. -/
def of (s : String) : Text := s.toList

/-- The code points of a text. -/
def codes (t : Text) : List Nat := t.map Char.toNat

/-- The text of some code points. A surrogate becomes the replacement character, and is not told apart
from it afterwards. -/
def ofCodes (ns : List Nat) : Text :=
  ns.map fun n => if 0xD800 ≤ n && n ≤ 0xDFFF then Char.ofNat 0xFFFD else Char.ofNat n

/-- White space outside ASCII. -/
def spaceRanges : Ranges :=
  [(0x85, 0x85), (0xA0, 0xA0), (0x1680, 0x1680), (0x2000, 0x200A), (0x2028, 0x2029),
    (0x202F, 0x202F), (0x205F, 0x205F), (0x3000, 0x3000)]

/-- **White space**: tab to carriage return, the information separators, the space and the spaces
outside ASCII. -/
def isSpace (n : Nat) : Bool :=
  if n < 128 then (9 ≤ n && n ≤ 13) || (28 ≤ n && n ≤ 32) else spaceRanges.has n

/-- A white-space character. -/
def isSpaceChar (c : Char) : Bool := isSpace c.toNat

/-- A space or a tab. -/
def isBlankChar (c : Char) : Bool := c == ' ' || c == '\t'

/-! ### Trimming -/

/-- `t` without the characters at its end that satisfy `p`. -/
def dropEnd (p : Char → Bool) (t : Text) : Text := (t.reverse.dropWhile p).reverse

/-- `t` without the characters at either end that satisfy `p`. -/
def stripOf (p : Char → Bool) (t : Text) : Text := dropEnd p (t.dropWhile p)

/-- `t` without white space at either end. -/
def strip (t : Text) : Text := stripOf isSpaceChar t

/-- `t` without white space at its end. -/
def stripEnd (t : Text) : Text := dropEnd isSpaceChar t

/-- **Blank**: nothing but white space. -/
def isBlank (t : Text) : Bool := t.all isSpaceChar

/-! ### Splitting and joining -/

/-- The pieces of `t` between the characters that satisfy `p`; always at least one piece. -/
def splitBy (p : Char → Bool) : Text → List Text
  | [] => [[]]
  | c :: r =>
    if p c then [] :: splitBy p r
    else match splitBy p r with
      | [] => [[c]]
      | q :: qs => (c :: q) :: qs

/-- **Lines** of a text: its pieces between newlines. -/
def lines (t : Text) : List Text := splitBy (· == '\n') t

/-- The lines of a text, each with its newline; a last line without one is kept if it is not empty.
-/
def linesWithEnds : Text → List Text
  | [] => []
  | c :: r =>
    if c == '\n' then [c] :: linesWithEnds r
    else match linesWithEnds r with
      | [] => [[c]]
      | q :: qs => (c :: q) :: qs

/-- The texts of a list with `sep` between neighbours. -/
def join (sep : Text) : List Text → Text
  | [] => []
  | [t] => t
  | t :: ts => t ++ sep ++ join sep ts

/-- The texts of a list, one a line. -/
def joinLines (ts : List Text) : Text := join ['\n'] ts

/-- What stands before and after the first `c`, if there is one. -/
def cutAt? (c : Char) : Text → Option (Text × Text)
  | [] => none
  | d :: r => if d == c then some ([], r) else (cutAt? c r).map fun (a, b) => (d :: a, b)

/-! ### Searching -/

/-- `t` begins with `p`. -/
def startsWith (t p : Text) : Bool := p.isPrefixOf t

/-- `t` ends with `p`. -/
def endsWith (t p : Text) : Bool := p.isSuffixOf t

/-- What follows `p` at the start of `t`. -/
def dropPrefix? : Text → Text → Option Text
  | t, [] => some t
  | [], _ :: _ => none
  | c :: t, d :: p => if c == d then dropPrefix? t p else none

/-- The place of the first occurrence of `p` in `t`. -/
def find? (t p : Text) : Option Nat :=
  if startsWith t p then some 0
  else match t with
    | [] => none
    | _ :: r => (find? r p).map (· + 1)

/-- `p` occurs in `t`. -/
def hasInfix (t p : Text) : Bool := (find? t p).isSome

/-- `t` with `width` characters at least, spaces being put in front. -/
def padStart (width : Nat) (t : Text) : Text := List.replicate (width - t.length) ' ' ++ t

/-- `t` with `width` characters at least, spaces being put behind. -/
def padEnd (width : Nat) (t : Text) : Text := t ++ List.replicate (width - t.length) ' '

/-! ### Sizes -/

/-- The number of bytes of a code point in UTF-8. -/
def byteSizeOf (n : Nat) : Nat :=
  if n < 0x80 then 1 else if n < 0x800 then 2 else if n < 0x10000 then 3 else 4

/-- **UTF-8 size** of a text in bytes. -/
def byteSize (t : Text) : Nat := (t.map fun c => byteSizeOf c.toNat).foldr (· + ·) 0

/-! ### Numerals -/

/-- The digits of `n` in base `b`, least first, at most `fuel` of them. -/
def digitsRev (b : Nat) : Nat → Nat → List Nat
  | 0, _ => []
  | fuel + 1, n => if n < b then [n] else n % b :: digitsRev b fuel (n / b)

/-- The character of a digit below sixteen. -/
def digitChar (n : Nat) : Char :=
  if n < 10 then Char.ofNat (48 + n) else Char.ofNat (87 + n)

/-- **Decimal numeral** of a natural number. -/
def ofNat (n : Nat) : Text := ((digitsRev 10 (n + 1) n).map digitChar).reverse

/-- Decimal numeral of an integer. -/
def ofInt (i : Int) : Text := if i < 0 then '-' :: ofNat i.natAbs else ofNat i.natAbs

/-- Hexadecimal numeral with at least `width` digits. -/
def hex (width n : Nat) : Text :=
  let ds := ((digitsRev 16 (n + 1) n).map digitChar).reverse
  List.replicate (width - ds.length) '0' ++ ds

/-- Decimal numeral with at least `width` digits. -/
def padNat (width n : Nat) : Text :=
  let ds := ofNat n
  List.replicate (width - ds.length) '0' ++ ds

end Text
end ApiPage
