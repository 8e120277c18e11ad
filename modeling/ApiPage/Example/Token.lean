import ApiPage.Text.Basic
import ApiPage.Text.Identifier
import ApiPage.Text.Letter

/-!
# Tokens of example code

How far the tokens at the start of a text reach. Example code need not be complete or correct, so a
token is known by its first characters, and what no rule knows is a token of one character.

## Conventions

A function ending in `Length` counts the characters that a rule takes at the start of a text, none
if it does not apply. Digits and word characters are those of Unicode.
-/

namespace ApiPage.Example

/-! ### Words -/

/-- The number of word characters at the start. -/
def wordLength (t : Text) : Nat := (t.takeWhile fun c => Text.isWord c.toNat).length

/-- The text goes on with a word character. -/
def startsWithWord (t : Text) : Bool := wordLength t ≠ 0

/-- The length of the name at the start. -/
def nameLength : Text → Nat
  | [] => 0
  | c :: r =>
    if Text.isNameStart c.toNat then 1 + (r.takeWhile fun d => Text.isNameContinue d.toNat).length
    else 0

/-- The length of a name, or of a sign `@` with the name behind it. -/
def decoratorLength : Text → Nat
  | '@' :: r => 1 + nameLength r
  | t => nameLength t

/-- The number of white-space characters at the start. -/
def spaceLength (t : Text) : Nat := (t.takeWhile Text.isSpaceChar).length

/-- The number of white-space characters other than newlines at the start. -/
def gapLength (t : Text) : Nat := (t.takeWhile fun c => c ≠ '\n' && Text.isSpaceChar c).length

/-- What follows the word `w` at the start, if it ends there. -/
def afterWord? (w : String) (t : Text) : Option Text :=
  match Text.dropPrefix? t (Text.of w) with
  | some r => if startsWithWord r then none else some r
  | none => none

/-- The length of white space whose characters may each follow a backslash. -/
def looseSpaceLength : Text → Nat
  | [] => 0
  | [c] => if Text.isSpaceChar c then 1 else 0
  | c :: d :: r =>
    if Text.isSpaceChar c then 1 + looseSpaceLength (d :: r)
    else if c == '\\' && Text.isSpaceChar d then 2 + looseSpaceLength r
    else 0

/-- The length of a keyword with the space behind it. -/
def keywordLength (w : String) (t : Text) : Nat :=
  match Text.dropPrefix? t (Text.of w) with
  | some r =>
    let n := looseSpaceLength r
    if n = 0 then 0 else w.length + n
  | none => 0

/-! ### Numbers -/

/-- The length of characters in `p` that single underscores may part, after the first `seen` of
them. -/
def groupedFrom (p : Char → Bool) (seen : Bool) : Text → Nat
  | [] => 0
  | [c] => if p c then 1 else 0
  | c :: d :: r =>
    if p c then 1 + groupedFrom p true (d :: r)
    else if seen && c == '_' && p d then 1 + groupedFrom p true (d :: r)
    else 0

/-- The length of a run of digits. -/
def digitsLength (t : Text) : Nat := groupedFrom (fun c => Text.isDecimal c.toNat) false t

/-- The length of an exponent. -/
def exponentLength : Text → Nat
  | e :: r =>
    if e == 'e' || e == 'E' then
      let (sign, ds) := match r with
        | s :: r' => if s == '+' || s == '-' then (1, r') else (0, r)
        | [] => (0, r)
      let n := digitsLength ds
      if n = 0 then 0 else 1 + sign + n
    else 0
  | [] => 0

/-- The digits of a base that has a letter. -/
def baseDigit? (letter : Char) : Option (Char → Bool) :=
  let below (n : Nat) (c : Char) : Bool := 48 ≤ c.toNat && c.toNat < 48 + n
  if letter == 'o' || letter == 'O' then some (below 8)
  else if letter == 'b' || letter == 'B' then some (below 2)
  else if letter == 'x' || letter == 'X' then
    some fun c => below 10 c || ('a' ≤ c && c ≤ 'f') || ('A' ≤ c && c ≤ 'F')
  else none

/-- The length of an integer with a base letter. -/
def basedLength : Text → Nat
  | '0' :: letter :: r =>
    match baseDigit? letter with
    | some p =>
      let n := groupedFrom p true r
      if n = 0 then 0 else 2 + n
    | none => 0
  | _ => 0

/-- **The length of a number** at the start. -/
def numberLength (t : Text) : Nat :=
  let n := digitsLength t
  match t.drop n with
  | '.' :: r =>
    let m := digitsLength r
    if n = 0 && m = 0 then 0 else n + 1 + m + exponentLength (r.drop m)
  | r =>
    if n = 0 then 0
    else
      let x := exponentLength r
      if x ≠ 0 then n + x + (if (r.drop x).head? = some 'j' then 1 else 0)
      else
        let b := basedLength t
        if b = 0 then n else b

/-! ### Operators -/

/-- Operators of two characters. -/
def longOperators : List Text := ["!=", "==", "<<", ">>", ":="].map Text.of

/-- The length of an operator; other signs are tokens of their own anyway. -/
def operatorLength (t : Text) : Nat :=
  if longOperators.any (Text.startsWith t) then 2 else 0

/-! ### Replacement fields -/

/-- The length of the parts behind the name of a field: members and indices. The first argument
bounds their number. -/
def memberLength : Nat → Text → Nat
  | 0, _ => 0
  | fuel + 1, '.' :: r =>
    let n := wordLength r
    if n = 0 then 0 else 1 + n + memberLength fuel (r.drop n)
  | fuel + 1, '[' :: r =>
    let n := (r.takeWhile (· ≠ ']')).length
    if n = 0 || n = r.length then 0 else n + 2 + memberLength fuel (r.drop (n + 1))
  | _ + 1, _ => 0

/-- The length of a conversion. -/
def conversionLength : Text → Nat
  | '!' :: c :: _ => if (Text.of "sra").contains c then 2 else 0
  | _ => 0

/-- `t` without the character it starts with, if that satisfies `p`. -/
def skipOne (p : Char → Bool) : Text → Text
  | c :: r => if p c then r else c :: r
  | [] => []

/-- `t` without the digits it starts with. -/
def skipDigits (t : Text) : Text := t.dropWhile fun c => Text.isDecimal c.toNat

/-- `t` without the fraction it starts with. -/
def skipFraction : Text → Text
  | '.' :: c :: r => if Text.isDecimal c.toNat then skipDigits r else '.' :: c :: r
  | t => t

/-- The letters of presentation types. -/
def isPresentation (c : Char) : Bool := (Text.of "EFGXbcdefgnosx%").contains c

/-- What follows the end of a field whose format has its alignment behind it. -/
def afterFormat? (t : Text) : Option Text :=
  let t := skipOne (fun c => c == '-' || c == '+' || c == ' ') t
  let t := skipDigits (skipOne (· == '#') t)
  let t := skipFraction (skipOne (· == ',') t)
  match skipOne isPresentation t with
  | '\x7d' :: r => some r
  | _ => none

/-- A sign of alignment. -/
def isAlignment (c : Char) : Bool := (Text.of "<>=^").contains c

/-- What follows the end of a field from its format on. -/
def afterSpec? (t : Text) : Option Text :=
  let filled := match t with
    | c :: a :: r => if c ≠ '\n' && isAlignment a then afterFormat? r else none
    | _ => none
  let aligned := match t with
    | a :: r => if isAlignment a then afterFormat? r else none
    | [] => none
  filled <|> aligned <|> afterFormat? t

/-- **The length of a replacement field** in braces. -/
def fieldLength : Text → Nat
  | '\x7b' :: t =>
    let n := wordLength t
    let r := t.drop n
    let r := if n = 0 then r else r.drop (memberLength r.length r)
    let r := r.drop (conversionLength r)
    let rest := match r with
      | ':' :: r => afterSpec? r
      | '\x7d' :: r => some r
      | _ => none
    match rest with
    | some r => 1 + t.length - r.length
    | none => 0
  | _ => 0

end ApiPage.Example
