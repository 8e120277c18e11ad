import ApiPage.Syntax.Tree

/-!
# Numerals of module source

Where a numeral ends, and what it denotes. Digits may be grouped by single underscores. A numeral
must not run into a name, except that one of a few words may follow it at once.

## Main definitions

* `numeralLength`: the length of the numeral at the start of a text, or what is wrong with it.
* `numeralValue`: the constant that a numeral denotes.
-/

namespace ApiPage.Syntax

open Decimal (Binary64)

/-- An ASCII digit. -/
def isDigitChar (c : Char) : Bool := Text.isAsciiDigit c.toNat

/-- A digit of base sixteen. -/
def isHexChar (c : Char) : Bool :=
  let n := c.toNat
  (48 ≤ n && n ≤ 57) || (65 ≤ n && n ≤ 70) || (97 ≤ n && n ≤ 102)

/-- A character that may belong to a name before its class is looked up. -/
def isNameLike (c : Char) : Bool :=
  let n := c.toNat
  128 ≤ n || Text.isAsciiLetter n || Text.isAsciiDigit n || n == 95

/-- A character that may start a name before its class is looked up. -/
def isNameLikeStart (c : Char) : Bool := isNameLike c && !isDigitChar c

/-- The words that may follow a numeral at once, each as far as it is looked at. -/
def numeralFollowers : List Text :=
  ["and", "else", "for", "if", "in", "is", "or", "not"].map Text.of

/-- A numeral may end before `t`. -/
def endsNumeral (t : Text) : Bool :=
  numeralFollowers.any (Text.startsWith t) ||
    match t with
    | c :: _ => !isNameLike c
    | [] => true

/-- The length of a run of digits with single underscores between them. `needed` says that a digit
must come next; `none` that one is missing. -/
def digitRun (isDigit : Char → Bool) (needed : Bool) : Text → Option Nat
  | [] => if needed then none else some 0
  | c :: r =>
    if isDigit c then (digitRun isDigit false r).map (· + 1)
    else if needed then none
    else if c == '_' then (digitRun isDigit true r).map (· + 1)
    else some 0

/-- The error of a numeral of some kind. -/
def badNumeral {α : Type} (kind : String) : Except Text α :=
  .error (Text.of "invalid " ++ Text.of kind ++ Text.of " literal")

/-- The run of decimal digits at the start of `t`. -/
def decimalRun (t : Text) : Except Text Nat :=
  match digitRun isDigitChar false t with
  | some n => .ok n
  | none => badNumeral "decimal"

/-- The whole length of a numeral of which `n` characters come before `t`, if it may end there. -/
def endNumeral (kind : String) (n : Nat) (t : Text) : Except Text Nat :=
  if endsNumeral t then .ok n else badNumeral kind

/-- The end of a numeral that may be imaginary. -/
def imaginaryTail (n : Nat) : Text → Except Text Nat
  | 'j' :: r => endNumeral "imaginary" (n + 1) r
  | 'J' :: r => endNumeral "imaginary" (n + 1) r
  | t => endNumeral "decimal" n t

/-- The end of a numeral after the `e` of an exponent, which is in `t` as well. -/
def exponentTail (n : Nat) (t : Text) : Except Text Nat :=
  let digits (k : Nat) (r : Text) : Except Text Nat := do
    let m ← decimalRun r
    imaginaryTail (n + k + m) (r.drop m)
  match t.drop 1 with
  | c :: r =>
    if c == '+' || c == '-' then
      match r with
      | d :: _ => if isDigitChar d then digits 2 r else badNumeral "decimal"
      | [] => badNumeral "decimal"
    else if isDigitChar c then digits 1 (c :: r)
    else endNumeral "decimal" n t
  | [] => endNumeral "decimal" n t

/-- The end of a numeral that may have an exponent. -/
def exponentOrTail (n : Nat) (t : Text) : Except Text Nat :=
  match t with
  | c :: _ => if c == 'e' || c == 'E' then exponentTail n t else imaginaryTail n t
  | [] => imaginaryTail n t

/-- The end of a numeral after its point. -/
def fractionTail (n : Nat) (t : Text) : Except Text Nat :=
  match t with
  | c :: _ =>
    if isDigitChar c then do
      let m ← decimalRun t
      exponentOrTail (n + m) (t.drop m)
    else exponentOrTail n t
  | [] => .ok n

/-- The end of a numeral in a base that a letter names; `t` follows the letter. -/
def radixTail (kind : String) (isDigit : Char → Bool) (t : Text) : Except Text Nat :=
  let (skip, r) := match t with
    | '_' :: r => (1, r)
    | r => (0, r)
  match digitRun isDigit true r with
  | none => badNumeral kind
  | some m =>
    let r := r.drop m
    match r with
    | c :: _ =>
      if kind != "hexadecimal" && isDigitChar c then badNumeral kind
      else endNumeral kind (2 + skip + m) r
    | [] => .ok (2 + skip + m)

/-- The end of a decimal numeral. A leading zero is allowed only if all digits before a point or an
exponent may be zeros. -/
def decimalTail (t : Text) : Except Text Nat := do
  let n ← decimalRun t
  let ds := (t.take n).filter isDigitChar
  let leading := ds.head? == some '0' && ds.any (· != '0')
  match t.drop n with
  | '.' :: r => fractionTail (n + 1) r
  | c :: r =>
    if c == 'e' || c == 'E' then exponentTail n (c :: r)
    else if c == 'j' || c == 'J' then imaginaryTail n (c :: r)
    else if leading then
      .error (Text.of "leading zeros in decimal integer literals are not permitted; " ++
        Text.of "use an 0o prefix for octal integers")
    else endNumeral "decimal" n (c :: r)
  | [] => .ok n

/-- **Length of a numeral** at the start of a text that begins with a digit or with a point and a
digit. -/
def numeralLength : Text → Except Text Nat
  | '.' :: r => fractionTail 1 r
  | '0' :: c :: r =>
    if c == 'x' || c == 'X' then radixTail "hexadecimal" isHexChar r
    else if c == 'o' || c == 'O' then radixTail "octal" (fun d => '0' ≤ d && d ≤ '7') r
    else if c == 'b' || c == 'B' then radixTail "binary" (fun d => d == '0' || d == '1') r
    else decimalTail ('0' :: c :: r)
  | t => decimalTail t

/-! ### Values -/

/-- The value of a digit in any base up to sixteen. -/
def digitValue (c : Char) : Nat :=
  let n := c.toNat
  if n ≤ 57 then n - 48 else if n ≤ 70 then n - 55 else n - 87

/-- The number that some digits denote. -/
def digitsValue (base : Nat) (ds : Text) : Nat :=
  ds.foldl (fun n c => n * base + digitValue c) 0

/-- The number nearest to a decimal with a fraction and an exponent. -/
def realValue (t : Text) : Binary64 :=
  let mantissa := t.takeWhile fun c => !(c == 'e' || c == 'E')
  let exponent := (t.drop mantissa.length).drop 1
  let whole := mantissa.takeWhile (· != '.')
  let fraction := (mantissa.drop whole.length).drop 1
  let x : Int := match exponent with
    | '-' :: ds => -(digitsValue 10 ds : Nat)
    | '+' :: ds => (digitsValue 10 ds : Nat)
    | ds => (digitsValue 10 ds : Nat)
  let ds := (whole ++ fraction).dropWhile (· == '0')
  Binary64.ofDecimal false (digitsValue 10 ds) ds.length (x - fraction.length)

/-- The most digits that a decimal integer may have. -/
def maxDecimalDigits : Nat := 4300

/-- **Value of a numeral**; `none` if it is a decimal integer with too many digits. -/
def numeralValue (t : Text) : Option Constant :=
  let t := t.filter (· != '_')
  match t with
  | '0' :: c :: ds =>
    if c == 'x' || c == 'X' then some (.int (digitsValue 16 ds))
    else if c == 'o' || c == 'O' then some (.int (digitsValue 8 ds))
    else if c == 'b' || c == 'B' then some (.int (digitsValue 2 ds))
    else decimalValue t
  | _ => decimalValue t
where
  /-- The value of a decimal numeral. -/
  decimalValue (t : Text) : Option Constant :=
    match t.getLast? with
    | some 'j' => some (.imaginary (realValue t.dropLast))
    | some 'J' => some (.imaginary (realValue t.dropLast))
    | _ =>
      if t.all isDigitChar then
        if maxDecimalDigits < t.length then none else some (.int (digitsValue 10 t))
      else some (.real (realValue t))

end ApiPage.Syntax
