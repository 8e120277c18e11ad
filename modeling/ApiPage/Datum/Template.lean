import ApiPage.Datum.Basic
import ApiPage.Decimal.Places

/-!
# Message templates

A log message is a template: text with conversions such as `%s`, `%5d` or `%(key)r` that take their
values from a list of arguments or from the fields of one record.

A conversion is a percent sign, an optional key in parentheses, flags, a width, a precision, an
ignored size letter, and the letter that says how the value is written.
-/

namespace ApiPage.Datum

open Decimal (Binary64)

/-- Why a template cannot be filled. -/
inductive TemplateError
  | tooFewArguments
  | tooManyArguments
  | recordRequired
  | missingKey (key : Text)
  | unfinishedKey
  | unfinished
  | starNotInt
  | notReal (letter : Char) (type : Text)
  | notInteger (letter : Char) (type : Text)
  | notFloat (type : Text)
  | notChar
  | charTooLarge
  | infiniteInteger
  | unsupported (letter : Char) (index : Nat)
  deriving DecidableEq, Inhabited

/-- The wording of an error. -/
def TemplateError.message : TemplateError → Text
  | tooFewArguments => Text.of "not enough arguments for format string"
  | tooManyArguments => Text.of "not all arguments converted during string formatting"
  | recordRequired => Text.of "format requires a mapping"
  | missingKey key => Text.quote (Text.codes key)
  | unfinishedKey => Text.of "incomplete format key"
  | unfinished => Text.of "incomplete format"
  | starNotInt => Text.of "* wants int"
  | notReal c t => '%' :: c :: Text.of " format: a real number is required, not " ++ t
  | notInteger c t => '%' :: c :: Text.of " format: an integer is required, not " ++ t
  | notFloat t => Text.of "must be real number, not " ++ t
  | notChar => Text.of "%c requires int or char"
  | charTooLarge => Text.of "%c arg not in range(0x110000)"
  | infiniteInteger => Text.of "cannot convert float infinity to integer"
  | unsupported c i =>
    let shown := if 31 ≤ c.toNat && c.toNat ≤ 126 then c else '?'
    Text.of "unsupported format character '" ++ shown :: Text.of "' (0x" ++ Text.hex 1 c.toNat ++
      Text.of ") at index " ++ Text.ofNat i

/-! ### Arguments -/

/-- **Arguments** of a template: the values left to convert, and the record that keys refer to.
`reusable` says that a value left over is no fault. -/
structure Arguments where
  values : List Datum
  keyed : Option (List (Text × Datum))

/-- The arguments as given: a single record with fields is referred to by key. -/
def Arguments.of : List Datum → Arguments
  | [record (f :: fs)] => ⟨[record (f :: fs)], some (f :: fs)⟩
  | xs => ⟨xs, none⟩

/-- The next value and the arguments after it. -/
def Arguments.next (a : Arguments) : Except TemplateError (Datum × Arguments) :=
  match a.values with
  | [] => .error .tooFewArguments
  | x :: xs => .ok (x, { a with values := xs })

/-! ### Conversions -/

/-- **Conversion**: what stands between the percent sign and the letter. -/
structure Conversion where
  left : Bool
  plus : Bool
  blank : Bool
  alternate : Bool
  zero : Bool
  width : Nat
  precision : Option Nat

/-- A number as text, split into its sign, the mark of its base, and its digits. -/
structure Numeral where
  neg : Bool
  mark : Text
  digits : Text

/-- `t` filled up to the width of `c` with spaces. -/
def Conversion.fill (c : Conversion) (t : Text) : Text :=
  if c.left then Text.padEnd c.width t else Text.padStart c.width t

/-- A numeral filled up to the width of `c`: zeros stand between the sign and the digits. -/
def Conversion.fillNumeral (c : Conversion) (n : Numeral) : Text :=
  let sign := if n.neg then ['-'] else if c.plus then ['+'] else if c.blank then [' '] else []
  let head := sign ++ n.mark
  if c.zero && !c.left then
    head ++ List.replicate (c.width - head.length - n.digits.length) '0' ++ n.digits
  else c.fill (head ++ n.digits)

/-- A text cut to the precision of `c` and filled up to its width. -/
def Conversion.fillText (c : Conversion) (t : Text) : Text :=
  c.fill (match c.precision with
    | some p => t.take p
    | none => t)

/-- An integer in the base that `letter` names. -/
def Conversion.integer (c : Conversion) (letter : Char) (i : Int) : Numeral :=
  let (base, mark) : Nat × Text := match letter with
    | 'o' => (8, Text.of "0o")
    | 'x' => (16, Text.of "0x")
    | 'X' => (16, Text.of "0X")
    | _ => (10, [])
  let n := i.natAbs
  let ds := ((Text.digitsRev base (n + 1) n).map Text.digitChar).reverse
  let ds := List.replicate (c.precision.getD 0 - ds.length) '0' ++ ds
  let ds := if letter == 'X' then Text.ofCodes (ds.map fun d =>
    if 97 ≤ d.toNat then d.toNat - 32 else d.toNat) else ds
  ⟨i < 0, if c.alternate then mark else [], ds⟩

/-- A real number in the notation that `letter` names. -/
def Conversion.real (c : Conversion) (letter : Char) (x : Binary64) : Numeral :=
  let p := c.precision.getD 6
  let capital := letter == 'E' || letter == 'F' || letter == 'G'
  let t := match x with
    | .infinite _ => Text.of "inf"
    | .finite _ m e =>
      let (a, b) := Binary64.ratio m e
      match letter with
      | 'e' | 'E' => Decimal.scientificPlaces c.alternate p a b
      | 'f' | 'F' => Decimal.fixedPlaces c.alternate p a b
      | _ => Decimal.generalPlaces c.alternate p a b
  let t := if capital then Text.ofCodes (t.map fun d =>
    if 97 ≤ d.toNat && d.toNat ≤ 122 then d.toNat - 32 else d.toNat) else t
  ⟨x.isNeg, [], t⟩

/-- The integer that a datum stands for where `letter` asks for one. -/
def integerFor (letter : Char) : Datum → Except TemplateError Int
  | int i => .ok i
  | bool b => .ok (if b then 1 else 0)
  | real x =>
    if letter == 'o' || letter == 'x' || letter == 'X' then
      .error (.notInteger letter (Text.of "float"))
    else match x with
      | .infinite _ => .error .infiniteInteger
      | .finite neg m e => .ok (Binary64.truncate neg m e)
  | x =>
    if letter == 'o' || letter == 'x' || letter == 'X' then
      .error (.notInteger letter x.typeName)
    else .error (.notReal letter x.typeName)

/-- The real number that a datum stands for. -/
def realFor : Datum → Except TemplateError Binary64
  | real x => .ok x
  | int i => .ok (Binary64.ofInt i)
  | bool b => .ok (Binary64.ofInt (if b then 1 else 0))
  | x => .error (.notFloat x.typeName)

/-- The character that a datum stands for. -/
def charFor : Datum → Except TemplateError Text
  | text [c] => .ok [c]
  | int i => if 0 ≤ i && i < 0x110000 then .ok (Text.ofCodes [i.natAbs]) else .error .charTooLarge
  | bool b => .ok [if b then '\x01' else '\x00']
  | _ => .error .notChar

/-- A text with every character outside ASCII escaped. -/
def asciiOnly (t : Text) : Text :=
  t.flatMap fun c => if c.toNat < 128 then [c] else Text.escapeCode c.toNat

/-- **Converted value**: `x` written as `letter` says. `index` is the place of the letter. -/
def Conversion.apply (c : Conversion) (letter : Char) (index : Nat) (x : Datum) :
    Except TemplateError Text :=
  match letter with
  | 's' => .ok (c.fillText x.display)
  | 'r' => .ok (c.fillText x.literal)
  | 'a' => .ok (c.fillText (asciiOnly x.literal))
  | 'd' | 'i' | 'u' | 'o' | 'x' | 'X' =>
    (integerFor letter x).map fun i => c.fillNumeral (c.integer letter i)
  | 'e' | 'E' | 'f' | 'F' | 'g' | 'G' =>
    (realFor x).map fun r => c.fillNumeral (c.real letter r)
  | 'c' => (charFor x).map c.fill
  | _ => .error (.unsupported letter index)

/-! ### Reading a template -/

/-- The key after an opening parenthesis, parentheses inside it being balanced, and what follows. -/
def keyFrom (depth : Nat) : Text → Option (Text × Text)
  | [] => none
  | c :: r =>
    if c == ')' && depth = 0 then some ([], r)
    else
      let depth := if c == '(' then depth + 1 else if c == ')' then depth - 1 else depth
      (keyFrom depth r).map fun (k, r) => (c :: k, r)

/-- The flags at the start of a template. -/
def flagsFrom (c : Conversion) : Text → Conversion × Text
  | '-' :: r => flagsFrom { c with left := true } r
  | '+' :: r => flagsFrom { c with plus := true } r
  | ' ' :: r => flagsFrom { c with blank := true } r
  | '#' :: r => flagsFrom { c with alternate := true } r
  | '0' :: r => flagsFrom { c with zero := true } r
  | r => (c, r)

/-- The number at the start of a template. -/
def numberFrom (n : Nat) : Text → Nat × Text
  | [] => (n, [])
  | c :: r =>
    if Text.isAsciiDigit c.toNat then numberFrom (10 * n + (c.toNat - 48)) r else (n, c :: r)

/-- A width or precision: digits, or a star that takes the next argument. -/
def sizeFrom (a : Arguments) (r : Text) : Except TemplateError (Option Int × Arguments × Text) :=
  match r with
  | '*' :: r => do
    let (x, a) ← a.next
    match x with
    | int i => .ok (some i, a, r)
    | bool b => .ok (some (if b then 1 else 0), a, r)
    | _ => .error .starNotInt
  | c :: _ =>
    if Text.isAsciiDigit c.toNat then
      let (n, r) := numberFrom 0 r
      .ok (some n, a, r)
    else .ok (none, a, r)
  | [] => .ok (none, a, r)

/-- The value of a conversion with its text, and what is left of arguments and template. `whole` is
the length of the whole template. -/
def conversionFrom (whole : Nat) (a : Arguments) (r : Text) :
    Except TemplateError (Text × Arguments × Text) := do
  let (a, r) ← (match r with
    | '(' :: r => match a.keyed with
      | none => .error .recordRequired
      | some fs => match keyFrom 0 r with
        | none => .error .unfinishedKey
        | some (k, r) => match fs.lookup k with
          | none => .error (.missingKey k)
          | some x => .ok ({ a with values := [x] }, r)
    | r => .ok (a, r) : Except TemplateError (Arguments × Text))
  let (c, r) := flagsFrom ⟨false, false, false, false, false, 0, none⟩ r
  let (w, a, r) ← sizeFrom a r
  let c := match w with
    | none => c
    | some i =>
      if i < 0 then { c with left := true, width := i.natAbs } else { c with width := i.natAbs }
  let (p, a, r) ← (match r with
    | '.' :: r => do
      let (p, a, r) ← sizeFrom a r
      .ok (some (p.getD 0).toNat, a, r)
    | r => .ok (none, a, r) : Except TemplateError (Option Nat × Arguments × Text))
  let c := { c with precision := p }
  let r := match r with
    | 'h' :: r => r
    | 'l' :: r => r
    | 'L' :: r => r
    | r => r
  match r with
  | [] => .error .unfinished
  | '%' :: r => .ok (['%'], a, r)
  | letter :: r => do
    let (x, a) ← a.next
    let t ← c.apply letter (whole - r.length - 1) x
    .ok (t, a, r)

/-- The text of a template; `fuel` bounds its characters. -/
def fillFrom (whole : Nat) : Nat → Arguments → Text → Except TemplateError Text
  | 0, _, _ => .ok []
  | _ + 1, a, [] =>
    if a.keyed.isNone && !a.values.isEmpty then .error .tooManyArguments else .ok []
  | fuel + 1, a, c :: r =>
    if c == '%' then do
      let (t, a, r) ← conversionFrom whole a r
      (fillFrom whole fuel a r).map (t ++ ·)
    else (fillFrom whole fuel a r).map (c :: ·)

/-- **Filled template**: without arguments a template is its own text. -/
def fillTemplate (template : Text) (args : List Datum) : Except TemplateError Text :=
  if args.isEmpty then .ok template
  else fillFrom template.length (template.length + 1) (Arguments.of args) template

end ApiPage.Datum
