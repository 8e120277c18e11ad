import ApiPage.Syntax.Escape
import ApiPage.Syntax.Grammar.Basic

/-!
# String literals

What adjacent string literals denote together: a string, a byte string or a formatted string. The
fields of a formatted string hold expressions that are read as sources of their own, in parentheses,
at the place where they stand.

## Main definitions

* `StringForm`: a literal taken apart.
* `formatted`: the parts of a formatted string.
* `stringsOf`: the value of adjacent literals.
-/

namespace ApiPage.Syntax

open ApiPage.Syntax.Parser

/-- **Literal taken apart**: its kind by the letters before the quotes, and the text between the
quotes with the number of characters before it. -/
structure StringForm where
  isBytes : Bool
  isRaw : Bool
  isFormatted : Bool
  skipped : Text
  body : Text

/-- Takes a literal apart. -/
def StringForm.ofText (t : Text) : StringForm :=
  let letters := t.takeWhile fun c => c != '\'' && c != '"'
  let quoted := t.drop letters.length
  let size := match quoted with
    | q :: q' :: q'' :: _ => if q' == q && q'' == q then 3 else 1
    | _ => 1
  let has (c : Char) := letters.any fun d => d.toLower == c
  { isBytes := has 'b', isRaw := has 'r', isFormatted := has 'f'
    skipped := t.take (letters.length + size)
    body := (quoted.drop size).take (quoted.length - 2 * size) }

/-- **Cursor** in a formatted string: the text left, and the rows and columns passed since the start
of its token. -/
structure Cursor where
  text : Text
  rows : Nat
  cols : Nat

namespace Cursor

/-- The cursor after `n` more characters. -/
def skip : Nat → Cursor → Cursor
  | 0, s => s
  | n + 1, s => match s.text with
    | [] => s
    | c :: r =>
      if c == '\n' then skip n ⟨r, s.rows + 1, 0⟩
      else skip n ⟨r, s.rows, s.cols + Text.byteSizeOf c.toNat⟩

end Cursor

/-! ### Text of a formatted string -/

/-- What ends a run of text: a doubled brace, of which one belongs to the text, or the place where
the text ends. -/
inductive TextEnd
  | doubled (size : Nat)
  | stop (size : Nat)
  | lone

/-- Adds to the size of a run. -/
def TextEnd.grow (n : Nat) : TextEnd → TextEnd
  | doubled k => doubled (k + n)
  | stop k => stop (k + n)
  | lone => lone

/-- How the text at the start of `t` ends. `top` says that no field is open, where braces may be
doubled. `skip` counts characters that belong to an escape. -/
def textEnd (isRaw top : Bool) : (skip : Nat) → Text → TextEnd
  | _, [] => .stop 0
  | n + 1, _ :: t => (textEnd isRaw top n t).grow 1
  | 0, c :: t =>
    if !isRaw && c == '\\' then
      match t with
      | 'N' :: '\x7b' :: r =>
        let name := r.takeWhile (· != '\x7d')
        (textEnd isRaw top (min r.length (name.length + 1) + 2) t).grow 1
      | 'N' :: _ => (textEnd isRaw top 2 t).grow 1
      | '\x7b' :: _ | '\x7d' :: _ | [] => (textEnd isRaw top 0 t).grow 1
      | _ => (textEnd isRaw top 1 t).grow 1
    else if c == '\x7b' || c == '\x7d' then
      if top then
        if t.head? == some c then .doubled 1
        else if c == '\x7d' then .lone
        else .stop 0
      else .stop 0
    else (textEnd isRaw top 0 t).grow 1

/-! ### The extent of a field's expression -/

/-- The most brackets that may be open in a field. -/
def maxFieldDepth : Nat := 200

/-- The length of the expression at the start of a field. `quote` is the quote of the string that is
open with its number of characters, `opened` holds the open brackets, and `skip` counts characters
that are passed. An error is the reason why the field is wrong. -/
def fieldExtent (quote : Option (Char × Nat)) (opened : List Char) : (skip : Nat) → Text →
    Except Text Nat
  | _, [] =>
    if quote.isSome then .error (Text.of "unterminated string")
    else match opened with
      | o :: _ => .error (Text.of "unmatched '" ++ [o, '\''])
      | [] => .ok 0
  | n + 1, _ :: t => (fieldExtent quote opened n t).map (· + 1)
  | 0, c :: t =>
    if c == '\\' then .error (Text.of "expression part cannot include a backslash")
    else match quote with
    | some (q, n) =>
      if c == q then
        if n = 3 then
          if [q, q].isPrefixOf t then (fieldExtent none opened 2 t).map (· + 1)
          else (fieldExtent quote opened 0 t).map (· + 1)
        else (fieldExtent none opened 0 t).map (· + 1)
      else (fieldExtent quote opened 0 t).map (· + 1)
    | none =>
      if c == '\'' || c == '"' then
        if [c, c].isPrefixOf t then (fieldExtent (some (c, 3)) opened 2 t).map (· + 1)
        else (fieldExtent (some (c, 1)) opened 0 t).map (· + 1)
      else if c == '[' || c == '\x7b' || c == '(' then
        if maxFieldDepth ≤ opened.length then .error (Text.of "too many nested parenthesis")
        else (fieldExtent none (c :: opened) 0 t).map (· + 1)
      else if c == '#' then .error (Text.of "expression part cannot include '#'")
      else if opened.isEmpty && (c == '!' || c == '=' || c == '<' || c == '>') &&
          t.head? == some '=' then
        (fieldExtent none opened 1 t).map (· + 1)
      else if opened.isEmpty && (c == '!' || c == ':' || c == '\x7d' || c == '=') then .ok 0
      else if c == ']' || c == '\x7d' || c == ')' then
        match opened with
        | [] => .error (Text.of "unmatched '" ++ [c, '\''])
        | o :: rest =>
          let pair :=
            (o == '(' && c == ')') || (o == '[' && c == ']') || (o == '\x7b' && c == '\x7d')
          if pair then (fieldExtent none rest 0 t).map (· + 1)
          else .error (Text.of "closing parenthesis '" ++ c ::
            Text.of "' does not match opening parenthesis '" ++ [o, '\''])
      else (fieldExtent none opened 0 t).map (· + 1)

/-! ### Parts -/

/-- The parts with more text at their end, which joins text that is there. Parts come last first. -/
def addText (codes : List Nat) (parts : List Part) : List Part :=
  if codes.isEmpty then parts
  else match parts with
    | .text cs :: r => .text (cs ++ codes) :: r
    | _ => .text codes :: parts

/-- A blank that may stand between the parts of a field. -/
def isFieldBlank (c : Char) : Bool := c == ' ' || c == '\t' || c == '\n' || c == '\x0c'

/-- A blank that may follow the equals sign of a field. -/
def isEqualsBlank (c : Char) : Bool := isFieldBlank c || c == '\r' || c == '\x0b'

/-- The fault of a formatted string. -/
def formatFault {α : Type} (message : Text) : Parser α :=
  abortHere (Text.of "f-string: " ++ message)

/-- The code points of a run of text in a formatted string. -/
def textCodes (isRaw : Bool) (t : Text) : Parser (List Nat) :=
  if isRaw then return Text.codes t
  else match unescape t with
    | some cs => return cs
    | none => abortHere (Text.of "invalid escape")

/-- Reads the expression of a field, which stands at the given row and column. -/
abbrev FieldReader : Type := (row col : Nat) → Text → Parser Expr

/-- The parts of a formatted string from a cursor on, joined to those before, and the cursor after
them. `level` counts the fields that are open; `row` and `col` are those of the token. The first
argument bounds the steps. -/
def formatParts (field : FieldReader) (isRaw : Bool) (row col : Nat) :
    Nat → (level : Nat) → List Part → Cursor → Parser (List Part × Cursor)
  | 0, _, parts, s => return (parts, s)
  | fuel + 1, level, parts, s => do
    match textEnd isRaw (level = 0) 0 s.text with
    | .lone => formatFault (Text.of "single '\x7d' is not allowed")
    | .doubled n =>
      let parts := addText (← textCodes isRaw (s.text.take n)) parts
      formatParts field isRaw row col fuel level parts (s.skip (n + 1))
    | .stop n =>
      let parts := addText (← textCodes isRaw (s.text.take n)) parts
      let s := s.skip n
      match s.text with
      | '\x7b' :: _ =>
        if 2 ≤ level then formatFault (Text.of "expressions nested too deeply")
        let brace := s
        let s := s.skip 1
        match fieldExtent none [] 0 s.text with
        | .error message => formatFault message
        | .ok n =>
          let source := s.text.take n
          let rest := s.skip n
          if rest.text.isEmpty then formatFault (Text.of "expecting '\x7d'")
          if source.all isFieldBlank then formatFault (Text.of "empty expression not allowed")
          let place := if brace.rows = 0 then col + brace.cols else brace.cols
          let value ← field (row + brace.rows) place source
          let shown := match rest.text with
            | '=' :: r => some (1 + (r.takeWhile isEqualsBlank).length)
            | _ => none
          let parts := match shown with
            | some k => addText (Text.codes (source ++ rest.text.take k)) parts
            | none => parts
          let rest := rest.skip (shown.getD 0)
          let (conversion, rest) ← match rest.text with
            | '!' :: c :: _ =>
              if c == 's' || c == 'r' || c == 'a' then pure (some c, rest.skip 2)
              else formatFault (Text.of "invalid conversion character")
            | '!' :: [] => formatFault (Text.of "expecting '\x7d'")
            | _ => pure (none, rest)
          let (format, rest) ← match rest.text with
            | ':' :: _ :: _ => do
              let (inner, rest) ← formatParts field isRaw row col fuel (level + 1) [] (rest.skip 1)
              if rest.text.head? != some '\x7d' then formatFault (Text.of "expecting '\x7d'")
              pure (some inner.reverse, rest)
            | _ => pure (none, rest)
          if rest.text.head? != some '\x7d' then formatFault (Text.of "expecting '\x7d'")
          let conversion :=
            if shown.isSome && format.isNone && conversion.isNone then some 'r' else conversion
          formatParts field isRaw row col fuel level (.field value conversion format :: parts)
            (rest.skip 1)
      | _ => return (parts, s)

/-! ### Adjacent literals -/

/-- **Value** of the literals read so far: nothing, bytes, or the parts of a string, last first,
with whether a formatted string was among them. -/
inductive StringValue
  | empty
  | bytes (codes : List Nat)
  | text (parts : List Part) (isFormatted : Bool)

/-- The value after one more literal. -/
def addLiteral (field : FieldReader) (value : StringValue) (t : Token) : Parser StringValue := do
  let text := match t.kind with
    | .string s => s
    | _ => []
  let form := StringForm.ofText text
  let mixed {α : Type} : Parser α := abortHere (Text.of "cannot mix bytes and nonbytes literals")
  if form.isBytes then
    if form.body.any (128 ≤ ·.toNat) then
      abortAt t.row (Text.of "bytes can only contain ASCII literal characters")
    let codes ← if form.isRaw then pure (Text.codes form.body)
      else match unescapeBytes form.body with
      | some cs => pure cs
      | none => abortHere (Text.of "(value error) invalid \\x escape")
    match value with
    | .empty => return .bytes codes
    | .bytes cs => return .bytes (cs ++ codes)
    | .text .. => mixed
  else
    let (parts, was) ← match value with
      | .empty => pure ([], false)
      | .text parts was => pure (parts, was)
      | .bytes _ => if form.isFormatted then mixed else do
        let _ ← textCodes form.isRaw form.body
        mixed
    if form.isFormatted then
      let start := Cursor.skip form.skipped.length ⟨form.skipped ++ form.body, 0, 0⟩
      let (parts, _) ← formatParts field form.isRaw t.row t.col (form.body.length + 1) 0 parts start
      return .text parts true
    else return .text (addText (← textCodes form.isRaw form.body) parts) was

/-- The value of all literals, added up. -/
def addLiterals (field : FieldReader) : StringValue → List Token → Parser StringValue
  | value, [] => return value
  | value, t :: ts => do addLiterals field (← addLiteral field value t) ts

/-- **Adjacent string literals** as one expression. -/
def stringsOf (field : FieldReader) : Parser Expr := do
  let tokens ← many1 stringToken
  let first := tokens.head?.getD default
  let marked := match first.kind with
    | .string ('u' :: _) => true
    | _ => false
  let span ← spanFrom first
  match ← addLiterals field .empty tokens with
  | .empty => return .constant span (.str [] marked)
  | .bytes codes => return .constant span (.bytes codes)
  | .text parts true => return .joined span parts.reverse
  | .text (.text codes :: _) false => return .constant span (.str codes marked)
  | .text _ false => return .constant span (.str [] marked)

end ApiPage.Syntax
