import ApiPage.Syntax.Number
import ApiPage.Syntax.Token
import ApiPage.Text.Printable

/-!
# Reading tokens

The token stream of a source text. Rows end at `\n` once every `\r` and `\r\n` has become one, and
the last row always ends in a newline. Indentation is measured twice, with tabs to multiples of
eight and with tabs as single columns; where the two measures disagree about nesting the source is
at fault.

## Main definitions

* `normalNewlines`: the text that is read.
* `tokenize`: the tokens of a text, from a given row on.
-/

namespace ApiPage.Syntax

/-- Every line end as `\n`. -/
def unixNewlines : Text → Text
  | '\r' :: '\n' :: r => '\n' :: unixNewlines r
  | '\r' :: r => '\n' :: unixNewlines r
  | c :: r => c :: unixNewlines r
  | [] => []

/-- **The text that is read**: line ends are `\n`, and one is added unless the last line has one of
a single character. -/
def normalNewlines (t : Text) : Text :=
  let u := unixNewlines t
  match t.getLast? with
  | some '\r' => u
  | some '\n' => if Text.endsWith t ['\r', '\n'] then u ++ ['\n'] else u
  | _ => u ++ ['\n']

/-- **Reader**: the text left with its row and column, the widths of the open indentations by both
measures, and the open brackets with their rows, innermost first. -/
structure Reader where
  text : Text
  row : Nat
  col : Nat
  indents : List (Nat × Nat)
  brackets : List (Char × Nat)

namespace Reader

/-- The reader after `n` more characters. -/
def skip : Nat → Reader → Reader
  | 0, s => s
  | n + 1, s => match s.text with
    | [] => s
    | c :: r =>
      if c == '\n' then skip n { s with text := r, row := s.row + 1, col := 0 }
      else skip n { s with text := r, col := s.col + Text.byteSizeOf c.toNat }

/-- The row that is reported: at the end of the text it is the last row that has text. -/
def reportRow (s : Reader) : Nat := if s.text.isEmpty then s.row - 1 else s.row

/-- The token of `kind` between two readers; `index` is its place in the stream. -/
def token (start stop : Reader) (index : Nat) (kind : TokenKind) : Token :=
  ⟨kind, index, start.reportRow, start.col, stop.reportRow, stop.col, stop.brackets.length⟩

/-- A token without text at the place of a reader. -/
def markToken (s : Reader) (index : Nat) (kind : TokenKind) : Token := token s s index kind

/-- The row of the innermost open bracket. -/
def openRow (s : Reader) : Option Nat := s.brackets.head?.map (·.2)

/-- A fault that is one wherever reading has come to. -/
def definite (s : Reader) (row : Nat) (message : Text) : TokenKind :=
  .fault ⟨⟨row, message⟩, true, s.openRow⟩

/-- A fault of the layout. -/
def layoutFault (s : Reader) (message : String) : TokenKind :=
  .fault ⟨⟨s.reportRow, Text.of message⟩, false, s.openRow⟩

/-- The end of the text where more is needed: the fault of an open bracket, if there is one. -/
def endFault (s : Reader) : TokenKind :=
  match s.brackets with
  | (c, row) :: _ =>
    .fault ⟨⟨row, '\'' :: c :: Text.of "' was never closed"⟩, false, some row⟩
  | [] => .fault ⟨⟨s.reportRow, Text.of "unexpected EOF while parsing"⟩, false, none⟩

end Reader

/-! ### Indentation -/

/-- What measuring the start of a line found: the reader after it and both widths, or a fault. -/
inductive Margin
  | width (s : Reader) (col alt : Nat)
  | bad (s : Reader) (kind : TokenKind)

/-- Measures the start of a line. A backslash joins the next line; the first of them that follows
blanks fixes the width, which `fixed` holds. The first argument bounds the characters. -/
def measure : Nat → Reader → (col alt fixed : Nat) → Margin
  | 0, s, col, alt, fixed =>
    .width s (if fixed = 0 then col else fixed) (if fixed = 0 then alt else fixed)
  | fuel + 1, s, col, alt, fixed =>
    match s.text with
    | ' ' :: _ => measure fuel (s.skip 1) (col + 1) (alt + 1) fixed
    | '\t' :: _ => measure fuel (s.skip 1) ((col / 8 + 1) * 8) (alt + 1) fixed
    | '\x0c' :: _ => measure fuel (s.skip 1) 0 0 fixed
    | '\\' :: '\n' :: [] => .bad (s.skip 2) (s.skip 2).endFault
    | '\\' :: '\n' :: _ => measure fuel (s.skip 2) col alt (if fixed = 0 then col else fixed)
    | '\\' :: _ =>
      .bad (s.skip 1)
        ((s.skip 1).layoutFault "unexpected character after line continuation character")
    | _ => .width s (if fixed = 0 then col else fixed) (if fixed = 0 then alt else fixed)

/-- The most indentations that may be open at once. -/
def maxIndents : Nat := 100

/-- What a line's width means against the open indentations: no change, one more, or some fewer; or
what is wrong with it. -/
inductive Shift
  | same
  | deeper
  | shallower (count : Nat) (left : List (Nat × Nat))
  | wrong (message : String)

/-- The indentations that a line of width `col` closes: their count and those that stay. -/
def closeIndents (col : Nat) : List (Nat × Nat) → Nat × List (Nat × Nat)
  | [] => (0, [])
  | (w, a) :: r =>
    if col < w then
      let (n, left) := closeIndents col r
      (n + 1, left)
    else (0, (w, a) :: r)

/-- How a line of the given widths changes the indentation. -/
def shiftOf (indents : List (Nat × Nat)) (col alt : Nat) : Shift :=
  let mixed := "inconsistent use of tabs and spaces in indentation"
  let (w, a) := indents.head?.getD (0, 0)
  if col = w then if alt = a then .same else .wrong mixed
  else if w < col then
    if maxIndents ≤ indents.length then .wrong "too many levels of indentation"
    else if alt ≤ a then .wrong mixed
    else .deeper
  else
    let (n, left) := closeIndents col indents
    let (w, a) := left.head?.getD (0, 0)
    if col != w then .wrong "unindent does not match any outer indentation level"
    else if alt != a then .wrong mixed
    else .shallower n left

/-! ### Strings and names -/

/-- The length of the letters before the quote of a string literal, if the text starts with one. The
flags say which letters came. -/
def stringPrefix? (b r u f : Bool) : Text → Option Nat
  | [] => none
  | c :: t =>
    if c == '\'' || c == '"' then some 0
    else
      let next (b r u f : Bool) := (stringPrefix? b r u f t).map (· + 1)
      if !(b || u || f) && (c == 'b' || c == 'B') then next true r u f
      else if !(b || u || r || f) && (c == 'u' || c == 'U') then next b r true f
      else if !(r || u) && (c == 'r' || c == 'R') then next b true u f
      else if !(f || b || u) && (c == 'f' || c == 'F') then next b r u true
      else none

/-- The length of the rest of a string up to and with its closing quotes. `size` is the number of
quotes that close it and `seen` how many came just now. `none` says that it is not closed. -/
def stringRest (quote : Char) (size : Nat) : (seen : Nat) → Text → Option Nat
  | seen, [] => if seen = size then some 0 else none
  | seen, c :: t =>
    if seen = size then some 0
    else if c == quote then (stringRest quote size (seen + 1) t).map (· + 1)
    else if size = 1 && c == '\n' then none
    else if c == '\\' then
      match t with
      | _ :: t => (stringRest quote size 0 t).map (· + 2)
      | [] => none
    else (stringRest quote size 0 t).map (· + 1)

/-- The length of the string literal whose opening quote starts the text, and whether it is triple.
-/
def stringLength (t : Text) : Option Nat × Bool :=
  match t with
  | q :: q' :: q'' :: r =>
    if q' == q && q'' == q then ((stringRest q 3 0 r).map (· + 3), true)
    else if q' == q then (some 2, false)
    else ((stringRest q 1 0 (q' :: q'' :: r)).map (· + 1), false)
  | q :: r => ((stringRest q 1 0 r).map (· + 1), false)
  | [] => (none, false)

/-- The first character of a name that a name may not hold there. -/
def badNameChar? : Text → Option Char
  | [] => none
  | c :: r => if Text.isNameStart c.toNat then r.find? (!Text.isNameContinue ·.toNat) else some c

/-- The message about a character that no token may hold. -/
def badCharMessage (c : Char) : Text :=
  let code := (Text.hex 4 c.toNat).map fun d => if 'a' ≤ d then Char.ofNat (d.toNat - 32) else d
  if Text.isPrintable c.toNat then
    Text.of "invalid character '" ++ c :: Text.of "' (U+" ++ code ++ [')']
  else Text.of "invalid non-printable character U+" ++ code

/-- The most brackets that may be open at once. -/
def maxDepth : Nat := 200

/-- The bracket that `c` closes. -/
def openerOf (c : Char) : Char :=
  if c == ')' then '(' else if c == ']' then '[' else '\x7b'

/-- The open brackets after `c`, or what is wrong with `c` there. -/
def bracketsAfter (s : Reader) (c : Char) : Except Text (List (Char × Nat)) :=
  if c == '(' || c == '[' || c == '\x7b' then
    if maxDepth ≤ s.brackets.length then .error (Text.of "too many nested parentheses")
    else .ok ((c, s.row) :: s.brackets)
  else if c == ')' || c == ']' || c == '\x7d' then
    match s.brackets with
    | [] => .error (Text.of "unmatched '" ++ [c, '\''])
    | (o, row) :: rest =>
      if o == openerOf c then .ok rest
      else .error (Text.of "closing parenthesis '" ++ c ::
        Text.of "' does not match opening parenthesis '" ++ o :: Text.of "'" ++
        (if row != s.row then Text.of " on line " ++ Text.ofNat row else []))
  else .ok s.brackets

/-! ### The token stream -/

/-- The token at a reader that stands on no blank, with the reader after it. -/
def tokenAt (s : Reader) (index : Nat) : Token × Reader :=
  let take (n : Nat) (kind : TokenKind) : Token × Reader :=
    let stop := s.skip n
    (s.token stop index kind, stop)
  let fail (row : Nat) (message : Text) : Token × Reader :=
    (s.markToken index (s.definite row message), s)
  match s.text with
  | [] => (s.markToken index .endMark, s)
  | c :: r =>
    match stringPrefix? false false false false (c :: r) with
    | some p =>
      match stringLength ((c :: r).drop p) with
      | (some n, _) => take (p + n) (.string ((c :: r).take (p + n)))
      | (none, triple) =>
        fail s.row (Text.of (if triple then "unterminated triple-quoted string literal"
          else "unterminated string literal"))
    | none =>
      if isNameLikeStart c then
        let name := (c :: r).takeWhile isNameLike
        match badNameChar? name with
        | some b => fail s.row (badCharMessage b)
        | none => take name.length (match Word.ofText? name with
          | some w => .word w
          | none => .name name)
      else if isDigitChar c || (c == '.' && (r.head?.map isDigitChar).getD false) then
        match numeralLength (c :: r) with
        | .ok n => take n (.number ((c :: r).take n))
        | .error message => fail s.row message
      else
        let two := match r with
          | d :: r => match Op.ofTwo? c d, r with
            | some o, e :: _ => match Op.ofThree? c d e with
              | some o' => some (3, o')
              | none => some (2, o)
            | some o, [] => some (2, o)
            | none, e :: _ => (Op.ofThree? c d e).map fun o => (3, o)
            | none, [] => none
          | [] => none
        match two with
        | some (n, o) => take n (.op o)
        | none =>
          match bracketsAfter s c with
          | .error message => fail s.row message
          | .ok opened =>
            if !Text.isPrintable c.toNat then fail s.row (badCharMessage c)
            else
              let kind := match Op.ofOne? c with
                | some o => .op o
                | none => .stray
              let stop := { s.skip 1 with brackets := opened }
              (s.token stop index kind, stop)

/-- The marks of `n` closed indentations. -/
def dedents (s : Reader) (index : Nat) : Nat → List Token
  | 0 => []
  | n + 1 => s.markToken index .dedent :: dedents s (index + 1) n

/-- The tokens from a reader on. `lineStart` says that a line begins there. The first argument
bounds the steps. -/
def tokensFrom : Nat → (lineStart : Bool) → Reader → (index : Nat) → List Token
  | 0, _, s, index => [s.markToken index .endMark]
  | fuel + 1, true, s, index =>
    match measure (s.text.length + 1) s 0 0 0 with
    | .bad s kind => [s.markToken index kind]
    | .width s col alt =>
      let blank := match s.text with
        | c :: _ => c == '#' || c == '\n'
        | [] => false
      if blank then
        tokensFrom fuel true (s.skip ((s.text.takeWhile (· != '\n')).length + 1)) index
      else if !s.brackets.isEmpty then tokensFrom fuel false s index
      else match shiftOf s.indents col alt with
        | .wrong message => [s.markToken index (s.layoutFault message)]
        | .same => tokensFrom fuel false s index
        | .deeper =>
          s.markToken index .indent ::
            tokensFrom fuel false { s with indents := (col, alt) :: s.indents } (index + 1)
        | .shallower n left =>
          dedents s index n ++ tokensFrom fuel false { s with indents := left } (index + n)
  | fuel + 1, false, s, index =>
    match s.text with
    | [] => [s.markToken index (if s.brackets.isEmpty then .endMark else s.endFault)]
    | '\n' :: _ =>
      if s.brackets.isEmpty then
        s.token s index .newline :: tokensFrom fuel true (s.skip 1) (index + 1)
      else tokensFrom fuel true (s.skip 1) index
    | '#' :: r => tokensFrom fuel false (s.skip (1 + (r.takeWhile (· != '\n')).length)) index
    | '\\' :: '\n' :: [] => [(s.skip 2).markToken index (s.skip 2).endFault]
    | '\\' :: '\n' :: _ => tokensFrom fuel false (s.skip 2) index
    | '\\' :: _ =>
      let s := s.skip 1
      [s.markToken index (s.layoutFault "unexpected character after line continuation character")]
    | c :: _ =>
      if c == ' ' || c == '\t' || c == '\x0c' then tokensFrom fuel false (s.skip 1) index
      else
        let (t, s') := tokenAt s index
        match t.kind with
        | .fault _ => [t]
        | _ => t :: tokensFrom fuel false s' (index + 1)

/-- **Tokens** of a text whose first row has the number `row`. The last of them is the end mark or a
fault. -/
def tokenize (row : Nat) (t : Text) : List Token :=
  let t := normalNewlines t
  tokensFrom (2 * t.length + 2) true ⟨t, row, 0, [(0, 0)], []⟩ 0

end ApiPage.Syntax
