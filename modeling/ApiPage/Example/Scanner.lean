import ApiPage.Example.Piece
import ApiPage.Example.Token

/-!
# A scanner of example code

The lexer that the program runs with. It accepts every text: it keeps a stack of modes and takes
what the first rule of the current mode that applies knows. Where none applies it takes one
character, and at the end of a line it starts over.

## Conventions

Every character of the text belongs to one piece. The last mode of the stack is `code`, which is
never left. Inside a formatted string the fields are code without comments.

## Main definitions

* `Mode`: what the scanner is in the middle of.
* `pieces`: the pieces of a text.
-/

namespace ApiPage.Example

/-! ### String literals -/

/-- Which backslashes take part in escapes: those before the closing quote alone, or all. -/
inductive Escapes
  | raw | bytes | full
  deriving DecidableEq, Inhabited

/-- **Form** of a string literal. -/
structure Form where
  quote : Char
  isLong : Bool
  escapes : Escapes
  isFormatted : Bool
  deriving DecidableEq, Inhabited

/-- The mark that ends a literal. -/
def Form.closer (f : Form) : Text := List.replicate (if f.isLong then 3 else 1) f.quote

/-- The escapes and the formatting that the letters before a quote ask for. -/
def formOfLetters? (letters : Text) : Option (Escapes × Bool) :=
  let lower := letters.map fun c => if c.toNat < 128 then c.toLower else c
  if lower = [] || lower = ['u'] then some (.full, false)
  else if lower = ['b'] then some (.bytes, false)
  else if [Text.of "r", Text.of "rb", Text.of "br"].contains lower then some (.raw, false)
  else if [Text.of "f", Text.of "t"].contains lower then some (.full, true)
  else if ["rf", "fr", "rt", "tr"].any (Text.of · = lower) then some (.raw, true)
  else none

/-- A quote. -/
def isQuote (c : Char) : Bool := c == '"' || c == '\''

/-- The form of the string literal that begins the text, and the length of what opens it. -/
def opener? (t : Text) : Option (Form × Nat) :=
  let letters := (t.take 3).takeWhile (!isQuote ·)
  match t.drop letters.length, formOfLetters? letters with
  | q :: r, some (escapes, isFormatted) =>
    if isQuote q then
      let isLong := Text.startsWith r [q, q]
      some (⟨q, isLong, escapes, isFormatted⟩, letters.length + if isLong then 3 else 1)
    else none
  | _, _ => none

/-- The length of a documentation string at the start of a line: of the white space before it and of
the literal. -/
def docString? (t : Text) : Option (Nat × Nat) :=
  let gap := spaceLength t
  let r := t.drop gap
  let letters := (r.take 2).takeWhile fun c => (Text.of "rRuUbB").contains c
  match r.drop letters.length with
  | q :: body =>
    if isQuote q && Text.startsWith body [q, q] then
      (Text.find? (body.drop 2) [q, q, q]).map fun n => (gap, letters.length + 6 + n)
    else none
  | [] => none

/-- The length of an escape by the name of a character. -/
def namedEscapeLength (t : Text) : Nat :=
  match Text.dropPrefix? t (Text.of "\\N\x7b") with
  | some r =>
    let n := (r.takeWhile fun c => c ≠ '\x7d' && c ≠ '\n').length
    if (r.drop n).head? = some '\x7d' then n + 4 else 0
  | none => 0

/-- Characters that a backslash joins. -/
def isEscaped (c : Char) : Bool := (Text.of "\\abfnrtv\"'\n").contains c

/-- The length of an escape inside a literal. -/
def escapeLength (f : Form) (t : Text) : Nat :=
  let named := if f.escapes = .full then namedEscapeLength t else 0
  if named ≠ 0 then named
  else match t with
    | '\\' :: c :: _ =>
      if f.escapes ≠ .raw && isEscaped c then 2
      else if !f.isLong && (c == '\\' || c == f.quote || c == '\n') then 2
      else 0
    | _ => 0

/-! ### Modes -/

/-- **Mode** of the scanner. -/
inductive Mode
  | code
  | functionName
  | className
  | moduleName
  | moduleNames
  | wildcard
  | literal (form : Form)
  | field
  | bracket
  deriving DecidableEq, Inhabited

/-- **Change** of the stack of modes. -/
inductive Change
  | stay | leave | enter (mode : Mode)

/-- The stack after a change. The last mode is never left. -/
def Change.apply : Change → List Mode → List Mode
  | stay, ms => ms
  | leave, [m] => [m]
  | leave, ms => ms.drop 1
  | enter m, ms => m :: ms

/-- **Step** of the scanner: stretches of the text and a change. -/
structure Step where
  stretches : List (Shade × Nat)
  change : Change

/-- The characters that a step takes. -/
def Step.length (s : Step) : Nat := (s.stretches.map (·.2)).foldr (· + ·) 0

/-- A step over characters of one shade, if there are some. -/
def taking (shade : Shade) (n : Nat) (change : Change) : Option Step :=
  if n = 0 then none else some ⟨[(shade, n)], change⟩

/-- Leaving a mode without taking a character. -/
def leaving : Step := ⟨[], .leave⟩

/-! ### Rules -/

/-- Rules of expressions. -/
def expressionStep (t : Text) : Option Step :=
  match opener? t with
  | some (form, n) => some ⟨[(.string, n)], .enter (.literal form)⟩
  | none =>
    taking .other (gapLength t) .stay <|> taking .other (numberLength t) .stay <|>
      taking .other (operatorLength t) .stay <|> taking .other (decoratorLength t) .stay

/-- Keywords, but for those that are also values. -/
def keywords : List Text :=
  ["and", "as", "assert", "async", "await", "break", "class", "continue", "def", "del", "elif",
    "else", "except", "finally", "for", "from", "global", "if", "import", "in", "is", "lambda",
    "nonlocal", "not", "or", "pass", "raise", "return", "try", "while", "with", "yield"].map Text.of

/-- What stands behind `match` or `case` shows that it is a plain name. -/
def showsName (t : Text) : Bool :=
  let r := t.dropWhile Text.isBlankChar
  match r with
  | c :: _ =>
    (Text.of ":,;=^&|@~)]\x7d").contains c || keywords.contains (r.take (wordLength r))
  | [] => false

/-- The length of `match` or `case` at the start of a line. -/
def matchWordLength (t : Text) : Nat :=
  let r := t.dropWhile Text.isBlankChar
  match afterWord? "match" r <|> afterWord? "case" r with
  | some after => if showsName after then 0 else t.length - after.length
  | none => 0

/-- Rules of code. The words that begin a definition or an import lead to the names behind them. -/
def codeStep (atLineStart : Bool) (t : Text) : Option Step :=
  let doc := if atLineStart then docString? t else none
  match t, doc with
  | '\n' :: _, _ => some ⟨[(.other, 1)], .stay⟩
  | _, some (gap, n) => some ⟨[(.other, gap), (.string, n)], .stay⟩
  | '#' :: r, _ => some ⟨[(.comment, 1 + (r.takeWhile (· ≠ '\n')).length)], .stay⟩
  | '\\' :: '\n' :: _, _ => some ⟨[(.other, 2)], .stay⟩
  | t, _ =>
    if (afterWord? "yield from" t).isSome then some ⟨[(.other, 10)], .stay⟩
    else
      (if atLineStart then taking .other (matchWordLength t) (.enter .wildcard) else none) <|>
        taking .other (keywordLength "def" t) (.enter .functionName) <|>
        taking .other (keywordLength "class" t) (.enter .className) <|>
        taking .other (keywordLength "from" t) (.enter .moduleName) <|>
        taking .other (keywordLength "import" t) (.enter .moduleNames) <|>
        expressionStep t

/-- The length of space, the word `w` and, if asked for, more space. -/
def spacedWordLength (w : String) (spaceAfter : Bool) (t : Text) : Nat :=
  let gap := spaceLength t
  if gap = 0 then 0
  else if spaceAfter then
    match Text.dropPrefix? (t.drop gap) (Text.of w) with
    | some r =>
      let n := spaceLength r
      if n = 0 then 0 else gap + w.length + n
    | none => 0
  else match afterWord? w (t.drop gap) with
    | some _ => gap + w.length
    | none => 0

/-- The length of a point or a name. -/
def pathPartLength : Text → Nat
  | '.' :: _ => 1
  | t => nameLength t

/-- The length of a comma with the space around it. -/
def commaLength (t : Text) : Nat :=
  let gap := spaceLength t
  match t.drop gap with
  | ',' :: r => gap + 1 + spaceLength r
  | _ => 0

/-- Rules of the module behind `from`. -/
def moduleNameStep (t : Text) : Option Step :=
  taking .other (spacedWordLength "import" false t) .leave <|>
    (if (afterWord? "None" t).isSome then some ⟨[(.other, 4)], .leave⟩ else none) <|>
    taking .other (pathPartLength t) .stay <|> some leaving

/-- Rules of the modules behind `import`. -/
def moduleNamesStep (t : Text) : Option Step :=
  taking .other (spacedWordLength "as" true t) .stay <|> taking .other (pathPartLength t) .stay <|>
    taking .other (commaLength t) .stay <|> some leaving

/-- Characters of a literal that mean nothing by themselves. -/
def isPlain (f : Form) (c : Char) : Bool :=
  !((Text.of "\\'\"\n\x7b").contains c || (if f.isFormatted then c == '\x7d' else c == '%'))

/-- The length of a replacement field, or of one or two braces that begin none. -/
def braceLength (t : Text) : Nat :=
  let n := fieldLength t
  if n ≠ 0 then n else if Text.startsWith t (Text.of "\x7b\x7b") then 2 else 1

/-- Rules of a string literal. A short one does not go over the end of a line. -/
def literalStep (f : Form) (t : Text) : Option Step :=
  let doubled := f.isFormatted &&
    (Text.startsWith t (Text.of "\x7b\x7b") || Text.startsWith t (Text.of "\x7d\x7d"))
  if doubled then some ⟨[(.string, 2)], .stay⟩
  else
    let n := escapeLength f t
    if n ≠ 0 then some ⟨[(.string, n)], .stay⟩
    else if Text.startsWith t f.closer then some ⟨[(.string, f.closer.length)], .leave⟩
    else match t with
      | '\x7b' :: _ =>
        if f.isFormatted then some ⟨[(.string, 1)], .enter .field⟩
        else some ⟨[(.string, braceLength t)], .stay⟩
      | '\n' :: _ => if f.isLong then some ⟨[(.string, 1)], .stay⟩ else none
      | t => some ⟨[(.string, max 1 (t.takeWhile (isPlain f)).length)], .stay⟩

/-- The length of the end of a field: an equals sign, a conversion, and a brace or the colon before
a format. -/
def fieldEndLength (t : Text) : Nat :=
  let r := match t with
    | '=' :: r => r.drop (spaceLength r)
    | t => t
  let r := match r with
    | '!' :: c :: r' => if (Text.of "sraf").contains c then r' else '!' :: c :: r'
    | r => r
  match r with
  | c :: r => if c == '\x7d' || c == ':' then t.length - r.length else 0
  | [] => 0

/-- Rules inside brackets of a field. -/
def bracketStep (t : Text) : Option Step :=
  match t with
  | c :: _ =>
    if (Text.of "\x7b([").contains c then some ⟨[(.other, 1)], .enter .bracket⟩
    else if (Text.of "])\x7d").contains c then some ⟨[(.other, 1)], .leave⟩
    else taking .other (spaceLength t) .stay <|> expressionStep t
  | [] => none

/-- Rules of a field of a formatted string. -/
def fieldStep (t : Text) : Option Step :=
  match t with
  | c :: _ =>
    if (Text.of "\x7b([").contains c then some ⟨[(.other, 1)], .enter .bracket⟩
    else
      taking .string (fieldEndLength t) .leave <|> taking .other (spaceLength t) .stay <|>
        expressionStep t
  | [] => none

/-- **The rule of a mode** that applies at the start of the text. -/
def step? (atLineStart : Bool) (t : Text) : Mode → Option Step
  | .code => codeStep atLineStart t
  | .functionName => taking .other (nameLength t) .leave <|> some leaving
  | .className => taking .other (nameLength t) .leave
  | .moduleName => moduleNameStep t
  | .moduleNames => moduleNamesStep t
  | .wildcard => some leaving
  | .literal f => literalStep f t
  | .field => fieldStep t
  | .bracket => bracketStep t

/-- What stands behind `match` or `case` before a wildcard: space, code and the wildcard. -/
def wildcard? (t : Text) : Option (Nat × Text) :=
  let gap := spaceLength t
  let code := (t.drop gap).takeWhile fun c => c ≠ '\n' && c ≠ '_'
  match t.drop (gap + code.length) with
  | '_' :: r => if gap = 0 || startsWithWord r then none else some (gap, code)
  | _ => none

/-! ### The scanner -/

/-- The stretches of a text as pieces. An empty one makes none. -/
def piecesOf (t : Text) : List (Shade × Nat) → List Piece
  | [] => []
  | (shade, n) :: ss =>
    if (t.take n).isEmpty then piecesOf (t.drop n) ss
    else ⟨shade, t.take n⟩ :: piecesOf (t.drop n) ss

/-- The character before the place that is `n` characters on. -/
def charBefore (before : Char) (t : Text) (n : Nat) : Char :=
  match n with
  | 0 => before
  | n + 1 => t[n]?.getD before

/-- **Scan** of a text behind the character `before`, in at most `fuel` steps. Code before a
wildcard is scanned by itself. -/
def scan : (fuel : Nat) → (before : Char) → List Mode → Text → List Piece
  | 0, _, _, _ => []
  | _ + 1, _, _, [] => []
  | fuel + 1, before, modes, c :: r =>
    let t := c :: r
    let mode := modes.headD .code
    match (if mode = .wildcard then wildcard? t else none) with
    | some (gap, code) =>
      let n := gap + code.length
      ⟨.other, t.take gap⟩ :: scan fuel '\n' [.code] code ++
        ⟨.other, ['_']⟩ :: scan fuel '_' modes (t.drop (n + 1))
    | none =>
      match step? (before == '\n') t mode with
      | some s =>
        piecesOf t s.stretches ++
          scan fuel (charBefore before t s.length) (s.change.apply modes) (t.drop s.length)
      | none =>
        ⟨.other, [c]⟩ :: scan fuel c (if c == '\n' then [.code] else modes) r

/-- The steps that suffice for a text: each takes a character or leaves a mode entered before. -/
def stepsFor (t : Text) : Nat := 2 * t.length + 2

/-- **The pieces of example code**. -/
def pieces (t : Text) : List Piece := scan (stepsFor t) '\n' [.code] t

end ApiPage.Example
