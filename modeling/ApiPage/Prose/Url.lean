import ApiPage.Text.Basic
import ApiPage.Text.Letter

/-!
# References inside a line

What a line of prose may refer to, each as a matcher that gives the length of the longest reference
at the start of a text: a URL with a scheme, a reference to an RFC, and a name with dots.

A URL that ends inside brackets is cut back, so that a sentence in parentheses can end in one.
-/

namespace ApiPage.Prose

/-! ### URLs -/

/-- The schemes of a URL. -/
def schemes : List Text :=
  ["http", "https", "ftp", "sftp", "ftps", "sftps", "file", "gopher", "mailto", "nntp"].map Text.of

/-- A character of a host. -/
def isHostChar (c : Char) : Bool :=
  Text.isAsciiLetter c.toNat || Text.isAsciiDigit c.toNat || (Text.of "_@-.[]:").contains c

/-- A character of a path, query or fragment that may end a URL. -/
def isPathChar (c : Char) : Bool :=
  Text.isAsciiLetter c.toNat || Text.isAsciiDigit c.toNat ||
    (Text.of "$'()*+&#=@~_/-[]%").contains c

/-- Punctuation that may stand inside a URL but does not end its path. -/
def isPathStop (c : Char) : Bool := (Text.of ".,:;?!").contains c

/-- The length of the longest path at the start of a text. `stops` counts the punctuation before it
that belongs to the path only if a path character follows. -/
def pathLength (stops : Nat) : Text → Nat
  | [] => 0
  | c :: r =>
    if isPathChar c then stops + 1 + pathLength 0 r
    else if isPathStop c then pathLength (stops + 1) r
    else 0

/-- What follows a scheme and `://` at the start of a text, with the length of both. -/
def afterScheme? (t : Text) : Option (Nat × Text) :=
  schemes.findSome? fun s =>
    (Text.dropPrefix? t (s ++ Text.of "://")).map fun r => (s.length + 3, r)

/-- The length of the URL at the start of a text. -/
def urlLength? (t : Text) : Option Nat :=
  match afterScheme? t with
  | none => none
  | some (n, r) =>
    let host := (r.takeWhile isHostChar).length
    if host = 0 then none else some (n + host + pathLength 0 (r.drop host))

/-! ### References to an RFC -/

/-- The length of the run of white space at the start of a text. -/
def spaceLength (t : Text) : Nat := (t.takeWhile Text.isSpaceChar).length

/-- The length of the run of ASCII digits at the start of a text. -/
def digitsLength (t : Text) : Nat := (t.takeWhile fun c => Text.isAsciiDigit c.toNat).length

/-- The length of `.1.2` and so on at the start of a text. The first argument bounds the parts. -/
def dottedLength : Nat → Text → Nat
  | 0, _ => 0
  | fuel + 1, '.' :: r =>
    let n := digitsLength r
    if n = 0 then 0 else 1 + n + dottedLength fuel (r.drop n)
  | _ + 1, _ => 0

/-- The length of `, Section 5.1` at the start of a text; zero if there is none. -/
def sectionLength (t : Text) : Nat :=
  let comma := if t.head? == some ',' then 1 else 0
  let t := t.drop comma
  let gap := spaceLength t
  match t.drop gap with
  | c :: r =>
    if gap = 0 || !(c == 'S' || c == 's') then 0
    else match Text.dropPrefix? r (Text.of "ection") with
      | none => 0
      | some r =>
        let gap' := spaceLength r
        let r := r.drop gap'
        let n := digitsLength r
        if gap' = 0 || n = 0 then 0
        else comma + gap + 7 + gap' + n + dottedLength r.length (r.drop n)
  | [] => 0

/-- The length of the reference to an RFC at the start of a text: a number of three to five digits,
and a section if one is named. -/
def rfcLength? (t : Text) : Option Nat :=
  match Text.dropPrefix? t (Text.of "RFC") with
  | none => none
  | some r =>
    let gap := spaceLength r
    let r := r.drop gap
    let n := min 5 (digitsLength r)
    if gap = 0 || n < 3 then none else some (3 + gap + n + sectionLength (r.drop n))

/-- **Fields** of a reference: its runs of word characters and dots, underscores apart. -/
def rfcFields (w : Text) : List Text :=
  (Text.splitBy (fun c => c == '_' || !(c == '.' || Text.isWord c.toNat)) w).filter (!·.isEmpty)

/-! ### Names -/

/-- A character that may start a name: a word character that is no decimal digit. -/
def isWordStart (c : Char) : Bool := Text.isWord c.toNat && !Text.isDecimal c.toNat

/-- The length of the name without dots at the start of a text. -/
def wordLength? : Text → Option Nat
  | [] => none
  | c :: r =>
    if isWordStart c then some (1 + (r.takeWhile fun d => Text.isWord d.toNat).length) else none

/-- The length of `.a.b` and so on at the start of a text. The first argument bounds the parts. -/
def dottedWordLength : Nat → Text → Nat
  | 0, _ => 0
  | fuel + 1, '.' :: r =>
    match wordLength? r with
    | none => 0
    | some n => 1 + n + dottedWordLength fuel (r.drop n)
  | _ + 1, _ => 0

/-- The length of the dotted name at the start of a text. -/
def nameLength? (t : Text) : Option Nat :=
  (wordLength? t).map fun n => n + dottedWordLength t.length (t.drop n)

/-! ### Brackets at the end of a URL -/

/-- `t` up to its first `closer`, if that comes before an `opener`. -/
def cutStrayCloser (opener closer : Char) (t : Text) : Text :=
  match Text.cutAt? closer t with
  | some (before, after) =>
    if !before.contains opener && after.contains opener then before else t
  | none => t

/-- `t` up to its last bracket; all of `t` if it has none. -/
def cutLastBracket (opener closer : Char) (t : Text) : Text :=
  if t.any fun c => c == opener || c == closer then
    ((t.reverse.dropWhile fun c => !(c == opener || c == closer)).drop 1).reverse
  else t

/-- `t` cut at its last bracket, again and again until its brackets balance in number, `fuel` times
at most. -/
def balanceBrackets (opener closer : Char) : Nat → Text → Text
  | 0, t => t
  | fuel + 1, t =>
    if t.count opener = t.count closer then t
    else balanceBrackets opener closer fuel (cutLastBracket opener closer t)

/-- The cuts that are made for one kind of bracket. -/
def bracketFixes : Nat := 10

/-- **Trimmed URL**: cut where a closer comes before any opener, then cut back until the brackets of
each kind balance. -/
def trimUrl (t : Text) : Text :=
  let t := cutStrayCloser '[' ']' (cutStrayCloser '(' ')' t)
  balanceBrackets '[' ']' bracketFixes (balanceBrackets '(' ')' bracketFixes t)

end ApiPage.Prose
