import ApiPage.Proofs.Markup

/-!
# Elements of any name

Documentation has more elements than the text of a declaration: headings, paragraphs and links with
a class. Here HTML is read with tags of any name and any attributes, as a list of *tokens*. As in the
reading of events, a text is only readable if no angle bracket and no ampersand in it stands for
itself; in the value of an attribute neither quote does either.

## Main definitions

* `Html.tokens?`: the tokens of an HTML text.
* `Html.isInline`: nothing but text and links, no link inside another.
* `Html.textOf`, `Html.hrefsOf`: the text of some tokens, and where their links go.
* `Html.Phrase`: an HTML text that reads as inline markup of a text.

## Main results

* `Html.token?_openTag`, `Html.token?_closeTag`: a tag is read back.
* `Html.phrase_link`, `Html.Phrase.append`: inline markup is read piece by piece.
-/

namespace ApiPage.Html

/-! ### Tokens -/

/-- **Token** of an HTML text: a character, or a tag that opens or closes an element. -/
inductive Token
  | char (c : Char)
  | opens (name : Text) (attrs : List (Text × Text))
  | closes (name : Text)
  deriving DecidableEq

/-- A character of the name of a tag or an attribute. -/
def isTagChar (c : Char) : Bool :=
  'a' ≤ c && c ≤ 'z' || 'A' ≤ c && c ≤ 'Z' || '0' ≤ c && c ≤ '9' || c == '-'

/-- The name at the start of a text, and what follows it. -/
def tagName? (t : Text) : Option (Text × Text) :=
  if (t.takeWhile isTagChar).isEmpty then none
  else some (t.takeWhile isTagChar, t.dropWhile isTagChar)

/-- The value of an attribute up to its closing quote, and what follows that. No quote of either kind
stands for itself in it. -/
def quoted? (t : Text) : Option (Text × Text) :=
  if (t.takeWhile (· != '"')).contains '\'' then none else value? t

/-- The attribute at the start of a text, and what follows it. -/
def attr? (t : Text) : Option ((Text × Text) × Text) := do
  let (name, r) ← tagName? t
  let r ← Text.dropPrefix? r (Text.of "=\"")
  let (value, r) ← quoted? r
  return ((name, value), r)

/-- The attributes at the start of a text up to the end of the tag, and what follows that. -/
def attrs? (t : Text) : Option (List (Text × Text) × Text) :=
  match t with
  | [] => none
  | c :: r =>
    if c == '>' then some ([], r)
    else if c == ' ' then
      match attr? r with
      | none => none
      | some (a, s) =>
        if s.length ≤ r.length then (attrs? s).map fun (as, u) => (a :: as, u) else none
    else none
termination_by t.length

/-- The token at the start of a text, and what follows it. -/
def token? : Text → Option (Token × Text)
  | '<' :: '/' :: t => do
    let (name, r) ← tagName? t
    let r ← Text.dropPrefix? r ['>']
    return (.closes name, r)
  | '<' :: t => do
    let (name, r) ← tagName? t
    let (attrs, r) ← attrs? r
    return (.opens name attrs, r)
  | t => (char? t).map fun (c, r) => (.char c, r)

/-- **The tokens of an HTML text**. -/
def tokens? (t : Text) : Option (List Token) :=
  match t with
  | [] => some []
  | c :: r =>
    match token? (c :: r) with
    | none => none
    | some (a, s) => if s.length ≤ r.length then (tokens? s).map (a :: ·) else none
termination_by t.length

/-! ### What tokens say -/

/-- The name of the element of a link. -/
def linkName : Text := ['a']

/-- **Inline markup**: text and links, no link inside another. `inLink` says whether one is open. -/
def isInline : (inLink : Bool) → List Token → Bool
  | inLink, [] => !inLink
  | inLink, .char _ :: ts => isInline inLink ts
  | inLink, .opens name _ :: ts => name == linkName && !inLink && isInline true ts
  | inLink, .closes name :: ts => name == linkName && inLink && isInline false ts

/-- **The text of tokens**. -/
def textOf (ts : List Token) : Text :=
  ts.filterMap fun
    | .char c => some c
    | _ => none

/-- The class of the link from a heading to itself. -/
def permalinkClass : Text := Text.of "Documentation-idLink"

/-- **The destination of a link** that is not the one from a heading to itself. -/
def Token.href? : Token → Option Text
  | .opens name attrs =>
    if name = linkName ∧ attrs.lookup (Text.of "class") ≠ some permalinkClass then
      attrs.lookup (Text.of "href")
    else none
  | _ => none

/-- **The destinations of links**, from left to right; those from headings to themselves apart. -/
def hrefsOf (ts : List Token) : List Text := ts.filterMap Token.href?

/-! ### Writing tags -/

/-- The attributes of a tag. -/
def writeAttrs (attrs : List (Text × Text)) : Text :=
  attrs.flatMap fun (name, value) => ' ' :: name ++ Text.of "=\"" ++ escapeAttr value ++ ['"']

/-- The tag that opens an element. -/
def openTag (name : Text) (attrs : List (Text × Text)) : Text :=
  '<' :: name ++ writeAttrs attrs ++ ['>']

/-- The tag that closes an element. -/
def closeTag (name : Text) : Text := Text.of "</" ++ name ++ ['>']

/-- **Name of a tag or an attribute**. -/
def IsTagName (t : Text) : Prop := t ≠ [] ∧ t.all isTagChar

instance (t : Text) : Decidable (IsTagName t) := inferInstanceAs (Decidable (_ ∧ _))

/-! ### Tags are read back -/

/-- A name is read up to a character that no name holds. -/
theorem tagName?_append {name : Text} (h : IsTagName name) {c : Char} (hc : isTagChar c = false)
    (r : Text) : tagName? (name ++ c :: r) = some (name, c :: r) := by
  have hall := List.all_eq_true.mp h.2
  have htake : (name ++ c :: r).takeWhile isTagChar = name := by
    rw [List.takeWhile_append_of_pos hall, List.takeWhile_cons_of_neg (by simp [hc]),
      List.append_nil]
  have hdrop : (name ++ c :: r).dropWhile isTagChar = c :: r := by
    rw [List.dropWhile_append_of_pos hall, List.dropWhile_cons_of_neg (by simp [hc])]
  rw [tagName?, htake, hdrop, if_neg (by simpa using h.1)]

/-- A character of an attribute value is written without quotes. -/
theorem not_quote_of_mem_escapeAttrChar (d : Char) :
    ∀ c ∈ escapeAttrChar d, c ≠ '"' ∧ c ≠ '\'' := by
  unfold escapeAttrChar
  split
  · simp [Text.of]
  · simp [Text.of]
  · next hq ha =>
    unfold escapeChar
    split
    · simp [Text.of]
    · simp [Text.of]
    · simp [Text.of]
    · simpa using ⟨hq, ha⟩

/-- An escaped value holds no quotation marks. -/
theorem not_quote_of_mem_escapeAttr {v : Text} {c : Char} (h : c ∈ escapeAttr v) :
    c ≠ '"' ∧ c ≠ '\'' := by
  obtain ⟨d, -, hd⟩ := List.mem_flatMap.mp h
  exact not_quote_of_mem_escapeAttrChar d c hd

/-- An escaped value in quotation marks is read as the value. -/
theorem quoted?_escapeAttr (v r : Text) : quoted? (escapeAttr v ++ '"' :: r) = some (v, r) := by
  have htake : (escapeAttr v ++ '"' :: r).takeWhile (· != '"') = escapeAttr v := by
    rw [List.takeWhile_append_of_pos fun c hc => by simpa using (not_quote_of_mem_escapeAttr hc).1,
      List.takeWhile_cons_of_neg (by simp), List.append_nil]
  have hno : ¬(escapeAttr v).contains '\'' = true := by
    intro hmem
    exact (not_quote_of_mem_escapeAttr (List.contains_iff_mem.mp hmem)).2 rfl
  rw [quoted?, htake, if_neg hno, value?_escapeAttr]

/-- An attribute is read with its name and its value. -/
theorem attr?_append {name : Text} (h : IsTagName name) (value r : Text) :
    attr? (name ++ Text.of "=\"" ++ escapeAttr value ++ '"' :: r) = some ((name, value), r) := by
  have hsplit : name ++ Text.of "=\"" ++ escapeAttr value ++ '"' :: r =
      name ++ '=' :: ('"' :: (escapeAttr value ++ '"' :: r)) := by
    simp [Text.of]
  have hprefix : Text.dropPrefix? ('=' :: '"' :: (escapeAttr value ++ '"' :: r)) (Text.of "=\"") =
      some (escapeAttr value ++ '"' :: r) := dropPrefix?_append (Text.of "=\"") _
  rw [hsplit, attr?, tagName?_append h (by decide)]
  simp only [Option.bind_eq_bind, Option.bind_some, hprefix, quoted?_escapeAttr, Option.pure_def]

/-- **Attributes are read back** up to the end of the tag. -/
theorem attrs?_writeAttrs {attrs : List (Text × Text)} (h : ∀ a ∈ attrs, IsTagName a.1) (r : Text) :
    attrs? (writeAttrs attrs ++ '>' :: r) = some (attrs, r) := by
  induction attrs with
  | nil => simp [writeAttrs, attrs?]
  | cons a attrs ih =>
    obtain ⟨ha, hattrs⟩ := List.forall_mem_cons.mp h
    have hread := attr?_append ha a.2 (writeAttrs attrs ++ '>' :: r)
    have hsplit : writeAttrs (a :: attrs) ++ '>' :: r = ' ' ::
        (a.1 ++ Text.of "=\"" ++ escapeAttr a.2 ++ '"' :: (writeAttrs attrs ++ '>' :: r)) := by
      simp [writeAttrs]
    have hle : (writeAttrs attrs ++ '>' :: r).length ≤ (a.1 ++ Text.of "=\"" ++ escapeAttr a.2 ++
        '"' :: (writeAttrs attrs ++ '>' :: r)).length := by
      simp only [List.length_append, List.length_cons]
      omega
    rw [hsplit, attrs?, if_neg (by decide), if_pos (by decide), hread]
    dsimp only
    rw [if_pos hle, ih hattrs]
    rfl

/-- What is written after the name of a tag does not begin with a character of a name. -/
theorem writeAttrs_append_eq_cons (attrs : List (Text × Text)) (r : Text) :
    ∃ c u, writeAttrs attrs ++ '>' :: r = c :: u ∧ isTagChar c = false := by
  cases attrs with
  | nil => exact ⟨'>', r, rfl, by decide⟩
  | cons a attrs => exact ⟨' ', _, rfl, by decide⟩

/-- **The tag that opens an element is read back** with its attributes. -/
theorem token?_openTag {name : Text} {attrs : List (Text × Text)} (h : IsTagName name)
    (hattrs : ∀ a ∈ attrs, IsTagName a.1) (r : Text) :
    token? (openTag name attrs ++ r) = some (.opens name attrs, r) := by
  obtain ⟨c, u, hcu, hc⟩ := writeAttrs_append_eq_cons attrs r
  have hname : tagName? (name ++ (writeAttrs attrs ++ '>' :: r)) =
      some (name, writeAttrs attrs ++ '>' :: r) := by
    rw [hcu]
    exact tagName?_append h hc u
  have hsplit : openTag name attrs ++ r = '<' :: (name ++ (writeAttrs attrs ++ '>' :: r)) := by
    simp [openTag]
  obtain ⟨d, v, rfl⟩ := List.exists_cons_of_ne_nil h.1
  have hd : d ≠ '/' := by
    rintro rfl
    exact absurd (List.all_eq_true.mp h.2 '/' List.mem_cons_self) (by decide)
  rw [hsplit]
  rw [List.cons_append] at hname ⊢
  rw [token?]
  · simp only [hname, Option.bind_eq_bind, Option.bind_some, attrs?_writeAttrs hattrs,
      Option.pure_def]
  · intro t ht
    exact hd (List.cons_eq_cons.mp ht).1

/-- **The tag that closes an element is read back**. -/
theorem token?_closeTag {name : Text} (h : IsTagName name) (r : Text) :
    token? (closeTag name ++ r) = some (.closes name, r) := by
  have hsplit : closeTag name ++ r = '<' :: '/' :: (name ++ '>' :: r) := by
    simp [closeTag, Text.of]
  have hprefix : Text.dropPrefix? ('>' :: r) ['>'] = some r := dropPrefix?_append ['>'] r
  rw [hsplit, token?, tagName?_append h (by decide)]
  simp only [Option.bind_eq_bind, Option.bind_some, hprefix, Option.pure_def]

/-- An escaped character is read as the character. -/
theorem token?_escapeChar (c : Char) (r : Text) :
    token? (escapeChar c ++ r) = some (.char c, r) := by
  have hchar := char?_escapeChar c r
  obtain ⟨d, u, hdu, hd, -⟩ := escapeChar_eq_cons c
  rw [hdu, List.cons_append] at hchar ⊢
  rw [token?]
  · rw [hchar]
    rfl
  · intro t ht
    exact hd (List.cons_eq_cons.mp ht).1
  · intro t ht
    exact hd (List.cons_eq_cons.mp ht).1

/-! ### Reading a whole text -/

/-- `h` reads as the tokens `ts`, whatever follows it. -/
def Spells (h : Text) (ts : List Token) : Prop :=
  ∀ r, tokens? (h ++ r) = (tokens? r).map (ts ++ ·)

namespace Spells

/-- An empty text spells no tokens. -/
theorem nil : Spells [] [] := fun r => by simp

/-- What one text spells comes before what the next one does. -/
theorem append {g h : Text} {ts us : List Token} (hg : Spells g ts) (hh : Spells h us) :
    Spells (g ++ h) (ts ++ us) := by
  intro r
  rw [List.append_assoc, hg, hh, Option.map_map]
  simp [Function.comp_def]

/-- What reads as one token at the start of any text reads as it. -/
theorem single {h : Text} {a : Token} (hne : h ≠ []) (ha : ∀ r, token? (h ++ r) = some (a, r)) :
    Spells h [a] := by
  intro r
  obtain ⟨c, u, rfl⟩ := List.exists_cons_of_ne_nil hne
  have h := ha r
  rw [List.cons_append] at h
  rw [List.cons_append, tokens?]
  simp [h]

/-- The tokens of a text that reads as them. -/
theorem tokens {h : Text} {ts : List Token} (hs : Spells h ts) : tokens? h = some ts := by
  have h := hs []
  simpa [tokens?] using h

end Spells

/-- An opening tag is one token, with its attributes. -/
theorem spells_openTag {name : Text} {attrs : List (Text × Text)} (h : IsTagName name)
    (hattrs : ∀ a ∈ attrs, IsTagName a.1) :
    Spells (openTag name attrs) [.opens name attrs] :=
  Spells.single (by simp [openTag]) (token?_openTag h hattrs)

/-- A closing tag is one token. -/
theorem spells_closeTag {name : Text} (h : IsTagName name) :
    Spells (closeTag name) [.closes name] :=
  Spells.single (by simp [closeTag]) (token?_closeTag h)

/-- An escaped text spells its characters. -/
theorem spells_escape (t : Text) : Spells (escape t) (t.map .char) := by
  induction t with
  | nil => exact Spells.nil
  | cons c t ih =>
    have hc : Spells (escapeChar c) [.char c] := by
      refine Spells.single ?_ (token?_escapeChar c)
      obtain ⟨d, u, hdu, -⟩ := escapeChar_eq_cons c
      simp [hdu]
    exact hc.append ih

/-- A link is an element with one attribute. -/
theorem link_eq (href label : Text) :
    link href label =
      openTag linkName [(Text.of "href", href)] ++ escape label ++ closeTag linkName := by
  simp [link, openTag, closeTag, writeAttrs, linkName, Text.of]

/-- **A link** opens, shows its label and closes. -/
theorem spells_link (href label : Text) :
    Spells (link href label)
      (.opens linkName [(Text.of "href", href)] :: label.map .char ++ [.closes linkName]) := by
  have hname : IsTagName linkName := by decide
  have hattr : IsTagName (Text.of "href") := by decide
  rw [link_eq]
  exact ((spells_openTag hname (by simpa using hattr)).append (spells_escape label)).append
    (spells_closeTag hname)

/-! ### Inline markup -/

/-- Inline tokens behind ones that are closed. -/
theorem isInline_append {inLink : Bool} {ts us : List Token} (h : isInline inLink ts)
    (hus : isInline false us) : isInline inLink (ts ++ us) := by
  induction ts generalizing inLink with
  | nil =>
    obtain rfl : inLink = false := by simpa [isInline] using h
    exact hus
  | cons a ts ih =>
    cases a with
    | char c => exact ih h
    | opens name attrs =>
      obtain ⟨hname, hts⟩ := Bool.and_eq_true_iff.mp h
      exact Bool.and_eq_true_iff.mpr ⟨hname, ih hts⟩
    | closes name =>
      obtain ⟨hname, hts⟩ := Bool.and_eq_true_iff.mp h
      exact Bool.and_eq_true_iff.mpr ⟨hname, ih hts⟩

/-- Characters are inline, in a link and outside. -/
theorem isInline_chars_append (inLink : Bool) (t : Text) (ts : List Token) :
    isInline inLink (t.map .char ++ ts) = isInline inLink ts := by
  induction t with
  | nil => rfl
  | cons c t ih => exact ih

/-- The text of tokens is that of its parts, in order. -/
theorem textOf_append (ts us : List Token) : textOf (ts ++ us) = textOf ts ++ textOf us :=
  List.filterMap_append

/-- The text of the characters of a text. -/
theorem textOf_chars (t : Text) : textOf (t.map .char) = t := by
  simp [textOf, List.filterMap_map]

/-- The links of tokens are those of its parts, in order. -/
theorem hrefsOf_append (ts us : List Token) : hrefsOf (ts ++ us) = hrefsOf ts ++ hrefsOf us :=
  List.filterMap_append

/-- Characters have no links. -/
theorem hrefsOf_chars (t : Text) : hrefsOf (t.map .char) = [] := by
  simp [hrefsOf, List.filterMap_map, Function.comp_def, Token.href?]

/-- The tokens of a link go where the link goes. -/
theorem hrefsOf_link (href label : Text) :
    hrefsOf (.opens linkName [(Text.of "href", href)] :: label.map .char ++ [.closes linkName]) =
      [href] := by
  have hhref : (Token.opens linkName [(Text.of "href", href)]).href? = some href := by
    simp [Token.href?, Text.of]
  rw [hrefsOf_append, hrefsOf, List.filterMap_cons_some hhref]
  have hchars := hrefsOf_chars label
  rw [hrefsOf] at hchars
  rw [hchars]
  rfl

/-- **Inline markup of a text**: `h` reads as text and links that show `t`, and wherever a link goes,
`S` holds. -/
def Phrase (S : Text → Prop) (h t : Text) : Prop :=
  ∃ ts, Spells h ts ∧ isInline false ts ∧ textOf ts = t ∧ ∀ href ∈ hrefsOf ts, S href

namespace Phrase

variable {S : Text → Prop}

/-- An empty phrase. -/
theorem nil : Phrase S [] [] := ⟨[], Spells.nil, rfl, rfl, by simp [hrefsOf]⟩

/-- One phrase before another. -/
theorem append {g h t u : Text} (hg : Phrase S g t) (hh : Phrase S h u) :
    Phrase S (g ++ h) (t ++ u) := by
  obtain ⟨ts, hs, hi, rfl, hS⟩ := hg
  obtain ⟨us, hs', hi', rfl, hS'⟩ := hh
  refine ⟨ts ++ us, hs.append hs', isInline_append hi hi', textOf_append ts us, ?_⟩
  rw [hrefsOf_append]
  exact List.forall_mem_append.mpr ⟨hS, hS'⟩

/-- Inline markup of the parts of a list is inline markup of the whole. -/
theorem flatMap {α : Type} {f g : α → Text} {l : List α} (h : ∀ a ∈ l, Phrase S (f a) (g a)) :
    Phrase S (l.flatMap f) (l.flatMap g) := by
  induction l with
  | nil => exact nil
  | cons a l ih =>
    exact (h a List.mem_cons_self).append (ih fun b hb => h b (List.mem_cons_of_mem a hb))

end Phrase

/-- An escaped text is a phrase without links. -/
theorem phrase_escape (S : Text → Prop) (t : Text) : Phrase S (escape t) t := by
  refine ⟨t.map .char, spells_escape t, ?_, textOf_chars t, by simp [hrefsOf_chars]⟩
  have h := isInline_chars_append false t []
  rwa [List.append_nil] at h

/-- A link is a phrase if what it refers to has the property. -/
theorem phrase_link {S : Text → Prop} {href : Text} (h : S href) (label : Text) :
    Phrase S (link href label) label := by
  refine ⟨_, spells_link href label, ?_, ?_, ?_⟩
  · rw [List.cons_append, isInline, isInline_chars_append]
    rfl
  · rw [textOf_append, textOf, List.filterMap_cons_none rfl]
    have hchars := textOf_chars label
    rw [textOf] at hchars
    rw [hchars]
    exact List.append_nil label
  · rw [hrefsOf_link]
    simpa using h

end ApiPage.Html
