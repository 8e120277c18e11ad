import Mathlib
import ApiPage.Html

/-!
# Reading HTML

The HTML of a page is read back as a list of *events*: characters, tags that open an element and
tags that close one. Only what a page may hold is read: spans of comments, spans of anchors, links,
and the five entities. Everything else, a stray angle bracket or ampersand among it, makes a text
unreadable.

## Main definitions

* `Html.events?`: the events of an HTML text.
* `Html.wellNested`: every element is closed, the one that was opened last first.
* `Html.shown`: the text without its tags.
* `Html.anchorsIn`: the anchors of the spans in the order in which they are opened.
* `Html.Displays`: an HTML text that reads as balanced markup of a text, with some anchors.

## Main results

* `Html.displays_escape`, `Html.displays_link`, `Html.Displays.comment`, `Html.Displays.anchor`: the
  constructs of a page read as what they are made from.
* `Html.Displays.append`: markup is read piece by piece.
-/

namespace ApiPage.Html

/-! ### Events -/

/-- **Element** of a page. -/
inductive Element
  | span | link
  deriving DecidableEq

/-- **Opening tag**: of a comment, of an anchor with its identifier and the name of its kind, or of
a link. -/
inductive Tag
  | comment
  | anchor (id kind : Text)
  | link (href : Text)
  deriving DecidableEq

/-- The element that a tag opens. -/
def Tag.element : Tag → Element
  | comment => .span
  | anchor .. => .span
  | link _ => .link

/-- **Event** of reading HTML. -/
inductive Event
  | char (c : Char)
  | opens (tag : Tag)
  | closes (element : Element)
  deriving DecidableEq

/-- The entities without their ampersand. -/
def entities : List (Text × Char) :=
  [(Text.of "amp;", '&'), (Text.of "lt;", '<'), (Text.of "gt;", '>'), (Text.of "quot;", '"'),
    (Text.of "#x27;", '\'')]

/-- The character at the start of a text, and what follows it. -/
def char? : Text → Option (Char × Text)
  | [] => none
  | c :: r =>
    if c == '&' then entities.findSome? fun (name, d) => (Text.dropPrefix? r name).map (d, ·)
    else if c == '<' || c == '>' then none
    else some (c, r)

/-- The value of an attribute up to its closing quote, and what follows that. -/
def value? (t : Text) : Option (Text × Text) :=
  match t with
  | [] => none
  | c :: r =>
    if c == '"' then some ([], r)
    else match char? (c :: r) with
      | none => none
      | some (d, s) =>
        if s.length ≤ r.length then (value? s).map fun (v, u) => (d :: v, u) else none
termination_by t.length

/-- The tag at the start of a text, and what follows it. -/
def tag? (t : Text) : Option (Event × Text) :=
  let link : Option (Event × Text) := do
    let r ← Text.dropPrefix? t (Text.of "<a href=\"")
    let (href, r) ← value? r
    let r ← Text.dropPrefix? r ['>']
    return (.opens (.link href), r)
  let anchor : Option (Event × Text) := do
    let r ← Text.dropPrefix? t (Text.of "<span id=\"")
    let (id, r) ← value? r
    let r ← Text.dropPrefix? r (Text.of " data-kind=\"")
    let (kind, r) ← value? r
    let r ← Text.dropPrefix? r ['>']
    return (.opens (.anchor id kind), r)
  ((Text.dropPrefix? t (Text.of "</span>")).map (.closes .span, ·)).or <|
    ((Text.dropPrefix? t (Text.of "</a>")).map (.closes .link, ·)).or <|
    ((Text.dropPrefix? t (Text.of "<span class=\"comment\">")).map (.opens .comment, ·)).or <|
    link.or anchor

/-- The event at the start of a text, and what follows it. -/
def event? (t : Text) : Option (Event × Text) :=
  (tag? t).or ((char? t).map fun (c, r) => (.char c, r))

/-- **The events of an HTML text**. -/
def events? (t : Text) : Option (List Event) :=
  match t with
  | [] => some []
  | c :: r =>
    match event? (c :: r) with
    | none => none
    | some (e, s) => if s.length ≤ r.length then (events? s).map (e :: ·) else none
termination_by t.length

/-! ### What events say -/

/-- **Every element is closed**, the one that was opened last first. The elements that are open come
last first. -/
def wellNested : (opened : List Element) → List Event → Bool
  | opened, [] => opened.isEmpty
  | opened, .char _ :: es => wellNested opened es
  | opened, .opens t :: es => wellNested (t.element :: opened) es
  | [], .closes _ :: _ => false
  | o :: opened, .closes e :: es => o == e && wellNested opened es

/-- **The text without its tags**. -/
def shown (es : List Event) : Text :=
  es.filterMap fun
    | .char c => some c
    | _ => none

/-- **The anchors of the spans**, as identifiers with the names of their kinds. -/
def anchorsIn (es : List Event) : List (Text × Text) :=
  es.filterMap fun
    | .opens (.anchor id kind) => some (id, kind)
    | _ => none

/-! ### Reading single constructs -/

/-- A text in front of another one can be dropped. -/
theorem dropPrefix?_append (p r : Text) : Text.dropPrefix? (p ++ r) p = some r := by
  induction p with
  | nil => cases r <;> rfl
  | cons c p ih => simpa [Text.dropPrefix?] using ih

/-- A character of escaped text reads as itself. -/
theorem char?_escapeChar (c : Char) (r : Text) : char? (escapeChar c ++ r) = some (c, r) := by
  unfold escapeChar
  split
  · simp [char?, entities, Text.of, Text.dropPrefix?]
  · simp [char?, entities, Text.of, Text.dropPrefix?]
  · simp [char?, entities, Text.of, Text.dropPrefix?]
  · next h₁ h₂ h₃ => simp_all [char?]

/-- A character of an escaped attribute value reads as itself. -/
theorem char?_escapeAttrChar (c : Char) (r : Text) :
    char? (escapeAttrChar c ++ r) = some (c, r) := by
  unfold escapeAttrChar
  split
  · simp [char?, entities, Text.of, Text.dropPrefix?]
  · simp [char?, entities, Text.of, Text.dropPrefix?]
  · exact char?_escapeChar c r

/-- No character of text is written with an opening bracket or quote at its start. -/
theorem escapeChar_eq_cons (c : Char) :
    ∃ d u, escapeChar c = d :: u ∧ d ≠ '<' ∧ (c ≠ '"' → d ≠ '"') := by
  unfold escapeChar
  split
  · exact ⟨'&', Text.of "amp;", rfl, by decide, fun _ => by decide⟩
  · exact ⟨'&', Text.of "lt;", rfl, by decide, fun _ => by decide⟩
  · exact ⟨'&', Text.of "gt;", rfl, by decide, fun _ => by decide⟩
  · next h₁ h₂ h₃ => exact ⟨c, [], rfl, h₂, id⟩

/-- No character of an attribute value is written with a quote at its start. -/
theorem escapeAttrChar_eq_cons (c : Char) : ∃ d u, escapeAttrChar c = d :: u ∧ d ≠ '"' := by
  unfold escapeAttrChar
  split
  · exact ⟨'&', Text.of "quot;", rfl, by decide⟩
  · exact ⟨'&', Text.of "#x27;", rfl, by decide⟩
  · next h₁ h₂ =>
    obtain ⟨d, u, h, -, hq⟩ := escapeChar_eq_cons c
    exact ⟨d, u, h, hq h₁⟩

/-- **An attribute value is read back** up to its closing quote. -/
theorem value?_escapeAttr (v r : Text) : value? (escapeAttr v ++ '"' :: r) = some (v, r) := by
  induction v with
  | nil => simp [escapeAttr, value?]
  | cons c v ih =>
    obtain ⟨d, u, hdu, hd⟩ := escapeAttrChar_eq_cons c
    have hc := char?_escapeAttrChar c (escapeAttr v ++ '"' :: r)
    have hsplit : escapeAttr (c :: v) ++ '"' :: r = d :: (u ++ (escapeAttr v ++ '"' :: r)) := by
      simp [escapeAttr, hdu]
    rw [hdu, List.cons_append] at hc
    rw [hsplit, value?]
    simp [hd, hc, ih]

/-- A text that does not begin with an opening bracket begins with no tag. -/
theorem tag?_of_ne {c : Char} (h : c ≠ '<') (r : Text) : tag? (c :: r) = none := by
  simp [tag?, Text.of, Text.dropPrefix?, h]

/-- The end of a span is read as such. -/
theorem event?_closeSpan (r : Text) : event? (closeSpan ++ r) = some (.closes .span, r) := by
  have h := dropPrefix?_append (Text.of "</span>") r
  simp only [event?, tag?, closeSpan, h, Option.map_some, Option.some_or]

/-- The start of a comment is read as such. -/
theorem event?_openComment (r : Text) : event? (openComment ++ r) = some (.opens .comment, r) := by
  have h₁ : Text.dropPrefix? (openComment ++ r) (Text.of "</span>") = none := rfl
  have h₂ : Text.dropPrefix? (openComment ++ r) (Text.of "</a>") = none := rfl
  have h₃ := dropPrefix?_append (Text.of "<span class=\"comment\">") r
  simp only [event?, tag?, h₁, h₂, Option.map_none, Option.none_or]
  rw [openComment, h₃]
  rfl

/-- The end of a link is read as such. -/
theorem event?_closeLink (r : Text) :
    event? (Text.of "</a>" ++ r) = some (.closes .link, r) := by
  have h₁ : Text.dropPrefix? (Text.of "</a>" ++ r) (Text.of "</span>") = none := rfl
  simp only [event?, tag?, h₁, dropPrefix?_append, Option.map_none, Option.none_or,
    Option.map_some, Option.some_or]

/-- The start of an anchor is read with its identifier and kind. -/
theorem event?_openAnchor (id kind r : Text) :
    event? (openAnchor id kind ++ r) = some (.opens (.anchor id kind), r) := by
  have hsplit : openAnchor id kind ++ r = Text.of "<span id=\"" ++ (escapeAttr id ++ '"' ::
      (Text.of " data-kind=\"" ++ (escapeAttr kind ++ '"' :: (['>'] ++ r)))) := by
    simp [openAnchor, Text.of]
  rw [hsplit]
  simp only [event?, tag?, dropPrefix?_append, value?_escapeAttr, Option.bind_eq_bind,
    Option.bind_some, Option.pure_def]
  rfl

/-- The start of a link is read with what it refers to. -/
theorem event?_openLink (href r : Text) :
    event? (Text.of "<a href=\"" ++ escapeAttr href ++ Text.of "\">" ++ r) =
      some (.opens (.link href), r) := by
  have hsplit : Text.of "<a href=\"" ++ escapeAttr href ++ Text.of "\">" ++ r =
      Text.of "<a href=\"" ++ (escapeAttr href ++ '"' :: (['>'] ++ r)) := by
    simp [Text.of]
  rw [hsplit]
  simp only [event?, tag?, dropPrefix?_append, value?_escapeAttr, Option.bind_eq_bind,
    Option.bind_some, Option.pure_def]
  rfl

/-- An escaped character is read as the character. -/
theorem event?_escapeChar (c : Char) (r : Text) :
    event? (escapeChar c ++ r) = some (.char c, r) := by
  obtain ⟨d, u, hdu, hd, -⟩ := escapeChar_eq_cons c
  have htag : tag? (escapeChar c ++ r) = none := by
    rw [hdu]
    exact tag?_of_ne hd (u ++ r)
  rw [event?, htag, char?_escapeChar]
  rfl

/-! ### Reading a whole text -/

/-- `h` reads as the events `es`, whatever follows it. -/
def Reads (h : Text) (es : List Event) : Prop :=
  ∀ r, events? (h ++ r) = (events? r).map (es ++ ·)

namespace Reads

/-- An empty text has no events. -/
theorem nil : Reads [] [] := fun r => by simp

/-- Events of one text come before those of the next. -/
theorem append {g h : Text} {es fs : List Event} (hg : Reads g es) (hh : Reads h fs) :
    Reads (g ++ h) (es ++ fs) := by
  intro r
  rw [List.append_assoc, hg, hh, Option.map_map]
  simp [Function.comp_def]

/-- What reads as one event at the start of any text reads as it. -/
theorem single {h : Text} {e : Event} (hne : h ≠ []) (he : ∀ r, event? (h ++ r) = some (e, r)) :
    Reads h [e] := by
  intro r
  obtain ⟨c, u, rfl⟩ := List.exists_cons_of_ne_nil hne
  have h := he r
  rw [List.cons_append] at h
  rw [List.cons_append, events?]
  simp [h]

/-- The events of a text that reads as them. -/
theorem events {h : Text} {es : List Event} (hr : Reads h es) : events? h = some es := by
  have h := hr []
  simpa [events?] using h

end Reads

/-- Escaping goes character by character. -/
theorem escape_append (t u : Text) : escape (t ++ u) = escape t ++ escape u := List.flatMap_append

/-- An escaped text is read as its characters. -/
theorem reads_escape (t : Text) : Reads (escape t) (t.map .char) := by
  induction t with
  | nil => exact Reads.nil
  | cons c t ih =>
    have hc : Reads (escapeChar c) [.char c] := by
      refine Reads.single ?_ (event?_escapeChar c)
      obtain ⟨d, u, hdu, -⟩ := escapeChar_eq_cons c
      simp [hdu]
    exact hc.append ih

/-- The end of a span is one event. -/
theorem reads_closeSpan : Reads closeSpan [.closes .span] :=
  Reads.single (by simp [closeSpan, Text.of]) event?_closeSpan

/-- The start of a comment is one event. -/
theorem reads_openComment : Reads openComment [.opens .comment] :=
  Reads.single (by simp [openComment, Text.of]) event?_openComment

/-- The start of an anchor is one event. -/
theorem reads_openAnchor (id kind : Text) :
    Reads (openAnchor id kind) [.opens (.anchor id kind)] :=
  Reads.single (by simp [openAnchor, Text.of]) (event?_openAnchor id kind)

/-- **A link** opens, shows its label and closes. -/
theorem reads_link (href label : Text) :
    Reads (link href label) (.opens (.link href) :: label.map .char ++ [.closes .link]) := by
  have hopen : Reads (Text.of "<a href=\"" ++ escapeAttr href ++ Text.of "\">")
      [.opens (.link href)] :=
    Reads.single (by simp [Text.of]) (event?_openLink href)
  have hclose : Reads (Text.of "</a>") [.closes .link] :=
    Reads.single (by simp [Text.of]) event?_closeLink
  exact (hopen.append (reads_escape label)).append hclose

/-! ### Balanced events -/

/-- The events leave the open elements as they are. -/
def Balanced (es : List Event) : Prop :=
  ∀ opened fs, wellNested opened (es ++ fs) = wellNested opened fs

namespace Balanced

/-- No events are balanced. -/
theorem nil : Balanced [] := fun _ _ => rfl

/-- Balanced events before balanced ones. -/
theorem append {es fs : List Event} (he : Balanced es) (hf : Balanced fs) :
    Balanced (es ++ fs) := by
  intro opened gs
  rw [List.append_assoc, he, hf]

/-- Characters open and close nothing. -/
theorem chars (t : Text) : Balanced (t.map .char) := by
  intro opened fs
  induction t with
  | nil => rfl
  | cons c t ih => simpa [wellNested] using ih

/-- Balanced events between a tag and its closing tag are balanced. -/
theorem wrap {es : List Event} (h : Balanced es) (t : Tag) :
    Balanced (.opens t :: es ++ [.closes t.element]) := by
  intro opened fs
  simp only [List.cons_append, List.append_assoc, List.nil_append, wellNested]
  rw [h, wellNested]
  simp

/-- Balanced events by themselves close what they open. -/
theorem wellNested {es : List Event} (h : Balanced es) : wellNested [] es = true := by
  have hes := h [] []
  simpa [Html.wellNested] using hes

end Balanced

/-! ### Markup of a text -/

/-- Events show their characters in order. -/
theorem shown_append (es fs : List Event) : shown (es ++ fs) = shown es ++ shown fs := by
  simp [shown]

/-- Events open their anchors in order. -/
theorem anchorsIn_append (es fs : List Event) :
    anchorsIn (es ++ fs) = anchorsIn es ++ anchorsIn fs := by
  simp [anchorsIn]

/-- The characters of a text show the text. -/
theorem shown_chars (t : Text) : shown (t.map .char) = t := by
  simp [shown, List.filterMap_map]

/-- The characters of a text open no anchors. -/
theorem anchorsIn_chars (t : Text) : anchorsIn (t.map .char) = [] := by
  simp [anchorsIn, List.filterMap_map]

/-- **Markup of a text**: `h` reads as balanced events that show `t`, with the anchors `as`. -/
def Displays (h t : Text) (as : List (Text × Text)) : Prop :=
  ∃ es, Reads h es ∧ Balanced es ∧ shown es = t ∧ anchorsIn es = as

namespace Displays

/-- An empty text displays nothing. -/
theorem nil : Displays [] [] [] := ⟨[], Reads.nil, Balanced.nil, rfl, rfl⟩

/-- What one text displays comes before what the next one does. -/
theorem append {g h t u : Text} {as bs : List (Text × Text)} (hg : Displays g t as)
    (hh : Displays h u bs) : Displays (g ++ h) (t ++ u) (as ++ bs) := by
  obtain ⟨es, hr, hb, rfl, rfl⟩ := hg
  obtain ⟨fs, hr', hb', rfl, rfl⟩ := hh
  exact ⟨es ++ fs, hr.append hr', hb.append hb', shown_append es fs, anchorsIn_append es fs⟩

/-- Markup of the parts of a list is markup of the whole. -/
theorem flatMap {α : Type} {f g : α → Text} {as : α → List (Text × Text)} {l : List α}
    (h : ∀ a ∈ l, Displays (f a) (g a) (as a)) :
    Displays (l.flatMap f) (l.flatMap g) (l.flatMap as) := by
  induction l with
  | nil => exact nil
  | cons a l ih =>
    exact (h a List.mem_cons_self).append (ih fun b hb => h b (List.mem_cons_of_mem a hb))

/-- A comment around markup. -/
theorem comment {h t : Text} {as : List (Text × Text)} (hh : Displays h t as) :
    Displays (Html.comment h) t as := by
  obtain ⟨es, hr, hb, rfl, rfl⟩ := hh
  refine ⟨.opens .comment :: es ++ [.closes .span],
    (reads_openComment.append hr).append reads_closeSpan, hb.wrap .comment, ?_, ?_⟩
  · simp [shown]
  · simp [anchorsIn]

/-- The span of an anchor around markup. -/
theorem anchor {h t : Text} {as : List (Text × Text)} (hh : Displays h t as) (id kind : Text) :
    Displays (openAnchor id kind ++ h ++ closeSpan) t ((id, kind) :: as) := by
  obtain ⟨es, hr, hb, rfl, rfl⟩ := hh
  refine ⟨.opens (.anchor id kind) :: es ++ [.closes .span],
    ((reads_openAnchor id kind).append hr).append reads_closeSpan, hb.wrap (.anchor id kind),
    ?_, ?_⟩
  · simp [shown]
  · simp [anchorsIn]

end Displays

/-- An escaped text displays the text, with no anchors. -/
theorem displays_escape (t : Text) : Displays (escape t) t [] :=
  ⟨t.map .char, reads_escape t, Balanced.chars t, shown_chars t, anchorsIn_chars t⟩

/-- A link displays its label, with no anchors. -/
theorem displays_link (href label : Text) : Displays (link href label) label [] := by
  refine ⟨_, reads_link href label, (Balanced.chars label).wrap (.link href), ?_, ?_⟩
  · simp [shown, List.filterMap_map]
  · simp [anchorsIn, List.filterMap_map]

end ApiPage.Html
