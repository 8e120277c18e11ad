import ApiPage.Page.Rendering
import ApiPage.Proofs.Displayed
import ApiPage.Proofs.Elements

/-!
# Documentation as HTML

Each block of documentation becomes one element: a heading, a paragraph or preformatted text. Here
that element is read back. Its content is inline markup of what the block says, whatever the text of
the documentation and whatever the URLs of pages are. Where the links of the content go is a
parameter of the lemmas, so that they serve for any property of destinations.

## Main definitions

* `Resolver.LinksTo`: a property of all destinations that a resolver gives.
* `ShowsBlock`: an HTML text is the element of a block.

## Main results

* `Resolver.phrase_html`, `Prose.phrase_formatLine`: a word and a line are inline markup.
* `Renderer.block_blockHtml`: the element of a block.
* `Renderer.docHtml_showsBlocks`: documentation is its elements, one a block.
-/

namespace ApiPage

open Html (Phrase Spells Token)
open Prose (Block)

/-! ### Words -/

namespace Resolver

/-- **Wherever a resolver links a word, `S` holds of the destination.** -/
structure LinksTo (S : Text → Prop) (r : Resolver) : Prop where
  target : ∀ w ∈ r.targets, S ('#' :: w)
  member : ∀ {w id}, r.members.lookup w = some id → S ('#' :: id)
  page : ∀ {w path}, r.namespaces.lookup w = some path → ∀ symbol, S (r.url path symbol)
  symbol : ∀ {w path symbol}, r.symbols.lookup w = some (path, symbol) → S (r.url path symbol)
  builtin : ∀ w, S (r.url builtinsPath w)

variable {S : Text → Prop} {r : Resolver}

/-- A word in prose is a phrase. -/
theorem phrase_plainHtml (h : r.LinksTo S) (w : Text) : Phrase S (r.plainHtml w) w := by
  unfold plainHtml
  split
  · next hw => exact Html.phrase_link (h.target w (List.contains_iff_mem.mp hw)) w
  · split
    · next hm => exact Html.phrase_link (h.member hm) w
    · split
      · next hs => exact Html.phrase_link (h.symbol hs) w
      · split
        · exact Html.phrase_link (h.builtin w) w
        · exact Html.phrase_escape S w

/-- **A resolved word is inline markup of the word**, also where it becomes two links. -/
theorem phrase_html (h : r.LinksTo S) (w : Text) : Phrase S (r.html w) w := by
  unfold html
  split
  · next head rest hcut =>
    split
    · next path hpath =>
      have hhead := Html.phrase_link (h.page hpath []) head
      have hdot : Phrase S ['.'] ['.'] := Html.phrase_escape S ['.']
      have hrest := Html.phrase_link (h.page hpath rest) rest
      rw [Text.eq_of_cutAt? hcut]
      exact hhead.append (hdot.append hrest)
    · exact phrase_plainHtml h w
  · exact phrase_plainHtml h w

/-- Words are resolved if they are to be links, and text if not. -/
theorem phrase_hotlinks (h : r.LinksTo S) (hotlinks : Bool) :
    ∀ f ∈ (if hotlinks then some r.html else none), ∀ w, Phrase S (f w) w := by
  intro f hf w
  split at hf
  · obtain rfl := Option.some.inj hf
    exact phrase_html h w
  · cases hf

/-- Any resolver links words to something. -/
theorem linksTo_true (r : Resolver) : r.LinksTo fun _ => True :=
  ⟨fun _ _ => trivial, fun _ => trivial, fun _ _ => trivial, fun _ => trivial, fun _ => trivial⟩

end Resolver

/-! ### Lines -/

namespace Prose

variable {S : Text → Prop} {resolve : Option (Text → Text)}

/-- A piece is inline markup of what it shows, if its own link goes to `S` and the resolver's words
are inline markup. -/
theorem Piece.phrase_html (hr : ∀ f ∈ resolve, ∀ w, Phrase S (f w) w) {p : Piece}
    (hp : ∀ href label, p = .link href label → S href) : Phrase S (p.html resolve) p.shown := by
  cases p with
  | plain t => exact Html.phrase_escape S t
  | link href label => exact Html.phrase_link (hp href label rfl) label
  | name w =>
    cases resolve with
    | none => exact Html.phrase_escape S w
    | some f => exact hr f rfl w

/-- **The HTML of a line is inline markup of the line** with its quotes converted. -/
theorem phrase_formatLine (hr : ∀ f ∈ resolve, ∀ w, Phrase S (f w) w) {line : Text}
    (hlinks : ∀ href label, .link href label ∈ pieces (convertQuotes line) → S href) :
    Phrase S (formatLine resolve line) (convertQuotes line) := by
  have h : Phrase S ((pieces (convertQuotes line)).flatMap (Piece.html resolve))
      ((pieces (convertQuotes line)).flatMap Piece.shown) :=
    Phrase.flatMap fun p hp => p.phrase_html hr fun href label heq => hlinks href label (heq ▸ hp)
  rwa [flatMap_shown_pieces] at h

/-- The text that some lines show, a newline after each. -/
def shownLines (ls : List Text) : Text := ls.flatMap fun l => convertQuotes l ++ ['\n']

/-- Lines of prose are a phrase. -/
theorem phrase_formatLines (hr : ∀ f ∈ resolve, ∀ w, Phrase S (f w) w)
    (hlinks : ∀ t href label, .link href label ∈ pieces t → S href) (ls : List Text) :
    Phrase S (formatLines resolve ls) (shownLines ls) := by
  have hnewline : Phrase S ['\n'] ['\n'] := Html.phrase_escape S ['\n']
  exact Phrase.flatMap fun l _ => (phrase_formatLine hr (hlinks _)).append hnewline

end Prose

/-! ### Headings -/

/-- A character that is written as itself in an attribute. -/
theorem Html.escapeAttrChar_eq_self {c : Char}
    (h : Text.isAsciiLetter c.toNat || Text.isAsciiDigit c.toNat || c == '_' || c == '-') :
    escapeAttrChar c = [c] := by
  unfold escapeAttrChar
  split
  · exact absurd h (by decide)
  · exact absurd h (by decide)
  · unfold escapeChar
    split
    · exact absurd h (by decide)
    · exact absurd h (by decide)
    · exact absurd h (by decide)
    · rfl

/-- A value without special characters is escaped as itself. -/
theorem Html.escapeAttr_eq_self {t : Text} (h : ∀ c ∈ t, escapeAttrChar c = [c]) :
    escapeAttr t = t := by
  induction t with
  | nil => rfl
  | cons c t ih =>
    obtain ⟨hc, ht⟩ := List.forall_mem_cons.mp h
    have ih := ih ht
    rw [escapeAttr] at ih ⊢
    rw [List.flatMap_cons, hc, ih]
    rfl

/-- The identifier of a heading is written as it is. -/
theorem escapeAttr_headingId (title : Text) :
    Html.escapeAttr (headingId title) = headingId title := by
  refine Html.escapeAttr_eq_self fun c hc => Html.escapeAttrChar_eq_self ?_
  rcases List.mem_append.mp hc with hc | hc
  · have hprefix : ∀ c ∈ Text.of "hdr-",
        Text.isAsciiLetter c.toNat || Text.isAsciiDigit c.toNat || c == '_' || c == '-' := by
      simp [Text.of, Text.isAsciiLetter]
    exact hprefix c hc
  · obtain ⟨d, -, rfl⟩ := List.mem_map.mp hc
    split
    · next hd => simp [hd]
    · simp

namespace Renderer

variable {S : Text → Prop} (r : Renderer)

/-- The link from a heading to itself. -/
def permalink (title : Text) : Text :=
  Html.openTag Html.linkName
      [(Text.of "class", Html.permalinkClass), (Text.of "href", '#' :: headingId title)] ++
    Html.escape ['¶'] ++ Html.closeTag Html.linkName

/-- The link from a heading to itself is inline markup, and none of the links that count. -/
theorem phrase_permalink (S : Text → Prop) (title : Text) : Phrase S (permalink title) ['¶'] := by
  have hname : Html.IsTagName Html.linkName := by decide
  have hattrs : ∀ a ∈ [(Text.of "class", Html.permalinkClass),
      (Text.of "href", '#' :: headingId title)], Html.IsTagName a.1 := by
    have hclass : Html.IsTagName (Text.of "class") := by decide
    have hhref : Html.IsTagName (Text.of "href") := by decide
    simpa using ⟨hclass, hhref⟩
  refine ⟨_, ((Html.spells_openTag hname hattrs).append (Html.spells_escape ['¶'])).append
    (Html.spells_closeTag hname), rfl, rfl, ?_⟩
  simp [Html.hrefsOf, Token.href?]

/-! ### Blocks -/

/-- The name of the element of a block. -/
def elementName (o : Options) : Block → Text
  | .heading _ => Text.of (if o.contents then "h3" else "h4")
  | .paragraph _ => Text.of "p"
  | .preformat _ => Text.of "pre"

/-- The attributes of the element of a block: headings have an identifier. -/
def elementAttrs : Block → List (Text × Text)
  | .heading title => [(Text.of "id", headingId title)]
  | .paragraph _ => []
  | .preformat _ => []

/-- **The text of a block** on a page: a title, with a pilcrow if it links to itself, or lines. -/
def shownBlock (o : Options) : Block → Text
  | .heading title => title ++ if o.permalinks then ['¶'] else []
  | .paragraph ls => Prose.shownLines ls
  | .preformat ls => Prose.shownLines ls

/-- The element of a block has a name of a tag. -/
theorem isTagName_elementName (o : Options) (b : Block) : Html.IsTagName (elementName o b) := by
  have hh3 : Html.IsTagName (Text.of "h3") := by decide
  have hh4 : Html.IsTagName (Text.of "h4") := by decide
  have hp : Html.IsTagName (Text.of "p") := by decide
  have hpre : Html.IsTagName (Text.of "pre") := by decide
  cases b with
  | heading title =>
    rw [elementName]
    split
    · exact hh3
    · exact hh4
  | paragraph ls => exact hp
  | preformat ls => exact hpre

/-- The attributes of a block have names. -/
theorem isTagName_elementAttrs (b : Block) : ∀ a ∈ elementAttrs b, Html.IsTagName a.1 := by
  have hid : Html.IsTagName (Text.of "id") := by decide
  cases b with
  | heading title => simpa [elementAttrs] using hid
  | paragraph ls => simp [elementAttrs]
  | preformat ls => simp [elementAttrs]

/-- A heading is an element of its title, with a permalink if these are on. -/
theorem headingHtml_eq (title : Text) :
    r.headingHtml title = Html.openTag (elementName r.options (.heading title))
        (elementAttrs (.heading title)) ++
      (Html.escape title ++ if r.options.permalinks then permalink title else []) ++
      Html.closeTag (elementName r.options (.heading title)) := by
  have hhash : Html.escapeAttr ('#' :: headingId title) = '#' :: headingId title :=
    congrArg ('#' :: ·) (escapeAttr_headingId title)
  have hclass : Html.escapeAttr Html.permalinkClass = Html.permalinkClass := by decide
  have hpilcrow : Html.escape ['¶'] = ['¶'] := by decide
  have hlink : permalink title = Text.of "<a class=\"Documentation-idLink\" href=\"#" ++
      headingId title ++ Text.of "\">¶</a>" := by
    simp only [permalink, Html.openTag, Html.closeTag, Html.writeAttrs, List.flatMap_cons,
      List.flatMap_nil, hhash, hclass, hpilcrow]
    simp [Html.linkName, Html.permalinkClass, Text.of]
  rw [hlink]
  simp [headingHtml, elementName, elementAttrs, Html.openTag, Html.closeTag, Html.writeAttrs,
    escapeAttr_headingId, Text.of]

/-- **The element of a block**: its tags stand around inline markup of the text of the block. -/
theorem block_blockHtml {names : Resolver} (hnames : names.LinksTo S)
    (hlinks : ∀ t href label, .link href label ∈ Prose.pieces t → S href) (b : Block) :
    ∃ h, r.blockHtml names b = Html.openTag (elementName r.options b) (elementAttrs b) ++ h ++
        Html.closeTag (elementName r.options b) ∧
      Phrase S h (shownBlock r.options b) := by
  cases b with
  | heading title =>
    refine ⟨_, r.headingHtml_eq title, (Html.phrase_escape S title).append ?_⟩
    split
    · exact phrase_permalink S title
    · exact Phrase.nil
  | paragraph ls =>
    refine ⟨Prose.formatLines (if r.options.hotlinks then some names.html else none) ls, ?_,
      Prose.phrase_formatLines (Resolver.phrase_hotlinks hnames _) hlinks ls⟩
    simp [blockHtml, elementName, elementAttrs, Html.openTag, Html.closeTag, Html.writeAttrs,
      Text.of]
  | preformat ls =>
    refine ⟨Prose.formatLines none ls, ?_, Prose.phrase_formatLines (by simp) hlinks ls⟩
    simp [blockHtml, elementName, elementAttrs, Html.openTag, Html.closeTag, Html.writeAttrs,
      Text.of]

/-- **An HTML text is the element of a block**: it reads as one element around text and links, no
link inside another, and what it shows is the text of the block. -/
def ShowsBlock (o : Options) (b : Block) (h : Text) : Prop :=
  ∃ ts, Html.tokens? h = some (.opens (elementName o b) (elementAttrs b) :: ts ++
      [.closes (elementName o b)]) ∧
    Html.isInline false ts ∧ Html.textOf ts = shownBlock o b

/-- **A block is shown by one element** with its content. -/
theorem showsBlock_blockHtml (names : Resolver) (b : Block) :
    ShowsBlock r.options b (r.blockHtml names b) := by
  obtain ⟨h, hb, ts, hspells, hinline, htext, -⟩ :=
    r.block_blockHtml names.linksTo_true (fun _ _ _ _ => trivial) b
  have hname := isTagName_elementName r.options b
  refine ⟨ts, ?_, hinline, htext⟩
  rw [hb]
  exact (((Html.spells_openTag hname (isTagName_elementAttrs b)).append hspells).append
    (Html.spells_closeTag hname)).tokens

/-- Blocks are written as their elements, one a block and in order. -/
theorem blocksHtml_showsBlocks (names : Resolver) (bs : List Block) :
    ∃ parts, r.blocksHtml names bs = Text.joinLines parts ∧
      List.Forall₂ (ShowsBlock r.options) bs parts := by
  refine ⟨bs.map (r.blockHtml names), rfl, ?_⟩
  rw [List.forall₂_map_right_iff, List.forall₂_same]
  exact fun b _ => r.showsBlock_blockHtml names b

/-- The documentation part of a declaration. -/
theorem doc_of_declHtml {doc : Text} {cs : Comments} {d : Declaration} {ps : Parts}
    (h : (r.declHtml doc cs d).1 = .ok ps) :
    ps.doc = r.blocksHtml (r.resolver.withMembers d.members) (Block.ofText doc) := by
  unfold declHtml at h
  split at h
  · obtain rfl := Except.ok.inj h
    rfl
  · obtain rfl := Except.ok.inj h
    rfl
  · cases h

/-- The parts of a declaration that has HTML. -/
theorem declHtml_of_declarationHtml {cs : Comments} {d : Declaration} {html : Text}
    (h : declarationHtml r.package.lookup r.resolver r.options cs d = .ok html) (doc : Text) :
    (r.declHtml doc cs d).1 =
      .ok ⟨r.blocksHtml (r.resolver.withMembers d.members) (Block.ofText doc), html⟩ := by
  obtain ⟨lines, hlines, hemit⟩ := bind_eq_ok.mp h
  obtain rfl := Except.ok.inj hemit
  simp only [declHtml, hlines]

/-- **Documentation is its elements**, one a block and in order. The documentation of a package
leaves out the blocks of its lists of links, that of a declaration keeps all. -/
theorem docHtml_showsBlocks (r : Renderer) (doc : Text) :
    (∃ parts, (r.docHtml doc).1 = Text.joinLines parts ∧
      List.Forall₂ (ShowsBlock r.options) (Prose.splitLinks (Block.ofText doc)).1 parts) ∧
    ∀ cs d ps, (r.declHtml doc cs d).1 = .ok ps →
      ∃ parts, ps.doc = Text.joinLines parts ∧
        List.Forall₂ (ShowsBlock r.options) (Block.ofText doc) parts := by
  refine ⟨r.blocksHtml_showsBlocks _ _, fun cs d ps h => ?_⟩
  rw [r.doc_of_declHtml h]
  exact r.blocksHtml_showsBlocks _ _

/-- Notes with a heading, a URL and characters that stand for entities. -/
def markedNotes : Text := Text.of "A < b & ``c``\n\nMore\n\nSee C.x, http://a.b/ or \"x\".\n"

/-- A paragraph, a heading and a paragraph with links and quotes. -/
theorem docHtml_showsBlocks_markedNotes :
    ∃ p d ps parts, Package.ofSource (Text.of "m") commentedClass = .ok p ∧
      d ∈ p.allDeclarations ∧ (declHtml ⟨p, plainOptions⟩ markedNotes p.comments d).1 = .ok ps ∧
      ps.doc = Text.joinLines parts ∧
      List.Forall₂ (ShowsBlock plainOptions)
        [.paragraph [Text.of "A < b & ``c``"], .heading (Text.of "More"),
          .paragraph [Text.of "See C.x, http://a.b/ or \"x\"."]] parts := by
  obtain ⟨p, d, html, hp, hd, hhtml⟩ := exists_commentedClass
  have hok := declHtml_of_declarationHtml ⟨p, plainOptions⟩ hhtml markedNotes
  obtain ⟨parts, hdoc, hparts⟩ :=
    (docHtml_showsBlocks ⟨p, plainOptions⟩ markedNotes).2 p.comments d _ hok
  have hblocks : Block.ofText markedNotes = [.paragraph [Text.of "A < b & ``c``"],
      .heading (Text.of "More"), .paragraph [Text.of "See C.x, http://a.b/ or \"x\"."]] := by
    decide +kernel
  rw [hblocks] at hparts
  exact ⟨p, d, _, parts, hp, hd, hok, hdoc, hparts⟩

end Renderer
end ApiPage
