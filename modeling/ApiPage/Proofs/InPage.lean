import ApiPage.Proofs.Destinations
import ApiPage.Proofs.Documents
import ApiPage.Proofs.Hoisted

/-!
# Links within a page

A link within a page begins with a number sign, and what follows names an anchor. Words of prose,
words of comments, names of code and URLs of prose all make links; of none of these does the
destination begin with a number sign unless an anchor of the page follows. A URL begins with its
scheme, and the URL of another page with a slash, since every import has a path.

## Main definitions

* `Html.LinksTo`: an HTML text of which all links go to places with a property.
* `Package.Reaches`: a destination is no link within the page, or names one of its anchors.
* `Package.InPage`: an HTML text whose links within the page name anchors of it.

## Main results

* `Prose.reaches_of_mem_pieces`: a URL of prose is no link within the page.
* `linksTo_emit`: the links of annotated lines.
* `Renderer.inPage`: all that is rendered of a package keeps to the anchors of its page.
-/

namespace ApiPage

open Syntax (Lexeme lexemes)
open Prose (Piece Block)

variable {S : Text → Prop}

/-! ### HTML with links -/

namespace Html

/-- **HTML that links to `S`**: it can be read, and of the destination of each of its links `S`
holds, those from headings to themselves apart. -/
def LinksTo (S : Text → Prop) (h : Text) : Prop := ∃ ts, Spells h ts ∧ ∀ href ∈ hrefsOf ts, S href

namespace LinksTo

/-- An empty text has no links. -/
theorem nil : LinksTo S [] := ⟨[], Spells.nil, List.forall_mem_nil _⟩

/-- The links of one text, and those of the next. -/
theorem append {g h : Text} (hg : LinksTo S g) (hh : LinksTo S h) : LinksTo S (g ++ h) := by
  obtain ⟨ts, hts, hS⟩ := hg
  obtain ⟨us, hus, hS'⟩ := hh
  refine ⟨ts ++ us, hts.append hus, ?_⟩
  rw [hrefsOf_append]
  exact List.forall_mem_append.mpr ⟨hS, hS'⟩

/-- The links of texts one after another. -/
theorem flatMap {α : Type} {f : α → Text} {l : List α} (h : ∀ a ∈ l, LinksTo S (f a)) :
    LinksTo S (l.flatMap f) := by
  induction l with
  | nil => exact nil
  | cons a l ih =>
    obtain ⟨ha, hl⟩ := List.forall_mem_cons.mp h
    exact ha.append (ih hl)

end LinksTo

/-- Inline markup is HTML. -/
theorem Phrase.linksTo {h t : Text} (hh : Phrase S h t) : LinksTo S h := by
  obtain ⟨ts, hspells, -, -, hS⟩ := hh
  exact ⟨ts, hspells, hS⟩

/-- An escaped text has no links. -/
theorem linksTo_escape (t : Text) : LinksTo S (escape t) := (phrase_escape S t).linksTo

/-- A tag of an element that is no link. -/
theorem linksTo_openTag {name : Text} {attrs : List (Text × Text)} (h : IsTagName name)
    (hattrs : ∀ a ∈ attrs, IsTagName a.1) (hne : name ≠ linkName) :
    LinksTo S (openTag name attrs) := by
  refine ⟨_, spells_openTag h hattrs, ?_⟩
  have hnone : (Token.opens name attrs).href? = none := if_neg fun hlink => hne hlink.1
  rw [hrefsOf, List.filterMap_cons_none hnone]
  exact List.forall_mem_nil _

/-- A closing tag has no links. -/
theorem linksTo_closeTag {name : Text} (h : IsTagName name) : LinksTo S (closeTag name) :=
  ⟨_, spells_closeTag h, List.forall_mem_nil _⟩

/-- The name of the element around comments and anchors. -/
def spanName : Text := Text.of "span"

/-- The name of a span is one of a tag. -/
theorem isTagName_spanName : IsTagName spanName := by decide

/-- The start of an anchor has no links. -/
theorem linksTo_openAnchor (id kind : Text) : LinksTo S (openAnchor id kind) := by
  have heq : openAnchor id kind =
      openTag spanName [(Text.of "id", id), (Text.of "data-kind", kind)] := by
    simp [openAnchor, openTag, writeAttrs, spanName, Text.of]
  have hid : IsTagName (Text.of "id") := by decide
  have hkind : IsTagName (Text.of "data-kind") := by decide
  rw [heq]
  exact linksTo_openTag isTagName_spanName (by simpa using ⟨hid, hkind⟩) (by decide)

/-- The start of a comment has no links. -/
theorem linksTo_openComment : LinksTo S openComment := by
  have heq : openComment = openTag spanName [(Text.of "class", Text.of "comment")] := by
    decide
  have hclass : IsTagName (Text.of "class") := by decide
  rw [heq]
  exact linksTo_openTag isTagName_spanName (by simpa using hclass) (by decide)

/-- The end of a span has no links. -/
theorem linksTo_closeSpan : LinksTo S closeSpan := by
  have heq : closeSpan = closeTag spanName := by decide
  rw [heq]
  exact linksTo_closeTag isTagName_spanName

/-- Texts on lines of their own. -/
theorem linksTo_joinLines {ts : List Text} (h : ∀ t ∈ ts, LinksTo S t) :
    LinksTo S (Text.joinLines ts) := by
  have hnewline : LinksTo S ['\n'] := linksTo_escape ['\n']
  unfold Text.joinLines
  induction ts with
  | nil => exact LinksTo.nil
  | cons t ts ih =>
    obtain ⟨ht, hts⟩ := List.forall_mem_cons.mp h
    cases ts with
    | nil => exact ht
    | cons u us => exact (ht.append hnewline).append (ih hts)

end Html

/-! ### Annotated lines -/

namespace Page

variable {comment : Text → Text} {os : List Occurrence}

/-- **The mark of a lexeme** is a comment, or the link of its occurrence. -/
theorem linksTo_markOf (hos : ∀ o ∈ os, ∀ href ∈ o.href, S href)
    (hcomment : ∀ w, Html.LinksTo S (comment w)) {l : Lexeme} {m : Text}
    (h : markOf (occurrenceAt? os) comment l = some m) : Html.LinksTo S m := by
  unfold markOf at h
  split at h
  · obtain rfl := Option.some.inj h
    exact (Html.linksTo_openComment.append (hcomment l.text)).append Html.linksTo_closeSpan
  · obtain ⟨href, hhref, rfl⟩ := Option.map_eq_some_iff.mp h
    obtain ⟨o, ho, hlink⟩ := Option.bind_eq_some_iff.mp hhref
    exact (Html.phrase_link (hos o (List.mem_of_find?_eq_some ho) href hlink) l.text).linksTo
  · cases h

/-- A line of text with marks links where its marks do. -/
theorem linksTo_fillLine {mark : Lexeme → Option Text}
    (hmark : ∀ l m, mark l = some m → Html.LinksTo S m) (col : Nat) (rest : Text)
    (ls : List Lexeme) : Html.LinksTo S (fillLine Html.escape mark col rest ls) := by
  induction ls generalizing col rest with
  | nil => exact Html.linksTo_escape rest
  | cons l ls ih =>
    cases hm : mark l with
    | none =>
      rw [fillLine_cons_none hm]
      exact ih col rest
    | some m =>
      rw [fillLine_cons_some hm]
      exact ((Html.linksTo_escape _).append (hmark l m hm)).append (ih _ _)

/-- **The links of annotated source** are those of its occurrences and its comments. -/
theorem linksTo_annotate (hos : ∀ o ∈ os, ∀ href ∈ o.href, S href)
    (hcomment : ∀ w, Html.LinksTo S (comment w)) {t : Text} {lines : List Line}
    (h : annotate t os comment = .ok lines) : ∀ l ∈ lines, Html.LinksTo S l.html := by
  obtain ⟨ls, -, hlen, hlines⟩ := annotates_annotate h
  intro l hl
  obtain ⟨k, hk, rfl⟩ := List.mem_iff_getElem.mp hl
  have hline := (hlines k (hlen ▸ hk)).html
  rw [lineAt, List.getD_eq_getElem?_getD, List.getElem?_eq_getElem hk, Option.getD_some] at hline
  rw [hline]
  exact linksTo_fillLine (fun _ _ => linksTo_markOf hos hcomment) _ _ _

/-- **The HTML of annotated lines** links where their occurrences and comments do: anchors move
between lines, the HTML of the lines stays. -/
theorem linksTo_emit (o : Options) (hasReceiver : Bool) (hos : ∀ o ∈ os, ∀ href ∈ o.href, S href)
    (hcomment : ∀ w, Html.LinksTo S (comment w)) {t : Text} {lines : List Line}
    (h : annotate t os comment = .ok lines) :
    Html.LinksTo S (emit o hasReceiver (hoist lines)) := by
  refine Html.LinksTo.flatMap fun l hl => ?_
  have hhtml : Html.LinksTo S l.html := by
    have hmem : l.html ∈ (hoist lines).map Line.html := List.mem_map_of_mem hl
    rw [html_hoist] at hmem
    obtain ⟨l', hl', heq⟩ := List.mem_map.mp hmem
    rw [← heq]
    exact linksTo_annotate hos hcomment h l' hl'
  have hopen := Html.LinksTo.flatMap (S := S) (l := l.anchors.filter fun a =>
    o.wraps a.kind hasReceiver) fun a _ => Html.linksTo_openAnchor a.id a.kind.name
  have hclose := Html.LinksTo.flatMap (S := S) (l := l.anchors.filter fun a =>
    o.wraps a.kind hasReceiver) fun _ _ => Html.linksTo_closeSpan
  exact (hopen.append hhtml).append hclose

end Page

/-! ### Where the links of a page go -/

/-- **A destination that the page has**: if it is within the page, it is one of the targets. -/
def Package.Reaches (p : Package) (href : Text) : Prop :=
  ∀ id, href = '#' :: id → id ∈ p.anchorTargets

namespace Prose

/-- No scheme begins with a number sign. -/
theorem head_ne_of_mem_schemes : ∀ s ∈ schemes, ∃ c u, s = c :: u ∧ c ≠ '#' := by
  intro s hs
  have hall : (schemes.all fun s => s.head?.any (· != '#')) = true := by decide
  have hs := List.all_eq_true.mp hall s hs
  cases s with
  | nil => cases hs
  | cons c u => exact ⟨c, u, rfl, by simpa using hs⟩

/-- A URL does not begin with a number sign. -/
theorem head_ne_of_urlLength? {t : Text} {n : Nat} (h : urlLength? t = some n) (u : Text) :
    t ≠ '#' :: u := by
  unfold urlLength? at h
  split at h
  · cases h
  · next m r hafter =>
    obtain ⟨s, hs, hmap⟩ := List.exists_of_findSome?_eq_some hafter
    obtain ⟨r', hr', -⟩ := Option.map_eq_some_iff.mp hmap
    obtain ⟨c, v, rfl, hc⟩ := head_ne_of_mem_schemes s hs
    rw [Text.eq_of_dropPrefix? hr']
    exact fun heq => hc (List.cons_eq_cons.mp heq).1

/-- The link of a reference to an RFC goes to its text. -/
theorem href_of_rfcPiece {w href label : Text} (h : rfcPiece w = .link href label) (u : Text) :
    href ≠ '#' :: u := by
  have hurl (number rest : Text) : rfcUrl number ++ rest ≠ '#' :: u := by
    simp [rfcUrl, Text.of]
  unfold rfcPiece at h
  split at h
  · obtain ⟨rfl, -⟩ := Piece.link.inj h
    rw [List.append_assoc]
    exact hurl _ _
  · obtain ⟨rfl, -⟩ := Piece.link.inj h
    have hnil := hurl (by assumption) []
    rwa [List.append_nil] at hnil
  · cases h

/-- A reference in prose does not lead into the page. -/
theorem href_of_reference? {before : Char} {quotes n : Nat} {t href label : Text}
    (h : reference? before quotes t = some (.link href label, n)) (u : Text) :
    href ≠ '#' :: u := by
  rcases reference?_cases h with ⟨k, hk, -, hp⟩ | ⟨-, -, hp⟩ | ⟨-, -, -, hp | ⟨hp, -⟩⟩
  · obtain ⟨rfl, -⟩ := Piece.link.inj hp
    intro heq
    obtain ⟨rest, hrest⟩ := (trimUrl_isPrefix (t.take k)).trans (List.take_prefix k t)
    refine head_ne_of_urlLength? hk (u ++ rest) ?_
    rw [← hrest, heq, List.cons_append]
  · exact href_of_rfcPiece hp.symm u
  · cases hp
  · cases hp

/-- **A link of prose is a URL**, which does not begin with a number sign. -/
theorem href_of_mem_piecesFrom {before : Char} {quotes skip : Nat} {t href label : Text}
    (h : .link href label ∈ piecesFrom before quotes skip t) (u : Text) : href ≠ '#' :: u := by
  induction t generalizing before quotes skip with
  | nil => simp [piecesFrom] at h
  | cons c r ih =>
    cases skip with
    | succ skip =>
      rw [piecesFrom] at h
      exact ih h
    | zero =>
      rw [piecesFrom] at h
      split at h
      · next p n hp =>
        rcases List.mem_cons.mp h with rfl | h
        · exact href_of_reference? hp u
        · exact ih h
      · rcases List.mem_cons.mp h with h | h
        · cases h
        · exact ih h

/-- What the links of prose refer to is in reach of every page. -/
theorem reaches_of_mem_pieces (p : Package) {t href label : Text}
    (h : .link href label ∈ pieces t) : p.Reaches href :=
  fun u hu => absurd hu (href_of_mem_piecesFrom h u)

end Prose

section Reaches

variable {path source : Text} {p : Package} {o : Options}

/-- The URL of another page begins with a slash. -/
theorem reaches_url (ho : o.pageUrl = defaultPageUrl) {q : Text} (hq : q ≠ []) (symbol : Text) :
    p.Reaches ((Renderer.resolver ⟨p, o⟩).url q symbol) := by
  intro id hid
  have hempty : ¬q.isEmpty = true := by simpa using hq
  have hpage : (Renderer.resolver ⟨p, o⟩).pageUrl q = '/' :: q := congrFun ho q
  rw [Resolver.url, if_neg hempty, hpage] at hid
  exact absurd (List.cons_eq_cons.mp hid).1 (by decide)

/-- The members of a class are targets. -/
theorem mem_anchorTargets_of_members {d : Declaration} (hd : d ∈ p.allDeclarations) {w id : Text}
    (h : d.members.lookup w = some id) : id ∈ p.anchorTargets := by
  have hmem := mem_of_lookup h
  obtain ⟨e, he, hde⟩ := List.mem_flatMap.mp hd
  rcases List.mem_cons.mp hde with rfl | hmethod
  · refine List.mem_append_right _ (List.mem_flatMap.mpr ⟨d, he, List.mem_append_left _ ?_⟩)
    exact List.mem_map.mpr ⟨(w, id), hmem, rfl⟩
  · cases e with
    | values => cases hmethod
    | function => cases hmethod
    | type cls =>
      simp only [Declaration.methods] at hmethod
      split at hmethod
      · cases hmethod
      · obtain ⟨fn, -, rfl⟩ := List.mem_map.mp hmethod
        cases hmem

/-- **Words of prose** link within the page to its targets, if the members that they may name are
anchors of it. -/
theorem linksTo_withMembers (hp : Package.ofSource path source = .ok p)
    (ho : o.pageUrl = defaultPageUrl) {members : List (Text × Text)}
    (hmembers : ∀ {w id}, members.lookup w = some id → id ∈ p.anchorTargets) :
    ((Renderer.resolver ⟨p, o⟩).withMembers members).LinksTo p.Reaches where
  target w hw id hid := by
    obtain ⟨-, rfl⟩ := List.cons_eq_cons.mp hid
    exact hw
  member h id hid := by
    obtain ⟨-, rfl⟩ := List.cons_eq_cons.mp hid
    exact hmembers h
  page {w m} h symbol := by
    have hlookup : p.namespaces.lookup w = some m := h
    rw [Package.lookup_namespaces hp, Option.bind_eq_some_iff] at hlookup
    obtain ⟨i, hi, hpath⟩ := hlookup
    have hne := Package.path_ne_nil_of_lookup hp hi
    split at hpath
    · obtain rfl := Option.some.inj hpath
      exact reaches_url ho hne symbol
    · cases hpath
  symbol {w m symbol} h := by
    have hlookup : p.symbols.lookup w = some (m, symbol) := h
    rw [Package.lookup_symbols hp, Option.bind_eq_some_iff] at hlookup
    obtain ⟨i, hi, hpath⟩ := hlookup
    have hne := Package.path_ne_nil_of_lookup hp hi
    obtain ⟨s, -, heq⟩ := Option.map_eq_some_iff.mp hpath
    obtain ⟨rfl, rfl⟩ := Prod.mk.inj heq
    exact reaches_url ho hne s
  builtin w := reaches_url ho (by decide) w

/-- **Resolved names** refer to targets of the page or to other pages. -/
theorem linksTo_resolver (hp : Package.ofSource path source = .ok p)
    (ho : o.pageUrl = defaultPageUrl) : (Renderer.resolver ⟨p, o⟩).LinksTo p.Reaches :=
  linksTo_withMembers hp ho fun h => nomatch h

/-- **Names of code** link within the page to its targets. -/
theorem linksTo_surroundings (hp : Package.ofSource path source = .ok p)
    (ho : o.pageUrl = defaultPageUrl) (receiver : Option Text) :
    (surroundings p o receiver none []).LinksTo p.Reaches where
  name w href hhref := by
    rw [href_surroundings] at hhref
    split at hhref
    · next hw =>
      obtain rfl := Option.some.inj hhref
      intro id hid
      obtain ⟨-, rfl⟩ := List.cons_eq_cons.mp hid
      exact List.mem_append_left _ hw
    · split at hhref
      · next hi =>
        obtain rfl := Option.some.inj hhref
        exact reaches_url ho (Package.path_ne_nil_of_lookup hp hi) _
      · cases hhref
      · split at hhref
        · obtain rfl := Option.some.inj hhref
          exact reaches_url ho (by decide) w
        · cases hhref
  page w m hm symbol := by
    rw [modulePath?_surroundings p o receiver none List.not_mem_nil] at hm
    split at hm
    · cases hm
    · obtain ⟨i, hi, hpath⟩ := Option.bind_eq_some_iff.mp hm
      have hne := Package.path_ne_nil_of_lookup hp hi
      split at hpath
      · obtain rfl := Option.some.inj hpath
        exact reaches_url ho hne symbol
      · cases hpath

end Reaches

/-! ### Documentation and declarations -/

/-- **Links within the page**: an HTML text can be read, and those of its links that begin with a
number sign name targets of the page, links from headings to themselves apart. -/
def Package.InPage (p : Package) (h : Text) : Prop :=
  ∃ ts, Html.tokens? h = some ts ∧ ∀ id, '#' :: id ∈ Html.hrefsOf ts → id ∈ p.anchorTargets

/-- HTML whose links are in reach stays within the page. -/
theorem Html.LinksTo.withinPage {p : Package} {h : Text} (hh : LinksTo p.Reaches h) : p.InPage h := by
  obtain ⟨ts, hts, hreaches⟩ := hh
  exact ⟨ts, hts.tokens, fun id hid => hreaches _ hid id rfl⟩

namespace Renderer

variable {path source : Text} {p : Package} {o : Options}

/-- The elements of blocks are no links. -/
theorem elementName_ne_linkName (o : Options) (b : Block) : elementName o b ≠ Html.linkName := by
  have hp : Text.of "p" ≠ Html.linkName := by decide
  have hpre : Text.of "pre" ≠ Html.linkName := by decide
  cases b with
  | heading title =>
    rw [elementName]
    split
    · decide
    · decide
  | paragraph ls => exact hp
  | preformat ls => exact hpre

/-- **The links of blocks** are those of names and of prose. -/
theorem linksTo_blocksHtml {r : Renderer} {names : Resolver} (hnames : names.LinksTo S)
    (hlinks : ∀ t href label, .link href label ∈ Prose.pieces t → S href) (bs : List Block) :
    Html.LinksTo S (r.blocksHtml names bs) := by
  refine Html.linksTo_joinLines fun h hh => ?_
  obtain ⟨b, -, rfl⟩ := List.mem_map.mp hh
  obtain ⟨h, hb, hphrase⟩ := r.block_blockHtml hnames hlinks b
  have hname := isTagName_elementName r.options b
  have hopen : Html.LinksTo S (Html.openTag (elementName r.options b) (elementAttrs b)) :=
    Html.linksTo_openTag hname (isTagName_elementAttrs b) (elementName_ne_linkName r.options b)
  rw [hb]
  exact (hopen.append hphrase.linksTo).append (Html.linksTo_closeTag hname)

/-- **The text of a declaration** links where the names and the comments around it do. -/
theorem linksTo_declarationLines {scope : Text → Option Binding} {r : Resolver} {cs : Comments}
    {d : Declaration} {lines : List Page.Line}
    (hcode : Surroundings.LinksTo S ⟨scope, r, d.receiver, none, []⟩) (hnames : r.LinksTo S)
    (hlinks : ∀ t href label, .link href label ∈ Prose.pieces t → S href)
    (h : declarationLines scope r o cs d = .ok lines) :
    Html.LinksTo S (Page.emit o d.receiver.isSome lines) := by
  obtain ⟨t, ss, os, ls, -, -, hos, hann, rfl⟩ := exists_of_declarationLines h
  have hoccurrences := yields_occurrencesOf hcode t ss os hos
  refine Page.linksTo_emit o _ hoccurrences (fun w => ?_) hann
  have hresolve := Resolver.phrase_hotlinks hnames o.hotlinks
  exact (Prose.phrase_formatLine hresolve (hlinks _)).linksTo

/-- **All links within a page name its targets**, links from headings to themselves apart: those of
the documentation of the package, and those of each declaration, in its documentation and in its
text. A declaration that cannot be formatted is a message without links. -/
theorem inPage (hp : Package.ofSource path source = .ok p) (ho : o.pageUrl = defaultPageUrl) :
    (∀ doc, p.InPage (docHtml ⟨p, o⟩ doc).1) ∧
    ∀ d ∈ p.allDeclarations, ∀ doc cs ps, (declHtml ⟨p, o⟩ doc cs d).1 = .ok ps →
      p.InPage ps.doc ∧ p.InPage ps.declaration := by
  have hnames := linksTo_resolver hp ho
  have hlinks : ∀ t href label, .link href label ∈ Prose.pieces t → p.Reaches href :=
    fun _ _ _ => Prose.reaches_of_mem_pieces p
  refine ⟨fun doc => (linksTo_blocksHtml hnames hlinks _).withinPage, fun d hd doc cs ps h => ⟨?_, ?_⟩⟩
  · rw [doc_of_declHtml ⟨p, o⟩ h]
    have hmembers := linksTo_withMembers hp ho (mem_anchorTargets_of_members hd)
    exact (linksTo_blocksHtml hmembers hlinks _).withinPage
  · unfold declHtml at h
    split at h
    · next lines hlines =>
      obtain rfl := Except.ok.inj h
      have hcode := linksTo_surroundings hp ho d.receiver
      exact (linksTo_declarationLines hcode hnames hlinks hlines).withinPage
    · obtain rfl := Except.ok.inj h
      exact (Html.linksTo_escape _).withinPage
    · cases h

/-- A class that names itself and another module. -/
def linkedClass : Text := Text.of "import os\n\nclass C:\n    x: C = os.name\n"

/-- Notes that name a class, its member and a name of another module. -/
def linkedNotes : Text := Text.of "The x of C, and os.path.\n"

/-- A class with links to itself, to a member and to another page. -/
theorem inPage_linkedClass :
    ∃ p d ps, Package.ofSource (Text.of "m") linkedClass = .ok p ∧ d ∈ p.allDeclarations ∧
      (declHtml ⟨p, plainOptions⟩ linkedNotes p.comments d).1 = .ok ps ∧
      Html.hrefs? ps.doc =
        some [Text.of "#C.x", Text.of "#C", Text.of "/os", Text.of "/os#path"] ∧
      Html.hrefs? ps.declaration = some [Text.of "#C", Text.of "/os", Text.of "/os#name"] ∧
      p.InPage (docHtml ⟨p, plainOptions⟩ linkedNotes).1 ∧ p.InPage ps.doc ∧
      p.InPage ps.declaration := by
  have hcheck : (Package.ofSource (Text.of "m") linkedClass).toOption.any (fun p =>
      p.allDeclarations.any fun d =>
        (declHtml ⟨p, plainOptions⟩ linkedNotes p.comments d).1.toOption.any fun ps =>
          Html.hrefs? ps.doc ==
            some [Text.of "#C.x", Text.of "#C", Text.of "/os", Text.of "/os#path"] &&
          Html.hrefs? ps.declaration ==
            some [Text.of "#C", Text.of "/os", Text.of "/os#name"]) = true := by
    decide +kernel
  obtain ⟨p, hp, hcheck⟩ := (Option.any_eq_true _ _).mp hcheck
  obtain ⟨d, hd, hcheck⟩ := List.any_eq_true.mp hcheck
  obtain ⟨ps, hps, hcheck⟩ := (Option.any_eq_true _ _).mp hcheck
  obtain ⟨hdoc, hcode⟩ := Bool.and_eq_true_iff.mp hcheck
  replace hp := eq_ok_of_toOption hp
  replace hps := eq_ok_of_toOption hps
  obtain ⟨hpage, hdeclarations⟩ := inPage hp (o := plainOptions) rfl
  obtain ⟨hdocIn, hcodeIn⟩ := hdeclarations d hd linkedNotes p.comments ps hps
  exact ⟨p, d, ps, hp, hd, hps, eq_of_beq hdoc, eq_of_beq hcode, hpage linkedNotes, hdocIn, hcodeIn⟩

end Renderer
end ApiPage
