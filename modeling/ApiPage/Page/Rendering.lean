import ApiPage.Error
import ApiPage.Log.Basic
import ApiPage.Package.Display
import ApiPage.Page.Annotate
import ApiPage.Prose.Line
import ApiPage.Prose.Links

/-!
# Rendering

The parts of a page as HTML: documentation and declarations.

## Main definitions

* `declarationHtml`: a declaration as annotated HTML.
* `Renderer`: a package with the options of its page.
* `Renderer.docHtml`, `Renderer.declHtml`: the parts of the page.
-/

namespace ApiPage

open Syntax (parseModule ParseError)

/-! ### Declarations -/

/-- The text of a declaration within limits. -/
def shownText (l : Limits) (cs : Comments) (d : Declaration) : Except Failure Text :=
  match d.elide l with
  | .error e => .error (.encoding e)
  | .ok d =>
    match d.display cs with
    | .error e => .error (.print e)
    | .ok t => .ok t

/-- **The lines of a declaration**, with their anchors moved up. The comments are those of the
module that declares it, and `scope` says what names stand for. -/
def declarationLines (scope : Text → Option Binding) (r : Resolver) (o : Options) (cs : Comments)
    (d : Declaration) : Except Failure (List Page.Line) := do
  let t ← shownText o.limits cs d
  let ss ← match parseModule t with
    | .ok ss => pure ss
    | .error .nullCharacter => throw (.source .nullCharacter)
    | .error (.fault f) => throw (.format (.unparsed d.name f))
  let os ← match occurrencesOf scope r d.receiver t ss with
    | .ok os => pure os
    | .error e => throw (.identifier e)
  let comment := Prose.formatLine (if o.hotlinks then some r.html else none)
  match Page.annotate t os comment with
  | .ok ls => return Page.hoist ls
  | .error e => throw (.format (.lexical e))

/-- **A declaration as annotated HTML**. -/
def declarationHtml (scope : Text → Option Binding) (r : Resolver) (o : Options) (cs : Comments)
    (d : Declaration) : Except Failure Text := do
  return Page.emit o d.receiver.isSome (← declarationLines scope r o cs d)

/-! ### Pages -/

/-- **Renderer**: a package with the options of its page. -/
structure Renderer where
  package : Package
  options : Options

/-- **Parts** of one declaration: its documentation and its text, as HTML. -/
structure Parts where
  doc : Text
  declaration : Text

namespace Renderer

/-- The resolver of the page. -/
def resolver (r : Renderer) : Resolver :=
  { namespaces := r.package.namespaces, targets := r.package.anchorTargets
    pageUrl := r.options.pageUrl
    members := [], symbols := r.package.symbols }

/-- The source form of a renderer. -/
def literal (r : Renderer) : Text :=
  Text.of "Renderer(" ++ Text.quote (Text.codes r.package.path) ++ [')']

/-- A heading with a link to itself. -/
def headingHtml (r : Renderer) (title : Text) : Text :=
  let tag := Text.of (if r.options.contents then "h3" else "h4")
  let id := headingId title
  let permalink :=
    if r.options.permalinks then
      Text.of "<a class=\"Documentation-idLink\" href=\"#" ++ id ++ Text.of "\">¶</a>"
    else []
  '<' :: tag ++ Text.of " id=\"" ++ id ++ Text.of "\">" ++ Html.escape title ++ permalink ++
    Text.of "</" ++ tag ++ ['>']

/-- A block of documentation. -/
def blockHtml (r : Renderer) (names : Resolver) : Prose.Block → Text
  | .heading title => r.headingHtml title
  | .paragraph ls =>
    let resolve := if r.options.hotlinks then some names.html else none
    Text.of "<p>" ++ Prose.formatLines resolve ls ++ Text.of "</p>"
  | .preformat ls => Text.of "<pre>" ++ Prose.formatLines none ls ++ Text.of "</pre>"

/-- Blocks of documentation, one a line. -/
def blocksHtml (r : Renderer) (names : Resolver) (bs : List Prose.Block) : Text :=
  Text.joinLines (bs.map (r.blockHtml names))

/-- **The documentation of the package**, and the links of its sections of links. -/
def docHtml (r : Renderer) (doc : Text) : Text × List Prose.Link :=
  let (bs, links) := Prose.splitLinks (Prose.Block.ofText doc)
  (r.blocksHtml r.resolver bs, links)

/-- The scope of the events of rendering. -/
def scope : Text := Text.of "render"

/-- The event of a declaration that is rendered. -/
def renderedEvent (d : Declaration) (lines : Nat) : Log.Event :=
  ⟨.debug, scope, Text.of "Rendered declaration",
    [(Text.of "decl", .text d.name), (Text.of "lines", .nat lines)]⟩

/-- The event of a declaration that cannot be formatted. -/
def unformattedEvent (d : Declaration) : Log.Event :=
  ⟨.warning, scope, Text.of "Declaration not formatted",
    [(Text.of "decl", .text d.name), (Text.of "code", .text ErrorKind.format.code)]⟩

/-- **A declaration with its documentation**, and the events of rendering it. Words of the
documentation may name members of the declaration. One that cannot be formatted shows why. The
comments are those of the module that declares it. -/
def declHtml (r : Renderer) (doc : Text) (cs : Comments) (d : Declaration) :
    Except Failure Parts × List Log.Event :=
  let docPart := r.blocksHtml (r.resolver.withMembers d.members) (Prose.Block.ofText doc)
  match declarationLines r.package.lookup r.resolver r.options cs d with
  | .ok ls =>
    (.ok ⟨docPart, Page.emit r.options d.receiver.isSome ls⟩, [renderedEvent d ls.length])
  | .error (.format e) =>
    (.ok ⟨docPart, Html.escape ('[' :: e.message ++ [']'])⟩, [unformattedEvent d])
  | .error e => (.error e, [])

end Renderer

/-- The event of a module that is loaded. -/
def Package.loadedEvent (p : Package) : Log.Event :=
  ⟨.debug, Text.of "source", Text.of "Loaded module",
    [(Text.of "path", .text p.path), (Text.of "declarations", .nat p.declarations.length),
      (Text.of "imports", .nat p.imports.length)]⟩

end ApiPage
