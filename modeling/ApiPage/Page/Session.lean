import ApiPage.Example.Basic
import ApiPage.Page.Rendering

/-!
# Sessions

A program that makes pages. It has one place for settings, which may be changed at any time, and any
number of open pages. A page takes its options when it is opened: those that are given, or the ones
that hold by the settings then. Afterwards it answers requests, in any order and between requests to
other pages, and collects the links of its documentation.

## Main definitions

* `OpenPage`: a renderer with the links that it has collected.
* `Request`, `Reply`: what a page is asked for, and what it gives.
* `Session.step`, `Session.run`: what one action does, and what many do.
-/

namespace ApiPage

/-! ### Pages -/

/-- **Open page**: its renderer, and the links collected so far. -/
structure OpenPage where
  renderer : Renderer
  links : List Prose.Link

/-- **Request** to a page: for the documentation of the package, for a declaration with its
documentation, for the code of an example, or for a declaration in one line. The comments of a
declaration are those of the module that declares it; what is trimmed is a copy of it. -/
inductive Request
  | doc (doc : Text)
  | declaration (doc : Text) (comments : Comments) (d : Declaration)
  | code (e : Option Example)
  | synopsis (d : Declaration)

/-- **Reply** to a request, with the events of making it. -/
inductive Reply
  | html (html : Text) (events : List Log.Event)
  | parts (parts : Except Failure Parts) (events : List Log.Event)
  | line (line : Syntax.Printer.Printed)

/-- A renderer whose literals are trimmed while the settings are `s`. Trimming is given both limits of
the options, so that none is taken from the settings. -/
def Renderer.trimming (s : Settings) (r : Renderer) : Renderer :=
  let l := r.options.limits
  { r with options := { r.options with limits := s.ofGiven (some l.stringSize) (some l.elements) } }

namespace OpenPage

/-- A page that has collected no links as yet. -/
def fresh (r : Renderer) : OpenPage := ⟨r, []⟩

/-- **The answer of a page** while the settings are `s`, and the page afterwards. The code of examples
is cut by `lexer`. -/
def answer (lexer : Example.Lexer) (s : Settings) (p : OpenPage) : Request → OpenPage × Reply
  | .doc doc =>
    let (html, links) := p.renderer.docHtml doc
    ({ p with links := p.links ++ links }, .html html [])
  | .declaration doc cs d =>
    let (parts, events) := (p.renderer.trimming s).declHtml doc cs d
    (p, .parts parts events)
  | .code e =>
    let (html, events) := Example.html lexer e
    (p, .html html events)
  | .synopsis d => (p, .line d.synopsis)

end OpenPage

/-! ### Sessions -/

/-- **Session**: the settings, and the pages in the order in which they were opened. -/
structure Session where
  settings : Settings
  pages : List OpenPage

/-- **Action**: a setting is changed by its name, all settings are reset, a page is opened for a
package, with options or without, or the page of an index is asked for something. -/
inductive Action
  | set (name : Text) (value : Datum)
  | reset
  | openPage (package : Package) (options : Option Options)
  | request (page : Nat) (q : Request)

/-- **Outcome** of an action. -/
inductive Outcome
  | done
  | refused (e : SettingError)
  | replied (r : Reply)
  | noPage

namespace Session

/-- The session at the start of a program. -/
def initial : Session := ⟨Limits.initial, []⟩

/-- **One action**. The code of examples is cut by `lexer`. -/
def step (lexer : Example.Lexer) (s : Session) : Action → Session × Outcome
  | .set name value =>
    match s.settings.set name value with
    | .ok settings => ({ s with settings }, .done)
    | .error e => (s, .refused e)
  | .reset => ({ s with settings := Limits.initial }, .done)
  | .openPage package options =>
    let r : Renderer := ⟨package, options.getD (Options.initial s.settings)⟩
    ({ s with pages := s.pages ++ [.fresh r] }, .done)
  | .request i q =>
    match s.pages[i]? with
    | some p =>
      let (p, reply) := p.answer lexer s.settings q
      ({ s with pages := s.pages.set i p }, .replied reply)
    | none => (s, .noPage)

/-- **Actions one after another**, and the outcome of each. -/
def run (lexer : Example.Lexer) (s : Session) : List Action → Session × List Outcome
  | [] => (s, [])
  | a :: as =>
    let (s, x) := s.step lexer a
    let (s, xs) := s.run lexer as
    (s, x :: xs)

end Session
end ApiPage
