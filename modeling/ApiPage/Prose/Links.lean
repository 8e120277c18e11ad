import ApiPage.Prose.Block

/-!
# Link lists

A heading titled `Links` turns the blocks after it, up to the next heading, into a list of links.
Each link is a bullet line: a dash, a space or tab, the text, a comma and the destination.

## Main definitions

* `Link.ofLine?`: the link of a bullet line.
* `splitLinks`: blocks without their link lists, and the links of those lists.
-/

namespace ApiPage.Prose

/-- **Link**: visible text and destination. -/
structure Link where
  text : Text
  href : Text
  deriving DecidableEq, Inhabited

/-- The title that starts a link list. -/
def linksTitle : Text := Text.of "Links"

/-- The link of a line, if the line is a bullet with a comma in it. -/
def Link.ofLine? : Text → Option Link
  | '-' :: c :: r =>
    if Text.isBlankChar c then
      (Text.cutAt? ',' r).map fun (text, href) => ⟨Text.strip text, Text.strip href⟩
    else none
  | _ => none

/-- The links of the bullet lines among `ls`. -/
def Link.ofLines (ls : List Text) : List Link := ls.filterMap Link.ofLine?

/-- The blocks kept and the links found; `inside` says whether a link list is open. -/
def splitLinksFrom (inside : Bool) : List Block → List Block × List Link
  | [] => ([], [])
  | .heading t :: bs =>
    let (kept, links) := splitLinksFrom (t == linksTitle) bs
    (if t == linksTitle then kept else .heading t :: kept, links)
  | .paragraph ls :: bs =>
    let (kept, links) := splitLinksFrom inside bs
    if inside then (kept, Link.ofLines ls ++ links) else (.paragraph ls :: kept, links)
  | .preformat ls :: bs =>
    let (kept, links) := splitLinksFrom inside bs
    if inside then (kept, Link.ofLines ls ++ links) else (.preformat ls :: kept, links)

/-- **Split** of blocks into those outside link lists and the links inside them. -/
def splitLinks (bs : List Block) : List Block × List Link := splitLinksFrom false bs

end ApiPage.Prose
