import ApiPage.Text.Basic

/-!
# HTML fragments

The few constructs of a page: escaped text, links, and the spans that mark comments and carry
anchors.

## Conventions

In text `&`, `<` and `>` are written as entities; in an attribute the two quotes are as well. All
else stands for itself.
-/

namespace ApiPage.Html

/-- One character of text. -/
def escapeChar : Char → Text
  | '&' => Text.of "&amp;"
  | '<' => Text.of "&lt;"
  | '>' => Text.of "&gt;"
  | c => [c]

/-- One character of an attribute value. -/
def escapeAttrChar : Char → Text
  | '"' => Text.of "&quot;"
  | '\'' => Text.of "&#x27;"
  | c => escapeChar c

/-- **Escaped text**. -/
def escape (t : Text) : Text := t.flatMap escapeChar

/-- **Escaped attribute value**. -/
def escapeAttr (t : Text) : Text := t.flatMap escapeAttrChar

/-- **Link** to `href` that shows `label`. -/
def link (href label : Text) : Text :=
  Text.of "<a href=\"" ++ escapeAttr href ++ Text.of "\">" ++ escape label ++ Text.of "</a>"

/-- The opening tag of the span that carries an anchor and its kind. -/
def openAnchor (id kind : Text) : Text :=
  Text.of "<span id=\"" ++ escapeAttr id ++ Text.of "\" data-kind=\"" ++ escapeAttr kind ++
    Text.of "\">"

/-- The opening tag of the span around a comment. -/
def openComment : Text := Text.of "<span class=\"comment\">"

/-- The closing tag of a span. -/
def closeSpan : Text := Text.of "</span>"

/-- A comment whose inner markup is `body`. -/
def comment (body : Text) : Text := openComment ++ body ++ closeSpan

end ApiPage.Html
