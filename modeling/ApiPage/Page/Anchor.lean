import ApiPage.Text.Letter
import ApiPage.Text.Quoted

/-!
# Anchors

The places of a page that links may point to. An anchor has an identifier of name characters and
points, and a kind.

## Main definitions

* `safeId`: an identifier, if all its characters are allowed.
* `Anchor`: an addressable place.
-/

namespace ApiPage

/-- **Kind of an anchor**. -/
inductive Kind
  | constant | variable | type | function | method | field
  deriving DecidableEq, Inhabited

namespace Kind

/-- All kinds, in the order in which they are listed. -/
def all : List Kind := [constant, «variable», type, function, method, field]

/-- The name of a kind. -/
def name : Kind → Text
  | constant => Text.of "constant"
  | «variable» => Text.of "variable"
  | type => Text.of "type"
  | function => Text.of "function"
  | method => Text.of "method"
  | field => Text.of "field"

/-- The kind of a name. -/
def ofText? (t : Text) : Option Kind := all.find? (·.name = t)

end Kind

/-- **Identifier with a character that is not allowed**: the first of them. -/
structure IdentifierError where
  char : Char
  id : Text
  deriving DecidableEq

/-- The wording of an error. -/
def IdentifierError.message (e : IdentifierError) : Text :=
  Text.of "invalid character " ++ Text.quote [e.char.toNat] ++ Text.of " in anchor ID " ++
    Text.quote (Text.codes e.id)

/-- A character of an identifier. -/
def isIdChar (c : Char) : Bool := c == '.' || Text.isWord c.toNat

/-- **An identifier**, if all its characters are allowed. -/
def safeId (id : Text) : Except IdentifierError Text :=
  match List.find? (!isIdChar ·) id with
  | some c => .error ⟨c, id⟩
  | none => .ok id

/-- **Anchor**: an addressable place. -/
structure Anchor where
  id : Text
  kind : Kind
  deriving DecidableEq, Inhabited

/-- An anchor with a safe identifier. -/
def Anchor.of (id : Text) (kind : Kind) : Except IdentifierError Anchor := do
  return ⟨← safeId id, kind⟩

/-- The identifier of a heading. -/
def headingId (title : Text) : Text :=
  Text.of "hdr-" ++ title.map fun c =>
    if Text.isAsciiLetter c.toNat || Text.isAsciiDigit c.toNat then c else '_'

/-- The identifier of an example: that of the package if it has no parent. -/
def exampleId (parent suffix : Text) : Except IdentifierError Text := do
  let p ← if parent.isEmpty then pure (Text.of "package") else safeId parent
  let s ← if suffix.isEmpty then pure [] else do pure ('-' :: (← safeId suffix))
  return Text.of "example-" ++ p ++ s

end ApiPage
