import ApiPage.Package.Declaration
import ApiPage.Text.Quoted

/-!
# Elision of large literals

Long strings and large displays make a declaration unreadable. In assignments they are replaced by
empty ones, and the statement keeps a note of what was left out. A set is replaced by a call, since
an empty display would be a mapping.

## Main definitions

* `Limits`: the sizes up to which literals are shown.
* `Stmt.elide`: a statement without its large literals.
-/

namespace ApiPage

open Syntax

/-- **Limits**: the most bytes of a string and the most elements of a display that are shown. -/
structure Limits where
  stringSize : Int
  elements : Int
  deriving DecidableEq, Inhabited

/-- The limits that hold unless they are set. -/
def Limits.initial : Limits := ⟨125, 100⟩

/-- **Limits as they are given**; one that is not is that of `defaults`. -/
def Limits.ofGiven (defaults : Limits) (stringSize elements : Option Int) : Limits :=
  ⟨stringSize.getD defaults.stringSize, elements.getD defaults.elements⟩

/-- **A string without UTF-8 form**: its first run of surrogates, with the place of the first. -/
structure EncodingError where
  first : Nat
  start : Nat
  count : Nat
  deriving DecidableEq

/-- The wording of an error. -/
def EncodingError.message (e : EncodingError) : Text :=
  Text.of "'utf-8' codec can't encode character" ++
    (if e.count = 1 then
      Text.of " '" ++ Text.escapeCode e.first ++ Text.of "' in position " ++ Text.ofNat e.start
    else
      Text.of "s in position " ++ Text.ofNat e.start ++ '-' ::
        Text.ofNat (e.start + e.count - 1)) ++
    Text.of ": surrogates not allowed"

/-- A code point that has no UTF-8 form. -/
def isSurrogate (n : Nat) : Bool := 0xd800 ≤ n && n ≤ 0xdfff

/-- The size in UTF-8 of a string. -/
def utf8Size (s : List Nat) : Except EncodingError Nat :=
  let before := s.takeWhile (!isSurrogate ·)
  match s.drop before.length with
  | [] => .ok ((s.map Text.byteSizeOf).foldr (· + ·) 0)
  | n :: r => .error ⟨n, before.length, ((n :: r).takeWhile isSurrogate).length⟩

/-- The note about an elision. -/
def Syntax.Elision.note : Elision → Text
  | bytes n => Text.ofNat n ++ Text.of "-byte string literal not displayed"
  | elements n => Text.ofNat n ++ Text.of " elements not displayed"

namespace Syntax

/-- What was left out of a statement, oldest first. -/
def Stmt.elided : Stmt → List Elision
  | .assign _ _ _ elided => elided
  | .annAssign _ _ _ _ _ elided => elided
  | _ => []

/-- **A value within limits**, with what was left out of it. -/
def Expr.elide (l : Limits) (e : Expr) : Except EncodingError (Expr × List Elision) :=
  let sized (n : Nat) (short : Expr) : Expr × List Elision :=
    if l.elements < n then (short, [.elements n]) else (e, [])
  match e with
  | .constant s (.str codes _) => do
    let n ← utf8Size codes
    return if l.stringSize < n then (.constant s (.str [] false), [.bytes n]) else (e, [])
  | .constant s (.bytes codes) =>
    let n := codes.length
    .ok (if l.stringSize < n then (.constant s (.bytes []), [.bytes n]) else (e, []))
  | .list s es => .ok (sized es.length (.list s []))
  | .tuple s es => .ok (sized es.length (.tuple s []))
  | .set s es => .ok (sized es.length (.call s (.name s (Text.of "set") .load) [] []))
  | .dict s items => .ok (sized items.length (.dict s []))
  | e => .ok (e, [])

/-- Values within limits one by one. -/
def elideAll (l : Limits) : List Expr → Except EncodingError (List Expr × List Elision)
  | [] => .ok ([], [])
  | e :: es => do
    let (e, ns) ← e.elide l
    let (es, ms) ← elideAll l es
    return (e :: es, ns ++ ms)

/-- The value of an assignment to some targets. A tuple that is unpacked keeps its form. -/
def elideAssigned (l : Limits) (targets : List Expr) (value : Expr) :
    Except EncodingError (Expr × List Elision) :=
  match targets, value with
  | [.tuple _ ts], .tuple s es =>
    if ts.length = es.length then do
      let (es, ns) ← elideAll l es
      return (.tuple s es, ns)
    else value.elide l
  | _, _ => value.elide l

mutual

/-- **A statement within limits**, with all statements inside it. -/
def Stmt.elide (l : Limits) : Stmt → Except EncodingError Stmt
  | .assign s targets value elided => do
    let (value, ns) ← elideAssigned l targets value
    return .assign s targets value (elided ++ ns)
  | .annAssign s target hint (some value) simple elided => do
    let (value, ns) ← value.elide l
    return .annAssign s target hint (some value) simple (elided ++ ns)
  | .function s isAsync name params body decorators returns => do
    return .function s isAsync name params (← elideBlock l body) decorators returns
  | .classDef s name bases keywords body decorators => do
    return .classDef s name bases keywords (← elideBlock l body) decorators
  | .forLoop s isAsync target iter body orElse => do
    let body ← elideBlock l body
    return .forLoop s isAsync target iter body (← elideBlock l orElse)
  | .whileLoop s test body orElse => do
    let body ← elideBlock l body
    return .whileLoop s test body (← elideBlock l orElse)
  | .cond s test body orElse => do
    let body ← elideBlock l body
    return .cond s test body (← elideBlock l orElse)
  | .withBlock s isAsync items body => do
    return .withBlock s isAsync items (← elideBlock l body)
  | .matchOn s subject cases => do
    return .matchOn s subject (← elideCases l cases)
  | .tryBlock s isGroup body handlers orElse finalBody => do
    let body ← elideBlock l body
    let handlers ← elideHandlers l handlers
    let orElse ← elideBlock l orElse
    return .tryBlock s isGroup body handlers orElse (← elideBlock l finalBody)
  | s => .ok s

/-- Statements within limits. -/
def elideBlock (l : Limits) : List Stmt → Except EncodingError (List Stmt)
  | [] => .ok []
  | s :: ss => do
    let s ← s.elide l
    return s :: (← elideBlock l ss)

/-- Handlers within limits. -/
def elideHandlers (l : Limits) : List Handler → Except EncodingError (List Handler)
  | [] => .ok []
  | .mk type name body :: hs => do
    let body ← elideBlock l body
    return .mk type name body :: (← elideHandlers l hs)

/-- Cases within limits. -/
def elideCases (l : Limits) : List Case → Except EncodingError (List Case)
  | [] => .ok []
  | .mk pattern guard body :: cs => do
    let body ← elideBlock l body
    return .mk pattern guard body :: (← elideCases l cs)

end

end Syntax

/-- **A declaration within limits**. -/
def Declaration.elide (l : Limits) : Declaration → Except EncodingError Declaration
  | values group doc => do return .values (← elideBlock l group) doc
  | type cls => do return .type (← cls.elide l)
  | function fn receiver => do return .function (← fn.elide l) receiver

end ApiPage
