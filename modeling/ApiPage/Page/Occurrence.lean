import ApiPage.Package.Basic
import ApiPage.Page.Anchor
import ApiPage.Page.Resolver
import ApiPage.Text.Case

/-!
# Occurrences of identifiers

Every identifier of a displayed declaration occurs at a place, where it may define an anchor and
carry a link. The text of a declaration is parsed again and its tree is walked; where an identifier
is met a *sighting* is made. The last sighting at a place counts.

## Conventions

The tree counts columns in bytes, occurrences in characters. Inside a lambda expression and a
comprehension the names that these bind stand for no name of the module. Formatted strings are not
walked.

## Main definitions

* `sightings`: what a walk over some statements meets.
* `occurrencesOf`: the occurrences of a text by place.
-/

namespace ApiPage

open Syntax

/-- **Occurrence** of an identifier: its place in rows and characters, the anchor that it defines
and the link that it carries. -/
structure Occurrence where
  name : Text
  row : Nat
  col : Nat
  anchor : Option Anchor
  href : Option Text
  deriving DecidableEq, Inhabited

/-- **Place** in a tree: a row and a column in bytes. A column is negative where a name is longer in
its composed form than as it is written. -/
structure Place where
  row : Nat
  col : Int
  deriving DecidableEq

/-- **Sighting**: an identifier at a place, or an anchor for the identifier that was last seen
there. -/
inductive Sighting
  | identifier (place : Place) (name : Text) (anchor : Option Anchor) (href : Option Text)
  | anchored (place : Place) (anchor : Anchor)

/-! ### Names inside targets -/

namespace Syntax

mutual

/-- All names of an expression. -/
def Expr.allNames : Expr → List Text
  | .boolOp _ _ values => allNamesIn values
  | .named _ target value => target.allNames ++ value.allNames
  | .binary _ left _ right => left.allNames ++ right.allNames
  | .unary _ _ operand => operand.allNames
  | .lambda _ params body => params.allNames ++ body.allNames
  | .conditional _ test body orElse => test.allNames ++ body.allNames ++ orElse.allNames
  | .dict _ items => itemNames items
  | .set _ items => allNamesIn items
  | .listComp _ item clauses => item.allNames ++ clauseNames clauses
  | .setComp _ item clauses => item.allNames ++ clauseNames clauses
  | .dictComp _ key value clauses => key.allNames ++ value.allNames ++ clauseNames clauses
  | .generator _ item clauses => item.allNames ++ clauseNames clauses
  | .await _ value => value.allNames
  | .yield _ none => []
  | .yield _ (some value) => value.allNames
  | .yieldFrom _ value => value.allNames
  | .compare _ left rest => left.allNames ++ comparedNames rest
  | .call _ func args keywords => func.allNames ++ allNamesIn args ++ keywordNames keywords
  | .joined _ parts => partNames parts
  | .constant .. => []
  | .attr _ value _ => value.allNames
  | .subscript _ value index => value.allNames ++ index.allNames
  | .starred _ value => value.allNames
  | .name _ id _ => [id]
  | .list _ items => allNamesIn items
  | .tuple _ items => allNamesIn items
  | .slice _ lower upper step => optNames lower ++ optNames upper ++ optNames step

/-- All names of an expression that may be missing. -/
def optNames : Option Expr → List Text
  | none => []
  | some e => e.allNames

/-- All names of some expressions. -/
def allNamesIn : List Expr → List Text
  | [] => []
  | e :: es => e.allNames ++ allNamesIn es

/-- All names of the items of a mapping. -/
def itemNames : List (Option Expr × Expr) → List Text
  | [] => []
  | (none, v) :: items => v.allNames ++ itemNames items
  | (some k, v) :: items => k.allNames ++ v.allNames ++ itemNames items

/-- All names of the operands of comparisons. -/
def comparedNames : List (CompareOp × Expr) → List Text
  | [] => []
  | (_, e) :: rest => e.allNames ++ comparedNames rest

/-- All names of the clauses of a comprehension. -/
def clauseNames : List Clause → List Text
  | [] => []
  | .mk _ target iter conditions :: cs =>
    target.allNames ++ iter.allNames ++ allNamesIn conditions ++ clauseNames cs

/-- All names of arguments by name. -/
def keywordNames : List Keyword → List Text
  | [] => []
  | .mk _ _ value :: ks => value.allNames ++ keywordNames ks

/-- All names of the parts of a formatted string. -/
def partNames : List Part → List Text
  | [] => []
  | .text _ :: ps => partNames ps
  | .field value _ none :: ps => value.allNames ++ partNames ps
  | .field value _ (some format) :: ps => value.allNames ++ partNames format ++ partNames ps

/-- All names of the types and defaults of parameters. -/
def paramNames : List Param → List Text
  | [] => []
  | .mk _ _ hint default :: ps => optNames hint ++ optNames default ++ paramNames ps

/-- All names of the types and defaults of a parameter that may be missing. -/
def optParamNames : Option Param → List Text
  | none => []
  | some (.mk _ _ hint default) => optNames hint ++ optNames default

/-- All names of the types and defaults of a parameter list. -/
def Params.allNames : Params → List Text
  | .mk positionalOnly positional rest keywordOnly restKeywords =>
    paramNames positionalOnly ++ paramNames positional ++ optParamNames rest ++
      paramNames keywordOnly ++ optParamNames restKeywords

end

/-- The names that the clauses of a comprehension bind, with all names of their targets. -/
def boundByClauses : List Clause → List Text
  | [] => []
  | .mk _ target _ _ :: cs => target.allNames ++ boundByClauses cs

/-- The parameters of a list. -/
def Params.toList : Params → List Param
  | .mk positionalOnly positional rest keywordOnly restKeywords =>
    positionalOnly ++ positional ++ rest.toList ++ keywordOnly ++ restKeywords.toList

/-- The names of parameters. -/
def Params.ids (ps : Params) : List Text := ps.toList.map Param.id

end Syntax

/-! ### Expressions -/

/-- **Surroundings of a walk**: what names of the module stand for, where URLs are made, the class
that a method belongs to, the class whose body is walked, and the names that are bound locally. -/
structure Surroundings where
  scope : Text → Option Binding
  resolver : Resolver
  receiver : Option Text
  cls : Option Text
  locals : List Text

namespace Surroundings

/-- The surroundings with some names bound locally. -/
def bind (env : Surroundings) (names : List Text) : Surroundings :=
  { env with locals := names ++ env.locals }

/-- The link of a name. -/
def href (env : Surroundings) (name : Text) : Option Text :=
  match env.scope name with
  | none => if isPredeclared name then some (env.resolver.url builtinsPath name) else none
  | some (.declared _) => some ('#' :: name)
  | some (.imported ⟨_, path, some symbol⟩) => some (env.resolver.url path symbol)
  | some (.imported ⟨_, _, none⟩) => none

/-- The path of the module that a name stands for. -/
def modulePath? (env : Surroundings) (name : Text) : Option Text :=
  if env.locals.contains name then none
  else match env.scope name with
    | some (.imported ⟨_, path, none⟩) => some path
    | _ => none

end Surroundings

/-- The place where an expression starts. -/
def startOf (s : Span) : Place := ⟨s.row, s.col⟩

/-- The place of a member at the end of an expression. -/
def memberPlace (s : Span) (member : Text) : Place :=
  ⟨s.endRow, (s.endCol : Int) - Text.byteSize member⟩

/-- A sighting without anchor and link. -/
def seen (place : Place) (name : Text) : Sighting := .identifier place name none none

mutual

/-- **What a walk over an expression meets**. -/
def exprSightings (env : Surroundings) : Expr → List Sighting
  | .boolOp _ _ values => exprsSightings env values
  | .named _ target value => exprSightings env target ++ exprSightings env value
  | .binary _ left _ right => exprSightings env left ++ exprSightings env right
  | .unary _ _ operand => exprSightings env operand
  | .lambda _ params body =>
    let env := env.bind params.ids
    paramsSightings env params ++ exprSightings env body
  | .conditional _ test body orElse =>
    exprSightings env test ++ exprSightings env body ++ exprSightings env orElse
  | .dict _ items => keySightings env items ++ valueSightings env items
  | .set _ items => exprsSightings env items
  | .listComp _ item clauses =>
    let env := env.bind (boundByClauses clauses)
    exprSightings env item ++ clausesSightings env clauses
  | .setComp _ item clauses =>
    let env := env.bind (boundByClauses clauses)
    exprSightings env item ++ clausesSightings env clauses
  | .dictComp _ key value clauses =>
    let env := env.bind (boundByClauses clauses)
    exprSightings env key ++ exprSightings env value ++ clausesSightings env clauses
  | .generator _ item clauses =>
    let env := env.bind (boundByClauses clauses)
    exprSightings env item ++ clausesSightings env clauses
  | .await _ value => exprSightings env value
  | .yield _ value => optSightings env value
  | .yieldFrom _ value => exprSightings env value
  | .compare _ left rest => exprSightings env left ++ comparedSightings env rest
  | .call _ func args keywords =>
    exprSightings env func ++ exprsSightings env args ++ keywordsSightings env keywords
  | .joined .. => []
  | .constant .. => []
  | .attr s value member =>
    match value with
    | .name n id _ =>
      match env.modulePath? id with
      | some path =>
        [.identifier (startOf n) id none (some (env.resolver.url path [])),
          .identifier (memberPlace s member) member none (some (env.resolver.url path member))]
      | none => exprSightings env value ++ [seen (memberPlace s member) member]
    | _ => exprSightings env value ++ [seen (memberPlace s member) member]
  | .subscript _ value index => exprSightings env value ++ exprSightings env index
  | .starred _ value => exprSightings env value
  | .name s id usage =>
    if usage = .load && !env.locals.contains id then
      [.identifier (startOf s) id none (env.href id)]
    else [seen (startOf s) id]
  | .list _ items => exprsSightings env items
  | .tuple _ items => exprsSightings env items
  | .slice _ lower upper step =>
    optSightings env lower ++ optSightings env upper ++ optSightings env step

/-- What a walk over an expression that may be missing meets. -/
def optSightings (env : Surroundings) : Option Expr → List Sighting
  | none => []
  | some e => exprSightings env e

/-- What a walk over some expressions meets. -/
def exprsSightings (env : Surroundings) : List Expr → List Sighting
  | [] => []
  | e :: es => exprSightings env e ++ exprsSightings env es

/-- What a walk over the keys of a mapping meets. -/
def keySightings (env : Surroundings) : List (Option Expr × Expr) → List Sighting
  | [] => []
  | (k, _) :: items => optSightings env k ++ keySightings env items

/-- What a walk over the values of a mapping meets. -/
def valueSightings (env : Surroundings) : List (Option Expr × Expr) → List Sighting
  | [] => []
  | (_, v) :: items => exprSightings env v ++ valueSightings env items

/-- What a walk over the operands of comparisons meets. -/
def comparedSightings (env : Surroundings) : List (CompareOp × Expr) → List Sighting
  | [] => []
  | (_, e) :: rest => exprSightings env e ++ comparedSightings env rest

/-- What a walk over the clauses of a comprehension meets. -/
def clausesSightings (env : Surroundings) : List Clause → List Sighting
  | [] => []
  | .mk _ target iter conditions :: cs =>
    exprSightings env target ++ exprSightings env iter ++ exprsSightings env conditions ++
      clausesSightings env cs

/-- What a walk over arguments by name meets. -/
def keywordsSightings (env : Surroundings) : List Keyword → List Sighting
  | [] => []
  | .mk s name value :: ks =>
    (match name with
      | some n => [seen (startOf s) n]
      | none => []) ++ exprSightings env value ++ keywordsSightings env ks

/-- What a walk over parameters meets, without their defaults. -/
def paramSightings (env : Surroundings) : List Param → List Sighting
  | [] => []
  | .mk s name hint _ :: ps =>
    seen (startOf s) name :: optSightings env hint ++ paramSightings env ps

/-- What a walk over a parameter that may be missing meets. -/
def optParamSightings (env : Surroundings) : Option Param → List Sighting
  | none => []
  | some (.mk s name hint _) => seen (startOf s) name :: optSightings env hint

/-- What a walk over the defaults of parameters meets. -/
def defaultSightings (env : Surroundings) : List Param → List Sighting
  | [] => []
  | .mk _ _ _ default :: ps => optSightings env default ++ defaultSightings env ps

/-- What a walk over a parameter list meets. -/
def paramsSightings (env : Surroundings) : Params → List Sighting
  | .mk positionalOnly positional rest keywordOnly restKeywords =>
    paramSightings env positionalOnly ++ paramSightings env positional ++
      optParamSightings env rest ++
      paramSightings env keywordOnly ++ defaultSightings env keywordOnly ++
      optParamSightings env restKeywords ++ defaultSightings env positionalOnly ++
      defaultSightings env positional

end

/-! ### Statements -/

/-- Sightings, or an identifier that is not allowed. -/
abbrev Sighted := Except IdentifierError (List Sighting)

/-- The kind of a value of the module. -/
def valueKind (s : Stmt) (name : Text) : Kind :=
  let hint := match s with
    | .annAssign _ _ h _ _ _ => h.baseName?
    | _ => none
  if hint = some (Text.of "TypeAlias") then .type
  else if hint = some (Text.of "Final") then .constant
  else if Text.allUpper (Text.codes name) then .constant
  else .variable

/-- The names that a target of a statement defines, each with its anchor. -/
def boundSightings (env : Surroundings) (s : Stmt) : List BoundName → Sighted
  | [] => .ok []
  | n :: ns => do
    let anchor ← match env.cls with
      | some c => Anchor.of (Declaration.memberId c n.name) .field
      | none => Anchor.of n.name (valueKind s n.name)
    let rest ← boundSightings env s ns
    return .identifier ⟨n.row, n.col⟩ n.name (some anchor) none :: rest

/-- What a walk over the targets of a statement meets. A target that binds no name is walked as an
expression. -/
def targetSightings (env : Surroundings) (s : Stmt) : List Expr → Sighted
  | [] => .ok []
  | t :: ts => do
    let here ← match t.boundNames with
      | [] => pure (exprSightings env t)
      | ns => boundSightings env s ns
    return here ++ (← targetSightings env s ts)

/-- The place of the last name of a class expression. -/
def basePlace? : Expr → Option Place
  | .subscript _ value _ => basePlace? value
  | .name s _ _ => some (startOf s)
  | .attr s _ member => some (memberPlace s member)
  | _ => none

/-- What a walk over the bases of a class meets. A base that the class embeds is one of its fields.
-/
def baseSightings (env : Surroundings) (cls : Text) (isProtocol : Bool) : List Expr → Sighted
  | [] => .ok []
  | b :: bs => do
    let anchored ← match isProtocol, b.baseName?, basePlace? b with
      | false, some n, some place => do
        pure [Sighting.anchored place (← Anchor.of (Declaration.memberId cls n) .field)]
      | _, _, _ => pure []
    return exprSightings env b ++ anchored ++ (← baseSightings env cls isProtocol bs)

/-- The anchor of a function. -/
def functionAnchor (env : Surroundings) (name : Text) : Except IdentifierError Anchor :=
  match env.cls, env.receiver with
  | some c, _ => Anchor.of (Declaration.memberId c name) .method
  | none, some r =>
    if r.isEmpty then Anchor.of name .function else Anchor.of (Declaration.memberId r name) .method
  | none, none => Anchor.of name .function

/-- The place of a name that follows a word of `n` characters. -/
def placeAfter (s : Span) (n : Nat) : Place := ⟨s.row, s.col + n⟩

mutual

/-- What a walk over a pattern meets. -/
def patternSightings (env : Surroundings) : Pattern → List Sighting
  | .value e => exprSightings env e
  | .singleton _ => []
  | .sequence ps => patternsSightings env ps
  | .mapping keys ps _ => exprsSightings env keys ++ patternsSightings env ps
  | .ofClass cls ps keywords =>
    exprSightings env cls ++ patternsSightings env ps ++ memberPatternsSightings env keywords
  | .star _ => []
  | .capture none _ => []
  | .capture (some p) _ => patternSightings env p
  | .either ps => patternsSightings env ps

/-- What a walk over some patterns meets. -/
def patternsSightings (env : Surroundings) : List Pattern → List Sighting
  | [] => []
  | p :: ps => patternSightings env p ++ patternsSightings env ps

/-- What a walk over the patterns of members meets. -/
def memberPatternsSightings (env : Surroundings) : List (Text × Pattern) → List Sighting
  | [] => []
  | (_, p) :: ps => patternSightings env p ++ memberPatternsSightings env ps

end

/-- What a walk over context managers meets. -/
def withSightings (env : Surroundings) : List (Expr × Option Expr) → List Sighting
  | [] => []
  | (e, t) :: is => exprSightings env e ++ optSightings env t ++ withSightings env is

mutual

/-- **What a walk over a statement meets**. The body of a function is not walked, nor that of a
class inside a class. -/
def stmtSightings (env : Surroundings) : Stmt → Sighted
  | .function s isAsync name params _ decorators returns => do
    let anchor ← functionAnchor env name
    let place := placeAfter s (if isAsync then 10 else 4)
    return .identifier place name (some anchor) none :: exprsSightings env decorators ++
      paramsSightings env params ++ optSightings env returns
  | .classDef s name bases keywords body decorators => do
    let place := placeAfter s 6
    let ds := exprsSightings env decorators
    match env.cls with
    | some _ =>
      return ds ++ seen place name :: exprsSightings env bases ++ keywordsSightings env keywords
    | none =>
      let anchor ← Anchor.of name .type
      let isProtocol := bases.any fun b => b.baseName? = some (Text.of "Protocol")
      let bs ← baseSightings env name isProtocol bases
      let inside ← blockSightings { env with cls := some name } body
      return ds ++ .identifier place name (some anchor) none :: bs ++
        keywordsSightings env keywords ++ inside
  | .ret _ value => return optSightings env value
  | .delete _ targets => return exprsSightings env targets
  | .assign s targets value elided => do
    let ts ← targetSightings env (.assign s targets value elided) targets
    return ts ++ exprSightings env value
  | .annAssign s target hint value simple elided => do
    let ts ← targetSightings env (.annAssign s target hint value simple elided) [target]
    return ts ++ exprSightings env hint ++ optSightings env value
  | .augAssign _ target _ value => return exprSightings env target ++ exprSightings env value
  | .forLoop _ _ target iter body orElse => do
    let b ← blockSightings env body
    return exprSightings env target ++ exprSightings env iter ++ b ++ (← blockSightings env orElse)
  | .whileLoop _ test body orElse => do
    let b ← blockSightings env body
    return exprSightings env test ++ b ++ (← blockSightings env orElse)
  | .cond _ test body orElse => do
    let b ← blockSightings env body
    return exprSightings env test ++ b ++ (← blockSightings env orElse)
  | .withBlock _ _ items body => return withSightings env items ++ (← blockSightings env body)
  | .matchOn _ subject cases => return exprSightings env subject ++ (← casesSightings env cases)
  | .raise _ error cause => return optSightings env error ++ optSightings env cause
  | .tryBlock _ _ body handlers orElse finalBody => do
    let b ← blockSightings env body
    let hs ← handlersSightings env handlers
    let e ← blockSightings env orElse
    return b ++ hs ++ e ++ (← blockSightings env finalBody)
  | .assert _ test message => return exprSightings env test ++ optSightings env message
  | .expr _ value => return exprSightings env value
  | .importNames .. | .importFrom .. | .globals .. | .nonlocals .. | .pass .. | .breakLoop ..
  | .continueLoop .. => return []

/-- What a walk over some statements meets. -/
def blockSightings (env : Surroundings) : List Stmt → Sighted
  | [] => return []
  | s :: ss => do
    let here ← stmtSightings env s
    return here ++ (← blockSightings env ss)

/-- What a walk over handlers meets. -/
def handlersSightings (env : Surroundings) : List Handler → Sighted
  | [] => return []
  | .mk type _ body :: hs => do
    let b ← blockSightings env body
    return optSightings env type ++ b ++ (← handlersSightings env hs)

/-- What a walk over cases meets. -/
def casesSightings (env : Surroundings) : List Case → Sighted
  | [] => return []
  | .mk pattern guard body :: cs => do
    let b ← blockSightings env body
    return patternSightings env pattern ++ optSightings env guard ++ b ++ (← casesSightings env cs)

end

/-- **What a walk over statements meets**. `receiver` is the class of a method. -/
def sightings (scope : Text → Option Binding) (resolver : Resolver) (receiver : Option Text)
    (ss : List Stmt) : Sighted :=
  blockSightings ⟨scope, resolver, receiver, none, []⟩ ss

/-! ### Occurrences by place -/

/-- **Sights by place**, in the order in which the places were met. -/
abbrev Sights := List (Place × Text × Option Anchor × Option Text)

/-- `sights` with what `f` makes of the one at `place`. -/
def updateSight (place : Place)
    (f : Text × Option Anchor × Option Text → Text × Option Anchor × Option Text) :
    Sights → Sights
  | [] => []
  | (p, x) :: r => if p = place then (p, f x) :: r else (p, x) :: updateSight place f r

/-- `sights` with one more sighting. -/
def addSighting (sights : Sights) : Sighting → Sights
  | .identifier place name anchor href =>
    if sights.any (·.1 = place) then updateSight place (fun _ => (name, anchor, href)) sights
    else sights ++ [(place, name, anchor, href)]
  | .anchored place anchor => updateSight place (fun (n, _, h) => (n, some anchor, h)) sights

/-- The number of characters in the first `n` bytes of a line; a character that is cut counts. -/
def charsIn : (n : Nat) → Text → Nat
  | 0, _ => 0
  | _, [] => 0
  | n + 1, c :: t => charsIn (n + 1 - Text.byteSizeOf c.toNat) t + 1

/-- The column in characters of a place in a text of the given lines. A negative column counts from
the end of the line. -/
def charColumn (lines : List Text) (place : Place) : Int :=
  match lines[place.row - 1]? with
  | none => place.col
  | some line =>
    let bytes := if place.col < 0 then place.col + Text.byteSize line else place.col
    charsIn bytes.toNat line

/-- One place comes before another. -/
def beforeOrAt (a b : Occurrence) : Bool := a.row < b.row || (a.row = b.row && a.col ≤ b.col)

/-- `os` with an occurrence at its place, instead of one that is there. -/
def insertOccurrence (o : Occurrence) : List Occurrence → List Occurrence
  | [] => [o]
  | p :: ps =>
    if p.row = o.row && p.col = o.col then o :: ps
    else if beforeOrAt o p then o :: p :: ps
    else p :: insertOccurrence o ps

/-- **The occurrences of identifiers** in the text that some statements were parsed from, by place.
-/
def occurrencesOf (scope : Text → Option Binding) (resolver : Resolver) (receiver : Option Text)
    (source : Text) (ss : List Stmt) : Except IdentifierError (List Occurrence) := do
  let sights := (← sightings scope resolver receiver ss).foldl addSighting []
  let lines := Text.lines source
  return sights.foldl (fun os (place, name, anchor, href) =>
    insertOccurrence ⟨name, place.row, (charColumn lines place).toNat, anchor, href⟩ os) []

end ApiPage
