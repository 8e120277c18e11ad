import Mathlib
import ApiPage.Page.Occurrence

/-!
# Names in syntax trees

Every name of a source is somewhere in its tree. Most are *mentions*, names whose place can be told
from the spans of the tree. Some are held without a place: those that imports, declarations of scope,
handlers and patterns bind, and the words of a match statement that are names elsewhere.

## Conventions

Names inside formatted strings are none of the source: a formatted string is one token. Where a name
is missing that there should be, at the start of the path of an import, there is a mention all the
same, of a name without characters. A source of which no name is empty has no such mention.

## Main definitions

* `Mentioning.mentions`: the names of a tree with their places.
* `Mentioning.unplaced`: the number of names that a tree holds without a place.
-/

namespace ApiPage

open Syntax

/-- **Mention**: a name at a place. -/
abbrev Mention := Place × Text

/-- **Weight** of mentions. It counts one mention if it is one there and nothing elsewhere, and it
finds the names that it is not zero at. -/
abbrev Weight := Mention → Nat

/-- The weight is the same at all places. -/
def Weight.Placeless (μ : Weight) : Prop := ∀ p q n, μ (p, n) = μ (q, n)

/-- **The mention of a name that is missing**. -/
def absent : Mention := (⟨0, 0⟩, [])

/-- What is missing in a path: its first name, if the path does not begin with one. -/
def absentIn (path : Text) : List Mention :=
  if (path.takeWhile (· != '.')).isEmpty then [absent] else []

/-- **Values with names**: mentions, and a number of names without a place. -/
class Mentioning (α : Type) where
  mentions : α → List Mention
  unplaced : α → Nat

export Mentioning (mentions unplaced)

namespace Syntax

/-! ### Expressions -/

mutual

/-- The mentions of an expression. -/
def Expr.mentions : Expr → List Mention
  | .boolOp _ _ values => mentionsIn values
  | .named _ target value => target.mentions ++ value.mentions
  | .binary _ left _ right => left.mentions ++ right.mentions
  | .unary _ _ operand => operand.mentions
  | .lambda _ params body => params.mentions ++ body.mentions
  | .conditional _ test body orElse => test.mentions ++ body.mentions ++ orElse.mentions
  | .dict _ items => itemMentions items
  | .set _ items => mentionsIn items
  | .listComp _ item clauses => item.mentions ++ clauseMentions clauses
  | .setComp _ item clauses => item.mentions ++ clauseMentions clauses
  | .dictComp _ key value clauses => key.mentions ++ value.mentions ++ clauseMentions clauses
  | .generator _ item clauses => item.mentions ++ clauseMentions clauses
  | .await _ value => value.mentions
  | .yield _ value => optMentions value
  | .yieldFrom _ value => value.mentions
  | .compare _ left rest => left.mentions ++ comparedMentions rest
  | .call _ func args keywords => func.mentions ++ mentionsIn args ++ keywordMentions keywords
  | .joined .. => []
  | .constant .. => []
  | .attr s value member => value.mentions ++ [(memberPlace s member, member)]
  | .subscript _ value index => value.mentions ++ index.mentions
  | .starred _ value => value.mentions
  | .name s id _ => [(startOf s, id)]
  | .list _ items => mentionsIn items
  | .tuple _ items => mentionsIn items
  | .slice _ lower upper step => optMentions lower ++ optMentions upper ++ optMentions step

/-- The mentions of an expression that may be missing. -/
def optMentions : Option Expr → List Mention
  | none => []
  | some e => e.mentions

/-- The mentions of some expressions. -/
def mentionsIn : List Expr → List Mention
  | [] => []
  | e :: es => e.mentions ++ mentionsIn es

/-- The mentions of the items of a mapping. -/
def itemMentions : List (Option Expr × Expr) → List Mention
  | [] => []
  | (k, v) :: items => optMentions k ++ v.mentions ++ itemMentions items

/-- The mentions of the operands of comparisons. -/
def comparedMentions : List (CompareOp × Expr) → List Mention
  | [] => []
  | (_, e) :: rest => e.mentions ++ comparedMentions rest

/-- The mentions of the clauses of a comprehension. -/
def clauseMentions : List Clause → List Mention
  | [] => []
  | .mk _ target iter conditions :: cs =>
    target.mentions ++ iter.mentions ++ mentionsIn conditions ++ clauseMentions cs

/-- The mentions of arguments by name. -/
def keywordMentions : List Keyword → List Mention
  | [] => []
  | .mk s name value :: ks =>
    (match name with
      | some n => [(startOf s, n)]
      | none => []) ++ value.mentions ++ keywordMentions ks

/-- The mentions of parameters. -/
def paramMentions : List Param → List Mention
  | [] => []
  | .mk s name hint default :: ps =>
    (startOf s, name) :: optMentions hint ++ optMentions default ++ paramMentions ps

/-- The mentions of a parameter that may be missing. -/
def optParamMentions : Option Param → List Mention
  | none => []
  | some (.mk s name hint default) => (startOf s, name) :: optMentions hint ++ optMentions default

/-- The mentions of a parameter list. -/
def Params.mentions : Params → List Mention
  | .mk positionalOnly positional rest keywordOnly restKeywords =>
    paramMentions positionalOnly ++ paramMentions positional ++ optParamMentions rest ++
      paramMentions keywordOnly ++ optParamMentions restKeywords

end

/-! ### Patterns -/

mutual

/-- The mentions of a pattern. -/
def Pattern.mentions : Pattern → List Mention
  | .value e => e.mentions
  | .singleton _ => []
  | .sequence ps => patternMentions ps
  | .mapping keys ps _ => mentionsIn keys ++ patternMentions ps
  | .ofClass cls ps keywords => cls.mentions ++ patternMentions ps ++ memberMentions keywords
  | .star _ => []
  | .capture none _ => []
  | .capture (some p) _ => p.mentions
  | .either ps => patternMentions ps

/-- The mentions of some patterns. -/
def patternMentions : List Pattern → List Mention
  | [] => []
  | p :: ps => p.mentions ++ patternMentions ps

/-- The mentions of the patterns of members. -/
def memberMentions : List (Text × Pattern) → List Mention
  | [] => []
  | (_, p) :: ps => p.mentions ++ memberMentions ps

end

mutual

/-- The number of names that a pattern holds without a place. The wildcard is one of them. -/
def Pattern.unplaced : Pattern → Nat
  | .value _ => 0
  | .singleton _ => 0
  | .sequence ps => patternsUnplaced ps
  | .mapping _ ps rest => patternsUnplaced ps + rest.toList.length
  | .ofClass _ ps keywords => patternsUnplaced ps + membersUnplaced keywords
  | .star _ => 1
  | .capture none _ => 1
  | .capture (some p) _ => p.unplaced + 1
  | .either ps => patternsUnplaced ps

/-- The number of names that some patterns hold without a place. -/
def patternsUnplaced : List Pattern → Nat
  | [] => 0
  | p :: ps => p.unplaced + patternsUnplaced ps

/-- The number of names that the patterns of members hold without a place. -/
def membersUnplaced : List (Text × Pattern) → Nat
  | [] => 0
  | (_, p) :: ps => p.unplaced + 1 + membersUnplaced ps

end

/-! ### Statements -/

/-- The mentions of context managers. -/
def withMentions : List (Expr × Option Expr) → List Mention
  | [] => []
  | (e, t) :: is => e.mentions ++ optMentions t ++ withMentions is

/-- The number of names in a name with points. -/
def dottedSize (t : Text) : Nat := t.count '.' + 1

/-- The number of names in an import. All of a module is none. -/
def Alias.size (a : Alias) : Nat :=
  (if a.name = ['*'] then 0 else dottedSize a.name) + a.asName.toList.length

mutual

/-- The mentions of a statement. -/
def Stmt.mentions : Stmt → List Mention
  | .function s isAsync name params body decorators returns =>
    (placeAfter s (if isAsync then 10 else 4), name) :: mentionsIn decorators ++ params.mentions ++
      optMentions returns ++ blockMentions body
  | .classDef s name bases keywords body decorators =>
    (placeAfter s 6, name) :: mentionsIn decorators ++ mentionsIn bases ++
      keywordMentions keywords ++ blockMentions body
  | .ret _ value => optMentions value
  | .delete _ targets => mentionsIn targets
  | .assign _ targets value _ => mentionsIn targets ++ value.mentions
  | .augAssign _ target _ value => target.mentions ++ value.mentions
  | .annAssign _ target hint value _ _ => target.mentions ++ hint.mentions ++ optMentions value
  | .forLoop _ _ target iter body orElse =>
    target.mentions ++ iter.mentions ++ blockMentions body ++ blockMentions orElse
  | .whileLoop _ test body orElse => test.mentions ++ blockMentions body ++ blockMentions orElse
  | .cond _ test body orElse => test.mentions ++ blockMentions body ++ blockMentions orElse
  | .withBlock _ _ items body => withMentions items ++ blockMentions body
  | .matchOn _ subject cases => subject.mentions ++ caseMentions cases
  | .raise _ error cause => optMentions error ++ optMentions cause
  | .tryBlock _ _ body handlers orElse finalBody =>
    blockMentions body ++ handlerMentions handlers ++ blockMentions orElse ++
      blockMentions finalBody
  | .assert _ test message => test.mentions ++ optMentions message
  | .importNames _ names => names.flatMap fun a => absentIn a.name
  | .importFrom _ path names level =>
    (match path with
      | some p => absentIn p
      | none => if level = 0 then [absent] else []) ++ names.flatMap fun a => absentIn a.name
  | .globals .. => []
  | .nonlocals .. => []
  | .expr _ value => value.mentions
  | .pass _ => []
  | .breakLoop _ => []
  | .continueLoop _ => []

/-- The mentions of some statements. -/
def blockMentions : List Stmt → List Mention
  | [] => []
  | s :: ss => s.mentions ++ blockMentions ss

/-- The mentions of handlers. -/
def handlerMentions : List Handler → List Mention
  | [] => []
  | .mk type _ body :: hs => optMentions type ++ blockMentions body ++ handlerMentions hs

/-- The mentions of cases. -/
def caseMentions : List Case → List Mention
  | [] => []
  | .mk pattern guard body :: cs =>
    pattern.mentions ++ optMentions guard ++ blockMentions body ++ caseMentions cs

end

mutual

/-- The number of names that a statement holds without a place. The words `match` and `case` are
names. -/
def Stmt.unplaced : Stmt → Nat
  | .function _ _ _ _ body _ _ => blockUnplaced body
  | .classDef _ _ _ _ body _ => blockUnplaced body
  | .forLoop _ _ _ _ body orElse => blockUnplaced body + blockUnplaced orElse
  | .whileLoop _ _ body orElse => blockUnplaced body + blockUnplaced orElse
  | .cond _ _ body orElse => blockUnplaced body + blockUnplaced orElse
  | .withBlock _ _ _ body => blockUnplaced body
  | .matchOn _ _ cases => casesUnplaced cases + 1
  | .tryBlock _ _ body handlers orElse finalBody =>
    blockUnplaced body + handlersUnplaced handlers + blockUnplaced orElse + blockUnplaced finalBody
  | .importNames _ names => (names.map Alias.size).sum
  | .importFrom _ path names _ => (path.toList.map dottedSize).sum + (names.map Alias.size).sum
  | .globals _ names => names.length
  | .nonlocals _ names => names.length
  | .ret .. => 0
  | .delete .. => 0
  | .assign .. => 0
  | .augAssign .. => 0
  | .annAssign .. => 0
  | .raise .. => 0
  | .assert .. => 0
  | .expr .. => 0
  | .pass _ => 0
  | .breakLoop _ => 0
  | .continueLoop _ => 0

/-- The number of names that some statements hold without a place. -/
def blockUnplaced : List Stmt → Nat
  | [] => 0
  | s :: ss => s.unplaced + blockUnplaced ss

/-- The number of names that handlers hold without a place. -/
def handlersUnplaced : List Handler → Nat
  | [] => 0
  | .mk _ name body :: hs => name.toList.length + blockUnplaced body + handlersUnplaced hs

/-- The number of names that cases hold without a place. -/
def casesUnplaced : List Case → Nat
  | [] => 0
  | .mk pattern _ body :: cs => pattern.unplaced + 1 + blockUnplaced body + casesUnplaced cs

end

end Syntax

/-! ### Values with names -/

section Instances

variable {α β : Type}

instance : Mentioning Expr := ⟨Expr.mentions, fun _ => 0⟩
instance : Mentioning Params := ⟨Params.mentions, fun _ => 0⟩
instance : Mentioning Param := ⟨fun p => paramMentions [p], fun _ => 0⟩
instance : Mentioning Keyword := ⟨fun k => keywordMentions [k], fun _ => 0⟩
instance : Mentioning Clause := ⟨fun c => clauseMentions [c], fun _ => 0⟩
instance : Mentioning Pattern := ⟨Pattern.mentions, Pattern.unplaced⟩
instance : Mentioning (Text × Pattern) := ⟨fun p => p.2.mentions, fun p => p.2.unplaced + 1⟩
instance : Mentioning Stmt := ⟨Stmt.mentions, Stmt.unplaced⟩
instance : Mentioning Handler := ⟨fun h => handlerMentions [h], fun h => handlersUnplaced [h]⟩
instance : Mentioning Case := ⟨fun c => caseMentions [c], fun c => casesUnplaced [c]⟩
instance : Mentioning Alias := ⟨fun a => absentIn a.name, Alias.size⟩
instance : Mentioning CompareOp := ⟨fun _ => [], fun _ => 0⟩
instance : Mentioning BinaryOp := ⟨fun _ => [], fun _ => 0⟩
instance : Mentioning Constant := ⟨fun _ => [], fun _ => 0⟩
instance : Mentioning Unit := ⟨fun _ => [], fun _ => 0⟩
instance : Mentioning Bool := ⟨fun _ => [], fun _ => 0⟩
instance : Mentioning Nat := ⟨fun _ => [], fun _ => 0⟩

instance [Mentioning α] : Mentioning (List α) :=
  ⟨fun as => as.flatMap mentions, fun as => (as.map unplaced).sum⟩

instance [Mentioning α] : Mentioning (Option α) :=
  ⟨fun o => o.elim [] mentions, fun o => o.elim 0 unplaced⟩

instance [Mentioning α] [Mentioning β] : Mentioning (α × β) :=
  ⟨fun p => mentions p.1 ++ mentions p.2, fun p => unplaced p.1 + unplaced p.2⟩

variable [Mentioning α] [Mentioning β]

/-- An empty list mentions nothing. -/
@[simp] theorem mentions_nil : mentions ([] : List α) = [] := rfl

/-- An empty list holds no names without a place. -/
@[simp] theorem unplaced_nil : unplaced ([] : List α) = 0 := rfl

/-- A list mentions what its head and its tail mention. -/
@[simp] theorem mentions_cons (a : α) (as : List α) :
    mentions (a :: as) = mentions a ++ mentions as := rfl

/-- A list holds the names without a place of its head and its tail. -/
@[simp] theorem unplaced_cons (a : α) (as : List α) :
    unplaced (a :: as) = unplaced a + unplaced as := rfl

/-- Joined lists mention what each does, in order. -/
@[simp] theorem mentions_append (as bs : List α) : mentions (as ++ bs) = mentions as ++ mentions bs :=
  List.flatMap_append

/-- Joined lists hold the names without a place of both. -/
@[simp] theorem unplaced_append (as bs : List α) : unplaced (as ++ bs) = unplaced as + unplaced bs := by
  simp [unplaced]

/-- What is missing mentions nothing. -/
@[simp] theorem mentions_none : mentions (none : Option α) = [] := rfl

/-- What is missing holds no names. -/
@[simp] theorem unplaced_none : unplaced (none : Option α) = 0 := rfl

/-- What is there mentions its names. -/
@[simp] theorem mentions_some (a : α) : mentions (some a) = mentions a := rfl

/-- What is there holds its names without a place. -/
@[simp] theorem unplaced_some (a : α) : unplaced (some a) = unplaced a := rfl

/-- A pair mentions what its parts mention, in order. -/
@[simp] theorem mentions_pair (a : α) (b : β) : mentions (a, b) = mentions a ++ mentions b := rfl

/-- A pair holds the names without a place of its parts. -/
@[simp] theorem unplaced_pair (a : α) (b : β) : unplaced (a, b) = unplaced a + unplaced b := rfl

/-- **Values without unplaced names**. -/
class Placed (α : Type) [Mentioning α] : Prop where
  all : ∀ a : α, unplaced a = 0

/-- Where all names have a place, none is without. -/
@[simp] theorem unplaced_eq_zero [Placed α] (a : α) : unplaced a = 0 := Placed.all a

instance : Placed Expr := ⟨fun _ => rfl⟩
instance : Placed Params := ⟨fun _ => rfl⟩
instance : Placed Param := ⟨fun _ => rfl⟩
instance : Placed Keyword := ⟨fun _ => rfl⟩
instance : Placed Clause := ⟨fun _ => rfl⟩
instance : Placed CompareOp := ⟨fun _ => rfl⟩
instance : Placed Bool := ⟨fun _ => rfl⟩

instance [Placed α] : Placed (List α) :=
  ⟨fun as => by induction as with
    | nil => rfl
    | cons a as ih => rw [unplaced_cons, ih, Placed.all]⟩

instance [Placed α] : Placed (Option α) :=
  ⟨fun o => by cases o with
    | none => rfl
    | some a => exact Placed.all a⟩

instance [Placed α] [Placed β] : Placed (α × β) :=
  ⟨fun p => by rw [unplaced_pair, Placed.all, Placed.all]⟩

/-- The mentions of an expression are read off its tree. -/
@[simp] theorem mentions_expr (e : Expr) : mentions e = e.mentions := rfl

/-- The mentions of parameters are those of their list. -/
@[simp] theorem mentions_params (ps : Params) : mentions ps = ps.mentions := rfl

/-- The mentions of a pattern are read off its tree. -/
@[simp] theorem mentions_pattern (p : Pattern) : mentions p = p.mentions := rfl

/-- The names that a pattern holds without a place. -/
@[simp] theorem unplaced_pattern (p : Pattern) : unplaced p = p.unplaced := rfl

/-- A member pattern mentions what its pattern does. -/
@[simp] theorem mentions_member (p : Text × Pattern) : mentions p = p.2.mentions := rfl

/-- The name of a member pattern has no place. -/
@[simp] theorem unplaced_member (p : Text × Pattern) : unplaced p = p.2.unplaced + 1 := rfl

/-- The mentions of a statement are read off its tree. -/
@[simp] theorem mentions_stmt (s : Stmt) : mentions s = s.mentions := rfl

/-- The names that a statement holds without a place. -/
@[simp] theorem unplaced_stmt (s : Stmt) : unplaced s = s.unplaced := rfl

/-- An alias mentions no more than the name that its path lacks. -/
@[simp] theorem mentions_alias (a : Alias) : mentions a = absentIn a.name := rfl

/-- The names of an alias have no place. -/
@[simp] theorem unplaced_alias (a : Alias) : unplaced a = a.size := rfl

/-- An operator mentions nothing. -/
@[simp] theorem mentions_compareOp (o : CompareOp) : mentions o = [] := rfl

/-- A flag mentions nothing. -/
@[simp] theorem mentions_bool (b : Bool) : mentions b = [] := rfl

end Instances

/-! Lists that are part of a tree hold the names of their elements. -/

/-- Expressions in a list mention what a list does. -/
@[simp] theorem mentionsIn_eq (es : List Expr) : mentionsIn es = mentions es := by
  induction es with
  | nil => rfl
  | cons e es ih => rw [mentionsIn, ih]; rfl

/-- An expression that may be missing mentions what an option does. -/
@[simp] theorem optMentions_eq (o : Option Expr) : optMentions o = mentions o := by cases o <;> rfl

/-- The items of a dictionary mention what a list of pairs does. -/
@[simp] theorem itemMentions_eq (items : List (Option Expr × Expr)) :
    itemMentions items = mentions items := by
  induction items with
  | nil => rfl
  | cons item items ih => rw [itemMentions, ih, optMentions_eq]; rfl

/-- The operands of a comparison mention what a list of pairs does. -/
@[simp] theorem comparedMentions_eq (rest : List (CompareOp × Expr)) :
    comparedMentions rest = mentions rest := by
  induction rest with
  | nil => rfl
  | cons r rest ih => rw [comparedMentions, ih]; rfl

/-- The clauses of a comprehension mention what a list does. -/
@[simp] theorem clauseMentions_eq (cs : List Clause) : clauseMentions cs = mentions cs := by
  induction cs with
  | nil => rfl
  | cons c cs ih =>
    rw [mentions_cons, ← ih]
    show clauseMentions (c :: cs) = clauseMentions [c] ++ clauseMentions cs
    cases c
    simp only [clauseMentions, List.append_nil, List.append_assoc]

/-- The keyword arguments of a call mention what a list does. -/
@[simp] theorem keywordMentions_eq (ks : List Keyword) : keywordMentions ks = mentions ks := by
  induction ks with
  | nil => rfl
  | cons k ks ih =>
    rw [mentions_cons, ← ih]
    show keywordMentions (k :: ks) = keywordMentions [k] ++ keywordMentions ks
    cases k
    simp only [keywordMentions, List.append_nil, List.append_assoc]

/-- Parameters in a list mention what a list does. -/
@[simp] theorem paramMentions_eq (ps : List Param) : paramMentions ps = mentions ps := by
  induction ps with
  | nil => rfl
  | cons p ps ih =>
    rw [mentions_cons, ← ih]
    show paramMentions (p :: ps) = paramMentions [p] ++ paramMentions ps
    cases p
    simp only [paramMentions, List.append_nil, List.cons_append, List.append_assoc]

/-- A parameter that may be missing mentions what an option does. -/
@[simp] theorem optParamMentions_eq (o : Option Param) : optParamMentions o = mentions o := by
  cases o with
  | none => rfl
  | some p =>
    show optParamMentions (some p) = paramMentions [p]
    cases p
    simp only [optParamMentions, paramMentions, List.append_nil, List.cons_append]

/-- Patterns in a list mention what a list does. -/
@[simp] theorem patternMentions_eq (ps : List Pattern) : patternMentions ps = mentions ps := by
  induction ps with
  | nil => rfl
  | cons p ps ih => rw [patternMentions, ih]; rfl

/-- Patterns in a list hold the names without a place that a list does. -/
@[simp] theorem patternsUnplaced_eq (ps : List Pattern) : patternsUnplaced ps = unplaced ps := by
  induction ps with
  | nil => rfl
  | cons p ps ih => rw [patternsUnplaced, ih]; rfl

/-- Member patterns mention what a list does. -/
@[simp] theorem memberMentions_eq (ps : List (Text × Pattern)) :
    memberMentions ps = mentions ps := by
  induction ps with
  | nil => rfl
  | cons p ps ih => rw [memberMentions, ih]; rfl

/-- Member patterns hold the names without a place that a list does. -/
@[simp] theorem membersUnplaced_eq (ps : List (Text × Pattern)) :
    membersUnplaced ps = unplaced ps := by
  induction ps with
  | nil => rfl
  | cons p ps ih => rw [membersUnplaced, ih]; rfl

/-- The items of a `with` mention what a list of pairs does. -/
@[simp] theorem withMentions_eq (items : List (Expr × Option Expr)) :
    withMentions items = mentions items := by
  induction items with
  | nil => rfl
  | cons item items ih => rw [withMentions, ih, optMentions_eq]; rfl

/-- The statements of a block mention what a list does. -/
@[simp] theorem blockMentions_eq (ss : List Stmt) : blockMentions ss = mentions ss := by
  induction ss with
  | nil => rfl
  | cons s ss ih => rw [blockMentions, ih]; rfl

/-- The statements of a block hold the names without a place that a list does. -/
@[simp] theorem blockUnplaced_eq (ss : List Stmt) : blockUnplaced ss = unplaced ss := by
  induction ss with
  | nil => rfl
  | cons s ss ih => rw [blockUnplaced, ih]; rfl

/-- Handlers mention what a list does. -/
@[simp] theorem handlerMentions_eq (hs : List Handler) : handlerMentions hs = mentions hs := by
  induction hs with
  | nil => rfl
  | cons h hs ih =>
    rw [mentions_cons, ← ih]
    show handlerMentions (h :: hs) = handlerMentions [h] ++ handlerMentions hs
    cases h
    simp only [handlerMentions, List.append_nil, List.append_assoc]

/-- Handlers hold the names without a place that a list does. -/
@[simp] theorem handlersUnplaced_eq (hs : List Handler) : handlersUnplaced hs = unplaced hs := by
  induction hs with
  | nil => rfl
  | cons h hs ih =>
    rw [unplaced_cons, ← ih]
    show handlersUnplaced (h :: hs) = handlersUnplaced [h] + handlersUnplaced hs
    cases h
    simp only [handlersUnplaced, Nat.add_zero, Nat.add_assoc]

/-- The cases of a match mention what a list does. -/
@[simp] theorem caseMentions_eq (cs : List Case) : caseMentions cs = mentions cs := by
  induction cs with
  | nil => rfl
  | cons c cs ih =>
    rw [mentions_cons, ← ih]
    show caseMentions (c :: cs) = caseMentions [c] ++ caseMentions cs
    cases c
    simp only [caseMentions, List.append_nil, List.append_assoc]

/-- The cases of a match hold the names without a place that a list does. -/
@[simp] theorem casesUnplaced_eq (cs : List Case) : casesUnplaced cs = unplaced cs := by
  induction cs with
  | nil => rfl
  | cons c cs ih =>
    rw [unplaced_cons, ← ih]
    show casesUnplaced (c :: cs) = casesUnplaced [c] + casesUnplaced cs
    cases c
    simp only [casesUnplaced, Nat.add_zero, Nat.add_assoc]

/-- Aliases mention the names that their paths lack. -/
@[simp] theorem mentions_aliases (as : List Alias) :
    mentions as = as.flatMap fun a => absentIn a.name := rfl

/-- The names of aliases are without a place, as many as they are. -/
@[simp] theorem unplaced_aliases (as : List Alias) : unplaced as = (as.map Alias.size).sum := rfl

/-- A parameter mentions its name, its annotation and its default. -/
@[simp] theorem mentions_param (s : Span) (name : Text) (hint default : Option Expr) :
    mentions (Param.mk s name hint default) =
      (startOf s, name) :: mentions hint ++ mentions default := by
  show paramMentions [_] = _
  simp only [paramMentions, optMentions_eq, List.append_nil]

/-- A keyword argument mentions its name, if it has one, and its value. -/
@[simp] theorem mentions_keyword (s : Span) (name : Option Text) (value : Expr) :
    mentions (Keyword.mk s name value) =
      (name.toList.map fun n => (startOf s, n)) ++ value.mentions := by
  show keywordMentions [_] = _
  cases name <;> simp only [keywordMentions, List.append_nil] <;> rfl

/-- A clause mentions its target, what it runs over and its conditions. -/
@[simp] theorem mentions_clause (isAsync : Bool) (target iter : Expr) (conditions : List Expr) :
    mentions (Clause.mk isAsync target iter conditions) =
      target.mentions ++ iter.mentions ++ mentions conditions := by
  show clauseMentions [_] = _
  simp only [clauseMentions, mentionsIn_eq, List.append_nil]

/-- A handler mentions its type and what its body does. -/
@[simp] theorem mentions_handler (type : Option Expr) (name : Option Text) (body : List Stmt) :
    mentions (Handler.mk type name body) = mentions type ++ mentions body := by
  show handlerMentions [_] = _
  simp only [handlerMentions, optMentions_eq, blockMentions_eq, List.append_nil]

/-- The name that a handler binds has no place. -/
@[simp] theorem unplaced_handler (type : Option Expr) (name : Option Text) (body : List Stmt) :
    unplaced (Handler.mk type name body) = name.toList.length + unplaced body := by
  show handlersUnplaced [_] = _
  simp only [handlersUnplaced, blockUnplaced_eq, Nat.add_zero]

/-- A case mentions its pattern, its guard and what its body does. -/
@[simp] theorem mentions_case (pattern : Pattern) (guard : Option Expr) (body : List Stmt) :
    mentions (Case.mk pattern guard body) =
      pattern.mentions ++ mentions guard ++ mentions body := by
  show caseMentions [_] = _
  simp only [caseMentions, optMentions_eq, blockMentions_eq, List.append_nil]

/-- The word that opens a case is a name elsewhere and has no place. -/
@[simp] theorem unplaced_case (pattern : Pattern) (guard : Option Expr) (body : List Stmt) :
    unplaced (Case.mk pattern guard body) = pattern.unplaced + 1 + unplaced body := by
  show casesUnplaced [_] = _
  simp only [casesUnplaced, blockUnplaced_eq, Nat.add_zero]

/-- The weight of the mentions of a value. -/
def seenIn {α : Type} [Mentioning α] (μ : Weight) (a : α) : Nat := ((mentions a).map μ).sum

/-- The number of names of a value. -/
def nameCount {α : Type} [Mentioning α] (a : α) : Nat := (mentions a).length + unplaced a

end ApiPage
