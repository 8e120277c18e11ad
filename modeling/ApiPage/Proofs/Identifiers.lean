import ApiPage.Proofs.Mentions
import ApiPage.Proofs.Roles

/-!
# Identifiers and mentions

The identifiers of a tree stand where names are mentioned, whatever their roles are.

## Main definitions

* `AreMentions`: identifiers that are among some mentions.

## Main results

* `areMentions_blockIdentifiers`: the identifiers of a block are among its mentions.
-/

namespace ApiPage

open Syntax

/-- **Identifiers among mentions**. -/
def AreMentions (ms : List Mention) (is : List Identifier) : Prop :=
  ∀ i ∈ is, (i.place, i.name) ∈ ms

namespace AreMentions

variable {ms ms' : List Mention} {is is' : List Identifier}

/-- No identifiers are mentions of anything. -/
theorem nil : AreMentions ms [] := List.forall_mem_nil _

/-- Identifiers among some mentions are among more of them. -/
theorem mono (h : AreMentions ms is) (hsub : ms ⊆ ms') : AreMentions ms' is :=
  fun i hi => hsub (h i hi)

/-- More identifiers among the same mentions. -/
theorem both (h : AreMentions ms is) (h' : AreMentions ms is') : AreMentions ms (is ++ is') :=
  List.forall_mem_append.mpr ⟨h, h'⟩

/-- The identifiers of two parts are among the mentions of both. -/
theorem append (h : AreMentions ms is) (h' : AreMentions ms' is') :
    AreMentions (ms ++ ms') (is ++ is') :=
  (h.mono (List.subset_append_left _ _)).both (h'.mono (List.subset_append_right _ _))

/-- An identifier with its mention before others. -/
theorem cons (place : Place) (name : Text) (role : Role) (h : AreMentions ms is) :
    AreMentions ((place, name) :: ms) (⟨place, name, role⟩ :: is) :=
  List.forall_mem_cons.mpr
    ⟨List.mem_cons_self, h.mono (List.subset_cons_self _ _)⟩

/-- An identifier at the place of a mention. -/
theorem single (place : Place) (name : Text) (role : Role) :
    AreMentions [(place, name)] [⟨place, name, role⟩] := cons place name role nil

end AreMentions

/-! ### Expressions -/

mutual

/-- **The identifiers of an expression are mentions of it.** The root of an attribute is a name, or
else an expression of its own. -/
theorem areMentions_identifiers (bound : List Text) :
    ∀ e : Expr, AreMentions e.mentions (e.identifiers bound)
  | .boolOp _ _ values => areMentions_identifiersIn bound values
  | .named _ target value =>
    (areMentions_identifiers bound target).append (areMentions_identifiers bound value)
  | .binary _ left _ right =>
    (areMentions_identifiers bound left).append (areMentions_identifiers bound right)
  | .unary _ _ operand => areMentions_identifiers bound operand
  | .lambda _ params body =>
    (areMentions_paramsIdentifiers (params.ids ++ bound) params).append
      (areMentions_identifiers (params.ids ++ bound) body)
  | .conditional _ test body orElse =>
    ((areMentions_identifiers bound test).append (areMentions_identifiers bound body)).append
      (areMentions_identifiers bound orElse)
  | .dict _ items =>
    (areMentions_keyIdentifiers bound items).both (areMentions_valueIdentifiers bound items)
  | .set _ items => areMentions_identifiersIn bound items
  | .listComp _ item clauses =>
    (areMentions_identifiers (clauseNamesBound clauses ++ bound) item).append
      (areMentions_clauseIdentifiers (clauseNamesBound clauses ++ bound) clauses)
  | .setComp _ item clauses =>
    (areMentions_identifiers (clauseNamesBound clauses ++ bound) item).append
      (areMentions_clauseIdentifiers (clauseNamesBound clauses ++ bound) clauses)
  | .dictComp _ key value clauses =>
    ((areMentions_identifiers (clauseNamesBound clauses ++ bound) key).append
      (areMentions_identifiers (clauseNamesBound clauses ++ bound) value)).append
      (areMentions_clauseIdentifiers (clauseNamesBound clauses ++ bound) clauses)
  | .generator _ item clauses =>
    (areMentions_identifiers (clauseNamesBound clauses ++ bound) item).append
      (areMentions_clauseIdentifiers (clauseNamesBound clauses ++ bound) clauses)
  | .await _ value => areMentions_identifiers bound value
  | .yield _ none => .nil
  | .yield _ (some value) => areMentions_identifiers bound value
  | .yieldFrom _ value => areMentions_identifiers bound value
  | .compare _ left rest =>
    (areMentions_identifiers bound left).append (areMentions_comparedIdentifiers bound rest)
  | .call _ func args keywords =>
    ((areMentions_identifiers bound func).append (areMentions_identifiersIn bound args)).append
      (areMentions_keywordIdentifiers bound keywords)
  | .joined .. => .nil
  | .constant .. => .nil
  | .attr s value member =>
    have hvalue : AreMentions value.mentions (match value with
        | .name n id _ => [⟨startOf n, id, roleOf bound id .load⟩]
        | _ => value.identifiers bound) := by
      split
      · exact .single _ _ _
      · exact areMentions_identifiers bound value
    hvalue.append (.single _ _ _)
  | .subscript _ value index =>
    (areMentions_identifiers bound value).append (areMentions_identifiers bound index)
  | .starred _ value => areMentions_identifiers bound value
  | .name _ _ _ => .single _ _ _
  | .list _ items => areMentions_identifiersIn bound items
  | .tuple _ items => areMentions_identifiersIn bound items
  | .slice _ lower upper step =>
    ((areMentions_optIdentifiers bound lower).append (areMentions_optIdentifiers bound upper)).append
      (areMentions_optIdentifiers bound step)

/-- Those of an expression that may be missing. -/
theorem areMentions_optIdentifiers (bound : List Text) :
    ∀ e : Option Expr, AreMentions (optMentions e) (optIdentifiers bound e)
  | none => .nil
  | some e => areMentions_identifiers bound e

/-- Those of several expressions. -/
theorem areMentions_identifiersIn (bound : List Text) :
    ∀ es : List Expr, AreMentions (mentionsIn es) (identifiersIn bound es)
  | [] => .nil
  | e :: es => (areMentions_identifiers bound e).append (areMentions_identifiersIn bound es)

/-- Those of the keys of a dictionary. -/
theorem areMentions_keyIdentifiers (bound : List Text) :
    ∀ items : List (Option Expr × Expr),
      AreMentions (itemMentions items) (keyIdentifiers bound items)
  | [] => .nil
  | (k, _) :: items =>
    ((areMentions_optIdentifiers bound k).mono (List.subset_append_left _ _)).append
      (areMentions_keyIdentifiers bound items)

/-- Those of the values of a dictionary. -/
theorem areMentions_valueIdentifiers (bound : List Text) :
    ∀ items : List (Option Expr × Expr),
      AreMentions (itemMentions items) (valueIdentifiers bound items)
  | [] => .nil
  | (_, v) :: items =>
    ((areMentions_identifiers bound v).mono (List.subset_append_right _ _)).append
      (areMentions_valueIdentifiers bound items)

/-- Those of the operands of a comparison. -/
theorem areMentions_comparedIdentifiers (bound : List Text) :
    ∀ rest : List (CompareOp × Expr),
      AreMentions (comparedMentions rest) (comparedIdentifiers bound rest)
  | [] => .nil
  | (_, e) :: rest =>
    (areMentions_identifiers bound e).append (areMentions_comparedIdentifiers bound rest)

/-- Those of the clauses of a comprehension. -/
theorem areMentions_clauseIdentifiers (bound : List Text) :
    ∀ cs : List Clause, AreMentions (clauseMentions cs) (clauseIdentifiers bound cs)
  | [] => .nil
  | .mk _ target iter conditions :: cs =>
    (((areMentions_identifiers bound target).append (areMentions_identifiers bound iter)).append
      (areMentions_identifiersIn bound conditions)).append (areMentions_clauseIdentifiers bound cs)

/-- Those of keyword arguments. -/
theorem areMentions_keywordIdentifiers (bound : List Text) :
    ∀ ks : List Keyword, AreMentions (keywordMentions ks) (keywordIdentifiers bound ks)
  | [] => .nil
  | .mk _ none value :: ks =>
    (areMentions_identifiers bound value).append (areMentions_keywordIdentifiers bound ks)
  | .mk _ (some _) value :: ks =>
    ((AreMentions.single _ _ _).append (areMentions_identifiers bound value)).append
      (areMentions_keywordIdentifiers bound ks)

/-- Those of parameters, their names and annotations. -/
theorem areMentions_paramIdentifiers (bound : List Text) :
    ∀ ps : List Param, AreMentions (paramMentions ps) (paramIdentifiers bound ps)
  | [] => .nil
  | .mk _ _ hint _ :: ps =>
    ((AreMentions.cons _ _ _ (areMentions_optIdentifiers bound hint)).mono
      (List.subset_append_left _ _)).append (areMentions_paramIdentifiers bound ps)

/-- Those of a parameter that may be missing. -/
theorem areMentions_optParamIdentifiers (bound : List Text) :
    ∀ p : Option Param, AreMentions (optParamMentions p) (optParamIdentifiers bound p)
  | none => .nil
  | some (.mk _ _ hint _) =>
    (AreMentions.cons _ _ _ (areMentions_optIdentifiers bound hint)).mono
      (List.subset_append_left _ _)

/-- Those of the defaults of parameters. -/
theorem areMentions_defaultIdentifiers (bound : List Text) :
    ∀ ps : List Param, AreMentions (paramMentions ps) (defaultIdentifiers bound ps)
  | [] => .nil
  | .mk _ _ _ default :: ps =>
    ((areMentions_optIdentifiers bound default).mono (List.subset_append_right _ _)).append
      (areMentions_defaultIdentifiers bound ps)

/-- Those of a list of parameters, whose defaults are met behind the parameters. -/
theorem areMentions_paramsIdentifiers (bound : List Text) :
    ∀ ps : Params, AreMentions ps.mentions (ps.identifiers bound)
  | .mk positionalOnly positional rest keywordOnly restKeywords => by
    have hpositionalOnly : paramMentions positionalOnly ⊆
        (Params.mk positionalOnly positional rest keywordOnly restKeywords).mentions :=
      fun x hx => by simp only [Params.mentions, List.mem_append, hx, true_or]
    have hpositional : paramMentions positional ⊆
        (Params.mk positionalOnly positional rest keywordOnly restKeywords).mentions :=
      fun x hx => by simp only [Params.mentions, List.mem_append, hx, true_or, or_true]
    have hrest : optParamMentions rest ⊆
        (Params.mk positionalOnly positional rest keywordOnly restKeywords).mentions :=
      fun x hx => by simp only [Params.mentions, List.mem_append, hx, true_or, or_true]
    have hkeywordOnly : paramMentions keywordOnly ⊆
        (Params.mk positionalOnly positional rest keywordOnly restKeywords).mentions :=
      fun x hx => by simp only [Params.mentions, List.mem_append, hx, true_or, or_true]
    have hrestKeywords : optParamMentions restKeywords ⊆
        (Params.mk positionalOnly positional rest keywordOnly restKeywords).mentions :=
      fun x hx => by simp only [Params.mentions, List.mem_append, hx, or_true]
    rw [Params.identifiers]
    exact (((((((((areMentions_paramIdentifiers bound positionalOnly).mono hpositionalOnly).both
      ((areMentions_paramIdentifiers bound positional).mono hpositional)).both
      ((areMentions_optParamIdentifiers bound rest).mono hrest)).both
      ((areMentions_paramIdentifiers bound keywordOnly).mono hkeywordOnly)).both
      ((areMentions_defaultIdentifiers bound keywordOnly).mono hkeywordOnly)).both
      ((areMentions_optParamIdentifiers bound restKeywords).mono hrestKeywords)).both
      ((areMentions_defaultIdentifiers bound positionalOnly).mono hpositionalOnly)).both
      ((areMentions_defaultIdentifiers bound positional).mono hpositional))

end

/-! ### Patterns and targets -/

mutual

/-- Those of a pattern: its values and classes. -/
theorem areMentions_patternIdentifiers : ∀ p : Pattern, AreMentions p.mentions p.identifiers
  | .value e => areMentions_identifiers [] e
  | .singleton _ => .nil
  | .sequence ps => areMentions_patternsIdentifiers ps
  | .mapping keys ps _ =>
    (areMentions_identifiersIn [] keys).append (areMentions_patternsIdentifiers ps)
  | .ofClass cls ps keywords =>
    ((areMentions_identifiers [] cls).append (areMentions_patternsIdentifiers ps)).append
      (areMentions_memberPatternIdentifiers keywords)
  | .star _ => .nil
  | .capture none _ => .nil
  | .capture (some p) _ => areMentions_patternIdentifiers p
  | .either ps => areMentions_patternsIdentifiers ps

/-- Those of several patterns. -/
theorem areMentions_patternsIdentifiers :
    ∀ ps : List Pattern, AreMentions (patternMentions ps) (patternIdentifiers ps)
  | [] => .nil
  | p :: ps => (areMentions_patternIdentifiers p).append (areMentions_patternsIdentifiers ps)

/-- Those of the members of a class pattern. -/
theorem areMentions_memberPatternIdentifiers :
    ∀ ps : List (Text × Pattern), AreMentions (memberMentions ps) (memberPatternIdentifiers ps)
  | [] => .nil
  | (_, p) :: ps =>
    (areMentions_patternIdentifiers p).append (areMentions_memberPatternIdentifiers ps)

end

mutual

/-- Those of the target of an assignment. -/
theorem areMentions_targetIdentifiers : ∀ e : Expr, AreMentions e.mentions e.targetIdentifiers
  | .name _ _ _ => .single _ _ _
  | .tuple _ es => areMentions_targetIdentifiersIn es
  | .list _ es => areMentions_targetIdentifiersIn es
  | .starred _ e => areMentions_targetIdentifiers e
  | .boolOp .. | .named .. | .binary .. | .unary .. | .lambda .. | .conditional .. | .dict ..
  | .set .. | .listComp .. | .setComp .. | .dictComp .. | .generator .. | .await .. | .yield ..
  | .yieldFrom .. | .compare .. | .call .. | .joined .. | .constant .. | .attr .. | .subscript ..
  | .slice .. => areMentions_identifiers [] _

/-- Those of several targets. -/
theorem areMentions_targetIdentifiersIn :
    ∀ es : List Expr, AreMentions (mentionsIn es) (targetIdentifiersIn es)
  | [] => .nil
  | e :: es => (areMentions_targetIdentifiers e).append (areMentions_targetIdentifiersIn es)

end

/-! ### Statements -/

/-- Those of the items of a `with`. -/
theorem areMentions_withIdentifiers :
    ∀ items : List (Expr × Option Expr), AreMentions (withMentions items) (withIdentifiers items)
  | [] => .nil
  | (e, t) :: items =>
    ((areMentions_identifiers [] e).append (areMentions_optIdentifiers [] t)).append
      (areMentions_withIdentifiers items)

mutual

/-- **The identifiers of a statement are mentions of it.** Decorators are met before the name. -/
theorem areMentions_stmtIdentifiers : ∀ s : Stmt, AreMentions s.mentions s.identifiers
  | .function _ _ _ params body decorators returns =>
    (((AreMentions.cons _ _ _ (areMentions_identifiersIn [] decorators)).append
      (areMentions_paramsIdentifiers [] params)).append
      (areMentions_optIdentifiers [] returns)).append (areMentions_blockIdentifiers body)
  | .classDef s name bases keywords body decorators =>
    have hhead : AreMentions
        ((placeAfter s 6, name) :: mentionsIn decorators ++ mentionsIn bases)
        (identifiersIn [] decorators ++
          ⟨placeAfter s 6, name, .declared⟩ :: identifiersIn [] bases) :=
      ((areMentions_identifiersIn [] decorators).mono
        (List.subset_append_of_subset_left _ (List.subset_cons_self _ _))).both
      ((AreMentions.cons _ _ _ (areMentions_identifiersIn [] bases)).mono
        (List.cons_subset_cons _ (List.subset_append_right _ _)))
    (hhead.append (areMentions_keywordIdentifiers [] keywords)).append
      (areMentions_blockIdentifiers body)
  | .ret _ value => areMentions_optIdentifiers [] value
  | .delete _ targets => areMentions_identifiersIn [] targets
  | .assign _ targets value _ =>
    (areMentions_targetIdentifiersIn targets).append (areMentions_identifiers [] value)
  | .annAssign _ target hint value _ _ =>
    ((areMentions_targetIdentifiers target).append (areMentions_identifiers [] hint)).append
      (areMentions_optIdentifiers [] value)
  | .augAssign _ target _ value =>
    (areMentions_identifiers [] target).append (areMentions_identifiers [] value)
  | .forLoop _ _ target iter body orElse =>
    (((areMentions_identifiers [] target).append (areMentions_identifiers [] iter)).append
      (areMentions_blockIdentifiers body)).append (areMentions_blockIdentifiers orElse)
  | .whileLoop _ test body orElse =>
    ((areMentions_identifiers [] test).append (areMentions_blockIdentifiers body)).append
      (areMentions_blockIdentifiers orElse)
  | .cond _ test body orElse =>
    ((areMentions_identifiers [] test).append (areMentions_blockIdentifiers body)).append
      (areMentions_blockIdentifiers orElse)
  | .withBlock _ _ items body =>
    (areMentions_withIdentifiers items).append (areMentions_blockIdentifiers body)
  | .matchOn _ subject cases =>
    (areMentions_identifiers [] subject).append (areMentions_caseIdentifiers cases)
  | .raise _ error cause =>
    (areMentions_optIdentifiers [] error).append (areMentions_optIdentifiers [] cause)
  | .tryBlock _ _ body handlers orElse finalBody =>
    (((areMentions_blockIdentifiers body).append (areMentions_handlerIdentifiers handlers)).append
      (areMentions_blockIdentifiers orElse)).append (areMentions_blockIdentifiers finalBody)
  | .assert _ test message =>
    (areMentions_identifiers [] test).append (areMentions_optIdentifiers [] message)
  | .expr _ value => areMentions_identifiers [] value
  | .importNames .. | .importFrom .. | .globals .. | .nonlocals .. | .pass .. | .breakLoop ..
  | .continueLoop .. => .nil

/-- **The identifiers of a block** are among its mentions. -/
theorem areMentions_blockIdentifiers :
    ∀ ss : List Stmt, AreMentions (blockMentions ss) (blockIdentifiers ss)
  | [] => .nil
  | s :: ss => (areMentions_stmtIdentifiers s).append (areMentions_blockIdentifiers ss)

/-- Those of the handlers of a `try`. -/
theorem areMentions_handlerIdentifiers :
    ∀ hs : List Handler, AreMentions (handlerMentions hs) (handlerIdentifiers hs)
  | [] => .nil
  | .mk type _ body :: hs =>
    ((areMentions_optIdentifiers [] type).append (areMentions_blockIdentifiers body)).append
      (areMentions_handlerIdentifiers hs)

/-- Those of the cases of a `match`. -/
theorem areMentions_caseIdentifiers :
    ∀ cs : List Case, AreMentions (caseMentions cs) (caseIdentifiers cs)
  | [] => .nil
  | .mk pattern guard body :: cs =>
    (((areMentions_patternIdentifiers pattern).append (areMentions_optIdentifiers [] guard)).append
      (areMentions_blockIdentifiers body)).append (areMentions_caseIdentifiers cs)

end

end ApiPage
