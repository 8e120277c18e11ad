import ApiPage.Proofs.Mentions
import ApiPage.Proofs.Printed.Literals

/-!
# Characters of expressions

An expression is printed with plain characters and with those of its names. The names inside a
formatted string do not matter, since it is escaped as a whole, but for the newlines and tabs of
its fields.

## Main definitions

* `Yields`: what holds of an outcome that is no error.
* `Named`: the names of a tree are made of characters with a property.
* `Expr.formatted`: the formatted strings of a tree.
* `FieldsFit`: a formatted string whose fields are printed in characters with a property.
* `Fit`: names and formatted strings that are so.

## Main results

* `yields_exprText`: so is the text of the tree.
-/

namespace ApiPage

/-- **What an outcome yields**, if it is no error. -/
def Yields {ε α : Type} (Q : α → Prop) (r : Except ε α) : Prop := ∀ a, r = .ok a → Q a

namespace Yields

variable {ε α β : Type} {Q : α → Prop} {R : β → Prop}

/-- A value that is given yields what holds of it. -/
theorem pure {a : α} (h : Q a) : Yields Q (pure a : Except ε α) := fun _ hb => Except.ok.inj hb ▸ h

/-- An error yields anything. -/
theorem throw {e : ε} : Yields Q (throw e : Except ε α) := fun _ hb => nomatch hb

/-- A part whose outcome has no say in what comes of it. -/
theorem any (r : Except ε α) : Yields (fun _ => True) r := fun _ _ => trivial

/-- A part whose outcome is kept. -/
theorem self (r : Except ε α) : Yields (fun a => r = .ok a) r := fun _ h => h

/-- **One part after another**: what the first yields is known in the second. -/
theorem bind {r : Except ε α} {f : α → Except ε β} (hr : Yields Q r)
    (hf : ∀ a, Q a → Yields R (f a)) : Yields R (r >>= f) := by
  intro b hb
  cases r with
  | error e => cases hb
  | ok a => exact hf a (hr a rfl) b hb

end Yields

/-- **Mentions of names** that are made of characters with a property. -/
def Named (P : Char → Prop) (ms : List Mention) : Prop := ∀ x ∈ ms, MadeOf P x.2

section

variable {P : Char → Prop} {ms ns : List Mention}

/-- No names are made of anything. -/
@[simp] theorem named_nil : Named P [] := List.forall_mem_nil _

/-- One name more is made of such characters too. -/
@[simp] theorem named_cons {x : Mention} : Named P (x :: ms) ↔ MadeOf P x.2 ∧ Named P ms :=
  List.forall_mem_cons

/-- Names of two parts are made of such characters if those of each are. -/
@[simp] theorem named_append : Named P (ms ++ ns) ↔ Named P ms ∧ Named P ns :=
  List.forall_mem_append

end

/-! ### Formatted strings -/

namespace Syntax

mutual

/-- The formatted strings of an expression, but for those inside others. -/
def Expr.formatted : Expr → List (List Part)
  | .boolOp _ _ values => formattedIn values
  | .named _ target value => target.formatted ++ value.formatted
  | .binary _ left _ right => left.formatted ++ right.formatted
  | .unary _ _ operand => operand.formatted
  | .lambda _ params body => params.formatted ++ body.formatted
  | .conditional _ test body orElse => test.formatted ++ body.formatted ++ orElse.formatted
  | .dict _ items => itemFormatted items
  | .set _ items => formattedIn items
  | .listComp _ item clauses => item.formatted ++ clauseFormatted clauses
  | .setComp _ item clauses => item.formatted ++ clauseFormatted clauses
  | .dictComp _ key value clauses => key.formatted ++ value.formatted ++ clauseFormatted clauses
  | .generator _ item clauses => item.formatted ++ clauseFormatted clauses
  | .await _ value => value.formatted
  | .yield _ value => optFormatted value
  | .yieldFrom _ value => value.formatted
  | .compare _ left rest => left.formatted ++ comparedFormatted rest
  | .call _ func args keywords => func.formatted ++ formattedIn args ++ keywordFormatted keywords
  | .joined _ parts => [parts]
  | .constant .. => []
  | .attr _ value _ => value.formatted
  | .subscript _ value index => value.formatted ++ index.formatted
  | .starred _ value => value.formatted
  | .name .. => []
  | .list _ items => formattedIn items
  | .tuple _ items => formattedIn items
  | .slice _ lower upper step => optFormatted lower ++ optFormatted upper ++ optFormatted step

/-- The formatted strings of an expression that may be missing. -/
def optFormatted : Option Expr → List (List Part)
  | none => []
  | some e => e.formatted

/-- The formatted strings of some expressions. -/
def formattedIn : List Expr → List (List Part)
  | [] => []
  | e :: es => e.formatted ++ formattedIn es

/-- The formatted strings of the items of a mapping. -/
def itemFormatted : List (Option Expr × Expr) → List (List Part)
  | [] => []
  | (k, v) :: items => optFormatted k ++ v.formatted ++ itemFormatted items

/-- The formatted strings of the operands of comparisons. -/
def comparedFormatted : List (CompareOp × Expr) → List (List Part)
  | [] => []
  | (_, e) :: rest => e.formatted ++ comparedFormatted rest

/-- The formatted strings of the clauses of a comprehension. -/
def clauseFormatted : List Clause → List (List Part)
  | [] => []
  | .mk _ target iter conditions :: cs =>
    target.formatted ++ iter.formatted ++ formattedIn conditions ++ clauseFormatted cs

/-- The formatted strings of arguments by name. -/
def keywordFormatted : List Keyword → List (List Part)
  | [] => []
  | .mk _ _ value :: ks => value.formatted ++ keywordFormatted ks

/-- The formatted strings of parameters. -/
def paramFormatted : List Param → List (List Part)
  | [] => []
  | .mk _ _ hint default :: ps => optFormatted hint ++ optFormatted default ++ paramFormatted ps

/-- The formatted strings of a parameter that may be missing. -/
def optParamFormatted : Option Param → List (List Part)
  | none => []
  | some (.mk _ _ hint default) => optFormatted hint ++ optFormatted default

/-- The formatted strings of a parameter list. -/
def Params.formatted : Params → List (List Part)
  | .mk positionalOnly positional rest keywordOnly restKeywords =>
    paramFormatted positionalOnly ++ paramFormatted positional ++ optParamFormatted rest ++
      paramFormatted keywordOnly ++ optParamFormatted restKeywords

end

end Syntax

namespace Syntax.Printer

variable {P : Char → Prop}

/-- **A formatted string whose fields are printed** with newlines and tabs that have a property. -/
def FieldsFit (P : Char → Prop) (parts : List Part) : Prop :=
  Yields (fun ps => ∀ p ∈ ps, p.isText = false → LayoutOf P p.codes) (partPieces parts)

/-- Where newlines and tabs are admitted, the fields of every formatted string fit. -/
theorem fieldsFit [AdmitsLayout P] (parts : List Part) : FieldsFit P parts :=
  fun _ _ p _ _ => layoutOf p.codes

/-- **Names and formatted strings that are printed** in characters with a property. -/
@[mk_iff]
structure Fit (P : Char → Prop) (ms : List Mention) (fs : List (List Part)) : Prop where
  named : Named P ms
  fields : ∀ parts ∈ fs, FieldsFit P parts

section

variable {ms ns : List Mention} {fs gs : List (List Part)}

/-- If newlines and tabs have the property as well, formatted strings do not matter. -/
theorem Fit.of_named [AdmitsLayout P] (h : Named P ms) : Fit P ms fs :=
  ⟨h, fun parts _ => fieldsFit parts⟩

/-- Where there are no names and no formatted strings, all fit. -/
theorem fit_nil : Fit P [] [] := ⟨named_nil, List.forall_mem_nil _⟩

/-- Two parts fit together if each does. -/
theorem fit_append : Fit P (ms ++ ns) (fs ++ gs) ↔ Fit P ms fs ∧ Fit P ns gs := by
  rw [fit_iff, fit_iff, fit_iff, named_append, List.forall_mem_append, and_and_and_comm]

/-- A part without formatted strings, before another one. -/
theorem fit_names_append : Fit P (ms ++ ns) fs ↔ Named P ms ∧ Fit P ns fs := by
  rw [fit_iff, fit_iff, named_append, and_assoc]

/-- A part without formatted strings, behind another one. -/
theorem fit_append_names : Fit P (ms ++ ns) fs ↔ Fit P ms fs ∧ Named P ns := by
  rw [fit_iff, fit_iff, named_append, and_right_comm]

/-- A name before a part. -/
theorem fit_cons {x : Mention} : Fit P (x :: ms) fs ↔ MadeOf P x.2 ∧ Fit P ms fs := by
  rw [fit_iff, fit_iff, named_cons, and_assoc]

end

/-! ### Pieces of text -/

/-- Texts made of characters with a property. -/
def AllMadeOf (P : Char → Prop) (ts : List Text) : Prop := ∀ t ∈ ts, MadeOf P t

/-- No texts are made of anything. -/
theorem AllMadeOf.nil : AllMadeOf P [] := List.forall_mem_nil _

/-- One text more. -/
theorem AllMadeOf.cons {t : Text} {ts : List Text} (ht : MadeOf P t) (hts : AllMadeOf P ts) :
    AllMadeOf P (t :: ts) :=
  List.forall_mem_cons.mpr ⟨ht, hts⟩

/-- Texts before others. -/
theorem AllMadeOf.append {ts us : List Text} (hts : AllMadeOf P ts) (hus : AllMadeOf P us) :
    AllMadeOf P (ts ++ us) :=
  List.forall_mem_append.mpr ⟨hts, hus⟩

variable [Admits P]

/-- A text that is written out in plain characters. -/
theorem madeOf_of {s : String} (h : (Text.of s).all isPlain = true := by decide) :
    MadeOf P (Text.of s) :=
  madeOf_of_all h

/-- A text between two plain characters. -/
theorem madeOf_enclosed {a b : Char} (ha : isPlain a = true) (hb : isPlain b = true) {t : Text}
    (ht : MadeOf P t) : MadeOf P (a :: t ++ [b]) :=
  .cons (Admits.plain a ha) (ht.append (.cons (Admits.plain b hb) .nil))

/-- A text that may be put in parentheses. -/
theorem madeOf_parensIf {c : Bool} {t : Text} (ht : MadeOf P t) : MadeOf P (parensIf c t) := by
  unfold parensIf
  split
  · exact madeOf_enclosed (by decide) (by decide) ht
  · exact ht

/-- A text in square brackets. -/
theorem madeOf_square {t : Text} (ht : MadeOf P t) : MadeOf P (square t) :=
  madeOf_enclosed (by decide) (by decide) ht

/-- A text in braces. -/
theorem madeOf_braced {t : Text} (ht : MadeOf P t) : MadeOf P (braced t) :=
  madeOf_enclosed (by decide) (by decide) ht

/-- Texts with commas between them. -/
theorem madeOf_commas {ts : List Text} (hts : AllMadeOf P ts) : MadeOf P (commas ts) :=
  .join (madeOf_of_all (by decide)) hts

/-- The items of a tuple, with the comma that one alone has. -/
theorem madeOf_tupleItems {ts : List Text} (hts : AllMadeOf P ts) : MadeOf P (tupleItems ts) := by
  unfold tupleItems
  split
  · next t => exact (hts t List.mem_cons_self).append (madeOf_of_all (by decide))
  · exact madeOf_commas hts

/-- The sign of a binary operator is plain. -/
theorem madeOf_binarySign (o : BinaryOp) : MadeOf P (binarySign o) := by
  cases o <;> exact madeOf_of_all (by decide)

/-- The sign of a unary operator is plain. -/
theorem madeOf_unarySign (o : UnaryOp) : MadeOf P (unarySign o) := by
  cases o <;> exact madeOf_of_all (by decide)

/-- The sign of a comparison is plain. -/
theorem madeOf_compareSign (o : CompareOp) : MadeOf P (compareSign o) := by
  cases o <;> exact madeOf_of_all (by decide)

/-- The layout of a list of parameters adds only commas, stars and slashes. -/
theorem madeOf_paramsLayout {positionalOnly positional keywordOnly : List Text}
    {rest restKeywords : Option Text} (hpo : AllMadeOf P positionalOnly)
    (hps : AllMadeOf P positional) (hr : ∀ t ∈ rest, MadeOf P t) (hko : AllMadeOf P keywordOnly)
    (hrk : ∀ t ∈ restKeywords, MadeOf P t) :
    MadeOf P (paramsLayout positionalOnly positional rest keywordOnly restKeywords) := by
  have hmark : ∀ (c : Bool) (t : Text), t.all isPlain = true →
      AllMadeOf P (if c then [] else [t]) := by
    intro c t ht
    cases c
    · exact .cons (madeOf_of_all ht) .nil
    · exact .nil
  refine madeOf_commas (((((hpo.append (hmark _ _ (by decide))).append hps).append ?_).append
    hko).append ?_)
  · cases rest with
    | none => exact hmark _ _ (by decide)
    | some t => exact .cons (.cons (Admits.plain _ (by decide)) (hr t rfl)) .nil
  · intro t ht
    obtain ⟨u, hu, rfl⟩ := List.mem_map.mp ht
    exact (madeOf_of_all (by decide)).append (hrk u (Option.mem_toList.mp hu))

/-- **A constant**. -/
theorem yields_constantText (c : Constant) : Yields (MadeOf P) (constantText false c) := by
  have hstyle : FloatStyle.Plain { Decimal.FloatStyle.real with infinity := Text.of "1e309" } :=
    ⟨by decide, by decide⟩
  have hstyle' : FloatStyle.Plain
      { Decimal.FloatStyle.imaginary with infinity := Text.of "1e309" } := ⟨by decide, by decide⟩
  unfold constantText
  split
  · exact .pure (madeOf_of (by decide))
  · exact .pure (madeOf_of (by decide))
  · exact .pure (madeOf_of (by decide))
  · exact .pure (madeOf_of (by decide))
  · split
    · exact .pure (madeOf_ofNat _)
    · exact .throw
  · exact .pure (madeOf_toText hstyle _)
  · exact .pure ((madeOf_toText hstyle' _).append (madeOf_of_all (by decide)))
  · refine .pure (.append ?_ (madeOf_quote _))
    split
    · exact madeOf_of_all (by decide)
    · exact .nil
  · exact .pure (madeOf_quoteBytes _)

/-! ### Expressions -/

omit [Admits P] in
/-- A parameter that is there fits as one in a list. -/
theorem fit_optParam : ∀ {p : Param},
    Fit P (optParamMentions (some p)) (optParamFormatted (some p)) →
      Fit P (paramMentions [p]) (paramFormatted [p])
  | .mk .., h => fit_append.mpr ⟨h, fit_nil⟩

omit [Admits P] in
/-- The first of some parameters fits, and so do the others. -/
theorem fit_param : ∀ {p : Param} {ps : List Param},
    Fit P (paramMentions (p :: ps)) (paramFormatted (p :: ps)) →
      Fit P (paramMentions [p]) (paramFormatted [p]) ∧ Fit P (paramMentions ps) (paramFormatted ps)
  | .mk .., _, h => (fit_append.mp h).imp_left fun h => fit_append.mpr ⟨h, fit_nil⟩

set_option linter.unusedSectionVars false in
mutual

/-- **The text of an expression** is made of plain characters and those of its names. Whatever the
parts of a formatted string are, the quotes around them escape all but the layout of the fields. -/
theorem yields_exprText (p : Precedence) :
    ∀ e : Expr, Fit P e.mentions e.formatted → Yields (MadeOf P) (exprText false p e)
  | .boolOp _ o values, h => by
    unfold exprText
    refine .bind (yields_risingTexts _ values h) fun ts hts =>
      .pure (madeOf_parensIf (.join ?_ hts))
    cases o <;> exact madeOf_of
  | .named _ target value, h => by
    unfold exprText
    obtain ⟨htarget, hvalue⟩ := fit_append.mp h
    exact .bind (yields_exprText _ target htarget) fun t ht =>
      .bind (yields_exprText _ value hvalue) fun v hv =>
      .pure (madeOf_parensIf ((ht.append madeOf_of).append hv))
  | .binary _ left o right, h => by
    unfold exprText
    obtain ⟨hleft, hright⟩ := fit_append.mp h
    exact .bind (yields_exprText _ left hleft) fun l hl =>
      .bind (yields_exprText _ right hright) fun r hr =>
      .pure (madeOf_parensIf ((hl.append (madeOf_binarySign o).mark).append hr.mark))
  | .unary _ o operand, h => by
    unfold exprText
    exact .bind (yields_exprText _ operand h) fun t ht =>
      .pure (madeOf_parensIf ((madeOf_unarySign o).append ht))
  | .lambda _ params body, h => by
    unfold exprText
    obtain ⟨hparams, hbody⟩ := fit_append.mp h
    refine .bind (yields_paramsText params hparams) fun ps hps =>
      .bind (yields_exprText _ body hbody) fun b hb =>
      .pure (madeOf_parensIf ((MadeOf.append madeOf_of ?_).append hb.mark.mark))
    split
    · exact .nil
    · exact hps.mark
  | .conditional _ test body orElse, h => by
    unfold exprText
    obtain ⟨h, helse⟩ := fit_append.mp h
    obtain ⟨htest, hbody⟩ := fit_append.mp h
    exact .bind (yields_exprText _ body hbody) fun b hb =>
      .bind (yields_exprText _ test htest) fun t ht =>
      .bind (yields_exprText _ orElse helse) fun e he =>
      .pure (madeOf_parensIf ((((hb.append madeOf_of).append ht).append madeOf_of).append he))
  | .dict _ items, h => by
    unfold exprText
    exact .bind (yields_dictTexts items h) fun ts hts =>
      .pure (madeOf_braced (madeOf_commas hts))
  | .set _ items, h => by
    unfold exprText
    refine .bind (yields_exprTexts _ items h) fun ts hts => ?_
    split
    · exact .pure (madeOf_braced madeOf_of)
    · exact .pure (madeOf_braced (madeOf_commas hts))
  | .listComp _ item clauses, h => by
    unfold exprText
    obtain ⟨hitem, hclauses⟩ := fit_append.mp h
    exact .bind (yields_exprText _ item hitem) fun t ht =>
      .bind (yields_clausesText clauses hclauses) fun c hc =>
      .pure (madeOf_square (ht.append hc))
  | .setComp _ item clauses, h => by
    unfold exprText
    obtain ⟨hitem, hclauses⟩ := fit_append.mp h
    exact .bind (yields_exprText _ item hitem) fun t ht =>
      .bind (yields_clausesText clauses hclauses) fun c hc =>
      .pure (madeOf_braced (ht.append hc))
  | .dictComp _ key value clauses, h => by
    unfold exprText
    obtain ⟨h, hclauses⟩ := fit_append.mp h
    obtain ⟨hkey, hvalue⟩ := fit_append.mp h
    exact .bind (yields_exprText _ key hkey) fun k hk =>
      .bind (yields_exprText _ value hvalue) fun v hv =>
      .bind (yields_clausesText clauses hclauses) fun c hc =>
      .pure (madeOf_braced ((hk.append hv.mark.mark).append hc))
  | .generator _ item clauses, h => by
    unfold exprText
    obtain ⟨hitem, hclauses⟩ := fit_append.mp h
    exact .bind (yields_exprText _ item hitem) fun t ht =>
      .bind (yields_clausesText clauses hclauses) fun c hc =>
      .pure (madeOf_parensIf (ht.append hc))
  | .await _ value, h => by
    unfold exprText
    exact .bind (yields_exprText _ value h) fun v hv =>
      .pure (madeOf_parensIf (MadeOf.append madeOf_of hv))
  | .yield _ none, _ => by
    unfold exprText
    exact .pure (madeOf_parensIf madeOf_of)
  | .yield _ (some value), h => by
    unfold exprText
    exact .bind (yields_exprText _ value h) fun v hv =>
      .pure (madeOf_parensIf (MadeOf.append madeOf_of hv))
  | .yieldFrom _ value, h => by
    unfold exprText
    exact .bind (yields_exprText _ value h) fun v hv =>
      .pure (madeOf_parensIf (MadeOf.append madeOf_of hv))
  | .compare _ left rest, h => by
    unfold exprText
    obtain ⟨hleft, hrest⟩ := fit_append.mp h
    exact .bind (yields_exprText _ left hleft) fun l hl =>
      .bind (yields_comparisonsText rest hrest) fun r hr =>
      .pure (madeOf_parensIf (hl.append hr))
  | .call _ func args keywords, h => by
    unfold exprText
    obtain ⟨h, hkeywords⟩ := fit_append.mp h
    obtain ⟨hfunc, hargs⟩ := fit_append.mp h
    exact .bind (yields_exprText _ func hfunc) fun f hf =>
      .bind (yields_exprTexts _ args hargs) fun as has =>
      .bind (yields_keywordTexts keywords hkeywords) fun ks hks =>
      .pure (hf.append (madeOf_parensIf (madeOf_commas (has.append hks))))
  | .joined _ parts, h => by
    unfold exprText
    exact .bind (h.fields parts List.mem_cons_self) fun ps hps =>
      .pure (madeOf_formattedLiteral hps).mark
  | .constant _ c, _ => by
    unfold exprText
    exact yields_constantText c
  | .attr _ value member, h => by
    unfold exprText
    obtain ⟨hvalue, hmember⟩ := fit_append_names.mp h
    refine .bind (yields_exprText _ value hvalue) fun v hv =>
      .pure ((hv.append ?_).append (named_cons.mp hmember).1.mark)
    split
    · exact MadeOf.nil.mark
    · exact .nil
  | .subscript _ value index, h => by
    unfold exprText
    obtain ⟨hvalue, hindex⟩ := fit_append.mp h
    exact .bind (yields_exprText _ value hvalue) fun v hv =>
      .bind (yields_exprText _ index hindex) fun i hi =>
      .pure (hv.append (madeOf_square hi))
  | .starred _ value, h => by
    unfold exprText
    exact .bind (yields_exprText _ value h) fun v hv => .pure hv.mark
  | .name _ id _, h => by
    unfold exprText
    exact .pure (fit_cons.mp h).1
  | .list _ items, h => by
    unfold exprText
    exact .bind (yields_exprTexts _ items h) fun ts hts =>
      .pure (madeOf_square (madeOf_commas hts))
  | .tuple _ items, h => by
    unfold exprText
    exact .bind (yields_exprTexts _ items h) fun ts hts =>
      .pure (madeOf_parensIf (madeOf_tupleItems hts))
  | .slice _ lower upper step, h => by
    unfold exprText
    obtain ⟨h, hstep⟩ := fit_append.mp h
    obtain ⟨hlower, hupper⟩ := fit_append.mp h
    refine .bind (yields_optText lower hlower) fun l hl =>
      .bind (yields_optText upper hupper) fun u hu => ?_
    extract_lets withStep
    have hwith : ∀ s, MadeOf P s → Yields (MadeOf P) (withStep s) := fun s hs =>
      .pure ((hl.append hu.mark).append hs)
    cases step with
    | none => exact .bind (Q := MadeOf P) (.pure .nil) hwith
    | some e =>
      exact .bind (yields_exprText _ e hstep) fun t ht =>
        .bind (Q := MadeOf P) (.pure ht.mark) hwith

/-- An expression that may be missing. -/
theorem yields_optText :
    ∀ o : Option Expr, Fit P (optMentions o) (optFormatted o) → Yields (MadeOf P) (optText false o)
  | none, _ => .pure .nil
  | some e, h => yields_exprText .test e h

/-- The elements of a list. -/
theorem yields_exprTexts (p : Precedence) :
    ∀ es : List Expr, Fit P (mentionsIn es) (formattedIn es) →
      Yields (AllMadeOf P) (exprTexts false p es)
  | [], _ => .pure .nil
  | e :: es, h => by
    unfold exprTexts
    obtain ⟨he, hes⟩ := fit_append.mp h
    exact .bind (yields_exprText p e he) fun t ht =>
      .bind (yields_exprTexts p es hes) fun ts hts => .pure (.cons ht hts)

/-- The operands of a chain of operators. -/
theorem yields_risingTexts (p : Precedence) :
    ∀ es : List Expr, Fit P (mentionsIn es) (formattedIn es) →
      Yields (AllMadeOf P) (risingTexts false p es)
  | [], _ => .pure .nil
  | e :: es, h => by
    unfold risingTexts
    obtain ⟨he, hes⟩ := fit_append.mp h
    exact .bind (yields_exprText p e he) fun t ht =>
      .bind (yields_risingTexts _ es hes) fun ts hts => .pure (.cons ht hts)

/-- The items of a dictionary. -/
theorem yields_dictTexts :
    ∀ items : List (Option Expr × Expr), Fit P (itemMentions items) (itemFormatted items) →
      Yields (AllMadeOf P) (dictTexts false items)
  | [], _ => .pure .nil
  | (none, v) :: items, h => by
    unfold dictTexts
    obtain ⟨h, hitems⟩ := fit_append.mp h
    obtain ⟨-, hv⟩ := fit_append.mp h
    exact .bind (yields_exprText _ v hv) fun t ht =>
      .bind (yields_dictTexts items hitems) fun ts hts => .pure (.cons ht.mark.mark hts)
  | (some k, v) :: items, h => by
    unfold dictTexts
    obtain ⟨h, hitems⟩ := fit_append.mp h
    obtain ⟨hk, hv⟩ := fit_append.mp h
    exact .bind (yields_exprText _ k hk) fun k hk =>
      .bind (yields_exprText _ v hv) fun v hv =>
      .bind (yields_dictTexts items hitems) fun ts hts =>
      .pure (.cons (hk.append hv.mark.mark) hts)

/-- The steps of a comparison. -/
theorem yields_comparisonsText :
    ∀ rest : List (CompareOp × Expr), Fit P (comparedMentions rest) (comparedFormatted rest) →
      Yields (MadeOf P) (comparisonsText false rest)
  | [], _ => .pure .nil
  | (o, e) :: rest, h => by
    unfold comparisonsText
    obtain ⟨he, hrest⟩ := fit_append.mp h
    exact .bind (yields_exprText _ e he) fun t ht =>
      .bind (yields_comparisonsText rest hrest) fun r hr =>
      .pure (((madeOf_compareSign o).mark.append ht.mark).append hr)

/-- The clauses of a comprehension. -/
theorem yields_clausesText :
    ∀ cs : List Clause, Fit P (clauseMentions cs) (clauseFormatted cs) →
      Yields (MadeOf P) (clausesText false cs)
  | [], _ => .pure .nil
  | .mk isAsync target iter conditions :: cs, h => by
    unfold clausesText
    obtain ⟨h, hcs⟩ := fit_append.mp h
    obtain ⟨h, hconditions⟩ := fit_append.mp h
    obtain ⟨htarget, hiter⟩ := fit_append.mp h
    refine .bind (yields_exprText _ target htarget) fun t ht =>
      .bind (yields_exprText _ iter hiter) fun i hi =>
      .bind (yields_conditionsText conditions hconditions) fun c hc =>
      .bind (yields_clausesText cs hcs) fun r hr =>
      .pure (((((MadeOf.append ?_ ht).append madeOf_of).append hi).append hc).append hr)
    cases isAsync <;> exact madeOf_of

/-- The conditions of a clause. -/
theorem yields_conditionsText :
    ∀ es : List Expr, Fit P (mentionsIn es) (formattedIn es) →
      Yields (MadeOf P) (conditionsText false es)
  | [], _ => .pure .nil
  | e :: es, h => by
    unfold conditionsText
    obtain ⟨he, hes⟩ := fit_append.mp h
    exact .bind (yields_exprText _ e he) fun t ht =>
      .bind (yields_conditionsText es hes) fun r hr =>
      .pure ((MadeOf.append madeOf_of ht).append hr)

/-- The keyword arguments of a call. -/
theorem yields_keywordTexts :
    ∀ ks : List Keyword, Fit P (keywordMentions ks) (keywordFormatted ks) →
      Yields (AllMadeOf P) (keywordTexts false ks)
  | [], _ => .pure .nil
  | .mk _ name value :: ks, h => by
    unfold keywordTexts
    obtain ⟨h, hks⟩ := fit_append.mp h
    obtain ⟨hname, hvalue⟩ := fit_names_append.mp h
    refine .bind (yields_exprText _ value hvalue) fun v hv =>
      .bind (yields_keywordTexts ks hks) fun ts hts => .pure (.cons ?_ hts)
    cases name with
    | none => exact hv.mark.mark
    | some n => exact (named_cons.mp hname).1.append hv.mark

/-- A parameter with its annotation and its default. -/
theorem yields_paramText :
    ∀ p : Param, Fit P (paramMentions [p]) (paramFormatted [p]) →
      Yields (MadeOf P) (paramText false p)
  | .mk _ name hint default, h => by
    unfold paramText
    obtain ⟨h, -⟩ := fit_append.mp h
    obtain ⟨h, hdefault⟩ := fit_append.mp h
    obtain ⟨hname, hhint⟩ := fit_cons.mp h
    extract_lets withHint
    have hwith : ∀ t, MadeOf P t → Yields (MadeOf P) (withHint t) := by
      intro t ht
      simp -zeta only [withHint]
      extract_lets withDefault
      have hwith : ∀ d, MadeOf P d → Yields (MadeOf P) (withDefault d) := fun d hd =>
        .pure ((hname.append ht).append hd)
      cases default with
      | none => exact .bind (Q := MadeOf P) (.pure .nil) hwith
      | some e =>
        exact .bind (yields_exprText _ e hdefault) fun d hd =>
          .bind (Q := MadeOf P) (.pure hd.mark) hwith
    cases hint with
    | none => exact .bind (Q := MadeOf P) (.pure .nil) hwith
    | some e =>
      exact .bind (yields_exprText _ e hhint) fun t ht =>
        .bind (Q := MadeOf P) (.pure ht.mark.mark) hwith

/-- Several parameters. -/
theorem yields_paramTexts :
    ∀ ps : List Param, Fit P (paramMentions ps) (paramFormatted ps) →
      Yields (AllMadeOf P) (paramTexts false ps)
  | [], _ => .pure .nil
  | p :: ps, h => by
    unfold paramTexts
    obtain ⟨hp, hps⟩ := fit_param h
    exact .bind (yields_paramText p hp) fun t ht =>
      .bind (yields_paramTexts ps hps) fun ts hts => .pure (.cons ht hts)

/-- **The text of a parameter list**. -/
theorem yields_paramsText :
    ∀ ps : Params, Fit P ps.mentions ps.formatted → Yields (MadeOf P) (paramsText false ps)
  | .mk positionalOnly positional rest keywordOnly restKeywords, h => by
    unfold paramsText
    obtain ⟨h, hrk⟩ := fit_append.mp h
    obtain ⟨h, hko⟩ := fit_append.mp h
    obtain ⟨h, hr⟩ := fit_append.mp h
    obtain ⟨hpo, hps⟩ := fit_append.mp h
    refine .bind (yields_paramTexts positionalOnly hpo) fun po hpo =>
      .bind (yields_paramTexts positional hps) fun ps hps => ?_
    have hsome : ∀ {t : Text}, MadeOf P t → ∀ u ∈ some t, MadeOf P u := fun ht u hu =>
      Option.some.inj hu ▸ ht
    have hnone : ∀ u ∈ (none : Option Text), MadeOf P u := fun _ hu => nomatch hu
    extract_lets withRest
    have hwith : ∀ r : Option Text, (∀ t ∈ r, MadeOf P t) → Yields (MadeOf P) (withRest r) := by
      intro r hr
      simp -zeta only [withRest]
      refine .bind (yields_paramTexts keywordOnly hko) fun ko hko => ?_
      extract_lets withRestKeywords
      have hwith : ∀ rk : Option Text, (∀ t ∈ rk, MadeOf P t) →
          Yields (MadeOf P) (withRestKeywords rk) := fun rk hrk =>
        .pure (madeOf_paramsLayout hpo hps hr hko hrk)
      cases restKeywords with
      | none => exact .bind (.pure hnone) hwith
      | some q =>
        exact .bind (yields_paramText q (fit_optParam hrk)) fun t ht =>
          .bind (.pure (hsome ht)) hwith
    cases rest with
    | none => exact .bind (.pure hnone) hwith
    | some q =>
      exact .bind (yields_paramText q (fit_optParam hr)) fun t ht =>
        .bind (.pure (hsome ht)) hwith

end

end Syntax.Printer
end ApiPage
