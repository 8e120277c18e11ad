import ApiPage.Proofs.Printed.Declarations

/-!
# Names of elided declarations

What is left out of a declaration leaves no name behind but the one that stands for an empty set,
and a declaration remains of its sort.

## Main results

* `yields_elide_stmt`: the names of a statement within limits.
* `proper_of_elide`, `named_of_elide`: declarations within limits.
-/

namespace ApiPage

open Syntax Syntax.Printer

variable {P : Char → Prop} [Admits P] (l : Limits)

/-! ### Values -/

/-- A shortened value mentions nothing new. -/
theorem yields_elide_expr (e : Expr) (h : Named P e.mentions) :
    Yields (fun r => Named P r.1.mentions) (e.elide l) := by
  have hsized : ∀ {c : Prop} [Decidable c] {short : Expr} {ns : List Elision},
      Named P short.mentions →
        Yields (ε := EncodingError) (fun r : Expr × List Elision => Named P r.1.mentions)
          (.ok (if c then (short, ns) else (e, []))) := by
    intro c _ short ns hshort
    split
    · exact .pure hshort
    · exact .pure h
  unfold Expr.elide
  extract_lets sized
  split
  · exact .bind (.any _) fun n _ => hsized named_nil
  · exact hsized named_nil
  · exact hsized named_nil
  · exact hsized named_nil
  · have hset : MadeOf P (Text.of "set") := madeOf_of (by decide)
    refine hsized (named_append.mpr ⟨named_append.mpr ⟨named_cons.mpr ⟨hset, ?_⟩, ?_⟩, ?_⟩)
    all_goals exact named_nil
  · exact hsized named_nil
  · exact .pure h

/-- Nor do several values. -/
theorem yields_elideAll (es : List Expr) (h : Named P (mentionsIn es)) :
    Yields (fun r => Named P (mentionsIn r.1)) (elideAll l es) := by
  induction es with
  | nil => exact .pure named_nil
  | cons e es ih =>
    obtain ⟨he, hes⟩ := named_append.mp h
    exact .bind (yields_elide_expr l e he) fun r hr => .bind (ih hes) fun rs hrs =>
      .pure (named_append.mpr ⟨hr, hrs⟩)

/-- Nor does the value of an assignment, unpacked or not. -/
theorem yields_elideAssigned (targets : List Expr) (value : Expr) (h : Named P value.mentions) :
    Yields (fun r => Named P r.1.mentions) (elideAssigned l targets value) := by
  unfold elideAssigned
  split
  · split
    · exact .bind (yields_elideAll l _ h) fun r hr => .pure hr
    · exact yields_elide_expr l _ h
  · exact yields_elide_expr l value h

/-! ### Statements -/

set_option linter.unusedSectionVars false in
mutual

/-- **The names of a statement within limits** are made of such characters too. -/
theorem yields_elide_stmt :
    ∀ s : Stmt, Named P s.mentions → Yields (fun r => Named P r.mentions) (s.elide l)
  | .assign _ targets value _, h => by
    unfold Stmt.elide
    obtain ⟨htargets, hvalue⟩ := named_append.mp h
    exact .bind (yields_elideAssigned l targets value hvalue) fun r hr =>
      .pure (named_append.mpr ⟨htargets, hr⟩)
  | .annAssign _ _ _ none _ _, h => .pure h
  | .annAssign _ _ _ (some value) _ _, h => by
    unfold Stmt.elide
    obtain ⟨h, hvalue⟩ := named_append.mp h
    exact .bind (yields_elide_expr l value hvalue) fun r hr => .pure (named_append.mpr ⟨h, hr⟩)
  | .function _ _ _ _ body _ _, h => by
    unfold Stmt.elide
    obtain ⟨h, hbody⟩ := named_append.mp h
    exact .bind (yields_elideBlock body hbody) fun r hr => .pure (named_append.mpr ⟨h, hr⟩)
  | .classDef _ _ _ _ body _, h => by
    unfold Stmt.elide
    obtain ⟨h, hbody⟩ := named_append.mp h
    exact .bind (yields_elideBlock body hbody) fun r hr => .pure (named_append.mpr ⟨h, hr⟩)
  | .forLoop _ _ _ _ body orElse, h => by
    unfold Stmt.elide
    obtain ⟨h, helse⟩ := named_append.mp h
    obtain ⟨h, hbody⟩ := named_append.mp h
    exact .bind (yields_elideBlock body hbody) fun r hr =>
      .bind (yields_elideBlock orElse helse) fun q hq =>
      .pure (named_append.mpr ⟨named_append.mpr ⟨h, hr⟩, hq⟩)
  | .whileLoop _ _ body orElse, h => by
    unfold Stmt.elide
    obtain ⟨h, helse⟩ := named_append.mp h
    obtain ⟨h, hbody⟩ := named_append.mp h
    exact .bind (yields_elideBlock body hbody) fun r hr =>
      .bind (yields_elideBlock orElse helse) fun q hq =>
      .pure (named_append.mpr ⟨named_append.mpr ⟨h, hr⟩, hq⟩)
  | .cond _ _ body orElse, h => by
    unfold Stmt.elide
    obtain ⟨h, helse⟩ := named_append.mp h
    obtain ⟨h, hbody⟩ := named_append.mp h
    exact .bind (yields_elideBlock body hbody) fun r hr =>
      .bind (yields_elideBlock orElse helse) fun q hq =>
      .pure (named_append.mpr ⟨named_append.mpr ⟨h, hr⟩, hq⟩)
  | .withBlock _ _ _ body, h => by
    unfold Stmt.elide
    obtain ⟨h, hbody⟩ := named_append.mp h
    exact .bind (yields_elideBlock body hbody) fun r hr => .pure (named_append.mpr ⟨h, hr⟩)
  | .matchOn _ _ cases, h => by
    unfold Stmt.elide
    obtain ⟨h, hcases⟩ := named_append.mp h
    exact .bind (yields_elideCases cases hcases) fun r hr => .pure (named_append.mpr ⟨h, hr⟩)
  | .tryBlock _ _ body handlers orElse finalBody, h => by
    unfold Stmt.elide
    obtain ⟨h, hfinal⟩ := named_append.mp h
    obtain ⟨h, helse⟩ := named_append.mp h
    obtain ⟨hbody, hhandlers⟩ := named_append.mp h
    exact .bind (yields_elideBlock body hbody) fun b hb =>
      .bind (yields_elideHandlers handlers hhandlers) fun hs hhs =>
      .bind (yields_elideBlock orElse helse) fun e he =>
      .bind (yields_elideBlock finalBody hfinal) fun f hf =>
      .pure (named_append.mpr ⟨named_append.mpr ⟨named_append.mpr ⟨hb, hhs⟩, he⟩, hf⟩)
  | .ret .., h => .pure h
  | .delete .., h => .pure h
  | .augAssign .., h => .pure h
  | .raise .., h => .pure h
  | .assert .., h => .pure h
  | .importNames .., h => .pure h
  | .importFrom .., h => .pure h
  | .globals .., h => .pure h
  | .nonlocals .., h => .pure h
  | .expr .., h => .pure h
  | .pass _, h => .pure h
  | .breakLoop _, h => .pure h
  | .continueLoop _, h => .pure h

/-- **The statements of a block mention nothing new.** -/
theorem yields_elideBlock :
    ∀ ss : List Stmt, Named P (blockMentions ss) →
      Yields (fun r => Named P (blockMentions r)) (elideBlock l ss)
  | [], h => .pure h
  | s :: ss, h => by
    unfold elideBlock
    obtain ⟨hs, hss⟩ := named_append.mp h
    exact .bind (yields_elide_stmt s hs) fun r hr => .bind (yields_elideBlock ss hss) fun q hq =>
      .pure (named_append.mpr ⟨hr, hq⟩)

/-- Nor do the handlers of a `try`. -/
theorem yields_elideHandlers :
    ∀ hs : List Handler, Named P (handlerMentions hs) →
      Yields (fun r => Named P (handlerMentions r)) (elideHandlers l hs)
  | [], h => .pure h
  | .mk _ _ body :: hs, h => by
    unfold elideHandlers
    obtain ⟨h, hhs⟩ := named_append.mp h
    obtain ⟨htype, hbody⟩ := named_append.mp h
    exact .bind (yields_elideBlock body hbody) fun r hr =>
      .bind (yields_elideHandlers hs hhs) fun q hq =>
      .pure (named_append.mpr ⟨named_append.mpr ⟨htype, hr⟩, hq⟩)

/-- Nor do the cases of a `match`. -/
theorem yields_elideCases :
    ∀ cs : List Case, Named P (caseMentions cs) →
      Yields (fun r => Named P (caseMentions r)) (elideCases l cs)
  | [], h => .pure h
  | .mk _ _ body :: cs, h => by
    unfold elideCases
    obtain ⟨h, hcs⟩ := named_append.mp h
    obtain ⟨hcase, hbody⟩ := named_append.mp h
    exact .bind (yields_elideBlock body hbody) fun r hr =>
      .bind (yields_elideCases cs hcs) fun q hq =>
      .pure (named_append.mpr ⟨named_append.mpr ⟨hcase, hr⟩, hq⟩)

end

omit [Admits P]

/-- **A statement remains of its sort** within limits. -/
theorem yields_sort (s : Stmt) : Yields (fun r => r.sort = s.sort) (s.elide l) := by
  unfold Stmt.elide
  split
  all_goals repeat refine Yields.bind (.any _) fun _ _ => ?_
  all_goals exact .pure rfl

/-! ### Declarations -/

/-- Assignments are still assignments when they are shortened. -/
theorem yields_sort_elideBlock {ss : List Stmt} (h : ∀ s ∈ ss, s.sort = .assignment) :
    Yields (fun r => ∀ s ∈ r, s.sort = .assignment) (elideBlock l ss) := by
  induction ss with
  | nil => exact .pure h
  | cons s ss ih =>
    obtain ⟨hs, hss⟩ := List.forall_mem_cons.mp h
    unfold elideBlock
    exact .bind (yields_sort l s) fun r hr => .bind (ih hss) fun q hq =>
      .pure (List.forall_mem_cons.mpr ⟨hr.trans hs, hq⟩)

variable {l} {d d' : Declaration}

/-- **A proper declaration** is one within limits. -/
theorem proper_of_elide (h : d.elide l = .ok d') (hd : d.Proper) : d'.Proper := by
  refine (?_ : Yields Declaration.Proper (d.elide l)) d' h
  cases d with
  | values group doc => exact .bind (yields_sort_elideBlock l hd) fun _ hr => .pure hr
  | type cls => exact .bind (yields_sort l cls) fun _ hr => .pure (hr.trans hd)
  | function fn receiver => exact .bind (yields_sort l fn) fun _ hr => .pure (hr.trans hd)

/-- **The names of a declaration within limits** are made of such characters too. -/
theorem named_of_elide [Admits P] (h : d.elide l = .ok d') (hd : Named P (blockMentions d.stmts)) :
    Named P (blockMentions d'.stmts) := by
  refine (?_ : Yields (fun r => Named P (blockMentions r.stmts)) (d.elide l)) d' h
  have hone : ∀ {s : Stmt}, Named P s.mentions → Named P (blockMentions [s]) := fun hs =>
    named_append.mpr ⟨hs, named_nil⟩
  cases d with
  | values group doc => exact .bind (yields_elideBlock l group hd) fun _ hr => .pure hr
  | type cls =>
    exact .bind (yields_elide_stmt l cls (named_append.mp hd).1) fun _ hr => .pure (hone hr)
  | function fn receiver =>
    exact .bind (yields_elide_stmt l fn (named_append.mp hd).1) fun _ hr => .pure (hone hr)

end ApiPage
