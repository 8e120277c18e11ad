import Mathlib
import ApiPage.Proofs.Displayed
import ApiPage.Proofs.Identified

/-!
# Outlines of declarations

What a declaration is displayed for. Its *outline* is what is left of its statements without their
places, without the bodies of functions, and without the members of a class that are no public
fields. The text of a declaration shows it if it has the same outline.

## Main definitions

* `Expr.bare`: an expression without its places.
* `Stmt.outline`: what is displayed of a statement.
* `Declaration.ShownBy`: statements with the outline of a declaration.

## Main results

* `inOrder_display`: after its head a declaration displays its values one after another, each as it
  is printed, but those of a class with an indentation after every newline; a value that prints on
  one line has a line of its own.
* `not_shownBy_splitFormat`: the indentation may change a value.
-/

namespace ApiPage

open Syntax
open Syntax.Printer (PrintError)

/-! ### Trees without places -/

namespace Syntax

mutual

/-- **An expression without its places**. -/
def Expr.bare : Expr → Expr
  | .boolOp _ o values => .boolOp default o (bareAll values)
  | .named _ target value => .named default target.bare value.bare
  | .binary _ left o right => .binary default left.bare o right.bare
  | .unary _ o operand => .unary default o operand.bare
  | .lambda _ params body => .lambda default params.bare body.bare
  | .conditional _ test body orElse => .conditional default test.bare body.bare orElse.bare
  | .dict _ items => .dict default (bareItems items)
  | .set _ items => .set default (bareAll items)
  | .listComp _ item clauses => .listComp default item.bare (bareClauses clauses)
  | .setComp _ item clauses => .setComp default item.bare (bareClauses clauses)
  | .dictComp _ key value clauses => .dictComp default key.bare value.bare (bareClauses clauses)
  | .generator _ item clauses => .generator default item.bare (bareClauses clauses)
  | .await _ value => .await default value.bare
  | .yield _ value => .yield default (bareOpt value)
  | .yieldFrom _ value => .yieldFrom default value.bare
  | .compare _ left rest => .compare default left.bare (bareCompared rest)
  | .call _ func args keywords => .call default func.bare (bareAll args) (bareKeywords keywords)
  | .joined _ parts => .joined default (bareParts parts)
  | .constant _ value => .constant default value
  | .attr _ value member => .attr default value.bare member
  | .subscript _ value index => .subscript default value.bare index.bare
  | .starred _ value => .starred default value.bare
  | .name _ id usage => .name default id usage
  | .list _ items => .list default (bareAll items)
  | .tuple _ items => .tuple default (bareAll items)
  | .slice _ lower upper step => .slice default (bareOpt lower) (bareOpt upper) (bareOpt step)

/-- An expression that may be missing. -/
def bareOpt : Option Expr → Option Expr
  | none => none
  | some e => some e.bare

/-- Expressions one by one. -/
def bareAll : List Expr → List Expr
  | [] => []
  | e :: es => e.bare :: bareAll es

/-- The items of a mapping. -/
def bareItems : List (Option Expr × Expr) → List (Option Expr × Expr)
  | [] => []
  | (k, v) :: items => (bareOpt k, v.bare) :: bareItems items

/-- The operands of comparisons. -/
def bareCompared : List (CompareOp × Expr) → List (CompareOp × Expr)
  | [] => []
  | (o, e) :: rest => (o, e.bare) :: bareCompared rest

/-- The clauses of a comprehension. -/
def bareClauses : List Clause → List Clause
  | [] => []
  | .mk isAsync target iter conditions :: cs =>
    .mk isAsync target.bare iter.bare (bareAll conditions) :: bareClauses cs

/-- Arguments by name. -/
def bareKeywords : List Keyword → List Keyword
  | [] => []
  | .mk _ name value :: ks => .mk default name value.bare :: bareKeywords ks

/-- The parts of a formatted string. -/
def bareParts : List Part → List Part
  | [] => []
  | .text codes :: ps => .text codes :: bareParts ps
  | .field value conversion none :: ps => .field value.bare conversion none :: bareParts ps
  | .field value conversion (some format) :: ps =>
    .field value.bare conversion (some (bareParts format)) :: bareParts ps

/-- Parameters. -/
def bareParams : List Param → List Param
  | [] => []
  | .mk _ name hint value :: ps => .mk default name (bareOpt hint) (bareOpt value) :: bareParams ps

/-- A parameter that may be missing. -/
def bareParam : Option Param → Option Param
  | none => none
  | some (.mk _ name hint value) => some (.mk default name (bareOpt hint) (bareOpt value))

/-- A parameter list. -/
def Params.bare : Params → Params
  | .mk positionalOnly positional rest keywordOnly restKeywords =>
    .mk (bareParams positionalOnly) (bareParams positional) (bareParam rest)
      (bareParams keywordOnly) (bareParam restKeywords)

end

end Syntax

/-! ### Outlines -/

/-- What is displayed of an assignment: its targets, its type and its value. -/
def Syntax.Stmt.assignment : Stmt → Stmt
  | .assign _ targets value _ => .assign default (bareAll targets) value.bare []
  | .annAssign _ target hint value simple _ =>
    .annAssign default target.bare hint.bare (bareOpt value) simple []
  | s => s

/-- **What is displayed of a statement**: of a function its head, of a class its head and its public
fields. -/
def Syntax.Stmt.outline : Stmt → Stmt
  | .function _ isAsync name params _ decorators returns =>
    .function default isAsync name params.bare [] (bareAll decorators) (bareOpt returns)
  | .classDef _ name bases keywords body decorators =>
    .classDef default name (bareAll bases) (bareKeywords keywords)
      ((body.filter Display.isPublicValue).map Stmt.assignment) (bareAll decorators)
  | s => s.assignment

/-- **Statements that show a declaration**: what is displayed of them is what is displayed of it. -/
def Declaration.ShownBy (d : Declaration) (ss : List Stmt) : Prop :=
  ss.map Stmt.outline = d.stmts.map Stmt.outline

/-! ### Values in their order -/

/-- **Texts one after another** inside a text. -/
inductive InOrder : List Text → Text → Prop
  | nil (t : Text) : InOrder [] t
  | cons (before : Text) {u : Text} {us : List Text} {after : Text} (h : InOrder us after) :
    InOrder (u :: us) (before ++ u ++ after)

namespace InOrder

variable {us : List Text} {t : Text}

/-- A text before the one they are in. -/
theorem prepend (h : InOrder us t) (before : Text) : InOrder us (before ++ t) := by
  cases h with
  | nil => exact .nil _
  | cons b h =>
    rw [← List.append_assoc, ← List.append_assoc]
    exact .cons _ h

/-- A text behind the one they are in. -/
theorem append (h : InOrder us t) (after : Text) : InOrder us (t ++ after) := by
  induction h with
  | nil => exact .nil _
  | cons b _ ih =>
    rw [List.append_assoc]
    exact .cons b ih

end InOrder

/-- Lines after lines. -/
theorem exists_joinLines_append (ls ms : List Text) :
    ∃ sep, Text.joinLines (ls ++ ms) = Text.joinLines ls ++ sep ++ Text.joinLines ms := by
  induction ls with
  | nil => exact ⟨[], rfl⟩
  | cons l ls ih =>
    by_cases hls : ls = []
    · subst hls
      by_cases hms : ms = []
      · exact ⟨[], by simp [hms, Text.joinLines, Text.join]⟩
      · exact ⟨['\n'], (Text.joinLines_cons l hms).trans (List.append_cons l '\n' _)⟩
    · obtain ⟨sep, hsep⟩ := ih
      refine ⟨sep, ?_⟩
      rw [List.cons_append, Text.joinLines_cons l (List.append_ne_nil_of_left_ne_nil hls ms),
        Text.joinLines_cons l hls, hsep]
      simp only [List.append_assoc, List.cons_append]

namespace Display

/-- **A text with a margin** after every newline. -/
def deepened (margin t : Text) : Text := t.flatMap fun c => if c = '\n' then '\n' :: margin else [c]

/-- Without a margin lines stay. -/
theorem deepened_nil : deepened [] = id := by
  have hsame : ∀ c : Char, (if c = '\n' then ['\n'] else [c]) = [c] := fun c => by
    split
    · next hc => rw [hc]
    · rfl
  funext t
  simp only [deepened, hsame, List.flatMap_singleton', id]

/-- The lines of a text, each after a margin. -/
theorem joinLines_map_lines (margin t : Text) :
    Text.joinLines ((Text.lines t).map (margin ++ ·)) = margin ++ deepened margin t := by
  induction t with
  | nil => rfl
  | cons c t ih =>
    by_cases hc : c = '\n'
    · subst hc
      have hrest : (Text.lines t).map (margin ++ ·) ≠ [] :=
        mt List.map_eq_nil_iff.mp (Text.splitBy_ne_nil _ t)
      rw [Text.lines_newline, List.map_cons, Text.joinLines_cons _ hrest, ih, List.append_nil]
      rfl
    · obtain ⟨q, qs, hq, hcq⟩ := Text.lines_cons hc t
      rw [hq] at ih
      rw [hcq]
      have hdeep : deepened margin (c :: t) = c :: deepened margin t := by simp [deepened, hc]
      rw [hdeep]
      cases qs with
      | nil =>
        have hq : q = deepened margin t := List.append_cancel_left ih
        rw [← hq]
        rfl
      | cons r qs =>
        rw [List.map_cons, Text.joinLines_cons _ (by simp)] at ih ⊢
        rw [List.append_assoc] at ih
        rw [← List.append_cancel_left ih]
        simp only [List.cons_append, List.append_assoc]

/-- A margin before lines whose last one is extended. -/
theorem map_extendLast (margin t : Text) (ls : List Text) :
    (extendLast t ls).map (margin ++ ·) = extendLast t (ls.map (margin ++ ·)) := by
  fun_induction extendLast t ls with
  | case1 => rfl
  | case2 l => simp [extendLast]
  | case3 l ls hls ih =>
    rw [List.map_cons, ih]
    cases ls with
    | nil => exact absurd rfl hls
    | cons m ls => rfl

/-- There is still a line when the last one is extended. -/
theorem extendLast_ne_nil (t : Text) {ls : List Text} (h : ls ≠ []) : extendLast t ls ≠ [] := by
  fun_cases extendLast t ls <;> simp_all

/-- An extended last line extends the text. -/
theorem joinLines_extendLast (t : Text) {ls : List Text} (h : ls ≠ []) :
    Text.joinLines (extendLast t ls) = Text.joinLines ls ++ t := by
  fun_induction extendLast t ls with
  | case1 => exact absurd rfl h
  | case2 l => rfl
  | case3 l ls hls ih =>
    rw [Text.joinLines_cons _ (extendLast_ne_nil t hls), Text.joinLines_cons _ hls, ih hls]
    simp only [List.append_assoc, List.cons_append]

/-- Lines with the last one extended begin with what they were. -/
theorem exists_joinLines_extendLast (t : Text) (ls : List Text) :
    ∃ rest, Text.joinLines (extendLast t ls) = Text.joinLines ls ++ rest := by
  by_cases hls : ls = []
  · exact ⟨[], by rw [hls]; rfl⟩
  · exact ⟨t, joinLines_extendLast t hls⟩

variable {cs : Comments} {margin : Text} {s : Stmt} {ss : List Stmt} {ls : List Text}

/-- A text without a newline is one line. -/
theorem lines_of_not_mem {t : Text} (h : '\n' ∉ t) : Text.lines t = [t] := by
  induction t with
  | nil => rfl
  | cons c t ih =>
    obtain ⟨hc, ht⟩ := not_or.mp (mt List.mem_cons.mpr h)
    obtain ⟨q, qs, hq, hcq⟩ := Text.lines_cons (Ne.symm hc) t
    rw [ih ht] at hq
    obtain ⟨rfl, rfl⟩ := List.cons.inj hq
    exact hcq

/-- **The lines of values that print on one line**: behind the margin stands the text as it is
printed, and behind that nothing but the comment of the statement and its notes. -/
def oneLiners (cs : Comments) (margin : Text) (ss : List Stmt) (us : List Text) : List Text :=
  ((ss.zip us).filter fun x => !x.2.contains '\n').map fun x => margin ++ (x.2 ++ trailing cs x.1)

/-- **Statements laid out** in lines one after another, each as it is printed but for a margin; and
those that print on one line are each a line of their own. -/
structure Laid (cs : Comments) (margin : Text) (ss : List Stmt) (us ls : List Text) : Prop where
  printed : List.Forall₂ (fun s u => s.toText = .ok u) ss us
  inOrder : InOrder (us.map (deepened margin)) (Text.joinLines ls)
  oneLiners : (oneLiners cs margin ss us).Sublist ls

namespace Laid

variable {us : List Text}

/-- No statements are laid out in any lines. -/
theorem nil : Laid cs margin [] [] ls := ⟨.nil, .nil _, List.nil_sublist ls⟩

/-- Lines before them. -/
theorem prepend (h : Laid cs margin ss us ls) (ms : List Text) :
    Laid cs margin ss us (ms ++ ls) where
  printed := h.printed
  inOrder := by
    obtain ⟨sep, hsep⟩ := exists_joinLines_append ms ls
    exact hsep ▸ h.inOrder.prepend _
  oneLiners := h.oneLiners.trans (List.sublist_append_right ms ls)

/-- Lines after them. -/
theorem append (h : Laid cs margin ss us ls) (ms : List Text) :
    Laid cs margin ss us (ls ++ ms) where
  printed := h.printed
  inOrder := by
    obtain ⟨sep, hsep⟩ := exists_joinLines_append ls ms
    rw [List.append_assoc] at hsep
    exact hsep ▸ h.inOrder.append _
  oneLiners := h.oneLiners.trans (List.sublist_append_left ls ms)

/-- The lines of one more statement: it is in them, and if it prints on one line it is all of them.
-/
theorem lines_statement (margin : Text) (ls : List Text) {ms : List Text}
    (hs : statement cs s = .ok ms) :
    ∃ u, s.toText = .ok u ∧
      (∃ rest, Text.joinLines (ms.map (margin ++ ·) ++ ls) =
        margin ++ deepened margin u ++ (rest ++ Text.joinLines ls)) ∧
      ('\n' ∉ u → ms = [u ++ trailing cs s]) := by
  obtain ⟨u, hu, hms⟩ := bind_eq_ok.mp hs
  obtain rfl := Except.ok.inj hms
  refine ⟨u, hu, ?_, fun hone => by rw [lines_of_not_mem hone, extendLast]⟩
  obtain ⟨sep, hsep⟩ := exists_joinLines_append
    ((extendLast (trailing cs s) (Text.lines u)).map (margin ++ ·)) ls
  have hlines : (Text.lines u).map (margin ++ ·) ≠ [] :=
    mt List.map_eq_nil_iff.mp (Text.splitBy_ne_nil _ u)
  rw [map_extendLast, joinLines_extendLast _ hlines, joinLines_map_lines] at hsep
  exact ⟨trailing cs s ++ sep, by rw [map_extendLast, hsep]; simp only [List.append_assoc]⟩

/-- One more statement before them. -/
theorem cons (h : Laid cs margin ss us ls) {ms : List Text} (hs : statement cs s = .ok ms) :
    ∃ u, Laid cs margin (s :: ss) (u :: us) (ms.map (margin ++ ·) ++ ls) := by
  obtain ⟨u, hu, ⟨rest, hjoin⟩, hone⟩ := lines_statement margin ls hs
  refine ⟨u, .cons hu h.printed, ?_, ?_⟩
  · rw [hjoin]
    exact .cons margin (h.inOrder.prepend rest)
  · rw [Display.oneLiners, List.zip_cons_cons]
    by_cases hnewline : '\n' ∈ u
    · rw [List.filter_cons_of_neg (by simpa using hnewline)]
      exact h.oneLiners.trans (List.sublist_append_right _ ls)
    · rw [List.filter_cons_of_pos (by simpa using hnewline), List.map_cons, hone hnewline]
      exact h.oneLiners.cons_cons _

end Laid

/-! ### Groups of values and classes -/

/-- The values of a group after the first are laid out. -/
theorem laid_laterValues (h : laterValues cs ss = .ok ls) : ∃ us, Laid cs [] ss us ls := by
  induction ss generalizing ls with
  | nil => exact ⟨[], .nil⟩
  | cons s ss ih =>
    obtain ⟨ms, hms, h⟩ := bind_eq_ok.mp h
    obtain ⟨later, hlater, h⟩ := bind_eq_ok.mp h
    obtain rfl := Except.ok.inj h
    obtain ⟨us, hus⟩ := ih hlater
    obtain ⟨u, hu⟩ := hus.cons hms
    refine ⟨u :: us, ?_⟩
    rw [List.append_assoc]
    simpa using hu.prepend (cs.leading s.row)

/-- The values of a group are laid out. -/
theorem laid_valueLines (h : valueLines cs ss = .ok ls) : ∃ us, Laid cs [] ss us ls := by
  cases ss with
  | nil => exact ⟨[], .nil⟩
  | cons s ss =>
    obtain ⟨ms, hms, h⟩ := bind_eq_ok.mp h
    obtain ⟨later, hlater, h⟩ := bind_eq_ok.mp h
    obtain rfl := Except.ok.inj h
    obtain ⟨us, hus⟩ := laid_laterValues hlater
    obtain ⟨u, hu⟩ := hus.cons hms
    exact ⟨u :: us, by simpa using hu⟩

/-- A public field is shown with the comments above it. -/
theorem exists_of_member {isProtocol : Bool} {shown : Shown} (hs : isPublicValue s = true)
    (h : member cs isProtocol s = .ok shown) :
    ∃ ms, statement cs s = .ok ms ∧ shown = .lines (cs.leading s.row ++ ms) := by
  cases s with
  | assign | annAssign =>
    simp only [member, hs, if_true] at h
    obtain ⟨ms, hms, h⟩ := bind_eq_ok.mp h
    exact ⟨ms, hms, (Except.ok.inj h).symm⟩
  | _ => cases hs

/-- The public fields of a class are laid out. -/
theorem laid_members {isProtocol filtered : Bool}
    (h : members cs isProtocol ss = .ok (ls, filtered)) :
    ∃ us, Laid cs indentation (ss.filter isPublicValue) us ls := by
  induction ss generalizing ls filtered with
  | nil => exact ⟨[], .nil⟩
  | cons s ss ih =>
    obtain ⟨shown, hshown, h⟩ := bind_eq_ok.mp h
    obtain ⟨⟨later, filtered'⟩, hlater, h⟩ := bind_eq_ok.mp h
    obtain ⟨us, hrest⟩ := ih hlater
    cases hs : isPublicValue s with
    | true =>
      obtain ⟨ms, hms, rfl⟩ := exists_of_member hs hshown
      obtain ⟨rfl, -⟩ := Prod.mk.inj (Except.ok.inj h)
      obtain ⟨u, hu⟩ := hrest.cons hms
      refine ⟨u :: us, ?_⟩
      rw [List.filter_cons_of_pos hs, indented, List.map_append, List.append_assoc]
      exact hu.prepend _
    | false =>
      refine ⟨us, ?_⟩
      rw [List.filter_cons_of_neg (by simp [hs])]
      cases shown with
      | lines ms =>
        obtain ⟨rfl, -⟩ := Prod.mk.inj (Except.ok.inj h)
        exact hrest.prepend _
      | nothing | filtered =>
        obtain ⟨rfl, -⟩ := Prod.mk.inj (Except.ok.inj h)
        exact hrest

end Display

/-- The values that a declaration displays: those of a group, or the public fields of a class. -/
def Declaration.shownValues : Declaration → List Stmt
  | values group _ => group
  | type cls => cls.body.filter Display.isPublicValue
  | function .. => []

/-- The margin of the values of a declaration. -/
def Declaration.margin : Declaration → Text
  | type _ => Display.indentation
  | _ => []

/-- The lines of a declaration before its body. Values have none. -/
def Declaration.head : Declaration → Except PrintError (List Text)
  | function fn _ => Display.header fn
  | type cls => Display.header cls
  | values .. => .ok []

/-- **A declaration is displayed as its head and its values in their order**, each as it is printed,
with the margin after every newline. So a value that prints on one line is displayed as it is
printed, on a line of its own, with nothing else on it but the margin, the comment of the statement
and its notes. -/
theorem inOrder_display {cs : Comments} {d : Declaration} {t : Text} (h : d.display cs = .ok t) :
    ∃ head us rest ls, d.head = .ok head ∧ t = Text.joinLines head ++ rest ∧
      List.Forall₂ (fun s u => s.toText = .ok u) d.shownValues us ∧
      InOrder (us.map (Display.deepened d.margin)) rest ∧
      t = Text.joinLines ls ∧ (Display.oneLiners cs d.margin d.shownValues us).Sublist ls := by
  cases d with
  | function fn _ =>
    obtain ⟨ls, hls, h⟩ := bind_eq_ok.mp h
    obtain ⟨head, hhead, hhls⟩ := bind_eq_ok.mp hls
    obtain rfl := Except.ok.inj hhls
    obtain ⟨rest, hrest⟩ := Display.exists_joinLines_extendLast (Text.of " ...") head
    exact ⟨head, [], rest, _, hhead, (Except.ok.inj h).symm.trans hrest, .nil, .nil rest,
      (Except.ok.inj h).symm, List.nil_sublist _⟩
  | values group _ =>
    obtain ⟨ls, hls, h⟩ := bind_eq_ok.mp h
    obtain ⟨us, hlaid⟩ := Display.laid_valueLines hls
    exact ⟨[], us, t, ls, rfl, rfl, hlaid.printed, Except.ok.inj h ▸ hlaid.inOrder,
      (Except.ok.inj h).symm, hlaid.oneLiners⟩
  | type cls =>
    obtain ⟨ls, hls, h⟩ := bind_eq_ok.mp h
    obtain ⟨head, hhead, hls⟩ := bind_eq_ok.mp hls
    obtain ⟨⟨body, filtered⟩, hbody, hls⟩ := bind_eq_ok.mp hls
    obtain rfl := Except.ok.inj hls
    obtain ⟨us, hmembers⟩ := Display.laid_members hbody
    have hlaid := hmembers.append
      (if filtered then [Display.indentation ++ Display.filteredNote] else [])
    generalize body ++ (if filtered then [Display.indentation ++ Display.filteredNote] else []) =
      shown at hlaid h
    obtain ⟨lines, hlines, hlaid⟩ : ∃ lines, t = Text.joinLines (head ++ lines) ∧
        Display.Laid cs Display.indentation (cls.body.filter Display.isPublicValue) us lines := by
      cases shown with
      | nil => exact ⟨_, (Except.ok.inj h).symm, hlaid.prepend [_]⟩
      | cons l ls => exact ⟨_, (Except.ok.inj h).symm, hlaid⟩
    obtain ⟨sep, hsep⟩ := exists_joinLines_append head lines
    rw [List.append_assoc] at hsep
    exact ⟨head, us, _, head ++ lines, hhead, hlines.trans hsep, hlaid.printed,
      hlaid.inOrder.prepend sep, hlines, (hlaid.prepend head).oneLiners⟩

/-! ### A format that spans lines -/

/-- A field that is a formatted string, with a newline in a format. -/
def splitFormat : Text := Text.of "class C:\n    x = f'\x7b1:\\n\x7d'\n"

/-- **The class is displayed**, and what is read back is printed in another way. -/
theorem exists_splitFormat :
    ∃ p d t ss, Package.ofSource (Text.of "m") splitFormat = .ok p ∧ d ∈ p.allDeclarations ∧
      d.display p.comments = .ok t ∧ parseModule t = .ok ss ∧
      (ss.map Stmt.outline).map (fun s => s.toText.toOption) ≠
        (d.stmts.map Stmt.outline).map fun s => s.toText.toOption := by
  have hcheck : ((Package.ofSource (Text.of "m") splitFormat).toOption.bind fun p =>
      p.allDeclarations.head?.bind fun d => (d.display p.comments).toOption.bind fun t =>
      (parseModule t).toOption.bind fun ss =>
      if (ss.map Stmt.outline).map (fun s => s.toText.toOption) =
          (d.stmts.map Stmt.outline).map fun s => s.toText.toOption
        then none else some ()).isSome = true := by
    decide +kernel
  obtain ⟨_, hdiffer⟩ := Option.isSome_iff_exists.mp hcheck
  obtain ⟨p, hp, hdiffer⟩ := Option.bind_eq_some_iff.mp hdiffer
  obtain ⟨d, hd, hdiffer⟩ := Option.bind_eq_some_iff.mp hdiffer
  obtain ⟨t, ht, hdiffer⟩ := Option.bind_eq_some_iff.mp hdiffer
  obtain ⟨ss, hss, hdiffer⟩ := Option.bind_eq_some_iff.mp hdiffer
  refine ⟨p, d, t, ss, eq_ok_of_toOption hp, List.mem_of_mem_head? hd, eq_ok_of_toOption ht,
    eq_ok_of_toOption hss, fun hsame => ?_⟩
  rw [if_pos hsame] at hdiffer
  cases hdiffer

/-- The value of this class does not print on one line. -/
theorem inOrder_display_splitFormat :
    ∃ p d t, Package.ofSource (Text.of "m") splitFormat = .ok p ∧ d ∈ p.allDeclarations ∧
      d.display p.comments = .ok t ∧
      ∃ head us rest ls, d.head = .ok head ∧ t = Text.joinLines head ++ rest ∧
        List.Forall₂ (fun s u => s.toText = .ok u) d.shownValues us ∧
        InOrder (us.map (Display.deepened d.margin)) rest ∧
        t = Text.joinLines ls ∧
          (Display.oneLiners p.comments d.margin d.shownValues us).Sublist ls := by
  obtain ⟨p, d, t, ss, hp, hd, ht, -⟩ := exists_splitFormat
  exact ⟨p, d, t, hp, hd, ht, inOrder_display ht⟩

/-- **A value that is displayed as another**: its text spans lines, and the second of them is
indented. -/
theorem not_shownBy_splitFormat :
    ∃ p d t ss, Package.ofSource (Text.of "m") splitFormat = .ok p ∧ d ∈ p.allDeclarations ∧
      d.display p.comments = .ok t ∧ parseModule t = .ok ss ∧ ¬ d.ShownBy ss := by
  obtain ⟨p, d, t, ss, hp, hd, ht, hss, hdiffer⟩ := exists_splitFormat
  exact ⟨p, d, t, ss, hp, hd, ht, hss, fun hshown => hdiffer (congrArg _ hshown)⟩

end ApiPage
