import ApiPage.Package.Display
import ApiPage.Proofs.Lexemes
import ApiPage.Proofs.Printed.Expressions
import ApiPage.Proofs.Tables

/-!
# Characters of declarations

A declaration is displayed with plain characters, those of the names that it shows, and those of the
comments of its module.

## Main definitions

* `Declaration.Proper`: a declaration whose statements are of the sort that it is for.
* `Display.signature`: the head of a definition without its decorators and its colon.
* `Comments.MadeOf`: the comments of a module are made of characters with a property.

## Main results

* `Display.yields_signature`: the characters of a signature.
* `Display.yields_stmtText_bodiless`: how a definition is printed without its statements.
* `Display.yields_lines_header`: the lines of its head.
* `yields_display`: if names and comments are made of such characters, so is the declaration.
-/

namespace ApiPage

open Syntax Syntax.Printer

/-! ### Sorts of statements -/

/-- **Sort of a statement**, as far as declarations are made of it. -/
inductive Syntax.StmtSort
  | assignment | type | function | other

/-- The sort of a statement. -/
def Syntax.Stmt.sort : Stmt → StmtSort
  | .assign .. | .annAssign .. => .assignment
  | .classDef .. => .type
  | .function .. => .function
  | _ => .other

/-- **A proper declaration**: its statements are of the sort that it is for. -/
def Declaration.Proper : Declaration → Prop
  | values group _ => ∀ s ∈ group, s.sort = .assignment
  | type cls => cls.sort = .type
  | function fn _ => fn.sort = .function

variable {P : Char → Prop}

/-! ### Lines -/

/-- A piece of a text that is cut holds only characters of the text. -/
theorem subset_of_mem_splitBy {p : Char → Bool} {t l : Text} (h : l ∈ Text.splitBy p t) :
    l ⊆ t := by
  induction t generalizing l with
  | nil => simp_all [Text.splitBy]
  | cons c r ih =>
    unfold Text.splitBy at h
    split at h
    · rcases List.mem_cons.mp h with rfl | h
      · exact List.nil_subset _
      · exact List.subset_cons_of_subset c (ih h)
    · split at h
      · obtain rfl := List.mem_singleton.mp h
        exact List.cons_subset_cons c (List.nil_subset _)
      · next q qs hsplit =>
        rcases List.mem_cons.mp h with rfl | h
        · exact List.cons_subset_cons c (ih (by rw [hsplit]; exact List.mem_cons_self))
        · exact List.subset_cons_of_subset c (ih (by rw [hsplit]; exact List.mem_cons_of_mem q h))

/-- The lines of a text. -/
theorem MadeOf.lines {t : Text} (h : MadeOf P t) : AllMadeOf P (Text.lines t) :=
  fun _ hl => h.subset (subset_of_mem_splitBy hl)

/-- Lines whose last one is extended. -/
theorem allMadeOf_extendLast {t : Text} {ls : List Text} (hls : AllMadeOf P ls)
    (ht : MadeOf P t) : AllMadeOf P (Display.extendLast t ls) := by
  induction ls with
  | nil => exact .nil
  | cons l ls ih =>
    obtain ⟨hl, hls⟩ := List.forall_mem_cons.mp hls
    cases ls with
    | nil => exact .cons (hl.append ht) .nil
    | cons m ls => exact .cons hl (ih hls)

/-! ### Comments -/

/-- **Comments made of characters** with a property. -/
def Comments.MadeOf (P : Char → Prop) (cs : Comments) : Prop :=
  ∀ e ∈ cs.entries, ApiPage.MadeOf P e.2

variable {cs : Comments} (hcs : cs.MadeOf P)

include hcs

/-- A comment at a row. -/
theorem Comments.MadeOf.at? {row : Nat} {t : Text} (h : cs.at? row = some t) :
    ApiPage.MadeOf P t := by
  exact hcs (row, t) (mem_of_lookup h)

/-- The comments above a row. -/
theorem Comments.MadeOf.leading (row : Nat) : AllMadeOf P (cs.leading row) := by
  have habove : ∀ n, AllMadeOf P (cs.above n) := by
    intro n
    fun_induction cs.above n with
    | case1 => exact .nil
    | case2 => exact .nil
    | case3 n t ht _ ih => exact .cons (hcs.at? ht) ih
    | case4 => exact .nil
  exact fun t ht => habove _ t (List.mem_reverse.mp ht)

omit hcs

variable [AdmitsLayout P]

/-- The note of an elision. -/
theorem madeOf_note (n : Elision) : MadeOf P n.note := by
  cases n with
  | bytes n => exact (madeOf_ofNat n).append (madeOf_of (by decide))
  | elements n => exact (madeOf_ofNat n).append (madeOf_of (by decide))

include hcs

/-- What trails a statement, its comment and its notes. -/
theorem madeOf_trailing (s : Stmt) : MadeOf P (Display.trailing cs s) := by
  refine .flatMap fun t ht => .append (madeOf_of (by decide)) ?_
  rcases List.mem_append.mp ht with ht | ht
  · have htrailing := Option.mem_toList.mp ht
    unfold Comments.trailing? at htrailing
    split at htrailing
    · exact hcs.at? htrailing
    · cases htrailing
  · obtain ⟨n, -, rfl⟩ := List.mem_map.mp ht
    exact .append (madeOf_of (by decide)) (madeOf_note n)

omit hcs

/-! ### Statements -/

omit [AdmitsLayout P] in
/-- A word and an expression that may follow it. -/
theorem yields_withText [Admits P] {w : String} (hw : (Text.of w).all isPlain = true)
    {o : Option Expr} (h : Fit P (optMentions o) (optFormatted o)) :
    Yields (MadeOf P) (withText w o) := by
  cases o with
  | none => exact .pure .nil
  | some e => exact .bind (yields_exprText _ e h) fun t ht => .pure (.append (madeOf_of hw) ht)

/-- A line with its indent. -/
theorem madeOf_fill {indent : Nat} {t : Text} (ht : MadeOf P t) : MadeOf P (fill indent t) :=
  (MadeOf.cons AdmitsLayout.newline (madeOf_replicate (by decide))).append ht

/-- Decorators, each on a line. -/
theorem yields_decoratorsText {indent : Nat} {ds : List Expr} (h : Named P (mentionsIn ds)) :
    Yields (MadeOf P) (decoratorsText indent ds) := by
  induction ds with
  | nil => exact .pure .nil
  | cons d ds ih =>
    obtain ⟨hd, hds⟩ := named_append.mp h
    exact .bind (yields_exprText _ d (.of_named hd)) fun t ht => .bind (ih hds) fun ts hts =>
      .pure ((madeOf_fill (ht.mark (by decide))).append hts)

/-- The targets of an assignment, each with its equals sign. -/
theorem yields_targetsText {ts : List Expr} (h : Named P (mentionsIn ts)) :
    Yields (MadeOf P) (targetsText ts) := by
  induction ts with
  | nil => exact .pure .nil
  | cons e es ih =>
    obtain ⟨he, hes⟩ := named_append.mp h
    exact .bind (yields_exprText _ e (.of_named he)) fun t ht => .bind (ih hes) fun ts hts =>
      .pure ((ht.append (madeOf_of (by decide))).append hts)

omit [AdmitsLayout P] in
/-- A statement is printed without an indent. -/
theorem Yields.toText {s : Stmt} (h : Yields (MadeOf P) (stmtText 0 s)) :
    Yields (MadeOf P) s.toText :=
  .bind h fun _ ht => .pure (ht.subset (List.dropWhile_sublist _).subset)

/-- **An assignment** is made of plain characters and those of its names. -/
theorem yields_toText_assignment {s : Stmt} (hs : s.sort = .assignment)
    (h : Named P s.mentions) : Yields (MadeOf P) s.toText := by
  refine Yields.toText ?_
  cases s with
  | assign _ targets value _ =>
    obtain ⟨htargets, hvalue⟩ := named_append.mp h
    unfold stmtText
    exact .bind (yields_targetsText htargets) fun ts hts =>
      .bind (yields_exprText _ value (.of_named hvalue)) fun v hv =>
      .pure (madeOf_fill (hts.append hv))
  | annAssign _ target hint value _ _ =>
    obtain ⟨h, hvalue⟩ := named_append.mp h
    obtain ⟨htarget, hhint⟩ := named_append.mp h
    unfold stmtText
    exact .bind (yields_exprText _ target (.of_named htarget)) fun t ht =>
      .bind (yields_exprText _ hint (.of_named hhint)) fun u hu =>
      .bind (yields_withText (by decide) (.of_named hvalue)) fun v hv =>
      .pure (madeOf_fill ((((madeOf_parensIf ht).append (madeOf_of (by decide))).append
        hu).append hv))
  | _ => cases hs

/-! ### Definitions -/

namespace Display

variable {s : Stmt}

/-- **The signature of a definition**: its words and its name with its parameters or bases. -/
def signature : Stmt → Printed
  | .function _ isAsync name params _ _ returns => do
    let ps ← paramsText false params
    let r ← withText " -> " returns
    return Text.of (if isAsync then "async def " else "def ") ++ name ++ parensIf true ps ++ r
  | .classDef _ name bases keywords _ _ => do
    let bs ← exprTexts false .test bases
    let ks ← keywordTexts false keywords
    return Text.of "class " ++ name ++
      if (bs ++ ks).isEmpty then [] else parensIf true (commas (bs ++ ks))
  | _ => return []

/-- The formatted strings of a signature, but for those inside others. -/
def signatureFormatted : Stmt → List (List Part)
  | .function _ _ _ params _ _ returns => params.formatted ++ optFormatted returns
  | .classDef _ _ bases keywords _ _ => formattedIn bases ++ keywordFormatted keywords
  | _ => []

omit [AdmitsLayout P] in
/-- **A signature** is made of plain characters and those of its names, and of the layout in its
formatted strings. -/
theorem yields_signature [Admits P] (h : Named P s.mentions)
    (hfields : ∀ parts ∈ signatureFormatted s, FieldsFit P parts) :
    Yields (MadeOf P) (signature s) := by
  cases s with
  | function sp isAsync name params body decorators returns =>
    obtain ⟨h, -⟩ := named_append.mp h
    obtain ⟨h, hreturns⟩ := named_append.mp h
    obtain ⟨h, hparams⟩ := named_append.mp h
    obtain ⟨hname, -⟩ := named_cons.mp h
    obtain ⟨hparamFields, hreturnFields⟩ := List.forall_mem_append.mp hfields
    have hword : MadeOf P (Text.of (if isAsync then "async def " else "def ")) := by
      cases isAsync <;> exact madeOf_of (by decide)
    exact .bind (yields_paramsText params ⟨hparams, hparamFields⟩) fun ps hps =>
      .bind (yields_withText (by decide) ⟨hreturns, hreturnFields⟩) fun r hr =>
      .pure (((hword.append hname).append (madeOf_parensIf hps)).append hr)
  | classDef sp name bases keywords body decorators =>
    obtain ⟨h, -⟩ := named_append.mp h
    obtain ⟨h, hkeywords⟩ := named_append.mp h
    obtain ⟨h, hbases⟩ := named_append.mp h
    obtain ⟨hname, -⟩ := named_cons.mp h
    obtain ⟨hbaseFields, hkeywordFields⟩ := List.forall_mem_append.mp hfields
    refine .bind (yields_exprTexts _ bases ⟨hbases, hbaseFields⟩) fun bs hbs =>
      .bind (yields_keywordTexts keywords ⟨hkeywords, hkeywordFields⟩) fun ks hks =>
      .pure (((madeOf_of (by decide)).append hname).append ?_)
    split
    · exact .nil
    · exact madeOf_parensIf (madeOf_commas (hbs.append hks))
  | _ => exact .pure .nil

/-- **A definition without its statements** is printed as its decorators, its signature and a
`pass`. -/
theorem yields_stmtText_bodiless (hs : s.sort = .function ∨ s.sort = .type) :
    Yields (fun u => ∃ ds t, decoratorsText 0 s.decorators = .ok ds ∧ signature s = .ok t ∧
      u = '\n' :: ds ++ '\n' :: (t ++ ':' :: '\n' :: Text.of "    pass"))
      (stmtText 0 (bodiless s)) := by
  have hbody : Yields (fun b => b = '\n' :: Text.of "    pass")
      (bodyText (0 + 1) true [.pass default]) := .pure rfl
  cases s with
  | function sp isAsync name params body decorators returns =>
    unfold bodiless stmtText
    refine .bind (.self _) fun ds hds => .bind (.self _) fun ps hps => .bind (.self _) fun r hr =>
      .bind hbody fun b hb => .pure ?_
    refine ⟨ds, Text.of (if isAsync then "async def " else "def ") ++ name ++ parensIf true ps ++ r,
      hds, ?_, ?_⟩
    · rw [signature, hps]
      dsimp only [bind, Except.bind]
      rw [hr]
      rfl
    · simp [fill, hb]
  | classDef sp name bases keywords body decorators =>
    unfold bodiless stmtText
    refine .bind (.self _) fun ds hds => .bind (.self _) fun bs hbs => .bind (.self _) fun ks hks =>
      .bind hbody fun b hb => .pure ?_
    refine ⟨ds, Text.of "class " ++ name ++
      if (bs ++ ks).isEmpty then [] else parensIf true (commas (bs ++ ks)), hds, ?_, ?_⟩
    · rw [signature, hbs]
      dsimp only [bind, Except.bind]
      rw [hks]
      rfl
    · simp [fill, hb]
  | _ => simp [Stmt.sort] at hs

/-- **The head of a definition** is made of plain characters and those of its names. -/
theorem yields_toText_bodiless (hs : s.sort = .function ∨ s.sort = .type)
    (h : Named P s.mentions) : Yields (MadeOf P) (bodiless s).toText := by
  have hdecorators : Named P (mentionsIn s.decorators) := by
    cases s with
    | function =>
      obtain ⟨h, -⟩ := named_append.mp h
      obtain ⟨h, -⟩ := named_append.mp h
      obtain ⟨h, -⟩ := named_append.mp h
      exact (named_cons.mp h).2
    | classDef =>
      obtain ⟨h, -⟩ := named_append.mp h
      obtain ⟨h, -⟩ := named_append.mp h
      obtain ⟨h, -⟩ := named_append.mp h
      exact (named_cons.mp h).2
    | _ => exact named_nil
  refine Yields.toText fun u hu => ?_
  obtain ⟨ds, t, hds, ht, rfl⟩ := yields_stmtText_bodiless hs u hu
  have hsignature := yields_signature h (fun parts _ => fieldsFit parts) t ht
  have hpass : MadeOf P ('\n' :: Text.of "    pass") :=
    .cons AdmitsLayout.newline (madeOf_of (by decide))
  exact (MadeOf.cons AdmitsLayout.newline (yields_decoratorsText hdecorators ds hds)).append
    (.cons AdmitsLayout.newline (hsignature.append hpass.mark))

omit [AdmitsLayout P] in
/-- The signature of a definition does not begin with a newline. -/
theorem head_of_signature (hs : s.sort = .function ∨ s.sort = .type) :
    Yields (fun t => ∃ c r, t = c :: r ∧ c ≠ '\n') (signature s) := by
  cases s with
  | function sp isAsync =>
    refine .bind (.any _) fun ps _ => .bind (.any _) fun r _ => .pure ?_
    cases isAsync
    · exact ⟨'d', _, rfl, by decide⟩
    · exact ⟨'a', _, rfl, by decide⟩
  | classDef =>
    exact .bind (.any _) fun bs _ => .bind (.any _) fun ks _ => .pure ⟨'c', _, rfl, by decide⟩
  | _ => simp [Stmt.sort] at hs

/-- A newline divides lines, whatever newlines are dropped before it. -/
theorem exists_lines_dropWhile {c : Char} (hc : c ≠ '\n') (r front : Text) :
    ∃ ls, Text.lines ((front ++ '\n' :: c :: r).dropWhile (· == '\n')) =
      ls ++ Text.lines (c :: r) := by
  induction front with
  | nil => exact ⟨[], by simp [hc]⟩
  | cons d front ih =>
    by_cases hd : d = '\n'
    · subst hd
      simpa using ih
    · refine ⟨Text.lines (d :: front), ?_⟩
      rw [List.cons_append, List.dropWhile_cons_of_neg (by simpa using hd), ← List.cons_append,
        Text.lines, Text.splitBy_append rfl]
      rfl

omit [AdmitsLayout P] in
/-- **The lines of a head** end in those of the signature with a colon behind it. -/
theorem yields_lines_header (hs : s.sort = .function ∨ s.sort = .type) :
    Yields (fun ls => ∃ front t, signature s = .ok t ∧ ls = front ++ Text.lines (t ++ [':']))
      (header s) := by
  have hlines : Yields (fun u => ∃ front t, signature s = .ok t ∧
      Text.lines u = front ++ Text.lines (t ++ [':']) ++ [Text.of "    pass"])
      (bodiless s).toText := by
    refine .bind (yields_stmtText_bodiless hs) fun u hu => .pure ?_
    obtain ⟨ds, t, -, ht, rfl⟩ := hu
    obtain ⟨c, r, rfl, hc⟩ := head_of_signature hs t ht
    obtain ⟨front, hfront⟩ :=
      exists_lines_dropWhile hc (r ++ ':' :: '\n' :: Text.of "    pass") ('\n' :: ds)
    have hpass : Text.lines (Text.of "    pass") = [Text.of "    pass"] := by decide
    have hrest : Text.lines (c :: (r ++ ':' :: '\n' :: Text.of "    pass")) =
        Text.lines (c :: r ++ [':']) ++ [Text.of "    pass"] := by
      rw [← hpass, ← List.cons_append, List.append_cons, Text.lines, Text.splitBy_append rfl]
      rfl
    refine ⟨front, c :: r, ht, ?_⟩
    rw [List.append_assoc, ← hrest]
    exact hfront
  refine .bind hlines fun u hu => .pure ?_
  obtain ⟨front, t, ht, hu⟩ := hu
  exact ⟨front, t, ht, by rw [hu, List.dropLast_concat]⟩

/-! ### Declarations -/

/-- The lines of the head of a definition. -/
theorem yields_header (hs : s.sort = .function ∨ s.sort = .type) (h : Named P s.mentions) :
    Yields (AllMadeOf P) (header s) :=
  .bind (yields_toText_bodiless hs h) fun _ ht =>
    .pure fun l hl => ht.lines l (List.dropLast_subset _ hl)

/-- The lines of a definition with an ellipsis for its body. -/
theorem yields_stub (hs : s.sort = .function ∨ s.sort = .type) (h : Named P s.mentions) :
    Yields (AllMadeOf P) (stub s) :=
  .bind (yields_header hs h) fun _ hls => .pure (allMadeOf_extendLast hls (madeOf_of (by decide)))

/-- Lines with an indent more. -/
theorem allMadeOf_indented {ls : List Text} (h : AllMadeOf P ls) : AllMadeOf P (indented ls) := by
  intro t ht
  obtain ⟨l, hl, rfl⟩ := List.mem_map.mp ht
  exact .append (madeOf_of (by decide)) (h l hl)

include hcs

/-- The lines of an assignment, with its comment and its notes. -/
theorem yields_statement (hs : s.sort = .assignment) (h : Named P s.mentions) :
    Yields (AllMadeOf P) (statement cs s) :=
  .bind (yields_toText_assignment hs h) fun _ ht =>
    .pure (allMadeOf_extendLast ht.lines (madeOf_trailing hcs s))

/-- What a class shows of a member. -/
theorem yields_member (isProtocol : Bool) (h : Named P s.mentions) :
    Yields (fun shown => ∀ ls, shown = .lines ls → AllMadeOf P ls) (member cs isProtocol s) := by
  have hlines : ∀ {ms : List Text}, AllMadeOf P ms →
      ∀ ls, Shown.lines ms = .lines ls → AllMadeOf P ls := fun hms ls h => Shown.lines.inj h ▸ hms
  unfold member
  repeat' split
  all_goals first
    | exact .pure fun ls hls => nomatch hls
    | exact .bind (yields_statement hcs rfl h) fun ms hms =>
        .pure (hlines ((hcs.leading _).append hms))
    | exact .bind (yields_stub (.inl rfl) h) fun ms hms =>
        .pure (hlines ((hcs.leading _).append hms))
    | exact .bind (yields_stub (.inr rfl) h) fun ms hms => .pure (hlines hms)

/-- The lines of the members of a class. -/
theorem yields_members (isProtocol : Bool) {ss : List Stmt} (h : Named P (blockMentions ss)) :
    Yields (fun shown => AllMadeOf P shown.1) (members cs isProtocol ss) := by
  induction ss with
  | nil => exact .pure .nil
  | cons s ss ih =>
    obtain ⟨hs, hss⟩ := named_append.mp h
    refine .bind (yields_member hcs isProtocol hs) fun shown hshown =>
      .bind (ih hss) fun (ls, filtered) hls => .pure ?_
    cases shown with
    | lines ms => exact (allMadeOf_indented (hshown ms rfl)).append hls
    | nothing => exact hls
    | filtered => exact hls

/-- The lines of a class: its head, its members or what stands for them. -/
theorem yields_classLines (hs : s.sort = .type) (h : Named P s.mentions) :
    Yields (AllMadeOf P) (classLines cs s) := by
  have hbody : Named P (blockMentions s.body) := by
    cases s with
    | classDef => exact (named_append.mp h).2
    | _ => cases hs
  have hline : ∀ {t : Text}, MadeOf P t → AllMadeOf P [indentation ++ t] := fun ht =>
    .cons (.append (madeOf_of (by decide)) ht) .nil
  have hshown : ∀ {body : List Text}, AllMadeOf P body →
      AllMadeOf P (if body.isEmpty then [indentation ++ Text.of "..."] else body) := by
    intro body hbody
    split
    · exact hline (madeOf_of (by decide))
    · exact hbody
  refine .bind (yields_header (.inr hs) h) fun head hhead =>
    .bind (yields_members hcs s.isProtocol hbody) fun (ls, filtered) hls =>
    .pure (hhead.append (hshown (hls.append ?_)))
  split
  · exact hline (madeOf_of (by decide))
  · exact .nil

/-- The lines of the values of a group behind the first. -/
theorem yields_laterValues {ss : List Stmt} (hss : ∀ s ∈ ss, s.sort = .assignment)
    (h : Named P (blockMentions ss)) : Yields (AllMadeOf P) (laterValues cs ss) := by
  induction ss with
  | nil => exact .pure .nil
  | cons s ss ih =>
    obtain ⟨hs, hrest⟩ := List.forall_mem_cons.mp hss
    obtain ⟨hnamed, hnameds⟩ := named_append.mp h
    exact .bind (yields_statement hcs hs hnamed) fun ls hls =>
      .bind (ih hrest hnameds) fun ms hms => .pure (((hcs.leading _).append hls).append hms)

/-- The lines of a group of values. -/
theorem yields_valueLines {ss : List Stmt} (hss : ∀ s ∈ ss, s.sort = .assignment)
    (h : Named P (blockMentions ss)) : Yields (AllMadeOf P) (valueLines cs ss) := by
  cases ss with
  | nil => exact .pure .nil
  | cons s ss =>
    obtain ⟨hs, hrest⟩ := List.forall_mem_cons.mp hss
    obtain ⟨hnamed, hnameds⟩ := named_append.mp h
    exact .bind (yields_statement hcs hs hnamed) fun ls hls =>
      .bind (yields_laterValues hcs hrest hnameds) fun ms hms => .pure (hls.append hms)

end Display

/-- **The text of a declaration** is made of plain characters, those of its names and those of
comments. -/
theorem yields_display (hcs : cs.MadeOf P) {d : Declaration} (hd : d.Proper)
    (h : Named P (blockMentions d.stmts)) : Yields (MadeOf P) (d.display cs) := by
  have hjoin : ∀ ls, AllMadeOf P ls → Yields (MadeOf P) (pure (Text.joinLines ls) : Printed) :=
    fun _ hls => .pure (.join (.cons AdmitsLayout.newline .nil) hls)
  cases d with
  | function fn _ => exact .bind (Display.yields_stub (.inl hd) (named_append.mp h).1) hjoin
  | type cls => exact .bind (Display.yields_classLines hcs hd (named_append.mp h).1) hjoin
  | values group _ => exact .bind (Display.yields_valueLines hcs hd h) hjoin

end ApiPage
