import Mathlib
import ApiPage.Proofs.Loading
import ApiPage.Proofs.RfcReferences

/-!
# Synopses

A synopsis is a line that begins with what it is a synopsis of. It is the last line of a head, or
the targets of an assignment, so this holds as far as these are printed in one line. All of an
expression is, but for its formatted strings: the newlines in their text are escaped, and those in
their fields are not.

## Main definitions

* `Declaration.opening?`: what the synopsis of a declaration begins with.
* `Declaration.synopsisFormatted`: the formatted strings that a synopsis shows.
* `Syntax.Printer.FieldsInLine`: a formatted string whose fields are printed in one line.

## Main results

* `Display.yields_headLine`: the synopsis of a definition is its signature, if that is one line.
* `Package.exists_target`: what is declared as values has a target.
* `synopsis_opens`: what a synopsis begins with.
* `exists_broken_synopsis`: a format that holds a newline breaks it.
-/

namespace ApiPage

open Syntax Syntax.Printer

/-! ### Lines -/

/-- A character but the newline. -/
abbrev NotNewline (c : Char) : Prop := c ≠ '\n'

instance : Admits NotNewline := ⟨by rintro c hc rfl; exact absurd hc (by decide)⟩

/-- **A formatted string whose fields are printed in one line**. -/
def Syntax.Printer.FieldsInLine (parts : List Part) : Prop :=
  ∀ ps, partPieces parts = .ok ps → ∀ p ∈ ps, p.isText = false → 10 ∉ p.codes

instance (parts : List Part) : Decidable (FieldsInLine parts) :=
  match h : partPieces parts with
  | .error _ => .isTrue fun _ hps => nomatch h.symm.trans hps
  | .ok ps => decidable_of_iff (∀ p ∈ ps, p.isText = false → 10 ∉ p.codes)
      ⟨fun hall _ hps => Except.ok.inj (h.symm.trans hps) ▸ hall, fun hall => hall ps h⟩

/-- Fields that print on one line fit without newlines. -/
theorem fieldsFit_of_inLine {parts : List Part} (h : FieldsInLine parts) :
    FieldsFit NotNewline parts := by
  intro ps hps p hp hfield n hn hlayout
  rcases hlayout with rfl | rfl
  · exact absurd hn (h ps hps p hp hfield)
  · decide

/-! ### Definitions -/

namespace Display

variable {s : Stmt}

/-- The synopsis of a definition: the last line of its head, without the colon. -/
def headLine (s : Stmt) : Printed := do
  let l := (← header s).getLast?.getD []
  return if l.getLast? == some ':' then l.dropLast else l

/-- **The synopsis of a definition** is one line, and its signature if that is one line. -/
theorem yields_headLine (hs : s.sort = .function ∨ s.sort = .type) :
    Yields (fun u => '\n' ∉ u ∧ ∃ t, signature s = .ok t ∧ ('\n' ∉ t → u = t)) (headLine s) := by
  refine .bind (yields_lines_header hs) fun ls hls => .pure ?_
  obtain ⟨front, t, ht, rfl⟩ := hls
  have hne : Text.lines (t ++ [':']) ≠ [] := Text.splitBy_ne_nil _ _
  obtain ⟨l, hl⟩ : ∃ l, (Text.lines (t ++ [':'])).getLast? = some l :=
    ⟨_, List.getLast?_eq_some_getLast hne⟩
  rw [List.getLast?_append_of_ne_nil front hne, hl, Option.getD_some]
  have hline := Text.newline_not_mem_lines (List.mem_of_getLast? hl)
  refine ⟨?_, t, ht, fun hnot => ?_⟩
  · split
    · exact fun hmem => hline (List.dropLast_subset l hmem)
    · exact hline
  · have hone : Text.lines (t ++ [':']) = [t ++ [':']] := by
      refine Text.splitBy_of_forall fun c hc => beq_eq_false_iff_ne.mpr ?_
      rcases List.mem_append.mp hc with hc | hc
      · exact ne_of_mem_of_not_mem hc hnot
      · obtain rfl := List.mem_singleton.mp hc
        decide
    rw [hone] at hl
    obtain rfl := Option.some.inj hl
    simp

end Display

/-! ### Values -/

namespace Display

variable {P : Char → Prop} {es : List Expr}

/-- The texts of targets are made of plain characters and those of their names, and of the layout
in their formatted strings. -/
theorem yields_targetTexts [Admits P] (h : Fit P (mentionsIn es) (formattedIn es)) :
    Yields (AllMadeOf P) (targetTexts es) := by
  induction es with
  | nil => exact .pure .nil
  | cons e es ih =>
    obtain ⟨he, hes⟩ := fit_append.mp h
    exact .bind (yields_exprText _ e he) fun t ht => .bind (ih hes) fun ts hts =>
      .pure (.cons ht hts)

/-- The first of the texts of targets. -/
theorem yields_targetTexts_cons (e : Expr) (es : List Expr) :
    Yields (fun ts => ∃ t us, e.toText = .ok t ∧ ts = t :: us) (targetTexts (e :: es)) :=
  .bind (.self _) fun t ht => .bind (.any _) fun us _ => .pure ⟨t, us, ht, rfl⟩

end Display

/-- Joined texts begin with the first one. -/
theorem isPrefix_join_cons (sep t : Text) (ts : List Text) : t <+: Text.join sep (t :: ts) := by
  cases ts with
  | nil => exact List.prefix_rfl
  | cons u ts =>
    show t <+: t ++ sep ++ Text.join sep (u :: ts)
    rw [List.append_assoc]
    exact List.prefix_append _ _

/-- Methods are functions. -/
theorem ne_values_of_mem_methods {d m : Declaration} (h : m ∈ d.methods) (group : List Stmt)
    (doc : Text) : m ≠ .values group doc := by
  cases d with
  | values | function => cases h
  | type cls =>
    rw [Declaration.methods] at h
    split at h
    · cases h
    · obtain ⟨fn, -, rfl⟩ := List.mem_map.mp h
      rintro ⟨⟩

/-- **What is declared as values** has a first statement, and that has a target. -/
theorem Package.exists_target {path : Text} {cs : Comments} {ss group : List Stmt} {doc : Text}
    (h : .values group doc ∈ (ofStmts path cs ss).allDeclarations) :
    ∃ s rest e es, group = s :: rest ∧ s.targets = e :: es := by
  have hdeclared : .values group doc ∈ (ofStmts path cs ss).declarations := by
    obtain ⟨d, hd, hmem⟩ := List.mem_flatMap.mp h
    rcases List.mem_cons.mp hmem with heq | hmethod
    · exact heq ▸ hd
    · exact absurd rfl (ne_values_of_mem_methods hmethod group doc)
  have hcut := cut_ofStmts path cs ss
  obtain ⟨before, after, hds⟩ := List.append_of_mem hdeclared
  obtain ⟨hne, -⟩ := hcut.exists_piece hds
  obtain ⟨s, rest, rfl⟩ := List.exists_cons_of_ne_nil hne
  have hdocumented : s.isDocumented = true := by
    have hmem : s ∈ ((ofStmts path cs ss).declarations).flatMap Declaration.stmts :=
      List.mem_flatMap.mpr ⟨_, hdeclared, List.mem_cons_self⟩
    rw [hcut.flatMap_stmts] at hmem
    exact (List.mem_filter.mp hmem).2
  have hsort : s.sort = .assignment :=
    (of_mem_allDeclarations h).proper s List.mem_cons_self
  have htargets : s.targets ≠ [] := by
    rintro hnil
    have hvalue : s.isValue = false := by rw [Stmt.isValue, hnil]; rfl
    have hnot : s.isDocumented = false := by
      cases s with
      | assign | annAssign => exact Stmt.isDocumented_eq_false hvalue rfl rfl
      | _ => cases hsort
    rw [hnot] at hdocumented
    cases hdocumented
  obtain ⟨e, es, hes⟩ := List.exists_cons_of_ne_nil htargets
  exact ⟨s, rest, e, es, rfl, hes⟩

/-! ### What a synopsis begins with -/

/-- **What the synopsis of a declaration begins with**: the words and the name of a definition, with
the parenthesis of a function, or the first target of values as it is printed. -/
def Declaration.opening? : Declaration → Option Text
  | function (.function _ isAsync name _ _ _ _) _ =>
    some (Text.of (if isAsync then "async def " else "def ") ++ name ++ ['('])
  | type (.classDef _ name _ _ _ _) => some (Text.of "class " ++ name)
  | values (s :: _) _ => s.targets.head?.bind fun e => e.toText.toOption
  | _ => none

/-- The formatted strings that a synopsis shows, but for those inside others: those of a signature,
or those of the targets and the annotation of the first of some values. -/
def Declaration.synopsisFormatted : Declaration → List (List Part)
  | function fn _ => Display.signatureFormatted fn
  | type cls => Display.signatureFormatted cls
  | values (.annAssign _ target hint _ _ _ :: _) _ => target.formatted ++ hint.formatted
  | values (s :: _) _ => formattedIn s.targets
  | values [] _ => []

section

variable {path source t : Text} {p : Package} {d : Declaration}

/-- The synopsis of a definition opens with its words and its name if it is its signature. -/
theorem yields_opening {s : Stmt} (hd : (∃ r, d = .function s r) ∨ d = .type s)
    (hproper : d.Proper) :
    Yields (fun t => ∃ o, d.opening? = some o ∧ o <+: t) (Display.signature s) := by
  rcases hd with ⟨r, rfl⟩ | rfl
  · cases s with
    | function =>
      refine .bind (.any _) fun ps _ => .bind (.any _) fun u _ => .pure ⟨_, rfl, ?_⟩
      simp [parensIf]
    | _ => cases hproper
  · cases s with
    | classDef =>
      exact .bind (.any _) fun bs _ => .bind (.any _) fun ks _ =>
        .pure ⟨_, rfl, List.prefix_append _ _⟩
    | _ => cases hproper

/-- **The synopsis of a definition** is one line, and it opens with the words and the name if the
fields of the formatted strings that it shows are printed in one line. -/
theorem yields_headLine_opens {s : Stmt} (hd : (∃ r, d = .function s r) ∨ d = .type s)
    (hproper : d.Proper) (hnamed : Named NotNewline s.mentions) :
    Yields (fun t => '\n' ∉ t ∧
      ((∀ parts ∈ Display.signatureFormatted s, FieldsInLine parts) →
        ∃ o, d.opening? = some o ∧ o <+: t)) (Display.headLine s) := by
  have hs : s.sort = .function ∨ s.sort = .type := by
    rcases hd with ⟨r, rfl⟩ | rfl
    · exact .inl hproper
    · exact .inr hproper
  intro t ht
  obtain ⟨hline, u, hu, hsame⟩ := Display.yields_headLine hs t ht
  refine ⟨hline, fun hfields => ?_⟩
  have hplain : '\n' ∉ u := madeOf_ne.mp (Display.yields_signature hnamed
    (fun parts hparts => fieldsFit_of_inLine (hfields parts hparts)) u hu)
  rw [hsame hplain]
  exact yields_opening hd hproper u hu

/-- **The synopsis of values** opens with the first target as it is printed, and it is one line if
the fields of the formatted strings that it shows are printed in one line. -/
theorem opens_of_values {s : Stmt} {rest : List Stmt} {doc : Text} {e : Expr} {es : List Expr}
    (htargets : s.targets = e :: es) (hnamed : Named NotNewline s.mentions)
    (ht : (Declaration.values (s :: rest) doc).synopsis = .ok t) :
    (∃ o, (Declaration.values (s :: rest) doc).opening? = some o ∧ o <+: t) ∧
      ((∀ parts ∈ (Declaration.values (s :: rest) doc).synopsisFormatted, FieldsInLine parts) →
        '\n' ∉ t) := by
  have hdots : MadeOf NotNewline (Text.of " = ...") := madeOf_of (by decide)
  cases s with
  | assign sp targets value elided =>
    obtain rfl : targets = e :: es := htargets
    obtain ⟨ts, hts, ht⟩ := bind_eq_ok.mp ht
    obtain rfl := Except.ok.inj ht
    obtain ⟨o, us, ho, rfl⟩ := Display.yields_targetTexts_cons e es ts hts
    refine ⟨⟨o, ?_, (isPrefix_join_cons _ o us).trans (List.prefix_append _ _)⟩, fun hfields => ?_⟩
    · show e.toText.toOption = some o
      rw [ho]
      rfl
    · have hfit : Fit NotNewline (mentionsIn (e :: es)) (formattedIn (e :: es)) :=
        ⟨(named_append.mp hnamed).1, fun parts h => fieldsFit_of_inLine (hfields parts h)⟩
      have hall := Display.yields_targetTexts hfit _ hts
      exact madeOf_ne.mp ((MadeOf.join (madeOf_of (by decide)) hall).append hdots)
  | annAssign sp target hint value simple elided =>
    obtain ⟨rfl, -⟩ := List.cons.inj htargets
    obtain ⟨o, ho, ht⟩ := bind_eq_ok.mp ht
    obtain ⟨u, hu, ht⟩ := bind_eq_ok.mp ht
    obtain rfl := Except.ok.inj ht
    refine ⟨⟨o, ?_, ?_⟩, fun hfields => ?_⟩
    · show target.toText.toOption = some o
      rw [ho]
      rfl
    · simp
    · obtain ⟨htarget, hhint⟩ := fit_append.mp (⟨(named_append.mp hnamed).1,
        fun parts h => fieldsFit_of_inLine (hfields parts h)⟩ :
          Fit NotNewline (target.mentions ++ hint.mentions) (target.formatted ++ hint.formatted))
      have hvalue : MadeOf NotNewline (if value.isSome then Text.of " = ..." else []) := by
        split
        · exact hdots
        · exact .nil
      exact madeOf_ne.mp ((((yields_exprText _ target htarget o ho).append
        (madeOf_of (by decide))).append (yields_exprText _ hint hhint u hu)).append hvalue)
  | _ => cases htargets

/-- **What a synopsis is**. That of a definition is one line, and that of values begins with the
first target as it is printed. If the fields of the formatted strings that it shows are printed in
one line, a synopsis is one line, and it begins with the words and the name of a definition or with
the first target. -/
theorem synopsis_opens (hp : Package.ofSource path source = .ok p) (hd : d ∈ p.allDeclarations)
    (ht : d.synopsis = .ok t) :
    ((∀ group doc, d ≠ .values group doc) → '\n' ∉ t) ∧
    ((∃ group doc, d = .values group doc) → ∃ o, d.opening? = some o ∧ o <+: t) ∧
    ((∀ parts ∈ d.synopsisFormatted, FieldsInLine parts) →
      '\n' ∉ t ∧ ∃ o, d.opening? = some o ∧ o <+: t) := by
  obtain ⟨ss, cs, hss, -, rfl⟩ := Package.exists_of_ofSource hp
  have hof := Package.of_mem_allDeclarations hd
  have hnamed : Named NotNewline (blockMentions d.stmts) := hof.named (by decide) hss
  cases d with
  | function fn r =>
    obtain ⟨hline, hopens⟩ := yields_headLine_opens (.inl ⟨r, rfl⟩) hof.proper
      (named_append.mp hnamed).1 t ht
    exact ⟨fun _ => hline, by rintro ⟨_, _, ⟨⟩⟩, fun h => ⟨hline, hopens h⟩⟩
  | type cls =>
    obtain ⟨hline, hopens⟩ := yields_headLine_opens (.inr rfl) hof.proper
      (named_append.mp hnamed).1 t ht
    exact ⟨fun _ => hline, by rintro ⟨_, _, ⟨⟩⟩, fun h => ⟨hline, hopens h⟩⟩
  | values group doc =>
    obtain ⟨s, rest, e, es, rfl, htargets⟩ := Package.exists_target hd
    obtain ⟨hopens, hline⟩ := opens_of_values htargets (named_append.mp hnamed).1 ht
    exact ⟨fun h => absurd rfl (h _ _), fun _ => hopens, fun h => ⟨hline h, hopens⟩⟩

/-- A default with a newline in its text, and with a format in its field. -/
def plainDefault : Text := Text.of "async def f(x=f'\x7b1:>2\x7d\\n'): pass\n"

/-- The newline in the text is escaped. -/
theorem synopsis_opens_plainDefault :
    ∃ p d t, Package.ofSource (Text.of "m") plainDefault = .ok p ∧ d ∈ p.allDeclarations ∧
      d.synopsis = .ok t ∧ d.synopsisFormatted ≠ [] ∧
      (∀ parts ∈ d.synopsisFormatted, FieldsInLine parts) ∧
      t = Text.of "async def f(x=f'\x7b1:>2\x7d\\n')" ∧ '\n' ∉ t ∧
      ∃ o, d.opening? = some o ∧ o <+: t := by
  have hcheck : ((Package.ofSource (Text.of "m") plainDefault).toOption.bind fun p =>
      p.allDeclarations.find? fun d =>
        decide (d.synopsis.toOption = some (Text.of "async def f(x=f'\x7b1:>2\x7d\\n')")) &&
          !d.synopsisFormatted.isEmpty &&
          decide (∀ parts ∈ d.synopsisFormatted, FieldsInLine parts)).isSome = true := by
    decide +kernel
  obtain ⟨d, hd⟩ := Option.isSome_iff_exists.mp hcheck
  obtain ⟨p, hp, hfind⟩ := Option.bind_eq_some_iff.mp hd
  replace hp := eq_ok_of_toOption hp
  have hmem := List.mem_of_find?_eq_some hfind
  have hall := List.find?_some hfind
  simp only [Bool.and_eq_true, decide_eq_true_eq, Bool.not_eq_true', List.isEmpty_eq_false_iff]
    at hall
  obtain ⟨⟨ht, hsome⟩, hfields⟩ := hall
  replace ht := eq_ok_of_toOption ht
  obtain ⟨-, -, hopens⟩ := synopsis_opens hp hmem ht
  exact ⟨p, d, _, hp, hmem, ht, hsome, hfields, rfl, hopens hfields⟩

/-- A default with a newline in the format of a field. -/
def brokenDefault : Text := Text.of "def f(x=f'\x7b1:\\n\x7d'):\n    pass\n"

/-- **A synopsis without the name**: the default is printed over two lines, and the second of them
is the last of the head. -/
theorem exists_broken_synopsis :
    ∃ p d t o, Package.ofSource (Text.of "m") brokenDefault = .ok p ∧ d ∈ p.allDeclarations ∧
      d.synopsis = .ok t ∧ t = Text.of "\x7d\"\"\")" ∧ d.opening? = some o ∧
      o = Text.of "def f(" ∧ ¬ o <+: t := by
  have hcheck : ((Package.ofSource (Text.of "m") brokenDefault).toOption.bind fun p =>
      p.allDeclarations.find? fun d =>
        decide (d.synopsis.toOption = some (Text.of "\x7d\"\"\")")) &&
          decide (d.opening? = some (Text.of "def f("))).isSome = true := by
    decide +kernel
  obtain ⟨d, hd⟩ := Option.isSome_iff_exists.mp hcheck
  obtain ⟨p, hp, hfind⟩ := Option.bind_eq_some_iff.mp hd
  have hboth := List.find?_some hfind
  simp only [Bool.and_eq_true, decide_eq_true_eq] at hboth
  exact ⟨p, d, _, _, eq_ok_of_toOption hp, List.mem_of_find?_eq_some hfind,
    eq_ok_of_toOption hboth.1, rfl, hboth.2, rfl, by decide⟩

end

end ApiPage
