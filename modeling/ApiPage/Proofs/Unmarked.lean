import ApiPage.Proofs.Displayed
import ApiPage.Proofs.Identified

/-!
# What options leave alone

Options of a page say which anchors are marked in a declaration and whether names in comments are
linked. A declaration is read back without the spans of anchors and without the links inside
comments: what is left is the same text, character by character, for all options. The reader keeps
the elements that are open, which decide whether a link stands in a comment and which closing tags
belong to anchors.

## Main definitions

* `Html.isMark`: an opening tag that depends on options.
* `Html.unmarked?`: an HTML text without marks.
* `Html.Leaves`: an HTML text that leaves some text when marks are taken away.
* `Page.unmarkedText`: a text with its links and with plain comments.

## Main results

* `Html.Leaves.anchor`, `Html.leaves_link_of_mem`: marks leave what stands in them.
* `Page.leaves_emit`: the HTML of annotated lines leaves the text without marks.
* `declarationHtml_unmarked`: declarations under different options differ in marks only.
-/

namespace ApiPage

namespace Html

/-! ### Reading without marks -/

/-- **A mark**: the tag of an anchor, or of a link inside a comment. The elements that are open come
last first. -/
def isMark (opened : List Tag) : Tag → Bool
  | .anchor .. => true
  | .link _ => decide (.comment ∈ opened)
  | .comment => false

/-- The open elements after an event, and whether its text is kept. Nothing else may be closed than
what was opened last. -/
def afterEvent (opened : List Tag) : Event → Option (List Tag × Bool)
  | .char _ => some (opened, true)
  | .opens tag => some (tag :: opened, !isMark opened tag)
  | .closes e =>
    match opened with
    | [] => none
    | tag :: outer => if tag.element = e then some (outer, !isMark outer tag) else none

/-- What stands in a text before its end `rest`. -/
def before (t rest : Text) : Text := t.take (t.length - rest.length)

/-- What stands before the rest of a text. -/
theorem before_append (h r : Text) : before (h ++ r) r = h := by simp [before]

/-- **An HTML text without marks**, if every element in it is closed where it should be. All else is
kept as it is written. -/
def unmarked? (opened : List Tag) (t : Text) : Option Text :=
  match t with
  | [] => if opened = [] then some [] else none
  | c :: r =>
    match event? (c :: r) with
    | none => none
    | some (e, s) =>
      if s.length ≤ r.length then
        match afterEvent opened e with
        | none => none
        | some (opened, kept) =>
          (unmarked? opened s).map ((if kept then before (c :: r) s else []) ++ ·)
      else none
termination_by t.length

/-- **`h` leaves `u`** when marks are taken away, whatever follows it. The elements that are open
are those of `outer` before it and those of `inner` behind it. -/
def Leaves (outer inner : List Tag) (h u : Text) : Prop :=
  ∀ r, unmarked? outer (h ++ r) = (unmarked? inner r).map (u ++ ·)

variable {opened outer inner : List Tag} {g h u v : Text} {e : Event}

namespace Leaves

/-- Of nothing, nothing is left. -/
theorem nil (opened : List Tag) : Leaves opened opened [] [] := fun r => by simp

/-- What is left of two parts. -/
theorem append {last : List Tag} (hg : Leaves outer inner g u) (hh : Leaves inner last h v) :
    Leaves outer last (g ++ h) (u ++ v) := by
  intro r
  rw [List.append_assoc, hg, hh, Option.map_map]
  simp [Function.comp_def]

/-- What reads as one event leaves itself or nothing. -/
theorem single {kept : Bool} (hne : h ≠ []) (he : ∀ r, event? (h ++ r) = some (e, r))
    (hafter : afterEvent outer e = some (inner, kept)) :
    Leaves outer inner h (if kept then h else []) := by
  intro r
  obtain ⟨c, w, rfl⟩ := List.exists_cons_of_ne_nil hne
  have hread := he r
  have hbefore := before_append (c :: w) r
  rw [List.cons_append] at hread hbefore
  rw [List.cons_append, unmarked?, hread]
  simp [hafter, hbefore]

/-- An event that is kept. -/
theorem keep (hne : h ≠ []) (he : ∀ r, event? (h ++ r) = some (e, r))
    (hafter : afterEvent outer e = some (inner, true)) : Leaves outer inner h h :=
  single hne he hafter

/-- An event that is dropped. -/
theorem drop (hne : h ≠ []) (he : ∀ r, event? (h ++ r) = some (e, r))
    (hafter : afterEvent outer e = some (inner, false)) : Leaves outer inner h [] :=
  single hne he hafter

/-- The parts of a list leave what all of it leaves. -/
theorem flatMap {α : Type} {f g : α → Text} {l : List α}
    (h : ∀ a ∈ l, Leaves opened opened (f a) (g a)) :
    Leaves opened opened (l.flatMap f) (l.flatMap g) := by
  induction l with
  | nil => exact nil opened
  | cons a l ih =>
    exact (h a List.mem_cons_self).append (ih fun b hb => h b (List.mem_cons_of_mem a hb))

/-- What is left of a whole text. -/
theorem unmarked (hh : Leaves [] [] h u) : unmarked? [] h = some u := by
  have hend := hh []
  simpa [unmarked?] using hend

end Leaves

/-- Of an escaped text all is left. -/
theorem leaves_escape (opened : List Tag) (t : Text) :
    Leaves opened opened (escape t) (escape t) := by
  refine Leaves.flatMap fun c _ => ?_
  obtain ⟨d, w, hc, -⟩ := escapeChar_eq_cons c
  exact Leaves.keep (by simp [hc]) (event?_escapeChar c) rfl

/-- A comment is kept around what is left of its markup. -/
theorem Leaves.comment (hh : Leaves (.comment :: opened) (.comment :: opened) h u) :
    Leaves opened opened (Html.comment h) (Html.comment u) := by
  have hopen : Leaves opened (.comment :: opened) openComment openComment :=
    keep (by simp [openComment, Text.of]) event?_openComment rfl
  have hclose : Leaves (.comment :: opened) opened closeSpan closeSpan :=
    keep (by simp [closeSpan, Text.of]) event?_closeSpan rfl
  exact (hopen.append hh).append hclose

/-- The span of an anchor leaves what stands in it. -/
theorem Leaves.anchor (id kind : Text)
    (hh : Leaves (.anchor id kind :: opened) (.anchor id kind :: opened) h u) :
    Leaves opened opened (openAnchor id kind ++ h ++ closeSpan) u := by
  have hopen : Leaves opened (.anchor id kind :: opened) (openAnchor id kind) [] :=
    drop (by simp [openAnchor, Text.of]) (event?_openAnchor id kind) rfl
  have hclose : Leaves (.anchor id kind :: opened) opened closeSpan [] :=
    drop (by simp [closeSpan, Text.of]) event?_closeSpan rfl
  simpa using (hopen.append hh).append hclose

/-- A link outside comments stays. -/
theorem leaves_link (hcode : .comment ∉ opened) (href label : Text) :
    Leaves opened opened (link href label) (link href label) := by
  have hopen : Leaves opened (.link href :: opened)
      (Text.of "<a href=\"" ++ escapeAttr href ++ Text.of "\">")
      (Text.of "<a href=\"" ++ escapeAttr href ++ Text.of "\">") :=
    Leaves.keep (by simp [Text.of]) (event?_openLink href) (by simp [afterEvent, isMark, hcode])
  have hclose : Leaves (.link href :: opened) opened (Text.of "</a>") (Text.of "</a>") :=
    Leaves.keep (by simp [Text.of]) event?_closeLink
      (by simp [afterEvent, isMark, hcode, Tag.element])
  exact (hopen.append (leaves_escape _ label)).append hclose

/-- A link inside a comment leaves its label. -/
theorem leaves_link_of_mem (hcom : .comment ∈ opened) (href label : Text) :
    Leaves opened opened (link href label) (escape label) := by
  have hopen : Leaves opened (.link href :: opened)
      (Text.of "<a href=\"" ++ escapeAttr href ++ Text.of "\">") [] :=
    Leaves.drop (by simp [Text.of]) (event?_openLink href) (by simp [afterEvent, isMark, hcom])
  have hclose : Leaves (.link href :: opened) opened (Text.of "</a>") [] :=
    Leaves.drop (by simp [Text.of]) event?_closeLink
      (by simp [afterEvent, isMark, hcom, Tag.element])
  have hlink := (hopen.append (leaves_escape _ label)).append hclose
  rwa [List.nil_append, List.append_nil] at hlink

end Html

open Html (Leaves Tag)

variable {opened : List Tag}

/-! ### Comments -/

namespace Resolver

/-- **A resolved word in a comment leaves the word.** -/
theorem leaves_html (hcom : .comment ∈ opened) (r : Resolver) (w : Text) :
    Leaves opened opened (r.html w) (Html.escape w) := by
  rcases r.html_forms w with h | ⟨href, h⟩ | ⟨a, b, head, rest, rfl, h⟩
  · rw [h]
    exact Html.leaves_escape opened w
  · rw [h]
    exact Html.leaves_link_of_mem hcom href w
  · have hdot : Leaves opened opened ['.'] (Html.escape ['.']) := Html.leaves_escape opened ['.']
    rw [h, Html.escape_append, Html.escape_append]
    exact (Html.leaves_link_of_mem hcom a head).append
      (hdot.append (Html.leaves_link_of_mem hcom b rest))

end Resolver

namespace Prose

/-- **A line in a comment leaves its text**, whatever resolves the names in it. -/
theorem leaves_formatLine (hcom : .comment ∈ opened) {resolve : Option (Text → Text)}
    (hr : ∀ f ∈ resolve, ∀ w, Leaves opened opened (f w) (Html.escape w)) (line : Text) :
    Leaves opened opened (formatLine resolve line) (Html.escape (convertQuotes line)) := by
  have hpiece : ∀ p : Piece, Leaves opened opened (p.html resolve) (Html.escape p.shown) := by
    intro p
    cases p with
    | plain t => exact Html.leaves_escape opened t
    | link href label => exact Html.leaves_link_of_mem hcom href label
    | name w =>
      cases resolve with
      | none => exact Html.leaves_escape opened w
      | some f => exact hr f rfl w
  have hall : Leaves opened opened (formatLine resolve line)
      ((pieces (convertQuotes line)).flatMap fun p => Html.escape p.shown) :=
    Leaves.flatMap fun p _ => hpiece p
  rw [← flatMap_shown_pieces (convertQuotes line), Html.escape, List.flatMap_assoc]
  simpa [flatMap_shown_pieces, Html.escape] using hall

end Prose

/-! ### Annotated lines -/

namespace Page

open Syntax (Lexeme LexError lexemes)

variable {find : Nat → Nat → Option Occurrence} {comment : Text → Text} {t : Text}

/-- A comment without links. -/
def plainComment (w : Text) : Text := Html.escape (Prose.convertQuotes w)

/-- Comments as they are formatted for some options: without links they are plain. -/
def LeavesPlain (comment : Text → Text) : Prop :=
  ∀ opened : List Tag, .comment ∈ opened → ∀ w, Leaves opened opened (comment w) (plainComment w)

/-- **A line with marks leaves the line with plain comments** outside comments. What is linked there
does not depend on how comments are written. -/
theorem leaves_fillLine (hcode : .comment ∉ opened) (hcomment : LeavesPlain comment) (col : Nat)
    (p : Text) (ls : List Lexeme) :
    Leaves opened opened (fillLine Html.escape (markOf find comment) col p ls)
      (fillLine Html.escape (markOf find plainComment) col p ls) := by
  induction ls generalizing col p with
  | nil => exact Html.leaves_escape opened p
  | cons l ls ih =>
    have htext := Html.leaves_escape opened (p.take (l.col - col))
    by_cases hc : l.kind = .comment
    · have hm : markOf find comment l = some (Html.comment (comment l.text)) := by
        simp [markOf, hc]
      have hm' : markOf find plainComment l = some (Html.comment (plainComment l.text)) := by
        simp [markOf, hc]
      rw [fillLine_cons_some hm, fillLine_cons_some hm']
      exact (htext.append (hcomment _ List.mem_cons_self l.text).comment).append (ih _ _)
    · have hsame : markOf find comment l = markOf find plainComment l := markOf_congr hc _ _
      cases hm : markOf find comment l with
      | none =>
        rw [fillLine_cons_none hm, fillLine_cons_none (hsame ▸ hm)]
        exact ih col p
      | some m =>
        obtain ⟨-, href, -, rfl⟩ := link_of_markOf hc hm
        rw [fillLine_cons_some hm, fillLine_cons_some (hsame ▸ hm)]
        exact (htext.append (Html.leaves_link hcode href l.text)).append (ih _ _)

/-- **A line in the marks of its anchors leaves what the line leaves.** Closing tags are all alike,
so that the last of them closes the first anchor. -/
theorem leaves_emitLine {l : Line} {u : Text} (o : Options) (hasReceiver : Bool)
    (h : ∀ opened : List Tag, .comment ∉ opened → Leaves opened opened l.html u) :
    Leaves [] [] (emitLine o hasReceiver l) u := by
  rw [emitLine]
  generalize l.anchors.filter (fun a => o.wraps a.kind hasReceiver) = marked
  suffices hmarked : ∀ opened : List Tag, .comment ∉ opened →
      Leaves opened opened ((marked.flatMap fun a => Html.openAnchor a.id a.kind.name) ++ l.html ++
        marked.flatMap fun _ => Html.closeSpan) u from hmarked [] (by simp)
  induction marked with
  | nil => simpa using h
  | cons a marked ih =>
    intro opened hcode
    have hclose := flatMap_const_append marked Html.closeSpan
    have hwrap := (ih (.anchor a.id a.kind.name :: opened) (by simp [hcode])).anchor
    simp only [List.append_assoc] at hwrap ⊢
    rw [hclose] at hwrap
    simpa [List.append_assoc] using hwrap

/-- **The text without marks**: its names are linked and its comments are plain. The lexemes of the
text are `ls`. -/
def unmarkedText (find : Nat → Nat → Option Occurrence) (t : Text) (ls : List Lexeme) : Text :=
  (List.range (piecesOf t).length).flatMap fun k =>
    fillLine Html.escape (markOf find plainComment) 0 ((piecesOf t).getD k [])
      (ls.filter (·.row = k + 1))

/-- **The HTML of annotated lines leaves the text without marks.** -/
theorem leaves_emit {os : List Occurrence} {ls : List Lexeme} {lines : List Line} (o : Options)
    (hasReceiver : Bool) (hcomment : LeavesPlain comment) (hlex : lexemes t = .ok ls)
    (h : annotate t os comment = .ok lines) :
    Leaves [] [] (emit o hasReceiver (hoist lines)) (unmarkedText (occurrenceAt? os) t ls) := by
  obtain ⟨ls', hlex', hlen, hlines⟩ := annotates_annotate h
  obtain rfl : ls = ls' := by simpa [hlex] using hlex'
  have hmoved : (hoist lines).length = (piecesOf t).length := (length_hoist lines).trans hlen
  rw [emit, ← flatMap_lineAt, hmoved]
  refine Leaves.flatMap fun k hk => leaves_emitLine o hasReceiver fun opened hcode => ?_
  rw [html_lineAt_hoist, (hlines k (List.mem_range.mp hk)).html]
  exact leaves_fillLine hcode hcomment 0 _ _

/-- A text with lexemes can be annotated, and no other. -/
theorem annotate_error_iff {os : List Occurrence} {e : LexError} :
    annotate t os comment = .error e ↔ lexemes t = .error e := by
  rw [annotate]
  cases lexemes t with
  | error f => simp [bind, Except.bind]
  | ok ls => simp [bind, Except.bind, pure, Except.pure]

end Page

/-! ### Declarations -/

open Syntax (lexemes parseModule)

variable {scope : Text → Option Binding} {r : Resolver} {o o' : Options} {cs : Comments}
  {d : Declaration} {e : Failure}

/-- Comments of a declaration are plain without links, whether their names are linked or not. -/
theorem leavesPlain_formatLine (r : Resolver) (hotlinks : Bool) :
    Page.LeavesPlain (Prose.formatLine (if hotlinks then some r.html else none)) := by
  intro opened hcom
  refine Prose.leaves_formatLine hcom fun f hf w => ?_
  split at hf
  · obtain rfl : r.html = f := by simpa using hf
    exact r.leaves_html hcom w
  · cases hf

/-- **A declaration fails by its text**, whatever else options say. -/
theorem declarationLines_error_congr (hlimits : o.limits = o'.limits)
    (h : declarationLines scope r o cs d = .error e) :
    declarationLines scope r o' cs d = .error e := by
  rw [declarationLines] at h ⊢
  rw [← hlimits]
  dsimp only [bind, Except.bind, pure, Except.pure, throw, throwThe, MonadExceptOf.throw] at h ⊢
  split at h
  · exact h
  · split at h
    · split at h
      · split at h
        · cases h
        · next f hf =>
          rw [Page.annotate_error_iff.mpr (Page.annotate_error_iff.mp hf)]
          exact h
      · exact h
    · exact h
    · exact h

/-- **The HTML of a declaration leaves its text without marks.** -/
theorem unmarked_declarationHtml {html : Text} (h : declarationHtml scope r o cs d = .ok html) :
    ∃ t ss os ls, shownText o.limits cs d = .ok t ∧ parseModule t = .ok ss ∧
      occurrencesOf scope r d.receiver t ss = .ok os ∧ lexemes t = .ok ls ∧
      Html.unmarked? [] html = some (Page.unmarkedText (Page.occurrenceAt? os) t ls) := by
  obtain ⟨lines, hlines, hemit⟩ := bind_eq_ok.mp h
  obtain rfl : Page.emit o d.receiver.isSome lines = html := Except.ok.inj hemit
  obtain ⟨t, ss, os, ls, ht, hss, hos, hann, rfl⟩ := exists_of_declarationLines hlines
  obtain ⟨lexs, hlex, -, -⟩ := Page.annotates_annotate hann
  have hleaves := Page.leaves_emit o d.receiver.isSome (leavesPlain_formatLine r o.hotlinks) hlex
    hann
  exact ⟨t, ss, os, lexs, ht, hss, hos, hlex, hleaves.unmarked⟩

/-- A declaration fails with an error if it fails to be annotated with it. -/
theorem declarationHtml_error_iff :
    declarationHtml scope r o cs d = .error e ↔ declarationLines scope r o cs d = .error e := by
  rw [declarationHtml]
  cases declarationLines scope r o cs d <;> simp [bind, Except.bind, pure, Except.pure]

/-- **Options touch only their own marks.** Under two options with the same rule for URLs and the
same limits a declaration fails with the same error, or it has HTML under both, and the two texts
are the same, character by character, without the spans of anchors and the links inside comments.
Names are resolved in any way that depends on nothing but the rule for URLs. -/
theorem declarationHtml_unmarked (scope : Text → Option Binding)
    (resolver : (Text → Text) → Resolver) (cs : Comments) (d : Declaration)
    (hurl : o.pageUrl = o'.pageUrl) (hlimits : o.limits = o'.limits) :
    (∃ e, declarationHtml scope (resolver o.pageUrl) o cs d = .error e ∧
      declarationHtml scope (resolver o'.pageUrl) o' cs d = .error e) ∨
    ∃ html html' u, declarationHtml scope (resolver o.pageUrl) o cs d = .ok html ∧
      declarationHtml scope (resolver o'.pageUrl) o' cs d = .ok html' ∧
      Html.unmarked? [] html = some u ∧ Html.unmarked? [] html' = some u := by
  rw [← hurl]
  cases h : declarationHtml scope (resolver o.pageUrl) o cs d with
  | error e =>
    refine .inl ⟨e, rfl, ?_⟩
    rw [declarationHtml_error_iff] at h ⊢
    exact declarationLines_error_congr hlimits h
  | ok html =>
    cases h' : declarationHtml scope (resolver o.pageUrl) o' cs d with
    | error e =>
      rw [declarationHtml_error_iff] at h'
      have hfails := declarationLines_error_congr hlimits.symm h'
      rw [← declarationHtml_error_iff, h] at hfails
      cases hfails
    | ok html' =>
      obtain ⟨t, ss, os, ls, ht, hss, hos, hlex, hleft⟩ := unmarked_declarationHtml h
      obtain ⟨t', ss', os', ls', ht', hss', hos', hlex', hleft'⟩ := unmarked_declarationHtml h'
      obtain rfl : t = t' := by simpa [← hlimits, ht] using ht'
      obtain rfl : ss = ss' := by simpa [hss] using hss'
      obtain rfl : os = os' := by simpa [hos] using hos'
      obtain rfl : ls = ls' := by simpa [hlex] using hlex'
      exact .inr ⟨html, html', _, rfl, rfl, hleft, hleft'⟩

/-- A class with a comment that names it. -/
def namedClass : Text := Text.of "class C:\n    # see C here\n    x: int = 1\n"

/-- Options with no marks at all. -/
def unmarkedOptions : Options := { plainOptions with hotlinks := false, kinds := [] }

/-- A class with anchors and without. -/
theorem declarationHtml_unmarked_namedClass :
    ∃ p d html html' u, Package.ofSource (Text.of "m") namedClass = .ok p ∧ d ∈ p.allDeclarations ∧
      declarationHtml p.lookup (Renderer.resolver ⟨p, plainOptions⟩) plainOptions p.comments d =
        .ok html ∧
      declarationHtml p.lookup (Renderer.resolver ⟨p, unmarkedOptions⟩) unmarkedOptions p.comments d =
        .ok html' ∧
      html ≠ html' ∧ Html.unmarked? [] html = some u ∧ Html.unmarked? [] html' = some u := by
  have hcheck : (Package.ofSource (Text.of "m") namedClass).toOption.any (fun p =>
      p.allDeclarations.any fun d =>
        (declarationHtml p.lookup (Renderer.resolver ⟨p, plainOptions⟩) plainOptions p.comments
          d).toOption.any fun html =>
        decide (some html ≠ (declarationHtml p.lookup (Renderer.resolver ⟨p, unmarkedOptions⟩)
          unmarkedOptions p.comments d).toOption)) = true := by
    decide +kernel
  obtain ⟨p, hp, hcheck⟩ := (Option.any_eq_true _ _).mp hcheck
  obtain ⟨d, hd, hcheck⟩ := List.any_eq_true.mp hcheck
  obtain ⟨html, hhtml, hcheck⟩ := (Option.any_eq_true _ _).mp hcheck
  replace hp := eq_ok_of_toOption hp
  replace hhtml := eq_ok_of_toOption hhtml
  have hurl : plainOptions.pageUrl = unmarkedOptions.pageUrl := rfl
  have hlimits : plainOptions.limits = unmarkedOptions.limits := rfl
  rcases declarationHtml_unmarked p.lookup
    (fun url => { Renderer.resolver ⟨p, plainOptions⟩ with pageUrl := url }) p.comments d hurl
    hlimits with ⟨e, he, -⟩ | ⟨left, right, u, hleft, hright, hu, hu'⟩
  · have hne : Except.ok html = Except.error e := hhtml.symm.trans he
    cases hne
  · obtain rfl : html = left := Except.ok.inj (hhtml.symm.trans hleft)
    have hne := of_decide_eq_true hcheck
    have hright' : declarationHtml p.lookup (Renderer.resolver ⟨p, unmarkedOptions⟩)
        unmarkedOptions p.comments d = .ok right := hright
    rw [hright'] at hne
    exact ⟨p, d, html, right, u, hp, hd, hhtml, hright', fun h => hne (congrArg some h), hu, hu'⟩

end ApiPage
