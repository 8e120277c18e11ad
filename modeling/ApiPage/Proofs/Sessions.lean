import ApiPage.Example.Scanner
import ApiPage.Page.Session
import ApiPage.Proofs.Identified

/-!
# Pages without history

What an open page answers depends on the package and the options with which it was opened, and on
nothing that happened since: not on the requests before, not on the settings, and not on other
pages. The one thing that a page remembers is the links of the documentation that it was asked for.
An action touches one page at most, and of that its links only; from this what a whole run keeps
follows by induction on the actions.

## Main definitions

* `Action.docFor?`: the documentation that an action asks of a page.

## Main results

* `Session.pages_step`, `Session.pages_run`: a page keeps its renderer and gains links of
  documentation.
* `Session.history_independent`: the outcome of a request is that of the first one to a new page.
-/

namespace ApiPage

variable {lexer : Example.Lexer} {s : Session} {p p' : OpenPage} {i k : Nat} {q : Request}

/-- The links of a documentation. -/
def linksOf (doc : Text) : List Prose.Link := (Prose.splitLinks (Prose.Block.ofText doc)).2

/-- The documentation that an action asks of page `i`. -/
def Action.docFor? (i : Nat) : Action → Option Text
  | .request j (.doc doc) => if j = i then some doc else none
  | _ => none

/-- A request for one page is none for another. -/
theorem Action.docFor?_request_of_ne {i j : Nat} (h : j ≠ i) (q : Request) :
    (Action.request j q).docFor? i = none := by
  cases q <;> simp [docFor?, h]

/-! ### One answer -/

/-- Literals are trimmed by the options alone. -/
@[simp] theorem Renderer.trimming_eq (c : Settings) (r : Renderer) : r.trimming c = r := rfl

namespace OpenPage

/-- **A reply** depends on the renderer alone. -/
theorem reply_congr (h : p.renderer = p'.renderer) (c c' : Settings) (q : Request) :
    (p.answer lexer c q).2 = (p'.answer lexer c' q).2 := by
  cases q with
  | doc doc => simp [answer, h]
  | declaration doc cs d => simp [answer, h]
  | code e => rfl
  | synopsis d => rfl

/-- **An answer** leaves the renderer as it is, and adds the links of documentation. -/
theorem fst_answer (c : Settings) (p : OpenPage) (i : Nat) (q : Request) :
    (p.answer lexer c q).1 =
      ⟨p.renderer, p.links ++ ((Action.request i q).docFor? i).toList.flatMap linksOf⟩ := by
  cases q with
  | doc doc => simp [answer, Action.docFor?, Renderer.docHtml, linksOf]
  | declaration doc cs d => simp [answer, Action.docFor?]
  | code e => simp [answer, Action.docFor?]
  | synopsis d => simp [answer, Action.docFor?]

end OpenPage

namespace Session

/-! ### One action -/

/-- **What an action does to a page**: it keeps its renderer, and gains the links of documentation
that it is asked for. A page that is opened comes behind all others. -/
theorem pages_step (h : s.pages[i]? = some p) (a : Action) :
    (s.step lexer a).1.pages[i]? =
      some ⟨p.renderer, p.links ++ (a.docFor? i).toList.flatMap linksOf⟩ := by
  cases a with
  | set name value =>
    rw [step]
    split <;> simpa [Action.docFor?] using h
  | reset => simpa [step, Action.docFor?] using h
  | openPage package options =>
    have hlt : i < s.pages.length := (List.getElem?_eq_some_iff.mp h).1
    simpa [step, Action.docFor?, List.getElem?_append_left hlt] using h
  | request j q =>
    by_cases hj : j = i
    · subst hj
      have hlt : j < s.pages.length := (List.getElem?_eq_some_iff.mp h).1
      simp only [step, h]
      rw [List.getElem?_set_self hlt, OpenPage.fst_answer s.settings p j q]
    · rw [Action.docFor?_request_of_ne hj, step]
      split
      · simpa [List.getElem?_set_ne hj] using h
      · simpa using h

/-- **A request** to a page has the outcome that it has on a new page with its renderer. -/
theorem outcome_request (h : s.pages[i]? = some p) (q : Request) (c : Settings) :
    (s.step lexer (.request i q)).2 =
      ((Session.mk c [.fresh p.renderer]).step lexer (.request 0 q)).2 := by
  simp only [step, h]
  exact congrArg Outcome.replied (OpenPage.reply_congr (by rfl) s.settings c q)

/-! ### Runs -/

/-- **What a run does to a page**: it keeps its renderer, and gains the links of all documentation
that it is asked for. -/
theorem pages_run (h : s.pages[i]? = some p) (as : List Action) :
    (s.run lexer as).1.pages[i]? =
      some ⟨p.renderer, p.links ++ (as.filterMap (Action.docFor? i)).flatMap linksOf⟩ := by
  induction as generalizing s p with
  | nil => simpa [run] using h
  | cons a as ih =>
    rw [run, ih (pages_step h a)]
    cases ha : a.docFor? i <;> simp [ha]

/-- **The outcomes of a run** at the requests to a page are those of a new page with its renderer. -/
theorem outcome_run (h : s.pages[i]? = some p) {as : List Action}
    (hk : as[k]? = some (.request i q)) (c : Settings) :
    (s.run lexer as).2[k]? =
      some ((Session.mk c [.fresh p.renderer]).step lexer (.request 0 q)).2 := by
  induction as generalizing s p k with
  | nil => simp at hk
  | cons a as ih =>
    rw [run]
    cases k with
    | zero =>
      obtain rfl : a = .request i q := by simpa using hk
      simpa using outcome_request h q c
    | succ k => simpa using ih (pages_step h a) (by simpa using hk)

/-- **A page answers as if it were new.** A page is opened for a package, with options or with those
of the settings at that time, and then any actions follow: requests to the page and to others,
changes of settings, new pages. Each request to the page has the outcome that it has as the first
request to a new page for the same package with the same options, whatever the settings are; and the
links of the page are in the end those of the documentation that it was asked for, in that order.
All this holds whatever lexer cuts the code of examples. -/
theorem history_independent (lexer : Example.Lexer) (s : Session) (package : Package)
    (options : Option Options) (as : List Action) :
    (∀ (k : Nat) q, as[k]? = some (Action.request s.pages.length q) → ∀ c : Settings,
      ((s.step lexer (.openPage package options)).1.run lexer as).2[k]? =
        some (((Session.mk c []).step lexer (.openPage package
          (some (options.getD (Options.initial s.settings))))).1.step lexer (.request 0 q)).2) ∧
    ((s.step lexer (.openPage package options)).1.run lexer as).1.pages[s.pages.length]? =
      some ⟨⟨package, options.getD (Options.initial s.settings)⟩,
        (as.filterMap (Action.docFor? s.pages.length)).flatMap fun doc =>
          (Prose.splitLinks (Prose.Block.ofText doc)).2⟩ := by
  have hopened : (s.step lexer (.openPage package options)).1.pages[s.pages.length]? =
      some (.fresh ⟨package, options.getD (Options.initial s.settings)⟩) := by
    simp [step]
  refine ⟨fun k q hk c => ?_, ?_⟩
  · exact outcome_run hopened hk c
  · exact pages_run hopened as

/-- A value that is shown if strings may be long. -/
def quotedValue : Text := Text.of "x = 'abc'\n"

/-- Notes with a link. -/
def linkNotes : Text := Text.of "Notes.\n\nLinks\n\n- Docs, /docs\n"

/-- A setting is changed and documentation is asked for before a declaration is. -/
def lateRequest (p : Package) (d : Declaration) : List Action :=
  [.set stringSizeName (.int 0), .request 0 (.doc linkNotes),
    .request 0 (.declaration [] p.comments d)]

/-- A declaration is answered after a change of settings and a document as on a fresh page. -/
theorem history_independent_quotedValue :
    ∃ p d, Package.ofSource (Text.of "m") quotedValue = .ok p ∧ d ∈ p.allDeclarations ∧
      ((initial.step Example.pieces (.openPage p none)).1.run Example.pieces
        (lateRequest p d)).2[2]? =
          some (((Session.mk Limits.initial []).step Example.pieces (.openPage p
            (some (Options.initial Limits.initial)))).1.step Example.pieces
              (.request 0 (.declaration [] p.comments d))).2 ∧
      ((initial.step Example.pieces (.openPage p none)).1.run Example.pieces
        (lateRequest p d)).1.pages[0]? =
        some ⟨⟨p, Options.initial Limits.initial⟩, [⟨Text.of "Docs", Text.of "/docs"⟩]⟩ := by
  have hcheck : (Package.ofSource (Text.of "m") quotedValue).toOption.any
      (!·.allDeclarations.isEmpty) = true := by decide +kernel
  obtain ⟨p, hp, hcheck⟩ := (Option.any_eq_true _ _).mp hcheck
  obtain ⟨d, hd⟩ := List.exists_mem_of_ne_nil p.allDeclarations (by simpa using hcheck)
  obtain ⟨houtcomes, hpages⟩ := history_independent Example.pieces initial p none (lateRequest p d)
  have hlinks : linksOf linkNotes = [⟨Text.of "Docs", Text.of "/docs"⟩] := by decide +kernel
  refine ⟨p, d, eq_ok_of_toOption hp, hd, houtcomes 2 _ rfl Limits.initial, ?_⟩
  rw [← hlinks]
  exact hpages.trans (by simp [Action.docFor?, linksOf, lateRequest, initial, List.filterMap_cons])

end Session
end ApiPage
