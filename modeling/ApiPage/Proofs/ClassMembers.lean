import Mathlib
import ApiPage.Proofs.Displayed
import ApiPage.Proofs.Identified
import ApiPage.Proofs.Loading
import ApiPage.Proofs.Outlines

/-!
# The members of a class

What becomes of the statements of a class is decided in two places. The loader makes declarations of
the methods, and the display of the class shows fields, nested classes and the methods of a
protocol. The note about what is not shown belongs to the members that neither of the two takes: it
leaves out the methods that are documented elsewhere, and it is there for every other member. A
class that has no line but the note is the text of no module, for a comment is no body.

## Main definitions

* `Display.isShown`: a member that the class shows.
* `Display.isListed`: a member that is a declaration of its own.
* `Display.isHidden`: a member with a private name, or of a kind that is not documented.
* `Display.memberLines`: the lines of a member that is shown.
* `Display.bodyEnd`: the last line of a class, if it is not one of a member.

## Main results

* `Display.count_outcomes`: a member is shown, listed or hidden.
* `Display.classLines_eq`: the lines of a class.
* `Package.members_of_class`: no member of a class is lost or shown twice.
* `exists_unparsed_display`: a class that hides all it has.
-/

namespace ApiPage

open Syntax
open Syntax.Printer (PrintError)

namespace Display

/-! ### What becomes of a member -/

/-- **A member that a class shows**. -/
def isShown (isProtocol : Bool) (s : Stmt) : Bool :=
  match s with
  | .assign .. | .annAssign .. => isPublicValue s
  | .function .. => isProtocol && isShownMethod s.definedName
  | .classDef .. => isPublic s.definedName
  | _ => false

/-- **A member that is a declaration of its own**: a method of a class that is no protocol. -/
def isListed (isProtocol : Bool) (s : Stmt) : Bool :=
  !isProtocol && s.isFunction && isShownMethod s.definedName

/-- A statement that has no say in what a class holds: an expression or `pass`. -/
def isIdle : Stmt → Bool
  | .expr .. | .pass .. => true
  | _ => false

/-- **A member that is hidden**: a field, a method or a class whose name is private, or a statement
that is none of these. -/
def isHidden (s : Stmt) : Bool :=
  match s with
  | .assign .. | .annAssign .. => !isPublicValue s
  | .function .. => !isShownMethod s.definedName
  | .classDef .. => !isPublic s.definedName
  | s => !isIdle s

variable {cs : Comments} {isProtocol : Bool} {s : Stmt}

/-- **A member has one outcome**: it is shown, or it is listed, or it is hidden. Only for methods
does the class decide between the first two. -/
theorem count_outcomes (isProtocol : Bool) (s : Stmt) :
    [isShown isProtocol s, isListed isProtocol s, isHidden s].count true =
      if isIdle s then 0 else 1 := by
  cases s with
  | function sp isAsync name params body decorators returns =>
    cases isProtocol <;> cases hname : isShownMethod name <;>
      simp [isShown, isListed, isHidden, isIdle, Stmt.isFunction, Stmt.definedName, hname]
  | assign sp targets value elided =>
    cases hpublic : isPublicValue (.assign sp targets value elided) <;>
      simp [isShown, isListed, isHidden, isIdle, Stmt.isFunction, hpublic]
  | annAssign sp target hint value simple elided =>
    cases hpublic : isPublicValue (.annAssign sp target hint value simple elided) <;>
      simp [isShown, isListed, isHidden, isIdle, Stmt.isFunction, hpublic]
  | classDef sp name bases keywords body decorators =>
    cases hpublic : isPublic name <;>
      simp [isShown, isListed, isHidden, isIdle, Stmt.isFunction, Stmt.definedName, hpublic]
  | _ => simp [isShown, isListed, isHidden, isIdle, Stmt.isFunction]

/-- Where a method is shown depends on the class. -/
theorem isShown_iff_isProtocol (hfunction : s.isFunction = true)
    (hname : isShownMethod s.definedName = true) :
    (isShown isProtocol s = true ↔ isProtocol = true) ∧
      (isListed isProtocol s = true ↔ isProtocol = false) := by
  cases s with
  | function => simp [isShown, isListed, Stmt.isFunction, hname]
  | _ => cases hfunction

/-- What is shown is not hidden. -/
theorem isHidden_of_isShown (h : isShown isProtocol s = true) : isHidden s = false := by
  cases s with
  | assign | annAssign | classDef =>
    simp only [isShown] at h
    simp [isHidden, h]
  | function =>
    obtain ⟨-, hname⟩ := Bool.and_eq_true_iff.mp h
    simp [isHidden, hname]
  | _ => cases h

/-! ### The lines of a class -/

/-- The comments that are shown above a member: none above a nested class. -/
def commentsAbove (cs : Comments) (s : Stmt) : List Text :=
  if s.isClass then [] else cs.leading s.firstRow

/-- The lines of a member itself: a definition without its body, or a field. -/
def ownLines (cs : Comments) (s : Stmt) : Except PrintError (List Text) :=
  if s.isFunction || s.isClass then stub s else statement cs s

/-- **The lines of a member that is shown**, below the comments above it. -/
def memberLines (cs : Comments) (s : Stmt) : Except PrintError (List Text) := do
  return commentsAbove cs s ++ (← ownLines cs s)

/-- A member that is shown is shown by its lines. -/
theorem member_of_shown (h : isShown isProtocol s = true) :
    member cs isProtocol s = do return .lines (← memberLines cs s) := by
  cases s with
  | assign | annAssign =>
    simp only [isShown] at h
    simp [member, h, memberLines, ownLines, commentsAbove, Stmt.isFunction, Stmt.isClass,
      Stmt.firstRow, Stmt.decorators]
  | function =>
    obtain ⟨hprotocol, hname⟩ := Bool.and_eq_true_iff.mp h
    simp [member, hprotocol, hname, memberLines, ownLines, commentsAbove, Stmt.isFunction,
      Stmt.isClass]
  | classDef =>
    simp only [isShown] at h
    simp [member, h, memberLines, ownLines, commentsAbove, Stmt.isFunction, Stmt.isClass]
  | _ => cases h

/-- A member that is not shown is filtered if it is hidden. A method that is not shown is hidden for
its name, or listed since the class is no protocol. -/
theorem member_of_not_shown (h : isShown isProtocol s = false) :
    member cs isProtocol s = pure (if isHidden s then .filtered else .nothing) := by
  cases s with
  | assign | annAssign | classDef =>
    simp only [isShown] at h
    simp [member, isHidden, h]
  | function sp isAsync name params body decorators returns =>
    cases hname : isShownMethod name with
    | false => simp [member, isHidden, Stmt.definedName, hname]
    | true =>
      obtain rfl : isProtocol = false := by simpa [isShown, Stmt.definedName, hname] using h
      simp [member, isHidden, Stmt.definedName, hname]
  | _ => rfl

/-- **What a class shows of its statements**: the lines of those that are shown, and whether any is
hidden. -/
theorem members_eq (ss : List Stmt) : members cs isProtocol ss = do
    let parts ← (ss.filter (isShown isProtocol)).mapM (memberLines cs)
    return (parts.flatMap indented, ss.any isHidden) := by
  induction ss with
  | nil => rfl
  | cons s ss ih =>
    rw [members, ih]
    cases hs : isShown isProtocol s with
    | true =>
      have hnot := isHidden_of_isShown hs
      rw [member_of_shown hs, List.filter_cons_of_pos hs, List.mapM_cons]
      simp only [bind_assoc, pure_bind, List.flatMap_cons, List.any_cons, hnot, Bool.false_or]
    | false =>
      rw [member_of_not_shown hs, pure_bind, List.filter_cons_of_neg (by simp [hs])]
      cases hhidden : isHidden s with
      | false => simp only [bind_assoc, pure_bind, List.any_cons, hhidden, Bool.false_or]; rfl
      | true => simp only [bind_assoc, pure_bind, List.any_cons, hhidden, Bool.true_or]; rfl

/-! ### The end of a body -/

/-- The head of a definition has a line. -/
theorem header_ne_nil {ls : List Text} (hs : (s.isFunction || s.isClass) = true)
    (h : header s = .ok ls) : ls ≠ [] := by
  have hsort : s.sort = .function ∨ s.sort = .type := by
    cases s with
    | function => exact .inl rfl
    | classDef => exact .inr rfl
    | _ => cases hs
  obtain ⟨front, t, -, rfl⟩ := yields_lines_header hsort ls h
  exact List.append_ne_nil_of_right_ne_nil _ (Text.splitBy_ne_nil _ _)

/-- The lines of a member are some. -/
theorem memberLines_ne_nil {ls : List Text} (h : memberLines cs s = .ok ls) : ls ≠ [] := by
  obtain ⟨ms, hms, hls⟩ := bind_eq_ok.mp h
  obtain rfl := Except.ok.inj hls
  refine List.append_ne_nil_of_right_ne_nil _ ?_
  unfold ownLines at hms
  split at hms
  · next hs =>
    obtain ⟨head, hhead, hms⟩ := bind_eq_ok.mp hms
    obtain rfl := Except.ok.inj hms
    exact extendLast_ne_nil _ (header_ne_nil hs hhead)
  · obtain ⟨t, -, hms⟩ := bind_eq_ok.mp hms
    obtain rfl := Except.ok.inj hms
    exact extendLast_ne_nil _ (Text.splitBy_ne_nil _ t)

/-- No lines come of no members alone. -/
theorem flatMap_indented_eq_nil {ss : List Stmt} {parts : List (List Text)}
    (h : ss.mapM (memberLines cs) = .ok parts) : parts.flatMap indented = [] ↔ ss = [] := by
  cases ss with
  | nil =>
    obtain rfl := Except.ok.inj h
    simp
  | cons s ss =>
    rw [List.mapM_cons] at h
    obtain ⟨ls, hls, h⟩ := bind_eq_ok.mp h
    obtain ⟨rest, -, h⟩ := bind_eq_ok.mp h
    obtain rfl := Except.ok.inj h
    simp [indented, memberLines_ne_nil hls]

/-- **The end of the body of a class**: the note if a member is hidden, and an ellipsis if nothing
else is shown. -/
def bodyEnd (isProtocol : Bool) (ss : List Stmt) : List Text :=
  if ss.any isHidden then [indentation ++ filteredNote]
  else if ss.any (isShown isProtocol) then []
  else [indentation ++ Text.of "..."]

/-- **The lines of a class**: its head, the lines of the members it shows, and the end of its
body. -/
theorem classLines_eq (cls : Stmt) : classLines cs cls = do
    let head ← header cls
    let parts ← (cls.body.filter (isShown cls.isProtocol)).mapM (memberLines cs)
    return head ++ parts.flatMap indented ++ bodyEnd cls.isProtocol cls.body := by
  rw [classLines, members_eq]
  cases hhead : header cls with
  | error e => rfl
  | ok head =>
    cases hparts : (cls.body.filter (isShown cls.isProtocol)).mapM (memberLines cs) with
    | error e => rfl
    | ok parts =>
      have hnil := flatMap_indented_eq_nil hparts
      cases hhidden : cls.body.any isHidden with
      | true => simp [bind, Except.bind, pure, Except.pure, bodyEnd, hhidden]
      | false =>
        cases hshown : cls.body.any (isShown cls.isProtocol) with
        | true =>
          have hne : cls.body.filter (isShown cls.isProtocol) ≠ [] := by
            simpa using hshown
          have hlines := mt hnil.mp hne
          simp [bind, Except.bind, pure, Except.pure, bodyEnd, hhidden, hshown, hlines]
        | false =>
          have hempty : cls.body.filter (isShown cls.isProtocol) = [] := by
            simpa using hshown
          have hlines := hnil.mpr hempty
          simp [bind, Except.bind, pure, Except.pure, bodyEnd, hhidden, hshown, hlines]

/-- The methods of a class are its listed members. -/
theorem methods_type (cls : Stmt) : (Declaration.type cls).methods =
    (cls.body.filter (isListed cls.isProtocol)).map (.function · (some cls.definedName)) := by
  rw [Declaration.methods]
  cases hprotocol : cls.isProtocol with
  | true => simp [isListed]
  | false => rfl

end Display

/-! ### Classes of a module -/

namespace Package

variable {cs : Comments} {ss : List Stmt} {cls : Stmt}

/-- A public class is declared. -/
theorem type_mem_declarations (path : Text) (hmem : cls ∈ ss) (hclass : cls.isClass = true)
    (hpublic : isPublic cls.definedName = true) :
    .type cls ∈ (ofStmts path cs ss).declarations := by
  have hdocumented : cls.isDocumented = true := by simp [Stmt.isDocumented, hclass, hpublic]
  have hfilter : cls ∈ ss.filter Stmt.isDocumented := List.mem_filter.mpr ⟨hmem, hdocumented⟩
  rw [← (cut_ofStmts path cs ss).flatMap_stmts] at hfilter
  obtain ⟨d, hd, hstmts⟩ := List.mem_flatMap.mp hfilter
  have hproper := (of_mem_allDeclarations (List.mem_flatMap.mpr ⟨d, hd, List.mem_cons_self⟩)).proper
  have hsort : cls.sort = .type := by
    cases cls with
    | classDef => rfl
    | _ => cases hclass
  cases d with
  | type c => exact List.mem_singleton.mp hstmts ▸ hd
  | values group doc => cases (hproper cls hstmts).symm.trans hsort
  | function fn r =>
    obtain rfl := List.mem_singleton.mp hstmts
    cases hproper.symm.trans hsort

/-- **No member of a class is lost or shown twice.** The declaration of a public class of a module
is followed by those of its listed members. Each member but an expression and `pass` is shown,
listed or hidden, one of the three. A method under a shown name is shown in a protocol and listed in
any other class. The class is displayed as its head and the members it shows, each once, and at the
end it has the note just if a member is hidden, and an ellipsis just if it holds nothing else. -/
theorem members_of_class (path : Text) (cs : Comments) {ss : List Stmt} {cls : Stmt}
    (hmem : cls ∈ ss) (hclass : cls.isClass = true) (hpublic : isPublic cls.definedName = true) :
    (.type cls :: (cls.body.filter (Display.isListed cls.isProtocol)).map
        (.function · (some cls.definedName))) <:+: (ofStmts path cs ss).allDeclarations ∧
    (∀ s ∈ cls.body, [Display.isShown cls.isProtocol s, Display.isListed cls.isProtocol s,
      Display.isHidden s].count true = if Display.isIdle s then 0 else 1) ∧
    (∀ s ∈ cls.body, s.isFunction = true → isShownMethod s.definedName = true →
      (Display.isShown cls.isProtocol s = true ↔ cls.isProtocol = true) ∧
      (Display.isListed cls.isProtocol s = true ↔ cls.isProtocol = false)) ∧
    (Declaration.type cls).display cs = do
      let head ← Display.header cls
      let parts ← (cls.body.filter (Display.isShown cls.isProtocol)).mapM (Display.memberLines cs)
      return Text.joinLines (head ++ parts.flatMap Display.indented ++
        Display.bodyEnd cls.isProtocol cls.body) := by
  refine ⟨?_, fun s _ => Display.count_outcomes _ s, fun s _ => Display.isShown_iff_isProtocol, ?_⟩
  · have hdeclared : .type cls ∈ (ofStmts path cs ss).declarations :=
      type_mem_declarations path hmem hclass hpublic
    obtain ⟨before, after, hds⟩ := List.append_of_mem hdeclared
    refine ⟨before.flatMap fun d => d :: d.methods, after.flatMap fun d => d :: d.methods, ?_⟩
    rw [allDeclarations, hds, List.flatMap_append, List.flatMap_cons, Display.methods_type,
      List.append_assoc]
  · simp only [Declaration.display, Display.classLines_eq, bind_assoc, pure_bind]

end Package

/-- A class with members of all kinds. -/
def mixedClass : Text :=
  Text.of "class C:\n    x = 1\n    _y = 2\n    def f(self): pass\n    class D: pass\n    pass\n"

/-- The method is listed, and the private field is hidden. -/
theorem exists_mixedClass : ∃ cs cls, parseModule mixedClass = .ok [cls] ∧
    Comments.ofText mixedClass = .ok cs ∧ cls.isClass = true ∧
    isPublic cls.definedName = true ∧ cls.isProtocol = false ∧
    (cls.body.filter (Display.isListed false)).length = 1 ∧
    cls.body.any Display.isHidden = true := by
  have hcheck : (parseModule mixedClass).toOption.any (fun ss =>
      (Comments.ofText mixedClass).toOption.isSome && ss.length == 1 && ss.all fun cls =>
        cls.isClass && isPublic cls.definedName && !cls.isProtocol &&
        (cls.body.filter (Display.isListed false)).length == 1 &&
        cls.body.any Display.isHidden) = true := by
    decide +kernel
  obtain ⟨ss, hss, hcheck⟩ := (Option.any_eq_true _ _).mp hcheck
  rw [Bool.and_eq_true, Bool.and_eq_true, beq_iff_eq] at hcheck
  obtain ⟨⟨hcs, hlength⟩, hall⟩ := hcheck
  obtain ⟨cs, hcs⟩ := Option.isSome_iff_exists.mp hcs
  obtain ⟨cls, rfl⟩ := List.length_eq_one_iff.mp hlength
  obtain ⟨⟨⟨⟨hclass, hpublic⟩, hprotocol⟩, hlisted⟩, hhidden⟩ := by
    simpa only [List.all_cons, List.all_nil, Bool.and_true, Bool.and_eq_true, beq_iff_eq,
      Bool.not_eq_true'] using hall
  exact ⟨cs, cls, eq_ok_of_toOption hss, eq_ok_of_toOption hcs, hclass, hpublic, hprotocol, hlisted,
    hhidden⟩

/-- In a class with members of all kinds the method is a declaration of its own. -/
theorem members_of_class_mixedClass : ∃ cs cls f, parseModule mixedClass = .ok [cls] ∧
    Comments.ofText mixedClass = .ok cs ∧
    [.type cls, .function f (some cls.definedName)] <:+:
      (Package.ofStmts (Text.of "m") cs [cls]).allDeclarations ∧
    (Declaration.type cls).display cs = do
      let head ← Display.header cls
      let parts ← (cls.body.filter (Display.isShown false)).mapM (Display.memberLines cs)
      return Text.joinLines (head ++ parts.flatMap Display.indented ++
        [Display.indentation ++ Display.filteredNote]) := by
  obtain ⟨cs, cls, hss, hcs, hclass, hpublic, hprotocol, hlisted, hhidden⟩ := exists_mixedClass
  obtain ⟨hdeclared, -, -, hdisplay⟩ := Package.members_of_class (Text.of "m") cs
    (List.mem_singleton_self cls) hclass hpublic
  rw [hprotocol] at hdeclared hdisplay
  obtain ⟨f, hf⟩ := List.length_eq_one_iff.mp hlisted
  rw [hf] at hdeclared
  refine ⟨cs, cls, f, hss, hcs, hdeclared, ?_⟩
  rw [hdisplay]
  simp only [Display.bodyEnd, hhidden, if_true]

/-! ### A class that hides all it has -/

/-- A class with a private field alone. -/
def hiddenMembers : Text := Text.of "class C:\n    _x = 1\n"

/-- **A class that hides all it has is the text of no module**: below its head stands the note alone,
and a comment is no body. -/
theorem exists_unparsed_display :
    ∃ p d t f, Package.ofSource (Text.of "m") hiddenMembers = .ok p ∧ d ∈ p.allDeclarations ∧
      d.display p.comments = .ok t ∧ parseModule t = .error (.fault f) := by
  have hcheck : ((Package.ofSource (Text.of "m") hiddenMembers).toOption.bind fun p =>
      p.allDeclarations.head?.bind fun d => (d.display p.comments).toOption.bind fun t =>
      match parseModule t with
      | .error (.fault f) => some f
      | _ => none).isSome = true := by
    decide +kernel
  obtain ⟨f, hf⟩ := Option.isSome_iff_exists.mp hcheck
  obtain ⟨p, hp, hf⟩ := Option.bind_eq_some_iff.mp hf
  obtain ⟨d, hd, hf⟩ := Option.bind_eq_some_iff.mp hf
  obtain ⟨t, ht, hf⟩ := Option.bind_eq_some_iff.mp hf
  refine ⟨p, d, t, f, eq_ok_of_toOption hp, List.mem_of_mem_head? hd, eq_ok_of_toOption ht, ?_⟩
  split at hf
  · next hparse => rw [hparse, Option.some.inj hf]
  · cases hf

end ApiPage
