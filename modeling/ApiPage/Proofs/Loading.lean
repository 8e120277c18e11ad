import Mathlib
import ApiPage.Proofs.Identified
import ApiPage.Proofs.Loaded

/-!
# Loading a module

The loader goes through the statements of a module once and keeps a group of values open while it
may still grow. What it declares is a *cut* of the module: pieces of statements that follow one
another, in their order, and between them only statements that no declaration documents.

## Conventions

A cut grows at its end, as the loader does. The loader holds its declarations and its open group
last first.

## Main definitions

* `Syntax.Stmt.isDocumented`: a statement that belongs into a declaration.
* `Cut`: statements cut into declarations.
* `Package.Progress.Cuts`: progress whose declarations and open group cut what was gone through.

## Main results

* `Package.cut_ofStmts`: the declarations of a package cut its statements.
* `Package.declarations_ofStmts`: nothing public is lost, declared twice or moved.
-/

namespace ApiPage

open Syntax

/-! ### Documented statements -/

namespace Syntax.Stmt

/-- The statement defines a class. -/
def isClass : Stmt → Bool
  | classDef .. => true
  | _ => false

/-- **A statement that is documented**: it binds values and one of its names is public, or it
defines a function or a class with a public name. -/
def isDocumented (s : Stmt) : Bool :=
  (s.isValue && s.boundNames.any fun n => isPublic n.name) ||
    ((s.isFunction || s.isClass) && isPublic s.definedName)

/-- An assignment is documented if it binds a public name. -/
theorem isDocumented_of_isValue {s : Stmt} (h : s.isValue = true) :
    s.isDocumented = s.boundNames.any fun n => isPublic n.name := by
  have hdef : (s.isFunction || s.isClass) = false := by
    cases s with
    | function => cases h
    | classDef => cases h
    | _ => rfl
  rw [isDocumented, h, hdef, Bool.true_and, Bool.false_and, Bool.or_false]

/-- A statement that binds no values and defines nothing is not documented. -/
theorem isDocumented_eq_false {s : Stmt} (hvalue : s.isValue = false)
    (hfunction : s.isFunction = false) (hclass : s.isClass = false) : s.isDocumented = false := by
  rw [isDocumented, hvalue, hfunction, hclass]
  rfl

end Syntax.Stmt

/-! ### Cuts -/

/-- **A cut of statements** into declarations: pieces that follow one another, none of them empty
and all of them documented, with undocumented statements between. -/
inductive Cut : List Stmt → List Declaration → Prop
  | nil : Cut [] []
  | skip {ss : List Stmt} {ds : List Declaration} {s : Stmt} :
      Cut ss ds → s.isDocumented = false → Cut (ss ++ [s]) ds
  | declare {ss : List Stmt} {ds : List Declaration} {d : Declaration} :
      Cut ss ds → d.stmts ≠ [] → (∀ s ∈ d.stmts, s.isDocumented = true) →
        Cut (ss ++ d.stmts) (ds ++ [d])

namespace Cut

variable {ss : List Stmt} {ds : List Declaration} {d : Declaration}

/-- **The statements of the declarations** are the documented ones, in their order. -/
theorem flatMap_stmts (h : Cut ss ds) :
    ds.flatMap Declaration.stmts = ss.filter Stmt.isDocumented := by
  induction h with
  | nil => rfl
  | skip _ hs ih =>
    rw [List.filter_append, List.filter_singleton, hs, ih]
    exact (List.append_nil _).symm
  | declare _ _ hd ih =>
    rw [List.filter_append, List.filter_eq_self.mpr hd, ← ih]
    simp

/-- **Each declaration stands in one piece** of the statements, behind what the declarations before
it document and before what those after it do. -/
theorem exists_piece (h : Cut ss ds) {before after : List Declaration}
    (hds : ds = before ++ d :: after) :
    d.stmts ≠ [] ∧ ∃ pre post, ss = pre ++ d.stmts ++ post ∧
      before.flatMap Declaration.stmts = pre.filter Stmt.isDocumented ∧
      after.flatMap Declaration.stmts = post.filter Stmt.isDocumented := by
  induction h generalizing after with
  | nil => simp at hds
  | @skip ss ds s _ hs ih =>
    obtain ⟨hne, pre, post, hss, hbefore, hafter⟩ := ih hds
    refine ⟨hne, pre, post ++ [s], ?_, hbefore, ?_⟩
    · rw [hss, List.append_assoc]
    · rw [List.filter_append, List.filter_singleton, hs, hafter]
      exact (List.append_nil _).symm
  | @declare ss ds e hcut hne hd ih =>
    rcases List.eq_nil_or_concat' after with rfl | ⟨after, e', rfl⟩
    · obtain ⟨rfl, rfl⟩ : ds = before ∧ e = d := by simpa using hds
      exact ⟨hne, ss, [], (List.append_nil _).symm, hcut.flatMap_stmts, rfl⟩
    · obtain ⟨hds', rfl⟩ : ds = before ++ d :: after ∧ e = e' := by
        have hsplit : ds ++ [e] = (before ++ d :: after) ++ [e'] := by rw [hds]; simp
        exact ⟨List.append_inj_left' hsplit rfl, by simpa using List.append_inj_right' hsplit rfl⟩
      obtain ⟨hne', pre, post, hss, hbefore, hafter⟩ := ih hds'
      refine ⟨hne', pre, post ++ e.stmts, ?_, hbefore, ?_⟩
      · rw [hss, List.append_assoc]
      · rw [List.filter_append, List.filter_eq_self.mpr hd, ← hafter]
        simp

end Cut

namespace Package

/-! ### One statement -/

/-- **Progress that cuts the statements gone through**: the declarations cut all but the last of
them, and those are the open group. -/
structure Progress.Cuts (ss : List Stmt) (p : Progress) : Prop where
  cut : ∃ before, ss = before ++ p.group.reverse ∧ Cut before p.declarations.reverse
  documented : ∀ s ∈ p.group, s.isDocumented = true

namespace Progress.Cuts

variable {ss : List Stmt} {s : Stmt} {cs : Comments} {p : Progress}

/-- With no group open the declarations cut everything. -/
theorem of_cut (hgroup : p.group = []) (h : Cut ss p.declarations.reverse) : p.Cuts ss := by
  refine ⟨⟨ss, ?_, h⟩, ?_⟩
  · rw [hgroup, List.reverse_nil, List.append_nil]
  · rw [hgroup]
    exact List.forall_mem_nil _

/-- **The open group becomes a declaration.** -/
theorem cut_group (h : p.Cuts ss) (hne : p.group ≠ []) (doc : Text) :
    Cut ss (p.declarations.reverse ++ [.values p.group.reverse doc]) := by
  obtain ⟨before, rfl, hcut⟩ := h.cut
  refine hcut.declare (d := .values p.group.reverse doc) ?_ ?_
  · exact fun hnil => hne (List.reverse_eq_nil_iff.mp hnil)
  · intro s hs
    exact h.documented s (List.mem_reverse.mp hs)

/-- Closing leaves no group open. -/
theorem group_close (cs : Comments) (p : Progress) : (p.close cs).group = [] := by
  unfold Progress.close
  split
  · next hempty => exact List.isEmpty_iff.mp hempty
  · rfl

/-- **Ending the group** leaves everything cut. -/
theorem close (h : p.Cuts ss) : Cut ss (p.close cs).declarations.reverse := by
  unfold Progress.close
  split
  · next hempty =>
    obtain ⟨before, hss, hcut⟩ := h.cut
    rw [List.isEmpty_iff.mp hempty, List.reverse_nil, List.append_nil] at hss
    rwa [hss]
  · next hempty =>
    have hne : p.group ≠ [] := fun hnil => hempty (List.isEmpty_iff.mpr hnil)
    rw [List.reverse_cons]
    exact h.cut_group hne _

/-- A statement that is not documented ends the group. -/
theorem skip (h : p.Cuts ss) (hs : s.isDocumented = false) : (p.close cs).Cuts (ss ++ [s]) :=
  of_cut (group_close cs p) (h.close.skip hs)

/-- Imports are not documented. -/
theorem bind {is : List Import} (h : p.Cuts ss) (hs : s.isDocumented = false) :
    (p.bind cs is).Cuts (ss ++ [s]) :=
  of_cut (group_close cs p) (h.close.skip hs)

/-- **A definition** is a declaration of its own if its name is public. -/
theorem declare {name : Text} {d : Declaration} (h : p.Cuts ss) (hd : d.stmts = [s])
    (hs : s.isDocumented = isPublic name) : (p.declare cs name d).Cuts (ss ++ [s]) := by
  unfold Progress.declare
  dsimp only
  split
  · next hpublic =>
    refine of_cut (group_close cs p) ?_
    rw [List.reverse_cons, ← hd]
    refine h.close.declare ?_ ?_
    · rw [hd]
      exact List.cons_ne_nil _ _
    · rw [hd]
      exact List.forall_mem_singleton.mpr (hs.trans hpublic)
  · next hprivate =>
    exact h.skip (hs.trans (Bool.eq_false_iff.mpr hprivate))

/-- A documented value joins the group, or begins the next one. -/
theorem push (h : p.Cuts ss) (hs : s.isDocumented = true) :
    Progress.Cuts (ss ++ [s]) { p with group := s :: p.group } := by
  obtain ⟨before, rfl, hcut⟩ := h.cut
  refine ⟨⟨before, ?_, hcut⟩, List.forall_mem_cons.mpr ⟨hs, h.documented⟩⟩
  rw [List.reverse_cons, List.append_assoc]

/-- **A statement that binds values** is put into a group if one of its names is public. -/
theorem addValue (h : p.Cuts ss) (hvalue : s.isValue = true) :
    (p.addValue cs s).Cuts (ss ++ [s]) := by
  have hdocumented := Stmt.isDocumented_of_isValue hvalue
  unfold Progress.addValue
  split
  · next hprivate =>
    refine h.skip ?_
    rw [hdocumented, List.any_eq_false]
    intro n hn hpublic
    simpa [hpublic] using List.all_eq_true.mp hprivate n hn
  · next hprivate =>
    have hpublic : s.isDocumented = true := by
      rw [hdocumented, List.any_eq_true]
      by_contra hnone
      refine hprivate (List.all_eq_true.mpr fun n hn => ?_)
      simpa using fun hn' => hnone ⟨n, hn, hn'⟩
    have hclosed : (p.close cs).Cuts ss := of_cut (group_close cs p) h.close
    refine push ?_ hpublic
    split
    · split
      · exact h
      · exact hclosed
    · exact h

/-- **One more statement** leaves what was gone through cut. A string documents the lone value
before it. -/
theorem step (h : p.Cuts ss) : (p.step cs s).Cuts (ss ++ [s]) := by
  unfold Progress.step
  split
  · exact h.bind rfl
  · exact h.bind rfl
  · exact h.declare rfl rfl
  · exact h.declare rfl rfl
  · next hfunction hclass =>
    split
    · next hvalue => exact h.addValue hvalue
    · next hvalue =>
      have hs : s.isDocumented = false := by
        refine Stmt.isDocumented_eq_false (Bool.eq_false_iff.mpr hvalue) ?_ ?_
        · cases s with
          | function => exact (hfunction _ _ _ _ _ _ _ rfl).elim
          | _ => rfl
        · cases s with
          | classDef => exact (hclass _ _ _ _ _ _ rfl).elim
          | _ => rfl
      split
      · next t v _ hgroup =>
        refine of_cut rfl ?_
        have hne : p.group ≠ [] := by
          rw [hgroup]
          exact List.cons_ne_nil _ _
        have hcut := h.cut_group hne (Prose.cleanDoc t)
        rw [hgroup] at hcut
        rw [List.reverse_cons]
        exact hcut.skip hs
      · exact h.skip hs

end Progress.Cuts

/-! ### All statements -/

/-- **The loader cuts what it goes through**, whatever it has gone through before. -/
theorem cuts_foldl_step (cs : Comments) {done : List Stmt} (ss : List Stmt) {p : Progress}
    (h : p.Cuts done) :
    (ss.foldl (Progress.step cs) p).Cuts (done ++ ss) := by
  induction ss generalizing done p with
  | nil => rwa [List.append_nil]
  | cons s ss ih =>
    have hstep : (p.step cs s).Cuts (done ++ [s]) := h.step
    have hrest := ih hstep
    rwa [List.append_assoc] at hrest

/-- **The declarations of a package cut its statements.** -/
theorem cut_ofStmts (path : Text) (cs : Comments) (ss : List Stmt) :
    Cut ss (ofStmts path cs ss).declarations := by
  have hstart : Progress.Cuts [] ⟨[], [], []⟩ := .of_cut rfl .nil
  have hend := cuts_foldl_step cs ss hstart
  exact hend.close

end Package

/-- The methods that are declarations of their own are functions of the class, in their order. -/
theorem Declaration.stmts_methods (cls : Stmt) :
    (Declaration.type cls).methods.map (fun m => (m.stmts, m.receiver)) =
      if cls.isProtocol then []
      else (cls.body.filter fun s => s.isFunction && isShownMethod s.definedName).map fun s =>
        ([s], some cls.definedName) := by
  simp only [Declaration.methods]
  split
  · rfl
  · rw [List.map_map]
    rfl

/-- A declaration that is no group of values has one statement. -/
theorem Declaration.length_stmts (d : Declaration) :
    d.stmts.length = 1 ∨ ∃ group doc, d = .values group doc := by
  cases d with
  | values group doc => exact .inr ⟨group, doc, rfl⟩
  | type => exact .inl rfl
  | function => exact .inl rfl

/-- **Nothing public is lost, declared twice or moved.** The declarations of a module hold its
documented statements, in their order. Each stands in one piece of the module, behind all that is
declared before it and before all that is declared after it, and it has more than one statement only
if it is a group of values. The methods of a class are the functions that it shows. -/
theorem Package.declarations_ofStmts (path : Text) (cs : Comments) (ss : List Stmt) :
    (ofStmts path cs ss).declarations.flatMap Declaration.stmts = ss.filter Stmt.isDocumented ∧
    (∀ before d after, (ofStmts path cs ss).declarations = before ++ d :: after →
      d.stmts ≠ [] ∧ (d.stmts.length = 1 ∨ ∃ group doc, d = .values group doc) ∧
      ∃ pre post, ss = pre ++ d.stmts ++ post ∧
        before.flatMap Declaration.stmts = pre.filter Stmt.isDocumented ∧
        after.flatMap Declaration.stmts = post.filter Stmt.isDocumented) ∧
    ∀ cls, .type cls ∈ (ofStmts path cs ss).declarations →
      (Declaration.type cls).methods.map (fun m => (m.stmts, m.receiver)) =
        if cls.isProtocol then []
        else (cls.body.filter fun s => s.isFunction && isShownMethod s.definedName).map fun s =>
          ([s], some cls.definedName) := by
  have hcut := cut_ofStmts path cs ss
  refine ⟨hcut.flatMap_stmts, ?_, fun cls _ => Declaration.stmts_methods cls⟩
  intro before d after hds
  obtain ⟨hne, hpiece⟩ := hcut.exists_piece hds
  exact ⟨hne, d.length_stmts, hpiece⟩

/-- A function, two values in adjacent lines, a private one, and a class with a method. -/
def groupedModule : Text :=
  Text.of "def f(): pass\n\na = 1\nb = 2\n_c = 3\nclass D:\n    def m(self): pass\n"

/-- The two values are one declaration. -/
theorem exists_groupedModule :
    ∃ p first group doc cls, Package.ofSource (Text.of "m") groupedModule = .ok p ∧
      p.declarations = [first, .values group doc, .type cls] ∧ group.length = 2 := by
  have hcheck : (Package.ofSource (Text.of "m") groupedModule).toOption.any (fun p =>
      p.declarations.map (fun d => (d.stmts.length, d.methods.length)) ==
        [(1, 0), (2, 0), (1, 1)]) = true := by
    decide +kernel
  obtain ⟨p, hp, hcheck⟩ := (Option.any_eq_true _ _).mp hcheck
  obtain ⟨first, ds, hds, -, hcheck⟩ := List.map_eq_cons_iff.mp (eq_of_beq hcheck)
  obtain ⟨second, ds, rfl, hsecond, hcheck⟩ := List.map_eq_cons_iff.mp hcheck
  obtain ⟨third, ds, rfl, hthird, hcheck⟩ := List.map_eq_cons_iff.mp hcheck
  obtain rfl := List.map_eq_nil_iff.mp hcheck
  have hlength := (Prod.mk.inj hsecond).1
  have hmethods := (Prod.mk.inj hthird).2
  cases second with
  | type | function => cases hlength
  | values group doc =>
    cases third with
    | values | function => cases hmethods
    | type cls => exact ⟨p, first, group, doc, cls, eq_ok_of_toOption hp, hds, hlength⟩

/-- Two values in a group, and a class with a method. -/
theorem declarations_ofStmts_groupedModule :
    ∃ ss cs before group doc after cls, parseModule groupedModule = .ok ss ∧
      (Package.ofStmts (Text.of "m") cs ss).declarations =
        before ++ .values group doc :: after ∧
      before ≠ [] ∧ group.length = 2 ∧
      .type cls ∈ (Package.ofStmts (Text.of "m") cs ss).declarations ∧
      (∃ pre post, ss = pre ++ group ++ post ∧
        before.flatMap Declaration.stmts = pre.filter Stmt.isDocumented ∧
        after.flatMap Declaration.stmts = post.filter Stmt.isDocumented) ∧
      (Declaration.type cls).methods.map (fun m => (m.stmts, m.receiver)) =
        if cls.isProtocol then []
        else (cls.body.filter fun s => s.isFunction && isShownMethod s.definedName).map fun s =>
          ([s], some cls.definedName) := by
  obtain ⟨p, first, group, doc, cls, hp, hds, hlength⟩ := exists_groupedModule
  obtain ⟨ss, cs, hss, -, rfl⟩ := Package.exists_of_ofSource hp
  obtain ⟨-, hpieces, hmethods⟩ := Package.declarations_ofStmts (Text.of "m") cs ss
  obtain ⟨-, -, hpiece⟩ := hpieces [first] (.values group doc) [.type cls] hds
  have hcls : .type cls ∈ (Package.ofStmts (Text.of "m") cs ss).declarations := by
    rw [hds]
    simp
  exact ⟨ss, cs, [first], group, doc, [.type cls], cls, hss, hds, List.cons_ne_nil _ _, hlength,
    hcls, hpiece, hmethods cls hcls⟩

end ApiPage
