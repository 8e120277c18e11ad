import ApiPage.Proofs.Elided
import ApiPage.Proofs.Outlines
import ApiPage.Proofs.RepeatedElision

/-!
# Large literals

Elision looks at the value of an assignment, or at the items of a tuple that is unpacked, and leaves
every expression alone that is no literal beyond the limits. What it leaves out of a statement is
noted there, and printed behind it.

## Conventions

A tree is said to be within limits through the list of all statements in it, at any depth and in
their order. A run over a tree gives each of them what a run over it alone gives.

## Main definitions

* `blockStatements`: the statements of a block, at any depth.
* `Stmt.values`: the values of an assignment that are looked at.
* `Stmt.Shortened`: an assignment and what elision makes of it.

## Main results

* `traced_elideBlock`: a run over a block is a run over each of its statements.
* `elideBlock_shortens`: literals beyond the limits are emptied, noted and announced, and no others.
-/

namespace ApiPage

open Syntax

/-- What a literal beyond the limits is noted with. -/
def Limits.oversize? (l : Limits) (e : Expr) : Option Elision := e.extent?.filter l.excludes

namespace Syntax

variable {l : Limits}

/-! ### The statements of a tree -/

mutual

/-- The statements inside a statement, at any depth. -/
def Stmt.inner : Stmt → List Stmt
  | .function _ _ _ _ body _ _ => blockStatements body
  | .classDef _ _ _ _ body _ => blockStatements body
  | .forLoop _ _ _ _ body orElse => blockStatements body ++ blockStatements orElse
  | .whileLoop _ _ body orElse => blockStatements body ++ blockStatements orElse
  | .cond _ _ body orElse => blockStatements body ++ blockStatements orElse
  | .withBlock _ _ _ body => blockStatements body
  | .matchOn _ _ cases => caseStatements cases
  | .tryBlock _ _ body handlers orElse finalBody =>
    blockStatements body ++
      (handlerStatements handlers ++ (blockStatements orElse ++ blockStatements finalBody))
  | _ => []

/-- **The statements of a block**, at any depth and in their order. -/
def blockStatements : List Stmt → List Stmt
  | [] => []
  | s :: ss => s :: s.inner ++ blockStatements ss

/-- The statements of handlers. -/
def handlerStatements : List Handler → List Stmt
  | [] => []
  | .mk _ _ body :: hs => blockStatements body ++ handlerStatements hs

/-- The statements of cases. -/
def caseStatements : List Case → List Stmt
  | [] => []
  | .mk _ _ body :: cs => blockStatements body ++ caseStatements cs

end

/-- A statement and those inside it. -/
def Stmt.statements (s : Stmt) : List Stmt := s :: s.inner

/-- An assignment has no statements inside. -/
theorem Stmt.inner_of_assignment {s : Stmt} (h : s.sort = .assignment) : s.inner = [] := by
  cases s with
  | assign | annAssign => rfl
  | _ => cases h

/-! ### A run over a tree -/

/-- **A run is traced to the statements of a tree**: it gives to each what a run over it gives, and
changes nothing if that changes no assignment; or it fails as a run over one assignment does. -/
def Traced (l : Limits) {α : Type} (parts : α → List Stmt) (x : α) :
    Except EncodingError α → Prop
  | .ok x' => List.Forall₂ (fun s s' => s.elide l = .ok s') (parts x) (parts x') ∧
      ((∀ s ∈ parts x, s.sort = .assignment → s.elide l = .ok s) → x' = x)
  | .error e => ∃ s ∈ parts x, s.sort = .assignment ∧ s.elide l = .error e

namespace Traced

variable {α β : Type} {parts : α → List Stmt} {parts' : β → List Stmt} {x : α} {y : β}
  {run : Limits → α → Except EncodingError α} {run' : Limits → β → Except EncodingError β}

/-- Where there is no statement. -/
theorem nil (h : parts x = []) : Traced l parts x (.ok x) := by
  refine ⟨?_, fun _ => rfl⟩
  rw [h]
  exact .nil

/-- Two parts, each of which is traced. -/
theorem both (hx : Traced l parts x (run l x)) (hy : Traced l parts' y (run' l y)) :
    Traced l (fun p => parts p.1 ++ parts' p.2) (x, y) (runBoth run run' l (x, y)) := by
  rw [runBoth]
  cases hrun : run l x with
  | error e =>
    rw [hrun] at hx
    obtain ⟨s, hs, hfails⟩ := hx
    exact ⟨s, List.mem_append_left _ hs, hfails⟩
  | ok x' =>
    rw [hrun] at hx
    cases hrun' : run' l y with
    | error e =>
      rw [hrun'] at hy
      obtain ⟨s, hs, hfails⟩ := hy
      exact ⟨s, List.mem_append_right _ hs, hfails⟩
    | ok y' =>
      rw [hrun'] at hy
      refine ⟨List.rel_append hx.1 hy.1, fun hkept => ?_⟩
      obtain ⟨hkept, hkept'⟩ := List.forall_mem_append.mp hkept
      rw [hx.2 hkept, hy.2 hkept']

/-- A run that goes on in a part whose statements are all there are. -/
theorem map (build : α → β) (hbuild : build x = y) (hx : Traced l parts x (run l x))
    (hrun : ∀ x, run' l (build x) = do return build (← run l x))
    (hparts : ∀ x, parts' (build x) = parts x) : Traced l parts' y (run' l y) := by
  subst hbuild
  rw [hrun]
  cases h : run l x with
  | error e =>
    rw [h] at hx
    obtain ⟨s, hs, hfails⟩ := hx
    exact ⟨s, hparts x ▸ hs, hfails⟩
  | ok x' =>
    rw [h] at hx
    refine ⟨?_, fun hkept => ?_⟩
    · rw [hparts, hparts]
      exact hx.1
    · rw [hparts] at hkept
      rw [hx.2 hkept]

/-- **A statement with others inside**. -/
theorem compound {s : Stmt} (build : α → Stmt) (hbuild : build x = s)
    (hx : Traced l parts x (run l x))
    (hrun : ∀ x, (build x).elide l = do return build (← run l x))
    (hinner : ∀ x, (build x).inner = parts x) : Traced l Stmt.statements s (s.elide l) := by
  subst hbuild
  have hwhole := hrun x
  cases h : run l x with
  | error e =>
    rw [h] at hx hwhole
    obtain ⟨s, hs, hfails⟩ := hx
    rw [hwhole]
    exact ⟨s, List.mem_cons_of_mem _ (hinner x ▸ hs), hfails⟩
  | ok x' =>
    rw [h] at hx hwhole
    have hok : (build x).elide l = .ok (build x') := hwhole
    rw [hok]
    refine ⟨.cons hok ?_, fun hkept => ?_⟩
    · rw [hinner, hinner]
      exact hx.1
    · rw [hx.2 fun s hs => hkept s (List.mem_cons_of_mem _ (hinner x ▸ hs))]

/-- A statement that a run keeps, with none inside. -/
theorem kept {s : Stmt} (h : s.elide l = .ok s) (hinner : s.inner = []) :
    Traced l Stmt.statements s (s.elide l) := by
  rw [h]
  refine ⟨.cons h ?_, fun _ => rfl⟩
  rw [hinner]
  exact .nil

/-- An assignment is one statement, traced by itself. -/
theorem assignment {s : Stmt} (h : s.sort = .assignment) :
    Traced l Stmt.statements s (s.elide l) := by
  cases hrun : s.elide l with
  | error e => exact ⟨s, List.mem_cons_self, h, hrun⟩
  | ok s' =>
    have h' : s'.sort = .assignment := (yields_sort l s s' hrun).trans h
    refine ⟨.cons hrun ?_, fun hkept => ?_⟩
    · rw [Stmt.inner_of_assignment h, Stmt.inner_of_assignment h']
      exact .nil
    · exact Except.ok.inj (hrun.symm.trans (hkept s List.mem_cons_self h))

end Traced

mutual

/-- **A run over a statement** is traced to those inside it. -/
theorem traced_elide (l : Limits) : ∀ s : Stmt, Traced l Stmt.statements s (s.elide l)
  | .assign .. => .assignment rfl
  | .annAssign .. => .assignment rfl
  | .function s isAsync name params body decorators returns =>
    .compound (fun b => .function s isAsync name params b decorators returns) rfl
      (traced_elideBlock l body) (fun _ => by rw [Stmt.elide]) fun _ => by rw [Stmt.inner]
  | .classDef s name bases keywords body decorators =>
    .compound (fun b => .classDef s name bases keywords b decorators) rfl
      (traced_elideBlock l body) (fun _ => by rw [Stmt.elide]) fun _ => by rw [Stmt.inner]
  | .forLoop s isAsync target iter body orElse =>
    .compound (fun p => .forLoop s isAsync target iter p.1 p.2) rfl
      (.both (traced_elideBlock l body) (traced_elideBlock l orElse))
      (fun _ => by simp only [Stmt.elide, runBoth, bind_assoc, pure_bind])
      fun _ => by rw [Stmt.inner]
  | .whileLoop s test body orElse =>
    .compound (fun p => .whileLoop s test p.1 p.2) rfl
      (.both (traced_elideBlock l body) (traced_elideBlock l orElse))
      (fun _ => by simp only [Stmt.elide, runBoth, bind_assoc, pure_bind])
      fun _ => by rw [Stmt.inner]
  | .cond s test body orElse =>
    .compound (fun p => .cond s test p.1 p.2) rfl
      (.both (traced_elideBlock l body) (traced_elideBlock l orElse))
      (fun _ => by simp only [Stmt.elide, runBoth, bind_assoc, pure_bind])
      fun _ => by rw [Stmt.inner]
  | .withBlock s isAsync items body =>
    .compound (fun b => .withBlock s isAsync items b) rfl (traced_elideBlock l body)
      (fun _ => by rw [Stmt.elide]) fun _ => by rw [Stmt.inner]
  | .matchOn s subject cases =>
    .compound (fun cs => .matchOn s subject cs) rfl (traced_elideCases l cases)
      (fun _ => by rw [Stmt.elide]) fun _ => by rw [Stmt.inner]
  | .tryBlock s isGroup body handlers orElse finalBody =>
    .compound (fun p => .tryBlock s isGroup p.1 p.2.1 p.2.2.1 p.2.2.2) rfl
      (.both (traced_elideBlock l body) (.both (traced_elideHandlers l handlers)
        (.both (traced_elideBlock l orElse) (traced_elideBlock l finalBody))))
      (fun _ => by simp only [Stmt.elide, runBoth, bind_assoc, pure_bind])
      fun _ => by rw [Stmt.inner]
  | .ret .. => .kept rfl rfl
  | .delete .. => .kept rfl rfl
  | .augAssign .. => .kept rfl rfl
  | .raise .. => .kept rfl rfl
  | .assert .. => .kept rfl rfl
  | .importNames .. => .kept rfl rfl
  | .importFrom .. => .kept rfl rfl
  | .globals .. => .kept rfl rfl
  | .nonlocals .. => .kept rfl rfl
  | .expr .. => .kept rfl rfl
  | .pass _ => .kept rfl rfl
  | .breakLoop _ => .kept rfl rfl
  | .continueLoop _ => .kept rfl rfl

/-- **A run over a block** is traced to its statements. -/
theorem traced_elideBlock (l : Limits) :
    ∀ ss : List Stmt, Traced l blockStatements ss (elideBlock l ss)
  | [] => .nil rfl
  | s :: ss =>
    .map (fun p => p.1 :: p.2) rfl (.both (traced_elide l s) (traced_elideBlock l ss))
      (fun _ => by simp only [elideBlock, runBoth, bind_assoc, pure_bind])
      fun _ => by rw [blockStatements]; rfl

/-- The handlers of a `try`. -/
theorem traced_elideHandlers (l : Limits) :
    ∀ hs : List Handler, Traced l handlerStatements hs (elideHandlers l hs)
  | [] => .nil rfl
  | .mk type name body :: hs =>
    .map (fun p => .mk type name p.1 :: p.2) rfl
      (.both (traced_elideBlock l body) (traced_elideHandlers l hs))
      (fun _ => by simp only [elideHandlers, runBoth, bind_assoc, pure_bind])
      fun _ => by rw [handlerStatements]

/-- The cases of a `match`. -/
theorem traced_elideCases (l : Limits) :
    ∀ cs : List Case, Traced l caseStatements cs (elideCases l cs)
  | [] => .nil rfl
  | .mk pattern guard body :: cs =>
    .map (fun p => .mk pattern guard p.1 :: p.2) rfl
      (.both (traced_elideBlock l body) (traced_elideCases l cs))
      (fun _ => by simp only [elideCases, runBoth, bind_assoc, pure_bind])
      fun _ => by rw [caseStatements]

end

/-! ### Values of assignments -/

/-- **A value within limits**: the empty literal of its kind if it is beyond them. -/
def Expr.within (l : Limits) (e : Expr) : Expr :=
  if (l.oversize? e).isSome then e.emptied else e

/-- The values of an assigned value that are looked at: the items of a tuple that is unpacked, or
the value as a whole. -/
def assignedValues (targets : List Expr) (value : Expr) : List Expr :=
  match targets, value with
  | [.tuple _ ts], .tuple _ es => if ts.length = es.length then es else [value]
  | _, _ => [value]

/-- **The values of an assignment** that are looked at. -/
def Stmt.values : Stmt → List Expr
  | .assign _ targets value _ => assignedValues targets value
  | .annAssign _ _ _ value _ _ => value.toList
  | _ => []

/-- **An assignment shortened**: its values are within limits, and what was beyond them is noted
from left to right. -/
inductive Stmt.Shortened (l : Limits) : Stmt → Stmt → Prop
  | unpacked {s s' s'' : Span} {ts es : List Expr} {ns : List Elision} :
      ts.length = es.length →
        Stmt.Shortened l (.assign s [.tuple s' ts] (.tuple s'' es) ns)
          (.assign s [.tuple s' ts] (.tuple s'' (es.map (Expr.within l)))
            (ns ++ es.filterMap l.oversize?))
  | whole {s : Span} {targets : List Expr} {value : Expr} {ns : List Elision} :
      ¬ Unpacks targets value →
        Stmt.Shortened l (.assign s targets value ns)
          (.assign s targets (value.within l) (ns ++ (l.oversize? value).toList))
  | annotated {s : Span} {target hint : Expr} {value : Option Expr} {simple : Bool}
      {ns : List Elision} :
      Stmt.Shortened l (.annAssign s target hint value simple ns)
        (.annAssign s target hint (value.map (Expr.within l)) simple
          (ns ++ (value.bind l.oversize?).toList))

/-- **A value that can be measured** is shortened within the limits, with a note if it is oversized.
-/
theorem Expr.elide_eq_within {e : Expr} (h : ∀ codes ∈ e.strings, IsEncodable codes) :
    e.elide l = .ok (e.within l, (l.oversize? e).toList) := by
  rw [Expr.elide_eq h, Expr.within, Limits.oversize?]
  cases e.extent? with
  | none => rfl
  | some n => cases hn : l.excludes n <;> simp [Option.filter, hn]

/-- So are several values, with a note for each that is oversized. -/
theorem elideAll_eq_within {es : List Expr} (h : ∀ e ∈ es, ∀ codes ∈ e.strings, IsEncodable codes) :
    elideAll l es = .ok (es.map (Expr.within l), es.filterMap l.oversize?) := by
  induction es with
  | nil => rfl
  | cons e es ih =>
    obtain ⟨he, hes⟩ := List.forall_mem_cons.mp h
    rw [elideAll, Expr.elide_eq_within he, ih hes, List.map_cons, List.filterMap_cons]
    cases l.oversize? e <;> rfl

/-- A value that is not unpacked is one value. -/
theorem assignedValues_of_not_unpacks {targets : List Expr} {value : Expr}
    (h : ¬ Unpacks targets value) : assignedValues targets value = [value] := by
  unfold assignedValues
  split
  · next s ts s' es =>
    exact if_neg fun hlength => h ⟨s, ts, s', es, rfl, rfl, hlength⟩
  · rfl

/-- **A run over an assignment** shortens it. -/
theorem Stmt.exists_shortened {s : Stmt} (h : s.sort = .assignment)
    (hstrings : ∀ v ∈ s.values, ∀ codes ∈ v.strings, IsEncodable codes) :
    ∃ s', s.elide l = .ok s' ∧ s.Shortened l s' := by
  cases s with
  | assign s targets value ns =>
    by_cases hunpacks : Unpacks targets value
    · obtain ⟨s', ts, s'', es, rfl, rfl, hlength⟩ := hunpacks
      have hvalues : assignedValues [.tuple s' ts] (.tuple s'' es) = es := if_pos hlength
      rw [Stmt.values, hvalues] at hstrings
      refine ⟨_, ?_, .unpacked hlength⟩
      rw [Stmt.elide, elideAssigned_tuple hlength, elideAll_eq_within hstrings]
      rfl
    · rw [Stmt.values, assignedValues_of_not_unpacks hunpacks] at hstrings
      refine ⟨_, ?_, .whole hunpacks⟩
      rw [Stmt.elide, elideAssigned_of_not_unpacks hunpacks,
        Expr.elide_eq_within (hstrings value List.mem_cons_self)]
      rfl
  | annAssign s target hint value simple ns =>
    refine ⟨_, ?_, .annotated⟩
    cases value with
    | none =>
      have hnil : ns ++ ((none : Option Expr).bind l.oversize?).toList = ns := List.append_nil ns
      rw [hnil]
      rfl
    | some value =>
      rw [Stmt.elide, Expr.elide_eq_within (hstrings value List.mem_cons_self)]
      rfl
  | _ => cases h

/-! ### Notes in print -/

/-- A statement without its notes. -/
def Stmt.unnoted : Stmt → Stmt
  | .assign s targets value _ => .assign s targets value []
  | .annAssign s target hint value simple _ => .annAssign s target hint value simple []
  | s => s

/-- What stands behind a statement: the comment of the source, and then its notes. -/
def remarks (comment : Option Text) (ns : List Elision) : Text :=
  comment.elim [] (Text.of "  " ++ ·) ++ ns.flatMap fun n => Text.of "  # " ++ n.note

/-- Notes are no part of the text of a statement. -/
theorem Stmt.toText_unnoted (s : Stmt) : s.unnoted.toText = s.toText := by
  cases s <;> rfl

/-- The lines of a text make up the text. -/
theorem joinLines_lines (t : Text) : Text.joinLines (Text.lines t) = t := by
  have h := Display.joinLines_map_lines [] t
  rw [Display.deepened_nil] at h
  simpa using h

/-- **A statement in print**: its text without notes, and behind it the comment of the source and
each note once. -/
theorem joinLines_statement (cs : Comments) (s : Stmt) :
    (Display.statement cs s).map Text.joinLines =
      s.unnoted.toText.map (· ++ remarks (cs.trailing? s.endRow) s.elided) := by
  rw [Stmt.toText_unnoted, Display.statement]
  cases s.toText with
  | error e => rfl
  | ok t =>
    have hremarks : Display.trailing cs s = remarks (cs.trailing? s.endRow) s.elided := by
      have hmark (n : Elision) : Text.of "  " ++ (Text.of "# " ++ n.note) =
        Text.of "  # " ++ n.note := rfl
      rw [Display.trailing, remarks, List.flatMap_append, List.flatMap_map]
      simp only [hmark]
      cases cs.trailing? s.endRow <;> simp
    have hlines : Text.joinLines (Display.extendLast (Display.trailing cs s) (Text.lines t)) =
        t ++ Display.trailing cs s := by
      have hne : Text.lines t ≠ [] := Text.splitBy_ne_nil _ t
      rw [Display.joinLines_extendLast _ hne, joinLines_lines]
    exact congrArg Except.ok (hlines.trans (congrArg (t ++ ·) hremarks))

/-! ### Blocks -/

/-- The strings that are measured in a block. -/
def measuredStrings (ss : List Stmt) : List (List Nat) :=
  (blockStatements ss).flatMap fun s => s.values.flatMap Expr.strings

/-- What is measured is a string of a value of some statement, at any depth. -/
theorem mem_measuredStrings {ss : List Stmt} {codes : List Nat} :
    codes ∈ measuredStrings ss ↔ ∃ s ∈ blockStatements ss, ∃ v ∈ s.values, codes ∈ v.strings := by
  simp only [measuredStrings, List.mem_flatMap]

/-- **An assignment announced**: it is shortened, and in print it is its own text without notes,
behind which stand the comment of the source and the notes. -/
structure Stmt.Announced (l : Limits) (s s' : Stmt) : Prop where
  shortened : s.Shortened l s'
  printed : ∀ cs : Comments, (Display.statement cs s').map Text.joinLines =
    s'.unnoted.toText.map (· ++ remarks (cs.trailing? s.endRow) s'.elided)

/-- A statement that is shortened is announced by its notes. -/
theorem Stmt.Shortened.announced {s s' : Stmt} (h : s.Shortened l s') : s.Announced l s' := by
  refine ⟨h, fun cs => ?_⟩
  have hrow : s'.endRow = s.endRow := by cases h <;> rfl
  rw [joinLines_statement, hrow]

/-- **Literals beyond the limits are emptied and announced, and no others.** Wherever an assignment
stands, elision shortens it, and it is printed with its notes behind it, each once. -/
theorem elideBlock_shortens (l : Limits) {ss : List Stmt}
    (hstrings : ∀ codes ∈ measuredStrings ss, IsEncodable codes) :
    ∃ ss', elideBlock l ss = .ok ss' ∧
      List.Forall₂ (fun s s' => s.sort = .assignment → s.Announced l s')
        (blockStatements ss) (blockStatements ss') := by
  have hmeasured : ∀ s ∈ blockStatements ss, ∀ v ∈ s.values, ∀ codes ∈ v.strings,
      IsEncodable codes := fun s hs v hv codes hcodes =>
    hstrings codes (mem_measuredStrings.mpr ⟨s, hs, v, hv, hcodes⟩)
  have htraced := traced_elideBlock l ss
  cases hrun : elideBlock l ss with
  | error e =>
    rw [hrun] at htraced
    obtain ⟨s, hs, hsort, herror⟩ := htraced
    obtain ⟨s', hs', -⟩ := Stmt.exists_shortened (l := l) hsort (hmeasured s hs)
    cases herror.symm.trans hs'
  | ok ss' =>
    rw [hrun] at htraced
    refine ⟨ss', rfl, ?_⟩
    have hall := (List.forall₂_and_left _ _).mpr ⟨hmeasured, htraced.1⟩
    refine hall.imp fun s s' ⟨hs, hrun⟩ hsort => ?_
    obtain ⟨u, hu, hshort⟩ := Stmt.exists_shortened hsort hs
    obtain rfl := Except.ok.inj (hrun.symm.trans hu)
    exact hshort.announced

/-- Two strings that are unpacked, and a class with a set. -/
def nestedLiterals : List Stmt :=
  unpackedStrings ++ [.classDef default ['C'] [] []
    [.assign default [.name default ['s'] .store]
      (.set default [.constant default (.int 1), .constant default (.int 2)]) []] []]

/-- The longer string and the set are announced. -/
theorem elideBlock_shortens_nestedLiterals :
    ∃ ss', elideBlock ⟨3, 1⟩ nestedLiterals = .ok ss' ∧
      List.Forall₂ (fun s s' => s.sort = .assignment → s.Announced ⟨3, 1⟩ s')
        (blockStatements nestedLiterals) (blockStatements ss') ∧
      (blockStatements ss').map Stmt.elided = [[.bytes 4], [], [.elements 2]] := by
  have hstrings : ∀ codes ∈ measuredStrings nestedLiterals, IsEncodable codes := by
    unfold IsEncodable
    decide
  obtain ⟨ss', hss', hannounced⟩ := elideBlock_shortens ⟨3, 1⟩ hstrings
  refine ⟨ss', hss', hannounced, ?_⟩
  obtain rfl := Except.ok.inj hss'
  rfl

end Syntax
end ApiPage
