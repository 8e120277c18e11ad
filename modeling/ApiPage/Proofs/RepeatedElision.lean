import Mathlib.Data.List.Perm.Basic
import ApiPage.Proofs.Displayed

/-!
# Elision that is repeated

A statement that was cut to some limits may be cut to others. What the first run leaves out it
leaves as an empty literal, and that is within any limits, so the second run leaves out what the
first did not. Both together leave out what one run does to the lesser of the limits.

The values of a tuple that is unpacked are cut one by one, and the two runs need not note them in
the order in which the one run does.

## Main definitions

* `Limits.least`: the limits that hold if two do.
* `Stmt.Alike`: statements that differ in the order of their notes alone.
* `blockStrings`: the strings of a block that are measured.

## Main results

* `Expr.elide_eq`: a value is emptied or kept by its extent.
* `reduces_elideAssigned`: two runs over the value of an assignment.
* `elideBlock_elideBlock`: two runs over statements are one, and a second run to limits that are no
  narrower changes nothing.
-/

namespace ApiPage

open Syntax

/-! ### Limits -/

namespace Limits

variable {l m : Limits} {n : Elision}

/-- **The limits that hold if both do**. -/
def least (l m : Limits) : Limits := ⟨min l.stringSize m.stringSize, min l.elements m.elements⟩

/-- Limits that are sizes. -/
structure IsNatural (l : Limits) : Prop where
  stringSize : 0 ≤ l.stringSize
  elements : 0 ≤ l.elements

/-- Limits that allow no more than others. -/
structure Narrower (l m : Limits) : Prop where
  stringSize : l.stringSize ≤ m.stringSize
  elements : l.elements ≤ m.elements

/-- What is larger than the limits. -/
def excludes (l : Limits) : Elision → Bool
  | .bytes n => l.stringSize < n
  | .elements n => l.elements < n

/-- The least of two limits exclude what either does. -/
theorem excludes_least (l m : Limits) (n : Elision) :
    (l.least m).excludes n = (l.excludes n || m.excludes n) := by
  cases n <;> simp [excludes, least]

/-- Narrower limits exclude what wider ones do. -/
theorem Narrower.excludes (h : l.Narrower m) (hn : m.excludes n = true) : l.excludes n = true := by
  cases n with
  | bytes n => exact decide_eq_true (h.stringSize.trans_lt (of_decide_eq_true hn))
  | elements n => exact decide_eq_true (h.elements.trans_lt (of_decide_eq_true hn))

end Limits

/-! ### Strings that are measured -/

/-- A string with a UTF-8 form. -/
def IsEncodable (codes : List Nat) : Prop := ∀ n ∈ codes, isSurrogate n = false

/-- **The size of a string in UTF-8**, if it has one. -/
def utf8Bytes (codes : List Nat) : Nat := (codes.map Text.byteSizeOf).foldr (· + ·) 0

/-- A string that can be encoded has a size. -/
theorem utf8Size_of_isEncodable {codes : List Nat} (h : IsEncodable codes) :
    utf8Size codes = .ok (utf8Bytes codes) := by
  have hall : codes.takeWhile (!isSurrogate ·) = codes :=
    List.takeWhile_eq_self_iff.mpr fun n hn => by simp [h n hn]
  rw [utf8Size]
  simp only [hall, List.drop_length, utf8Bytes]

namespace Syntax

/-- The string that an expression is. -/
def Expr.strings : Expr → List (List Nat)
  | .constant _ (.str codes _) => [codes]
  | _ => []

/-- The strings of an assigned value that may be measured: those of its items if it is a tuple. -/
def Expr.assignedStrings : Expr → List (List Nat)
  | .tuple _ es => es.flatMap Expr.strings
  | e => e.strings

mutual

/-- The strings of a statement that may be measured. -/
def Stmt.strings : Stmt → List (List Nat)
  | .assign _ _ value _ => value.assignedStrings
  | .annAssign _ _ _ (some value) _ _ => value.strings
  | .function _ _ _ _ body _ _ => blockStrings body
  | .classDef _ _ _ _ body _ => blockStrings body
  | .forLoop _ _ _ _ body orElse => blockStrings body ++ blockStrings orElse
  | .whileLoop _ _ body orElse => blockStrings body ++ blockStrings orElse
  | .cond _ _ body orElse => blockStrings body ++ blockStrings orElse
  | .withBlock _ _ _ body => blockStrings body
  | .matchOn _ _ cases => caseStrings cases
  | .tryBlock _ _ body handlers orElse finalBody =>
    blockStrings body ++ handlerStrings handlers ++ blockStrings orElse ++ blockStrings finalBody
  | _ => []

/-- **The strings of a block** that may be measured. -/
def blockStrings : List Stmt → List (List Nat)
  | [] => []
  | s :: ss => s.strings ++ blockStrings ss

/-- The strings of handlers that may be measured. -/
def handlerStrings : List Handler → List (List Nat)
  | [] => []
  | .mk _ _ body :: hs => blockStrings body ++ handlerStrings hs

/-- The strings of cases that may be measured. -/
def caseStrings : List Case → List (List Nat)
  | [] => []
  | .mk _ _ body :: cs => blockStrings body ++ caseStrings cs

end

/-! ### Statements that are alike -/

mutual

/-- **Statements that are alike**: the same, but for the order of the notes in them. -/
inductive Stmt.Alike : Stmt → Stmt → Prop
  | refl (s : Stmt) : Stmt.Alike s s
  | assign {s : Span} {targets : List Expr} {value : Expr} {ns ms : List Elision} :
      ns.Perm ms → Stmt.Alike (.assign s targets value ns) (.assign s targets value ms)
  | annAssign {s : Span} {target hint : Expr} {value : Option Expr} {simple : Bool}
      {ns ms : List Elision} :
      ns.Perm ms →
        Stmt.Alike (.annAssign s target hint value simple ns)
          (.annAssign s target hint value simple ms)
  | function {s : Span} {isAsync : Bool} {name : Text} {params : Params} {body body' : List Stmt}
      {decorators : List Expr} {returns : Option Expr} :
      BlockAlike body body' →
        Stmt.Alike (.function s isAsync name params body decorators returns)
          (.function s isAsync name params body' decorators returns)
  | classDef {s : Span} {name : Text} {bases : List Expr} {keywords : List Keyword}
      {body body' : List Stmt} {decorators : List Expr} :
      BlockAlike body body' →
        Stmt.Alike (.classDef s name bases keywords body decorators)
          (.classDef s name bases keywords body' decorators)
  | forLoop {s : Span} {isAsync : Bool} {target iter : Expr}
      {body body' orElse orElse' : List Stmt} :
      BlockAlike body body' → BlockAlike orElse orElse' →
        Stmt.Alike (.forLoop s isAsync target iter body orElse)
          (.forLoop s isAsync target iter body' orElse')
  | whileLoop {s : Span} {test : Expr} {body body' orElse orElse' : List Stmt} :
      BlockAlike body body' → BlockAlike orElse orElse' →
        Stmt.Alike (.whileLoop s test body orElse) (.whileLoop s test body' orElse')
  | cond {s : Span} {test : Expr} {body body' orElse orElse' : List Stmt} :
      BlockAlike body body' → BlockAlike orElse orElse' →
        Stmt.Alike (.cond s test body orElse) (.cond s test body' orElse')
  | withBlock {s : Span} {isAsync : Bool} {items : List (Expr × Option Expr)}
      {body body' : List Stmt} :
      BlockAlike body body' →
        Stmt.Alike (.withBlock s isAsync items body) (.withBlock s isAsync items body')
  | matchOn {s : Span} {subject : Expr} {cases cases' : List Case} :
      CasesAlike cases cases' → Stmt.Alike (.matchOn s subject cases) (.matchOn s subject cases')
  | tryBlock {s : Span} {isGroup : Bool} {handlers handlers' : List Handler}
      {body body' orElse orElse' finalBody finalBody' : List Stmt} :
      BlockAlike body body' → HandlersAlike handlers handlers' → BlockAlike orElse orElse' →
        BlockAlike finalBody finalBody' →
        Stmt.Alike (.tryBlock s isGroup body handlers orElse finalBody)
          (.tryBlock s isGroup body' handlers' orElse' finalBody')

/-- Blocks that are alike, one statement like the other. -/
inductive BlockAlike : List Stmt → List Stmt → Prop
  | nil : BlockAlike [] []
  | cons {s s' : Stmt} {ss ss' : List Stmt} :
      Stmt.Alike s s' → BlockAlike ss ss' → BlockAlike (s :: ss) (s' :: ss')

/-- Handlers whose bodies are alike. -/
inductive HandlersAlike : List Handler → List Handler → Prop
  | nil : HandlersAlike [] []
  | cons {type : Option Expr} {name : Option Text} {body body' : List Stmt}
      {hs hs' : List Handler} :
      BlockAlike body body' → HandlersAlike hs hs' →
        HandlersAlike (.mk type name body :: hs) (.mk type name body' :: hs')

/-- Cases whose bodies are alike. -/
inductive CasesAlike : List Case → List Case → Prop
  | nil : CasesAlike [] []
  | cons {pattern : Pattern} {guard : Option Expr} {body body' : List Stmt} {cs cs' : List Case} :
      BlockAlike body body' → CasesAlike cs cs' →
        CasesAlike (.mk pattern guard body :: cs) (.mk pattern guard body' :: cs')

end

/-! ### One value -/

/-- A literal with nothing in it, as a run leaves it behind. -/
def Expr.emptied : Expr → Expr
  | .constant s (.str _ _) => .constant s (.str [] false)
  | .constant s (.bytes _) => .constant s (.bytes [])
  | .list s _ => .list s []
  | .tuple s _ => .tuple s []
  | .set s _ => .call s (.name s (Text.of "set") .load) [] []
  | .dict s _ => .dict s []
  | e => e

variable {e : Expr} {l l₁ l₂ : Limits}

/-- **The extent of a literal**: the bytes of a string, or the entries of a display. -/
def Expr.extent? : Expr → Option Elision
  | .constant _ (.str codes _) => some (.bytes (utf8Bytes codes))
  | .constant _ (.bytes codes) => some (.bytes codes.length)
  | .list _ es | .tuple _ es | .set _ es => some (.elements es.length)
  | .dict _ items => some (.elements items.length)
  | _ => none

/-- **A value is emptied or kept by its extent**, which the limits have no part in. -/
theorem Expr.elide_eq (h : ∀ codes ∈ e.strings, IsEncodable codes) (l : Limits) :
    e.elide l =
      .ok (if e.extent?.any l.excludes then (e.emptied, e.extent?.toList) else (e, [])) := by
  cases e with
  | constant s c =>
    cases c with
    | str codes marked =>
      have hsize := utf8Size_of_isEncodable (h codes (List.mem_singleton_self codes))
      simp [Expr.elide, hsize, Expr.extent?, Limits.excludes, Expr.emptied, bind, Except.bind,
        pure, Except.pure]
    | bytes codes => simp [Expr.elide, Expr.extent?, Limits.excludes, Expr.emptied]
    | _ => rfl
  | list s es | tuple s es | set s es | dict s es =>
    simp [Expr.elide, Expr.extent?, Limits.excludes, Expr.emptied]
  | _ => rfl

/-- **What is empty is within all limits**. -/
theorem Expr.elide_emptied (hl : l.IsNatural) (e : Expr) :
    e.emptied.elide l = .ok (e.emptied, []) := by
  have hstring := hl.stringSize
  have helements := hl.elements
  cases e with
  | constant s c =>
    cases c with
    | str codes marked =>
      have hsize : utf8Size [] = .ok 0 := rfl
      simp [Expr.emptied, Expr.elide, hsize, hstring, bind, Except.bind, pure, Except.pure]
    | bytes codes => simp [Expr.emptied, Expr.elide, hstring]
    | _ => rfl
  | list s es | tuple s es | dict s es => simp [Expr.emptied, Expr.elide, helements]
  | _ => rfl

/-! ### Two runs over a value -/

/-- **Two runs over a value are one**: what they leave is what one run leaves, and so are their
notes taken together. The second run does nothing if its limits are no narrower. -/
def Reduces {α : Type} (l₁ l₂ : Limits)
    (run : Limits → α → Except EncodingError (α × List Elision)) (x : α) : Prop :=
  ∃ x₁ ns₁ x₂ ns₂ ns, run l₁ x = .ok (x₁, ns₁) ∧ run l₂ x₁ = .ok (x₂, ns₂) ∧
    run (l₁.least l₂) x = .ok (x₂, ns) ∧ (ns₁ ++ ns₂).Perm ns ∧
    (l₁.Narrower l₂ → x₂ = x₁ ∧ ns₂ = [])

/-- A value that is emptied or kept reduces, if the second run keeps the empty one: what wider
limits exclude narrower ones do. -/
theorem reduces_of_extent {α : Type} {run : Limits → α → Except EncodingError (α × List Elision)}
    {x short : α} {n : Option Elision}
    (hrun : ∀ l : Limits,
      run l x = .ok (if n.any l.excludes then (short, n.toList) else (x, [])))
    (hshort : run l₂ short = .ok (short, [])) : Reduces l₁ l₂ run x := by
  have hleast : n.any (l₁.least l₂).excludes = (n.any l₁.excludes || n.any l₂.excludes) := by
    cases n with
    | none => rfl
    | some n => exact Limits.excludes_least l₁ l₂ n
  have honce := hrun (l₁.least l₂)
  rw [hleast] at honce
  cases h₁ : n.any l₁.excludes with
  | true =>
    rw [h₁] at honce
    refine ⟨short, n.toList, short, [], n.toList, ?_, hshort, honce, ?_, fun _ => ⟨rfl, rfl⟩⟩
    · rw [hrun, h₁, if_pos rfl]
    · rw [List.append_nil]
  | false =>
    rw [h₁, Bool.false_or] at honce
    have hfirst : run l₁ x = .ok (x, []) := by rw [hrun, h₁]; rfl
    cases h₂ : n.any l₂.excludes with
    | true =>
      rw [h₂, if_pos rfl] at honce
      refine ⟨x, [], short, n.toList, n.toList, hfirst, ?_, honce, .refl _, fun hle => ?_⟩
      · rw [hrun, h₂, if_pos rfl]
      · obtain ⟨m, rfl, hm⟩ := (Option.any_eq_true _ _).mp h₂
        rw [Option.any_some, hle.excludes hm] at h₁
        cases h₁
    | false =>
      rw [h₂] at honce
      refine ⟨x, [], x, [], [], hfirst, ?_, honce, .refl _, fun _ => ⟨rfl, rfl⟩⟩
      rw [hrun, h₂]
      rfl

/-- A value is reduced by one pass after another. -/
theorem reduces_elide (l₁ : Limits) (hl₂ : l₂.IsNatural) (h : ∀ codes ∈ e.strings, IsEncodable codes) :
    Reduces l₁ l₂ Expr.elide e :=
  reduces_of_extent (Expr.elide_eq h) (Expr.elide_emptied hl₂ e)

/-- Notes of two runs over two parts. -/
theorem perm_append_append {α : Type} [DecidableEq α] {ns₁ ns₂ ns ms₁ ms₂ ms : List α}
    (hn : (ns₁ ++ ns₂).Perm ns) (hm : (ms₁ ++ ms₂).Perm ms) :
    (ns₁ ++ ms₁ ++ (ns₂ ++ ms₂)).Perm (ns ++ ms) := by
  rw [List.perm_iff_count] at *
  intro a
  have hna := hn a
  have hma := hm a
  simp only [List.count_append] at *
  omega

/-- So are several values. -/
theorem reduces_elideAll (l₁ : Limits) (hl₂ : l₂.IsNatural) {es : List Expr}
    (h : ∀ codes ∈ es.flatMap Expr.strings, IsEncodable codes) :
    Reduces l₁ l₂ elideAll es := by
  induction es with
  | nil => exact ⟨[], [], [], [], [], rfl, rfl, rfl, .refl _, fun _ => ⟨rfl, rfl⟩⟩
  | cons e es ih =>
    obtain ⟨hes, hss⟩ := List.forall_mem_append.mp (List.flatMap_cons ▸ h)
    obtain ⟨e₁, ns₁, e₂, ns₂, ns, hfirst, hsecond, honce, hperm, hsame⟩ :=
      reduces_elide l₁ hl₂ hes
    obtain ⟨es₁, ms₁, es₂, ms₂, ms, hfirsts, hseconds, honces, hperms, hsames⟩ := ih hss
    refine ⟨e₁ :: es₁, ns₁ ++ ms₁, e₂ :: es₂, ns₂ ++ ms₂, ns ++ ms, ?_, ?_, ?_,
      perm_append_append hperm hperms, fun hle => ?_⟩
    · rw [elideAll, hfirst, hfirsts]; rfl
    · rw [elideAll, hsecond, hseconds]; rfl
    · rw [elideAll, honce, honces]; rfl
    · obtain ⟨rfl, rfl⟩ := hsame hle
      obtain ⟨rfl, rfl⟩ := hsames hle
      exact ⟨rfl, rfl⟩

/-! ### Two runs over an assigned value -/

/-- **A tuple that is unpacked**: the targets are one tuple with as many items. -/
def Unpacks (targets : List Expr) (value : Expr) : Prop :=
  ∃ s ts s' es, targets = [.tuple s ts] ∧ value = .tuple s' es ∧ ts.length = es.length

variable {targets : List Expr} {value : Expr}

/-- A value that is not unpacked is shortened as a whole. -/
theorem elideAssigned_of_not_unpacks (h : ¬ Unpacks targets value) :
    elideAssigned l targets value = value.elide l := by
  unfold elideAssigned
  split
  · next s ts s' es =>
    exact if_neg fun hlength => h ⟨s, ts, s', es, rfl, rfl, hlength⟩
  · rfl

/-- A tuple that is unpacked is shortened item by item. -/
theorem elideAssigned_tuple {s s' : Span} {ts es : List Expr} (h : ts.length = es.length) :
    elideAssigned l [.tuple s ts] (.tuple s' es) = do
      let (es, ns) ← elideAll l es
      return (.tuple s' es, ns) :=
  if_pos h

/-- An empty literal is kept, also if it has become a tuple that is unpacked. -/
theorem elideAssigned_emptied (hl : l.IsNatural) (targets : List Expr) (e : Expr) :
    elideAssigned l targets e.emptied = .ok (e.emptied, []) := by
  by_cases hunpacks : Unpacks targets e.emptied
  · obtain ⟨s, ts, s', es, rfl, hvalue, hlength⟩ := hunpacks
    have hnil : es = [] := by
      cases e with
      | tuple => exact (Expr.tuple.inj hvalue).2.symm
      | constant s c => cases c <;> cases hvalue
      | _ => cases hvalue
    subst hnil
    rw [hvalue, elideAssigned_tuple hlength]
    rfl
  · rw [elideAssigned_of_not_unpacks hunpacks, Expr.elide_emptied hl]

/-- There are as many values as before. -/
theorem length_of_elideAll {es es' : List Expr} {ns : List Elision}
    (h : elideAll l es = .ok (es', ns)) : es'.length = es.length := by
  induction es generalizing es' ns with
  | nil =>
    obtain ⟨rfl, -⟩ := Prod.mk.inj (Except.ok.inj h)
    rfl
  | cons e es ih =>
    obtain ⟨⟨e₁, ns₁⟩, -, h⟩ := bind_eq_ok.mp h
    obtain ⟨⟨es₁, ms₁⟩, hes, h⟩ := bind_eq_ok.mp h
    obtain ⟨rfl, -⟩ := Prod.mk.inj (Except.ok.inj h)
    rw [List.length_cons, List.length_cons, ih hes]

/-- **Two runs over the value of an assignment**. A tuple that is unpacked keeps its length, so that
the second run takes it apart as well. -/
theorem reduces_elideAssigned (hl₂ : l₂.IsNatural)
    (h : ∀ codes ∈ value.assignedStrings, IsEncodable codes) :
    Reduces l₁ l₂ (fun l v => elideAssigned l targets v) value := by
  by_cases hunpacks : Unpacks targets value
  · obtain ⟨s, ts, s', es, rfl, rfl, hlength⟩ := hunpacks
    obtain ⟨es₁, ns₁, es₂, ns₂, ns, hfirst, hsecond, honce, hperm, hsame⟩ :=
      reduces_elideAll l₁ hl₂ h
    have hlength₁ : ts.length = es₁.length := hlength.trans (length_of_elideAll hfirst).symm
    refine ⟨.tuple s' es₁, ns₁, .tuple s' es₂, ns₂, ns, ?_, ?_, ?_, hperm, fun hle => ?_⟩
    · exact (elideAssigned_tuple hlength).trans (by rw [hfirst]; rfl)
    · exact (elideAssigned_tuple hlength₁).trans (by rw [hsecond]; rfl)
    · exact (elideAssigned_tuple hlength).trans (by rw [honce]; rfl)
    · obtain ⟨rfl, rfl⟩ := hsame hle
      exact ⟨rfl, rfl⟩
  · have hstrings : ∀ codes ∈ value.strings, IsEncodable codes := by
      cases value with
      | tuple => exact List.forall_mem_nil _
      | _ => exact h
    exact reduces_of_extent
      (fun l => (elideAssigned_of_not_unpacks hunpacks).trans (Expr.elide_eq hstrings l))
      (elideAssigned_emptied hl₂ targets value)

/-! ### Two runs over statements -/

/-- **Two runs compose**: what they leave is like what one run leaves, and the second does nothing
if its limits are no narrower. -/
def Composes {α : Type} (l₁ l₂ : Limits) (run : Limits → α → Except EncodingError α)
    (alike : α → α → Prop) (x : α) : Prop :=
  ∃ x₁ x₂ x', run l₁ x = .ok x₁ ∧ run l₂ x₁ = .ok x₂ ∧ run (l₁.least l₂) x = .ok x' ∧
    alike x₂ x' ∧ (l₁.Narrower l₂ → x₂ = x₁)

/-- A run over two parts, one after the other. -/
def runBoth {α β : Type} (run : Limits → α → Except EncodingError α)
    (run' : Limits → β → Except EncodingError β) (l : Limits) (p : α × β) :
    Except EncodingError (α × β) := do
  return (← run l p.1, ← run' l p.2)

namespace Composes

variable {α β : Type} {run : Limits → α → Except EncodingError α} {alike : α → α → Prop}
  {run' : Limits → β → Except EncodingError β} {alike' : β → β → Prop} {x : α} {y : β}

/-- What no pass changes is shortened alike by one or two. -/
theorem of_unchanged (hrun : ∀ l, run l x = .ok x) (halike : alike x x) :
    Composes l₁ l₂ run alike x :=
  ⟨x, x, x, hrun _, hrun _, hrun _, halike, fun _ => rfl⟩

/-- Two parts, each of which composes. -/
theorem both (hx : Composes l₁ l₂ run alike x) (hy : Composes l₁ l₂ run' alike' y) :
    Composes l₁ l₂ (runBoth run run') (fun p q => alike p.1 q.1 ∧ alike' p.2 q.2) (x, y) := by
  obtain ⟨x₁, x₂, x', hx₁, hx₂, hx', hxalike, hxsame⟩ := hx
  obtain ⟨y₁, y₂, y', hy₁, hy₂, hy', hyalike, hysame⟩ := hy
  refine ⟨(x₁, y₁), (x₂, y₂), (x', y'), ?_, ?_, ?_, ⟨hxalike, hyalike⟩, fun hle => ?_⟩
  · rw [runBoth, hx₁, hy₁]; rfl
  · rw [runBoth, hx₂, hy₂]; rfl
  · rw [runBoth, hx', hy']; rfl
  · rw [hxsame hle, hysame hle]

/-- A run that goes on in a part. -/
theorem map (build : α → β) (hbuild : build x = y) (hx : Composes l₁ l₂ run alike x)
    (hrun : ∀ l x, run' l (build x) = do return build (← run l x))
    (halike : ∀ {x x'}, alike x x' → alike' (build x) (build x')) :
    Composes l₁ l₂ run' alike' y := by
  obtain ⟨x₁, x₂, x', hx₁, hx₂, hx', hxalike, hxsame⟩ := hx
  refine ⟨build x₁, build x₂, build x', ?_, ?_, ?_, halike hxalike, fun hle => ?_⟩
  · rw [← hbuild, hrun, hx₁]; rfl
  · rw [hrun, hx₂]; rfl
  · rw [← hbuild, hrun, hx']; rfl
  · rw [hxsame hle]

/-- A statement that notes what a run leaves out of its value. -/
theorem of_reduces {run : Limits → Expr → Except EncodingError (Expr × List Elision)}
    {noted : List Elision} (build : Expr → List Elision → Stmt)
    (hvalue : Reduces l₁ l₂ run value)
    (hrun : ∀ l v ns, (build v ns).elide l = do
      let (v, ms) ← run l v
      return build v (ns ++ ms))
    (halike : ∀ v {ns ms}, ns.Perm ms → (build v ns).Alike (build v ms)) :
    Composes l₁ l₂ Stmt.elide Stmt.Alike (build value noted) := by
  obtain ⟨v₁, ns₁, v₂, ns₂, ns, hfirst, hsecond, honce, hperm, hsame⟩ := hvalue
  refine ⟨build v₁ (noted ++ ns₁), build v₂ (noted ++ ns₁ ++ ns₂), build v₂ (noted ++ ns),
    ?_, ?_, ?_, halike v₂ ?_, fun hle => ?_⟩
  · rw [hrun, hfirst]; rfl
  · rw [hrun, hsecond]; rfl
  · rw [hrun, honce]; rfl
  · rw [List.append_assoc]
    exact hperm.append_left noted
  · obtain ⟨rfl, rfl⟩ := hsame hle
    rw [List.append_nil]

end Composes

mutual

/-- **Two runs over a statement** are one. -/
theorem composes_elide (hl₂ : l₂.IsNatural) : ∀ s : Stmt,
    (∀ codes ∈ s.strings, IsEncodable codes) → Composes l₁ l₂ Stmt.elide Stmt.Alike s
  | .assign s targets value noted, h => by
    rw [Stmt.strings] at h
    exact .of_reduces (.assign s targets) (reduces_elideAssigned hl₂ h)
      (fun l v ns => by rw [Stmt.elide]) fun v _ _ => .assign
  | .annAssign s target hint (some value) simple noted, h => by
    rw [Stmt.strings] at h
    exact .of_reduces (fun v => .annAssign s target hint (some v) simple) (reduces_elide l₁ hl₂ h)
      (fun l v ns => by rw [Stmt.elide]) fun v _ _ => .annAssign
  | .function s isAsync name params body decorators returns, h => by
    rw [Stmt.strings] at h
    exact .map (fun b => .function s isAsync name params b decorators returns) rfl
      (composes_elideBlock hl₂ body h) (fun l b => by rw [Stmt.elide]) .function
  | .classDef s name bases keywords body decorators, h => by
    rw [Stmt.strings] at h
    exact .map (fun b => .classDef s name bases keywords b decorators) rfl
      (composes_elideBlock hl₂ body h) (fun l b => by rw [Stmt.elide]) .classDef
  | .forLoop s isAsync target iter body orElse, h => by
    rw [Stmt.strings] at h
    obtain ⟨hbody, helse⟩ := List.forall_mem_append.mp h
    exact .map (fun p => .forLoop s isAsync target iter p.1 p.2) rfl
      (.both (composes_elideBlock hl₂ body hbody) (composes_elideBlock hl₂ orElse helse))
      (fun l p => by simp only [Stmt.elide, runBoth, bind_assoc, pure_bind])
      fun h => .forLoop h.1 h.2
  | .whileLoop s test body orElse, h => by
    rw [Stmt.strings] at h
    obtain ⟨hbody, helse⟩ := List.forall_mem_append.mp h
    exact .map (fun p => .whileLoop s test p.1 p.2) rfl
      (.both (composes_elideBlock hl₂ body hbody) (composes_elideBlock hl₂ orElse helse))
      (fun l p => by simp only [Stmt.elide, runBoth, bind_assoc, pure_bind])
      fun h => .whileLoop h.1 h.2
  | .cond s test body orElse, h => by
    rw [Stmt.strings] at h
    obtain ⟨hbody, helse⟩ := List.forall_mem_append.mp h
    exact .map (fun p => .cond s test p.1 p.2) rfl
      (.both (composes_elideBlock hl₂ body hbody) (composes_elideBlock hl₂ orElse helse))
      (fun l p => by simp only [Stmt.elide, runBoth, bind_assoc, pure_bind])
      fun h => .cond h.1 h.2
  | .withBlock s isAsync items body, h => by
    rw [Stmt.strings] at h
    exact .map (fun b => .withBlock s isAsync items b) rfl
      (composes_elideBlock hl₂ body h) (fun l b => by rw [Stmt.elide]) .withBlock
  | .matchOn s subject cases, h => by
    rw [Stmt.strings] at h
    exact .map (fun cs => .matchOn s subject cs) rfl
      (composes_elideCases hl₂ cases h) (fun l cs => by rw [Stmt.elide]) .matchOn
  | .tryBlock s isGroup body handlers orElse finalBody, h => by
    rw [Stmt.strings] at h
    obtain ⟨h, hfinal⟩ := List.forall_mem_append.mp h
    obtain ⟨h, helse⟩ := List.forall_mem_append.mp h
    obtain ⟨hbody, hhandlers⟩ := List.forall_mem_append.mp h
    exact .map (fun p => .tryBlock s isGroup p.1 p.2.1 p.2.2.1 p.2.2.2) rfl
      (.both (composes_elideBlock hl₂ body hbody)
        (.both (composes_elideHandlers hl₂ handlers hhandlers)
        (.both (composes_elideBlock hl₂ orElse helse) (composes_elideBlock hl₂ finalBody hfinal))))
      (fun l p => by simp only [Stmt.elide, runBoth, bind_assoc, pure_bind])
      fun h => .tryBlock h.1 h.2.1 h.2.2.1 h.2.2.2
  | .annAssign _ _ _ none _ _, _ => .of_unchanged (fun _ => rfl) (.refl _)
  | .ret .., _ => .of_unchanged (fun _ => rfl) (.refl _)
  | .delete .., _ => .of_unchanged (fun _ => rfl) (.refl _)
  | .augAssign .., _ => .of_unchanged (fun _ => rfl) (.refl _)
  | .raise .., _ => .of_unchanged (fun _ => rfl) (.refl _)
  | .assert .., _ => .of_unchanged (fun _ => rfl) (.refl _)
  | .importNames .., _ => .of_unchanged (fun _ => rfl) (.refl _)
  | .importFrom .., _ => .of_unchanged (fun _ => rfl) (.refl _)
  | .globals .., _ => .of_unchanged (fun _ => rfl) (.refl _)
  | .nonlocals .., _ => .of_unchanged (fun _ => rfl) (.refl _)
  | .expr .., _ => .of_unchanged (fun _ => rfl) (.refl _)
  | .pass _, _ => .of_unchanged (fun _ => rfl) (.refl _)
  | .breakLoop _, _ => .of_unchanged (fun _ => rfl) (.refl _)
  | .continueLoop _, _ => .of_unchanged (fun _ => rfl) (.refl _)

/-- **The statements of a block.** -/
theorem composes_elideBlock (hl₂ : l₂.IsNatural) : ∀ ss : List Stmt,
    (∀ codes ∈ blockStrings ss, IsEncodable codes) → Composes l₁ l₂ elideBlock BlockAlike ss
  | [], _ => .of_unchanged (fun _ => rfl) .nil
  | s :: ss, h => by
    rw [blockStrings] at h
    obtain ⟨hs, hss⟩ := List.forall_mem_append.mp h
    exact .map (fun p => p.1 :: p.2) rfl
      (.both (composes_elide hl₂ s hs) (composes_elideBlock hl₂ ss hss))
      (fun l p => by simp only [elideBlock, runBoth, bind_assoc, pure_bind])
      fun h => .cons h.1 h.2

/-- The handlers of a `try`. -/
theorem composes_elideHandlers (hl₂ : l₂.IsNatural) : ∀ hs : List Handler,
    (∀ codes ∈ handlerStrings hs, IsEncodable codes) →
      Composes l₁ l₂ elideHandlers HandlersAlike hs
  | [], _ => .of_unchanged (fun _ => rfl) .nil
  | .mk type name body :: hs, h => by
    rw [handlerStrings] at h
    obtain ⟨hbody, hhs⟩ := List.forall_mem_append.mp h
    exact .map (fun p => .mk type name p.1 :: p.2) rfl
      (.both (composes_elideBlock hl₂ body hbody) (composes_elideHandlers hl₂ hs hhs))
      (fun l p => by simp only [elideHandlers, runBoth, bind_assoc, pure_bind])
      fun h => .cons h.1 h.2

/-- The cases of a `match`. -/
theorem composes_elideCases (hl₂ : l₂.IsNatural) : ∀ cs : List Case,
    (∀ codes ∈ caseStrings cs, IsEncodable codes) → Composes l₁ l₂ elideCases CasesAlike cs
  | [], _ => .of_unchanged (fun _ => rfl) .nil
  | .mk pattern guard body :: cs, h => by
    rw [caseStrings] at h
    obtain ⟨hbody, hcs⟩ := List.forall_mem_append.mp h
    exact .map (fun p => .mk pattern guard p.1 :: p.2) rfl
      (.both (composes_elideBlock hl₂ body hbody) (composes_elideCases hl₂ cs hcs))
      (fun l p => by simp only [elideCases, runBoth, bind_assoc, pure_bind])
      fun h => .cons h.1 h.2

end

/-- **Elision composes.** A run over statements and a run over what it left leave the trees that one
run to the lesser of their limits leaves, and each statement has the same notes, in some order. If
the limits of the second run are no narrower, it changes neither trees nor notes. -/
theorem elideBlock_elideBlock (l₁ : Limits) {l₂ : Limits} (hl₂ : l₂.IsNatural) {ss : List Stmt}
    (hstrings : ∀ codes ∈ blockStrings ss, IsEncodable codes) :
    ∃ ss₁ ss₂ ss', elideBlock l₁ ss = .ok ss₁ ∧ elideBlock l₂ ss₁ = .ok ss₂ ∧
      elideBlock (l₁.least l₂) ss = .ok ss' ∧ BlockAlike ss₂ ss' ∧
      (l₁.Narrower l₂ → ss₂ = ss₁) :=
  composes_elideBlock hl₂ ss hstrings

/-- Two strings that are unpacked, the longer one last. -/
def unpackedStrings : List Stmt :=
  [.assign default
    [.tuple default [.name default ['a'] .store, .name default ['b'] .store]]
    (.tuple default [.constant default (.str (Text.codes (Text.of "xx")) false),
      .constant default (.str (Text.codes (Text.of "yyyy")) false)]) []]

/-- The first run notes the longer string, and the second one the other. -/
theorem elideBlock_elideBlock_unpackedStrings :
    ∃ ss₁ ss₂ ss', elideBlock ⟨3, 9⟩ unpackedStrings = .ok ss₁ ∧
      elideBlock ⟨1, 9⟩ ss₁ = .ok ss₂ ∧ elideBlock ⟨1, 9⟩ unpackedStrings = .ok ss' ∧
      BlockAlike ss₂ ss' ∧ ss₂.map Stmt.elided = [[.bytes 4, .bytes 2]] ∧
      ss'.map Stmt.elided = [[.bytes 2, .bytes 4]] := by
  have hstrings : ∀ codes ∈ blockStrings unpackedStrings, IsEncodable codes := by
    unfold IsEncodable
    decide
  have hnatural : Limits.IsNatural ⟨1, 9⟩ := ⟨by decide, by decide⟩
  obtain ⟨ss₁, ss₂, ss', hfirst, hsecond, honce, halike, -⟩ :=
    elideBlock_elideBlock ⟨3, 9⟩ hnatural hstrings
  refine ⟨ss₁, ss₂, ss', hfirst, hsecond, honce, halike, ?_, ?_⟩
  · obtain rfl := Except.ok.inj hfirst
    obtain rfl := Except.ok.inj hsecond
    rfl
  · obtain rfl := Except.ok.inj honce
    rfl

end Syntax
end ApiPage
