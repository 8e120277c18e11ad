import ApiPage.Proofs.Identified
import ApiPage.Proofs.LargeLiterals

/-!
# Functions within limits

Elision goes into the bodies of functions as into all other blocks. The head of a function, which is
all that a page shows of it, stays as it is; the literals of its body are emptied and noted like
those of the module, and a string without UTF-8 form in it makes the run fail.

## Main definitions

* `BlockWithin`: a block without a literal beyond the limits.

## Main results

* `elideBlock_eq_error_iff`: a run fails at the strings without UTF-8 form among those it measures.
* `elideBlock_functions`: what becomes of the functions of a block.
* `exists_changed_function`: a function that is changed.
-/

namespace ApiPage

open Syntax

/-- A string that has a size can be encoded. -/
theorem isEncodable_of_utf8Size {codes : List Nat} {n : Nat} (h : utf8Size codes = .ok n) :
    IsEncodable codes := by
  unfold utf8Size at h
  dsimp only at h
  split at h
  · next hdrop =>
    have hlength := List.drop_eq_nil_iff.mp hdrop
    have hall := (List.takeWhile_prefix (l := codes) (!isSurrogate ·)).eq_of_length_le hlength
    intro m hm
    simpa using List.takeWhile_eq_self_iff.mp hall m hm
  · cases h

namespace Syntax

variable {l : Limits}

/-! ### Strings that are measured -/

/-- A value that is shortened without a failure has only strings that can be encoded. -/
theorem Expr.isEncodable_of_elide {e : Expr} {r : Expr × List Elision} (h : e.elide l = .ok r) :
    ∀ codes ∈ e.strings, IsEncodable codes := by
  intro codes hcodes
  cases e with
  | constant s c =>
    cases c with
    | str codes' marked =>
      obtain rfl := List.mem_singleton.mp hcodes
      obtain ⟨n, hn, -⟩ := bind_eq_ok.mp h
      exact isEncodable_of_utf8Size hn
    | _ => cases hcodes
  | _ => cases hcodes

/-- So have several values. -/
theorem isEncodable_of_elideAll {es : List Expr} {r : List Expr × List Elision}
    (h : elideAll l es = .ok r) : ∀ e ∈ es, ∀ codes ∈ e.strings, IsEncodable codes := by
  induction es generalizing r with
  | nil => exact List.forall_mem_nil _
  | cons e es ih =>
    obtain ⟨_, he, h⟩ := bind_eq_ok.mp h
    obtain ⟨_, hes, -⟩ := bind_eq_ok.mp h
    exact List.forall_mem_cons.mpr ⟨Expr.isEncodable_of_elide he, ih hes⟩

/-- **A run over an assignment** measures its values. -/
theorem Stmt.isEncodable_of_elide {s s' : Stmt} (h : s.elide l = .ok s') :
    ∀ v ∈ s.values, ∀ codes ∈ v.strings, IsEncodable codes := by
  cases s with
  | assign s targets value ns =>
    obtain ⟨r, hr, -⟩ := bind_eq_ok.mp h
    by_cases hunpacks : Unpacks targets value
    · obtain ⟨s', ts, s'', es, rfl, rfl, hlength⟩ := hunpacks
      have hvalues : assignedValues [.tuple s' ts] (.tuple s'' es) = es := if_pos hlength
      rw [elideAssigned_tuple hlength] at hr
      obtain ⟨r', hr', -⟩ := bind_eq_ok.mp hr
      rw [Stmt.values, hvalues]
      exact isEncodable_of_elideAll hr'
    · rw [elideAssigned_of_not_unpacks hunpacks] at hr
      rw [Stmt.values, assignedValues_of_not_unpacks hunpacks]
      exact List.forall_mem_singleton.mpr (Expr.isEncodable_of_elide hr)
  | annAssign s target hint value simple ns =>
    cases value with
    | none => exact List.forall_mem_nil _
    | some value =>
      obtain ⟨r, hr, -⟩ := bind_eq_ok.mp h
      exact List.forall_mem_singleton.mpr (Expr.isEncodable_of_elide hr)
  | _ => exact List.forall_mem_nil _

/-- **A run fails** at the strings without UTF-8 form among those that it measures. -/
theorem elideBlock_eq_error_iff {ss : List Stmt} :
    (∃ e, elideBlock l ss = .error e) ↔ ∃ codes ∈ measuredStrings ss, ¬ IsEncodable codes := by
  constructor
  · rintro ⟨e, he⟩
    by_contra hnone
    have hstrings : ∀ codes ∈ measuredStrings ss, IsEncodable codes := fun codes hcodes =>
      of_not_not fun hnot => hnone ⟨codes, hcodes, hnot⟩
    obtain ⟨ss', hss', -⟩ := elideBlock_shortens l hstrings
    cases he.symm.trans hss'
  · rintro ⟨codes, hcodes, hnot⟩
    obtain ⟨s, hs, v, hv, hcodes⟩ := mem_measuredStrings.mp hcodes
    cases hrun : elideBlock l ss with
    | error e => exact ⟨e, rfl⟩
    | ok ss' =>
      have htraced := traced_elideBlock l ss
      rw [hrun] at htraced
      have hmeasured := (List.forall₂_and_left _ _).mp
        (htraced.1.imp fun _ _ hs => ⟨Stmt.isEncodable_of_elide hs, hs⟩)
      exact absurd (hmeasured.1 s hs v hv codes hcodes) hnot

/-! ### What stays as it is -/

/-- **A block within limits**: none of its literals is beyond them. -/
def BlockWithin (l : Limits) (ss : List Stmt) : Prop :=
  ∀ s ∈ blockStatements ss, ∀ v ∈ s.values, l.oversize? v = none

/-- A value that is not oversized is within the limits as it is. -/
theorem Expr.within_eq_self {e : Expr} (h : l.oversize? e = none) : e.within l = e := by
  rw [Expr.within, h]
  rfl

/-- **An assignment stays as it is** if none of its values is beyond the limits. -/
theorem Stmt.Shortened.eq_iff {s s' : Stmt} (h : s.Shortened l s') :
    s' = s ↔ ∀ v ∈ s.values, l.oversize? v = none := by
  cases h with
  | @unpacked s s' s'' ts es ns hlength =>
    have hvalues : assignedValues [.tuple s' ts] (.tuple s'' es) = es := if_pos hlength
    rw [Stmt.values, hvalues, ← List.filterMap_eq_nil_iff]
    constructor
    · intro heq
      exact List.append_right_eq_self.mp (Stmt.assign.inj heq).2.2.2
    · intro hnil
      have hkept : ∀ e ∈ es, e.within l = id e := fun e he =>
        Expr.within_eq_self (List.filterMap_eq_nil_iff.mp hnil e he)
      have hes : es.map (Expr.within l) = es := (List.map_congr_left hkept).trans (List.map_id es)
      rw [hnil, List.append_nil, hes]
  | whole hunpacks =>
    rw [Stmt.values, assignedValues_of_not_unpacks hunpacks, List.forall_mem_singleton]
    constructor
    · intro heq
      have hnil := List.append_right_eq_self.mp (Stmt.assign.inj heq).2.2.2
      exact Option.toList_eq_nil_iff.mp hnil
    · intro hnone
      rw [Expr.within_eq_self hnone, hnone, Option.toList_none, List.append_nil]
  | @annotated s target hint value simple ns =>
    rw [Stmt.values]
    cases value with
    | none => simp
    | some value =>
      simp only [Option.toList_some, List.forall_mem_singleton, Option.map_some, Option.bind_some]
      constructor
      · intro heq
        have hnil := List.append_right_eq_self.mp (Stmt.annAssign.inj heq).2.2.2.2.2
        exact Option.toList_eq_nil_iff.mp hnil
      · intro hnone
        rw [Expr.within_eq_self hnone, hnone, Option.toList_none, List.append_nil]

/-- Only assignments have values. -/
theorem Stmt.values_of_sort {s : Stmt} (h : s.sort ≠ .assignment) : s.values = [] := by
  cases s with
  | assign | annAssign => exact absurd rfl h
  | _ => rfl

/-- **A block stays as it is** if and only if it is within limits. -/
theorem eq_iff_of_elideBlock {ss ss' : List Stmt} (h : elideBlock l ss = .ok ss') :
    ss' = ss ↔ BlockWithin l ss := by
  have htraced := traced_elideBlock l ss
  rw [h] at htraced
  constructor
  · rintro rfl s hs
    have hself := List.forall₂_same.mp htraced.1 s hs
    by_cases hsort : s.sort = .assignment
    · obtain ⟨s', hs', hshort⟩ :=
        Stmt.exists_shortened (l := l) hsort (Stmt.isEncodable_of_elide hself)
      obtain rfl := Except.ok.inj (hself.symm.trans hs')
      exact hshort.eq_iff.mp rfl
    · rw [Stmt.values_of_sort hsort]
      exact List.forall_mem_nil _
  · intro hwithin
    have hall := (List.forall₂_and_left _ _).mp
      (htraced.1.imp fun _ _ hs => ⟨Stmt.isEncodable_of_elide hs, hs⟩)
    refine htraced.2 fun s hs hsort => ?_
    obtain ⟨s', hs', hshort⟩ := Stmt.exists_shortened (l := l) hsort (hall.1 s hs)
    rw [hs', hshort.eq_iff.mpr (hwithin s hs)]

/-! ### Functions -/

/-- A function with another body. -/
def Stmt.withBody (body : List Stmt) : Stmt → Stmt
  | .function s isAsync name params _ decorators returns =>
    .function s isAsync name params body decorators returns
  | s => s

/-- **Functions within limits.** Wherever a function stands in a block, its head stays as it is and
its body becomes what a run over the body makes of it; so it stays as it is just if its body is
within limits. The run fails if a string that it measures, in a function or not, has no UTF-8 form,
and only then. -/
theorem elideBlock_functions (l : Limits) (ss : List Stmt) :
    (∀ ss', elideBlock l ss = .ok ss' →
      List.Forall₂ (fun s s' => s.sort = .function → s' = s.withBody s'.body ∧
          elideBlock l s.body = .ok s'.body ∧ (s' = s ↔ BlockWithin l s.body))
        (blockStatements ss) (blockStatements ss')) ∧
      ((∃ e, elideBlock l ss = .error e) ↔ ∃ codes ∈ measuredStrings ss, ¬ IsEncodable codes) := by
  refine ⟨fun ss' h => ?_, elideBlock_eq_error_iff⟩
  have htraced := traced_elideBlock l ss
  rw [h] at htraced
  refine htraced.1.imp fun s s' hs hsort => ?_
  cases s with
  | function s isAsync name params body decorators returns =>
    rw [Stmt.elide] at hs
    obtain ⟨body', hbody, hs⟩ := bind_eq_ok.mp hs
    obtain rfl := Except.ok.inj hs
    refine ⟨rfl, hbody, ?_⟩
    rw [Stmt.body, ← eq_iff_of_elideBlock hbody]
    simp
  | _ => cases hsort

/-- A function whose body assigns a string. -/
def localString : Text := Text.of "def f():\n    x = 'abcdef'\n"

/-- **A function is changed** if its body assigns a long string. -/
theorem exists_changed_function :
    ∃ s s', parseModule localString = .ok [s] ∧ s.isFunction = true ∧
      s.elide ⟨3, 100⟩ = .ok s' ∧ s' ≠ s := by
  have hcheck : ((parseModule localString).toOption.bind fun ss => ss.head?.bind fun s =>
      (s.elide ⟨3, 100⟩).toOption.filter fun s' => ss.length = 1 && s.isFunction &&
        s'.body.flatMap Stmt.elided ≠ s.body.flatMap Stmt.elided).isSome = true := by
    decide +kernel
  obtain ⟨s', hs'⟩ := Option.isSome_iff_exists.mp hcheck
  obtain ⟨ss, hss, hs'⟩ := Option.bind_eq_some_iff.mp hs'
  obtain ⟨s, hs, hs'⟩ := Option.bind_eq_some_iff.mp hs'
  obtain ⟨hrun, hchanged⟩ := Option.filter_eq_some_iff.mp hs'
  simp only [Bool.and_eq_true, decide_eq_true_eq] at hchanged
  obtain ⟨⟨hlength, hfunction⟩, hnotes⟩ := hchanged
  obtain ⟨u, rfl⟩ := List.length_eq_one_iff.mp hlength
  obtain rfl := Option.some.inj hs
  exact ⟨u, s', eq_ok_of_toOption hss, hfunction, eq_ok_of_toOption hrun,
    fun h => hnotes (by rw [h])⟩

/-- A function that unpacks two strings, and one that does nothing. -/
def localStrings : List Stmt :=
  [.function default false ['f'] default unpackedStrings [] none,
    .function default false ['g'] default [.pass default] [] none]

/-- The body of the first function is shortened, and the second function stays as it is. -/
theorem elideBlock_functions_localStrings :
    ∃ ss', elideBlock ⟨3, 9⟩ localStrings = .ok ss' ∧
      List.Forall₂ (fun s s' => s.sort = .function → s' = s.withBody s'.body ∧
          elideBlock ⟨3, 9⟩ s.body = .ok s'.body ∧ (s' = s ↔ BlockWithin ⟨3, 9⟩ s.body))
        (blockStatements localStrings) (blockStatements ss') ∧
      (blockStatements ss').map Stmt.elided = [[], [.bytes 4], [], []] := by
  obtain ⟨hok, -⟩ := elideBlock_functions ⟨3, 9⟩ localStrings
  exact ⟨_, rfl, hok _ rfl, rfl⟩

end Syntax
end ApiPage
