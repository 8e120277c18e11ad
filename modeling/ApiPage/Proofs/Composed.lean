import Mathlib
import ApiPage.Proofs.Tables
import ApiPage.Syntax.Grammar.Parameter
import ApiPage.Text.Identifier
import ApiPage.Text.Normal

/-!
# Composed names

A name is held in its compatible composed form, which may spell it with other characters: a letter
that is written wide becomes the letter itself. Among the characters of ASCII only letters, digits
and underscores can come of this. The signs that some characters decompose to, such as the points of
an ellipsis, come of characters that no name holds.

## Main definitions

* `Ranges.avoids`: no code of a list is in a table.

## Main results

* `isUnsigned_of_mem_normalForm`: composing a name gives no sign of ASCII.
* `isUnsigned_of_mem_nameText`: neither does the name of a token hold one.
* `nameText_ne_nil`: nor is the name of a token empty.
-/

namespace ApiPage

namespace Text

/-! ### Sorted tables -/

/-- **No code of a list is in a table**. Both are sorted, so one walk over them decides it. -/
def Ranges.avoids : Ranges → List Nat → Bool
  | [], _ => true
  | r :: rs, ns =>
    let left := ns.dropWhile (· < r.1)
    (left.head?.all fun n => decide (r.2 < n)) && avoids rs left

/-- The ranges of a table come in the order of their first codes. -/
abbrev Ranges.Sorted (t : Ranges) : Prop := t.IsChain fun r s => r.1 ≤ s.1

/-- No code that a table avoids is in it: a code that is skipped lies before all ranges from there
on. -/
theorem Ranges.has_eq_false_of_avoids {t : Ranges} {ns : List Nat} (ht : t.Sorted)
    (hns : ns.IsChain (· ≤ ·)) (h : t.avoids ns = true) {n : Nat} (hn : n ∈ ns) :
    t.has n = false := by
  have hsorted : t.Pairwise fun r s => r.1 ≤ s.1 := by
    have : IsTrans (Nat × Nat) fun r s => r.1 ≤ s.1 := ⟨fun _ _ _ => Nat.le_trans⟩
    exact List.isChain_iff_pairwise.mp ht
  replace hns := List.isChain_iff_pairwise.mp hns
  clear ht
  induction t generalizing ns with
  | nil => rfl
  | cons r rs ih =>
    obtain ⟨hhead, hrest⟩ := Bool.and_eq_true_iff.mp h
    obtain ⟨hr, hrs⟩ := List.pairwise_cons.mp hsorted
    rw [← List.takeWhile_append_dropWhile (p := (· < r.1)) (l := ns), List.mem_append] at hn
    rcases hn with hn | hn
    · have hlt : n < r.1 := by simpa using List.mem_takeWhile_imp hn
      have hnot : ∀ s ∈ r :: rs, ¬(s.1 ≤ n ∧ n ≤ s.2) := by
        intro s hs
        rcases List.mem_cons.mp hs with rfl | hs
        · omega
        · have hle := hr s hs
          omega
      simpa [Ranges.has] using hnot
    · have hleft := hns.sublist (List.dropWhile_sublist (· < r.1))
      have hlt : r.2 < n := by
        cases hd : ns.dropWhile (· < r.1) with
        | nil => simp [hd] at hn
        | cons m ms =>
          have hm : r.2 < m := by simpa [hd] using hhead
          rw [hd] at hn hleft
          rcases List.mem_cons.mp hn with rfl | hn
          · exact hm
          · exact hm.trans_le (List.rel_of_pairwise_cons hleft hn)
      have hin : (decide (r.1 ≤ n) && decide (n ≤ r.2)) = false := by
        simp only [Bool.and_eq_false_iff, decide_eq_false_iff_not]
        omega
      simpa only [Ranges.has, List.any_cons, hin, Bool.false_or] using ih hrest hn hrs hleft

/-! ### Decomposition -/

/-- A code that a name may hold, if it is one of ASCII. -/
def isUnsigned (n : Nat) : Bool := if n < 128 then isNameContinue n else n < 0x110000

/-- The codes that decompose to several, of which one is a sign. -/
def signedMany : List Nat := (decomposeMany.filter fun e => !e.2.all isUnsigned).map (·.1)

/-- The codes that decompose to a sign. -/
def signedRuns : List Nat :=
  (decomposeRuns.filter (·.2.2 < 128)).flatMap fun r =>
    (List.range' r.1 (r.2.1 + 1 - r.1)).filter fun n => !isUnsigned (r.2.2 + (n - r.1))

/-- The tables of what names are made of are sorted. -/
theorem sorted_nameRanges : nameStartRanges.Sorted ∧ nameExtraRanges.Sorted := by
  decide +kernel

/-- The codes that decompose to signs are sorted and avoid the tables of names. -/
theorem avoids_signed : ∀ ns ∈ [signedMany, signedRuns], ns.IsChain (· ≤ ·) ∧
    nameStartRanges.avoids ns = true ∧ nameExtraRanges.avoids ns = true := by
  decide +kernel

/-- **No name holds a code that decomposes to a sign**. -/
theorem isNameContinue_signed {ns : List Nat} (hns : ns ∈ [signedMany, signedRuns]) {n : Nat}
    (hn : n ∈ ns) (hlt : 128 ≤ n) : isNameContinue n = false := by
  obtain ⟨hstarts, hextras⟩ := sorted_nameRanges
  obtain ⟨hchain, hstart, hextra⟩ := avoids_signed ns hns
  rw [isNameContinue, if_neg (by omega),
    Ranges.has_eq_false_of_avoids hstarts hchain hstart hn,
    Ranges.has_eq_false_of_avoids hextras hchain hextra hn]
  rfl

/-- The runs end in codes. -/
theorem lt_of_mem_decomposeRuns :
    (decomposeRuns.all fun r => decide (r.2.2 + (r.2.1 - r.1) < 0x110000)) = true := by
  decide +kernel

/-- A code beyond ASCII is no sign. -/
theorem isUnsigned_of_le {n : Nat} (hle : 128 ≤ n) (hlt : n < 0x110000) : isUnsigned n = true := by
  rw [isUnsigned, if_neg (by omega), decide_eq_true hlt]

/-- **A character of a name decomposes to no sign**, nor does a syllable to its parts. -/
theorem isUnsigned_of_mem_decomposeOf {n m : Nat} (hn : isNameContinue n = true)
    (hcode : n < 0x110000) (hm : m ∈ decomposeOf n) : isUnsigned m = true := by
  unfold decomposeOf at hm
  split at hm
  · next hlt =>
    obtain rfl := List.mem_singleton.mp hm
    rw [isUnsigned, if_pos hlt, hn]
  · next hlt =>
    have h128 : 128 ≤ n := by omega
    split at hm
    · next hsyllable =>
      simp only [Bool.and_eq_true, decide_eq_true_eq] at hsyllable
      dsimp only at hm
      split at hm
      · simp only [List.mem_cons, List.not_mem_nil, or_false] at hm
        exact isUnsigned_of_le (by omega) (by omega)
      · simp only [List.cons_append, List.nil_append, List.mem_cons, List.not_mem_nil,
          or_false] at hm
        exact isUnsigned_of_le (by omega) (by omega)
    · cases hmany : decomposeMany.lookup n with
      | some ms =>
        simp only [hmany] at hm
        by_contra hsign
        have hmem : n ∈ signedMany := by
          have hentry := mem_of_lookup hmany
          refine List.mem_map.mpr ⟨(n, ms), List.mem_filter.mpr ⟨hentry, ?_⟩, rfl⟩
          simpa using ⟨m, hm, by simpa using hsign⟩
        simp [isNameContinue_signed List.mem_cons_self hmem h128] at hn
      | none =>
        simp only [hmany, List.mem_singleton] at hm
        subst hm
        unfold Runs.apply
        cases hrun : decomposeRuns.find? fun r => decide (r.1 ≤ n) && decide (n ≤ r.2.1) with
        | none => exact isUnsigned_of_le h128 hcode
        | some r =>
          have hin : r.1 ≤ n ∧ n ≤ r.2.1 := by simpa using List.find?_some hrun
          have hlast : r.2.2 + (r.2.1 - r.1) < 0x110000 :=
            of_decide_eq_true (List.all_eq_true.mp lt_of_mem_decomposeRuns r
              (List.mem_of_find?_eq_some hrun))
          by_contra hsign
          simp only at hsign
          have hsmall : r.2.2 < 128 := by
            by_contra hlarge
            exact hsign (isUnsigned_of_le (by omega) (by omega))
          have hmem : n ∈ signedRuns := by
            refine List.mem_flatMap.mpr ⟨r, List.mem_filter.mpr
              ⟨List.mem_of_find?_eq_some hrun, by simpa using hsmall⟩, List.mem_filter.mpr ⟨?_, ?_⟩⟩
            · rw [List.mem_range'_1]
              omega
            · simpa using hsign
          have hruns : signedRuns ∈ [signedMany, signedRuns] :=
            List.mem_cons_of_mem _ List.mem_cons_self
          simp [isNameContinue_signed hruns hmem h128] at hn

/-! ### Composition -/

/-- A mark is inserted among the others, and nothing else. -/
theorem mem_insertMark {m k n : Nat} {s : List Nat} (h : n ∈ insertMark m k s) :
    n = m ∨ n ∈ s := by
  induction s with
  | nil => simpa [insertMark] using h
  | cons p r ih =>
    unfold insertMark at h
    split at h
    · rcases List.mem_cons.mp h with rfl | h
      · exact .inr List.mem_cons_self
      · exact (ih h).imp_right (List.mem_cons_of_mem p)
    · simpa using h

/-- Ordering marks adds none. -/
theorem mem_orderMarks {n : Nat} {done s : List Nat} (h : n ∈ orderMarks done s) :
    n ∈ done ∨ n ∈ s := by
  induction s generalizing done with
  | nil => exact .inl h
  | cons m r ih =>
    rcases ih h with h | h
    · split at h
      · rcases List.mem_cons.mp h with rfl | h
        · exact .inr List.mem_cons_self
        · exact .inl h
      · rcases mem_insertMark h with rfl | h
        · exact .inr List.mem_cons_self
        · exact .inl h
    · exact .inr (List.mem_cons_of_mem m h)

/-- No composite is a sign. -/
theorem isUnsigned_of_mem_composites : (composites.all fun r => isUnsigned r.2.2) = true := by
  decide +kernel

/-- What two codes compose to is no sign. -/
theorem isUnsigned_compose {a b c : Nat} (h : compose? a b = some c) : isUnsigned c = true := by
  unfold compose? at h
  split at h
  · next hparts =>
    have hc := Option.some.inj h
    simp only [Bool.and_eq_true, decide_eq_true_eq] at hparts
    exact isUnsigned_of_le (by omega) (by omega)
  · split at h
    · next hparts =>
      have hc := Option.some.inj h
      simp only [Bool.and_eq_true, decide_eq_true_eq] at hparts
      exact isUnsigned_of_le (by omega) (by omega)
    · obtain ⟨r, hr, rfl⟩ := Option.map_eq_some_iff.mp h
      exact List.all_eq_true.mp isUnsigned_of_mem_composites r (List.mem_of_find?_eq_some hr)

variable {s marks : List Nat}

/-- **Composition gives no sign** that was not there. -/
theorem isUnsigned_composeFrom {starter last : Nat} (hstarter : isUnsigned starter = true)
    (hmarks : ∀ n ∈ marks, isUnsigned n = true) (hs : ∀ n ∈ s, isUnsigned n = true) :
    ∀ n ∈ composeFrom starter marks last s, isUnsigned n = true := by
  induction s generalizing starter marks last with
  | nil =>
    intro n hn
    rcases List.mem_cons.mp hn with rfl | hn
    · exact hstarter
    · exact hmarks n (List.mem_reverse.mp hn)
  | cons m r ih =>
    obtain ⟨hm, hr⟩ := List.forall_mem_cons.mp hs
    unfold composeFrom
    dsimp only
    split
    · next c hc =>
      have hcompose : compose? starter m = some c := by
        split at hc
        · cases hc
        · exact hc
      exact ih (isUnsigned_compose hcompose) hmarks hr
    · split
      · intro n hn
        rcases List.mem_cons.mp hn with rfl | hn
        · exact hstarter
        rcases List.mem_append.mp hn with hn | hn
        · exact hmarks n (List.mem_reverse.mp hn)
        · exact ih hm (List.forall_mem_nil _) hr n hn
      · exact ih hstarter (List.forall_mem_cons.mpr ⟨hm, hmarks⟩) hr

/-- Composing codes that are no signs gives none. -/
theorem isUnsigned_composeAll (hs : ∀ n ∈ s, isUnsigned n = true) :
    ∀ n ∈ composeAll s, isUnsigned n = true := by
  induction s with
  | nil => exact fun _ h => nomatch h
  | cons m r ih =>
    obtain ⟨hm, hr⟩ := List.forall_mem_cons.mp hs
    unfold composeAll
    split
    · exact isUnsigned_composeFrom hm (List.forall_mem_nil _) hr
    · exact List.forall_mem_cons.mpr ⟨hm, ih hr⟩

/-- **Composing a name gives no sign of ASCII**, only letters, digits and underscores. -/
theorem isUnsigned_of_mem_normalForm (hs : ∀ n ∈ s, isNameContinue n = true ∧ n < 0x110000)
    {m : Nat} (hm : m ∈ normalForm s) : isUnsigned m = true := by
  unfold normalForm at hm
  split at hm
  · next hascii =>
    have hlt : m < 128 := by simpa using List.all_eq_true.mp hascii m hm
    rw [isUnsigned, if_pos hlt, (hs m hm).1]
  · have hparts : ∀ n ∈ (orderMarks [] (s.flatMap decomposeOf)).reverse, isUnsigned n = true := by
      intro n hn
      rcases mem_orderMarks (List.mem_reverse.mp hn) with h | h
      · exact nomatch h
      · obtain ⟨c, hc, h⟩ := List.mem_flatMap.mp h
        exact isUnsigned_of_mem_decomposeOf (hs c hc).1 (hs c hc).2 h
    exact isUnsigned_composeAll hparts m hm

/-- Codes that are no signs give characters that are none. -/
theorem isUnsigned_ofCodes {s : List Nat} (hs : ∀ n ∈ s, isUnsigned n = true) :
    ∀ c ∈ ofCodes s, isUnsigned c.toNat = true := by
  intro c hc
  obtain ⟨n, hn, rfl⟩ := List.mem_map.mp hc
  split
  · exact isUnsigned_of_le (by decide) (by decide)
  · next hsurrogate =>
    have hunsigned := hs n hn
    have hlt : n < 0x110000 := by
      by_contra hge
      rw [isUnsigned, if_neg (by omega), decide_eq_true_iff] at hunsigned
      exact hge hunsigned
    have hvalid : n.isValidChar := by
      simp only [Bool.and_eq_true, decide_eq_true_eq] at hsurrogate
      unfold Nat.isValidChar
      omega
    rwa [Char.toNat_ofNat, if_pos hvalid]

/-! ### Nothing is composed away -/

/-- What decomposes to several codes decomposes to some. -/
theorem ne_nil_of_mem_decomposeMany : (decomposeMany.all fun e => !e.2.isEmpty) = true := by
  decide +kernel

/-- Every code decomposes to one or more. -/
theorem decomposeOf_ne_nil (n : Nat) : decomposeOf n ≠ [] := by
  unfold decomposeOf
  split
  · exact List.cons_ne_nil n []
  · split
    · dsimp only
      split <;> exact List.cons_ne_nil _ _
    · split
      · next ms hms =>
        have hentry := mem_of_lookup hms
        simpa using List.all_eq_true.mp ne_nil_of_mem_decomposeMany (n, ms) hentry
      · exact List.cons_ne_nil _ _

/-- With a mark inserted there is one. -/
theorem insertMark_ne_nil (m k : Nat) (s : List Nat) : insertMark m k s ≠ [] := by
  cases s with
  | nil => exact List.cons_ne_nil m []
  | cons p r =>
    unfold insertMark
    split <;> exact List.cons_ne_nil _ _

/-- Ordering marks loses none. -/
theorem orderMarks_ne_nil {done s : List Nat} (h : done ≠ [] ∨ s ≠ []) : orderMarks done s ≠ [] := by
  induction s generalizing done with
  | nil => exact h.resolve_right (not_not_intro rfl)
  | cons m r ih =>
    refine ih (.inl ?_)
    split
    · exact List.cons_ne_nil m done
    · exact insertMark_ne_nil _ _ done

/-- From a starter on something is composed. -/
theorem composeFrom_ne_nil (starter : Nat) (marks : List Nat) (last : Nat) (s : List Nat) :
    composeFrom starter marks last s ≠ [] := by
  induction s generalizing starter marks last with
  | nil => exact List.cons_ne_nil _ _
  | cons m r ih =>
    unfold composeFrom
    dsimp only
    split
    · exact ih _ _ _
    · split
      · exact List.cons_ne_nil _ _
      · exact ih _ _ _

/-- Composing loses no text whole. -/
theorem composeAll_ne_nil (h : s ≠ []) : composeAll s ≠ [] := by
  cases s with
  | nil => exact absurd rfl h
  | cons m r =>
    unfold composeAll
    split
    · exact composeFrom_ne_nil _ _ _ r
    · exact List.cons_ne_nil _ _

/-- **The composed form of a text is not empty**, unless the text is. -/
theorem normalForm_ne_nil (h : s ≠ []) : normalForm s ≠ [] := by
  unfold normalForm
  split
  · exact h
  · have hparts : s.flatMap decomposeOf ≠ [] := by
      obtain ⟨n, r, rfl⟩ := List.exists_cons_of_ne_nil h
      exact List.append_ne_nil_of_left_ne_nil (decomposeOf_ne_nil n) _
    exact composeAll_ne_nil (List.reverse_ne_nil_iff.mpr (orderMarks_ne_nil (.inr hparts)))

end Text

namespace Syntax

/-- **The name of a token holds no sign of ASCII** if what it is written with is name characters. -/
theorem isUnsigned_of_mem_nameText {t : Token}
    (ht : ∀ n, t.kind = .name n → ∀ c ∈ n, Text.isNameContinue c.toNat = true) :
    ∀ c ∈ t.nameText, Text.isUnsigned c.toNat = true := by
  unfold Token.nameText
  split
  · next n hn =>
    split
    · next hascii =>
      intro c hc
      have hlt : c.toNat < 128 := by simpa using List.all_eq_true.mp hascii c hc
      rw [Text.isUnsigned, if_pos hlt, ht n hn c hc]
    · refine Text.isUnsigned_ofCodes fun m hm => Text.isUnsigned_of_mem_normalForm ?_ hm
      intro k hk
      obtain ⟨c, hc, rfl⟩ := List.mem_map.mp hk
      refine ⟨ht n hn c hc, ?_⟩
      rcases c.valid with hlt | ⟨-, hlt⟩
      · exact hlt.trans (by decide)
      · exact hlt
  · exact List.forall_mem_nil _

/-- **The name of a token is not empty** if what it is written with is not. -/
theorem nameText_ne_nil {t : Token} {n : Text} (ht : t.kind = .name n) (hn : n ≠ []) :
    t.nameText ≠ [] := by
  rw [Token.nameText, ht]
  dsimp only
  split
  · exact hn
  · have hcodes : Text.codes n ≠ [] := fun h => hn (List.map_eq_nil_iff.mp h)
    exact fun h => Text.normalForm_ne_nil hcodes (List.map_eq_nil_iff.mp h)

end Syntax
end ApiPage
