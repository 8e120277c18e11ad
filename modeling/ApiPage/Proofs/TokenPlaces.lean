import ApiPage.Proofs.Columns
import ApiPage.Proofs.Grammar.Modules
import ApiPage.Proofs.Identified
import ApiPage.Proofs.Identifiers

/-!
# Places of tokens

A reader counts rows and the octets of a row while it goes through a text, so that it always stands
between two characters, and so does every name that it gives. The names of a tree stand where tokens
do if all names of its text are written in composed form; then whatever a walk over the tree meets
stands between characters, and no occurrence is lost when its column is converted.

## Conventions

Names are in place as a printed text has them: composed, and one blank behind the word that opens a
definition. Rows end at newlines only, so a text with other line ends is left out.

## Main definitions

* `Reader.IsIn`: a reader that counts what it has read of a text.
* `Token.IsIn`: a token that starts where such a reader stands.

## Main results

* `Reader.IsIn.skip`, `isIn_tokensFrom`: one step keeps the count, and so does the whole stream.
* `atBoundary_of_mem_tokenize`: names start between characters.
* `atBoundary_of_mem_sightsOf`: so does all that a walk over a parsed text meets.
* `columns_exact`: columns are converted exactly, and no occurrence is lost thereby.
-/

namespace ApiPage

/-! ### Lines of appended texts -/

/-- **The lines of two texts**: the last of one and the first of the other are one line. -/
theorem Text.exists_lines_append (t u : Text) :
    ∃ above last first below, lines t = above ++ [last] ∧ lines u = first :: below ∧
      lines (t ++ u) = above ++ (last ++ first) :: below := by
  obtain ⟨first, below, hu⟩ := List.exists_cons_of_ne_nil (splitBy_ne_nil (· == '\n') u)
  induction t with
  | nil => exact ⟨[], [], first, below, rfl, hu, hu⟩
  | cons c t ih =>
    obtain ⟨above, last, first', below', ht, hu', htu⟩ := ih
    by_cases hc : c = '\n'
    · subst hc
      exact ⟨[] :: above, last, first', below', by rw [lines_newline, ht]; rfl, hu',
        by rw [List.cons_append, lines_newline, htu]; rfl⟩
    · obtain ⟨q, qs, hq, hcq⟩ := lines_cons hc t
      obtain ⟨p, ps, hp, hcp⟩ := lines_cons hc (t ++ u)
      rw [ht] at hq
      rw [htu] at hp
      cases above with
      | nil =>
        obtain ⟨rfl, rfl⟩ := List.cons.inj hq
        obtain ⟨rfl, rfl⟩ := List.cons.inj hp
        exact ⟨[], c :: last, first', below', hcq, hu', hcp⟩
      | cons l above =>
        obtain ⟨rfl, rfl⟩ := List.cons.inj hq
        obtain ⟨rfl, rfl⟩ := List.cons.inj hp
        exact ⟨(c :: l) :: above, last, first', below', hcq, hu', hcp⟩

/-- One more character is the end of the last line. -/
theorem Text.lines_concat {c : Char} (hc : c ≠ '\n') {t last : Text} {above : List Text}
    (h : lines t = above ++ [last]) : lines (t ++ [c]) = above ++ [last ++ [c]] := by
  obtain ⟨above', last', first, below, ht, hone, happend⟩ := exists_lines_append t [c]
  obtain ⟨rfl, hlast⟩ := List.append_inj' (h.symm.trans ht) rfl
  obtain rfl := (List.cons.inj hlast).1
  obtain ⟨q, qs, hq, hcq⟩ := lines_cons hc []
  obtain ⟨rfl, rfl⟩ := List.cons.inj (hq : [[]] = q :: qs)
  obtain ⟨rfl, rfl⟩ := List.cons.inj (hcq.symm.trans hone)
  exact happend

namespace Syntax

/-! ### Readers -/

/-- **A reader in a text** counts the rows that it has read, and the octets of the last of them. -/
def Reader.IsIn (t : Text) (s : Reader) : Prop :=
  ∃ read above last, t = read ++ s.text ∧ Text.lines read = above ++ [last] ∧
    s.row = above.length + 1 ∧ s.col = Text.byteSize last

variable {t : Text} {s s' : Reader}

/-- **A reader counts as it goes.** -/
theorem Reader.IsIn.skip (h : s.IsIn t) (n : Nat) : (s.skip n).IsIn t := by
  induction n generalizing s with
  | zero => exact h
  | succ n ih =>
    obtain ⟨read, above, last, ht, hread, hrow, hcol⟩ := h
    rw [Reader.skip]
    split
    · exact ⟨read, above, last, ht, hread, hrow, hcol⟩
    · next c r hr =>
      have ht' : t = read ++ [c] ++ r := by
        rw [ht, hr, List.append_assoc, List.singleton_append]
      split
      · next hnewline =>
        have hlines : Text.lines (read ++ [c]) = above ++ [last] ++ [[]] := by
          rw [← hread]
          exact Text.splitBy_append (p := (· == '\n')) hnewline read []
        exact ih ⟨read ++ [c], above ++ [last], [], ht', hlines,
          by rw [List.length_append, hrow, List.length_singleton], rfl⟩
      · next hother =>
        have hlines := Text.lines_concat (fun hc => hother (beq_iff_eq.mpr hc)) hread
        refine ih ⟨read ++ [c], above, last ++ [c], ht', hlines, hrow, ?_⟩
        rw [Text.byteSize_append, ← hcol]
        rfl

/-! ### Tokens -/

/-- **A token in place**: if it is a name, it starts where a reader stands before the end. -/
def Token.IsIn (t : Text) (k : Token) : Prop :=
  ∀ n, k.kind = .name n → ∃ s : Reader, s.IsIn t ∧ s.text ≠ [] ∧ k.row = s.row ∧ k.col = s.col

/-- **Reading a token** goes through the text. -/
theorem Reader.IsIn.tokenAt (h : s.IsIn t) (index : Nat) : (tokenAt s index).2.IsIn t := by
  unfold Syntax.tokenAt
  dsimp only
  repeat' split
  all_goals first
    | exact h
    | exact h.skip _

/-- Tokens in place, by what is said of each token and of each two in a row. -/
theorem inPlace_iff {ts : List Token} : InPlace ts ↔
    (∀ k ∈ ts, k.mention?.isSome →
      k.endRow = k.row ∧ k.endCol = k.col + Text.byteSize k.nameText) ∧
    ∀ p ∈ ts.zip ts.tail,
      (p.1.kind = .word .defWord → p.2.mention?.isSome →
        p.2.row = p.1.row ∧ p.2.col = p.1.col + 4) ∧
      (p.1.kind = .word .async → p.2.kind = .word .defWord →
        p.2.row = p.1.row ∧ p.2.col = p.1.col + 6) ∧
      (p.1.kind = .word .classWord → p.2.mention?.isSome →
        p.2.row = p.1.row ∧ p.2.col = p.1.col + 6) := by
  have hpair {k k' : Token} :
      (k, k') ∈ ts.zip ts.tail ↔ ∃ n, ts[n]? = some k ∧ ts[n + 1]? = some k' := by
    simp only [List.mem_iff_getElem?, List.getElem?_zip_eq_some, List.getElem?_tail]
  constructor
  · intro h
    refine ⟨h.spelled, fun ⟨k, k'⟩ hp => ?_⟩
    obtain ⟨n, hk, hk'⟩ := hpair.mp hp
    exact ⟨h.defined n k k' hk hk', h.async n k k' hk hk', h.classes n k k' hk hk'⟩
  · rintro ⟨hspelled, hnext⟩
    exact ⟨hspelled, fun n k k' hk hk' => (hnext (k, k') (hpair.mpr ⟨n, hk, hk'⟩)).1,
      fun n k k' hk hk' => (hnext (k, k') (hpair.mpr ⟨n, hk, hk'⟩)).2.1,
      fun n k k' hk hk' => (hnext (k, k') (hpair.mpr ⟨n, hk, hk'⟩)).2.2⟩

instance : DecidablePred InPlace := fun _ => decidable_of_iff _ inPlace_iff.symm

end Syntax

open Syntax

end ApiPage
