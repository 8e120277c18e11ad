import ApiPage.Example.Basic
import ApiPage.Proofs.RfcReferences

/-!
# Heads of functions

Code that begins with the head of a function is shown from behind the head on. What counts as a head
is a matter of its characters: `def` and a name, parentheses, an annotation or none, and a colon at
the end of a line. Any text may stand between the parentheses, of other statements too, so what is
left out is the shortest text at the start of the code that reads as a head.

## Main definitions

* `Example.IsHead`: a text that reads as the head of a function.
* `Example.Heads`: the shortest head at the start of a text.

## Main results

* `Example.wrapped?_eq_some_iff`: the body is what follows the shortest head.
* `Example.wrapped?_eq_none_iff`: there is no body if there is no head.
-/

namespace ApiPage.Example

open Prose (IsGap)

/-! ### The grammar of heads -/

/-- **The end of a head** behind its parameters: an annotation if there is one, and a colon at the
end of a line. -/
inductive EndsHead : Text → Prop
  | plain {space blanks : Text} : (∀ c ∈ space, Text.isSpaceChar c) →
      (∀ c ∈ blanks, Text.isBlankChar c) → EndsHead (space ++ ':' :: (blanks ++ ['\n']))
  | annotated {space hint blanks : Text} : (∀ c ∈ space, Text.isSpaceChar c) →
      '\n' ∉ hint → (∀ c ∈ blanks, Text.isBlankChar c) →
      EndsHead (space ++ '-' :: '>' :: (hint ++ ':' :: (blanks ++ ['\n'])))

/-- **Head of a function** from its `def` on. -/
inductive IsDefHead : Text → Prop
  | mk {gap name space params tail : Text} : IsGap gap → name ≠ [] →
      (∀ c ∈ name, Text.isWord c.toNat) → (∀ c ∈ space, Text.isSpaceChar c) → EndsHead tail →
      IsDefHead (Text.of "def" ++ (gap ++ (name ++ (space ++ '(' :: (params ++ ')' :: tail)))))

/-- **Head of a function**: its line up to the newline, or its lines. -/
inductive IsHead : Text → Prop
  | plain {head : Text} : IsDefHead head → IsHead head
  | async {gap head : Text} : IsGap gap → IsDefHead head →
      IsHead (Text.of "async" ++ (gap ++ head))

/-- **The shortest head** at the start of a text. -/
structure Heads (head t : Text) : Prop where
  isHead : IsHead head
  isPrefix : head <+: t
  shortest : ∀ h, IsHead h → h <+: t → head.length ≤ h.length

/-! ### The end of a line -/

/-- A newline is no blank. -/
theorem not_isBlankChar_newline : ¬ Text.isBlankChar '\n' := by decide

/-- The end of a line is a newline with blanks before it. -/
theorem afterLineEnd?_eq_some_iff {t r : Text} : afterLineEnd? t = some r ↔
    ∃ blanks, (∀ c ∈ blanks, Text.isBlankChar c) ∧ t = blanks ++ '\n' :: r := by
  constructor
  · intro h
    rw [afterLineEnd?] at h
    split at h
    · next r' hdrop =>
      obtain rfl := Option.some.inj h
      refine ⟨t.takeWhile Text.isBlankChar, fun c hc => List.mem_takeWhile_imp hc, ?_⟩
      rw [← hdrop, List.takeWhile_append_dropWhile]
    · cases h
  · rintro ⟨blanks, hblanks, rfl⟩
    rw [afterLineEnd?, List.dropWhile_append_of_pos hblanks,
      List.dropWhile_cons_of_neg not_isBlankChar_newline]
    rfl

/-- What follows the first newline is longest. -/
theorem length_le_of_append_newline {a b r s : Text} (ha : '\n' ∉ a)
    (h : a ++ '\n' :: r = b ++ '\n' :: s) : s.length ≤ r.length := by
  rcases List.append_eq_append_iff.mp h with ⟨u, rfl, hrest⟩ | ⟨u, rfl, hrest⟩
  · have hlength := congrArg List.length hrest
    rw [List.length_append, List.length_cons, List.length_cons] at hlength
    omega
  · cases u with
    | nil =>
      obtain ⟨-, rfl⟩ := List.cons.inj hrest
      exact le_rfl
    | cons c u =>
      obtain ⟨rfl, -⟩ := List.cons.inj hrest
      exact absurd (List.mem_append_right b List.mem_cons_self) ha

/-- The first newline divides a text in one way. -/
theorem eq_of_append_newline {a b r s : Text} (ha : '\n' ∉ a) (hb : '\n' ∉ b)
    (h : a ++ '\n' :: r = b ++ '\n' :: s) : r = s := by
  have hlength := le_antisymm (length_le_of_append_newline hb h.symm)
    (length_le_of_append_newline ha h)
  obtain ⟨-, hrest⟩ := List.append_inj' h (by rw [List.length_cons, List.length_cons, hlength])
  exact (List.cons.inj hrest).2

/-- Blanks hold no newline. -/
theorem newline_notMem_of_blanks {blanks : Text} (h : ∀ c ∈ blanks, Text.isBlankChar c) :
    '\n' ∉ blanks := fun hmem => not_isBlankChar_newline (h _ hmem)

/-- What stands before the newline of an annotation. -/
theorem newline_notMem_hint {hint blanks : Text} (h : '\n' ∉ hint)
    (hblanks : ∀ c ∈ blanks, Text.isBlankChar c) : '\n' ∉ hint ++ ':' :: blanks := by
  simp [h, newline_notMem_of_blanks hblanks]

/-- What is read up to a colon is an annotation without a newline. -/
theorem exists_of_afterColon? {t r : Text} (h : afterColon? t = some r) :
    ∃ hint blanks, '\n' ∉ hint ∧ (∀ c ∈ blanks, Text.isBlankChar c) ∧
      t = hint ++ ':' :: (blanks ++ '\n' :: r) := by
  induction t with
  | nil => cases h
  | cons c t ih =>
    have hlater (hc : c ≠ '\n') (h : afterColon? t = some r) :
        ∃ hint blanks, '\n' ∉ hint ∧ (∀ c ∈ blanks, Text.isBlankChar c) ∧
          c :: t = hint ++ ':' :: (blanks ++ '\n' :: r) := by
      obtain ⟨hint, blanks, hhint, hblanks, rfl⟩ := ih h
      exact ⟨c :: hint, blanks, by simp [hhint, hc.symm], hblanks, rfl⟩
    rw [afterColon?.eq_def] at h
    split at h
    · cases h
    · next heq =>
      obtain ⟨rfl, rfl⟩ := List.cons.inj heq
      simp only [Option.orElse_eq_orElse, Option.orElse_eq_or, Option.or_eq_some_iff] at h
      rcases h with hend | ⟨-, hrest⟩
      · obtain ⟨blanks, hblanks, rfl⟩ := afterLineEnd?_eq_some_iff.mp hend
        exact ⟨[], blanks, List.not_mem_nil, hblanks, rfl⟩
      · exact hlater (by decide) hrest
    · next heq =>
      obtain ⟨rfl, rfl⟩ := List.cons.inj heq
      split at h
      · cases h
      · next hc => exact hlater (by simpa using hc) h

/-- **What follows the first colon that ends a line** is the same for all colons that end it. -/
theorem afterColon?_append {hint blanks : Text} (hhint : '\n' ∉ hint)
    (hblanks : ∀ c ∈ blanks, Text.isBlankChar c) (r : Text) :
    afterColon? (hint ++ ':' :: (blanks ++ '\n' :: r)) = some r := by
  have hend : afterLineEnd? (blanks ++ '\n' :: r) = some r :=
    afterLineEnd?_eq_some_iff.mpr ⟨blanks, hblanks, rfl⟩
  induction hint with
  | nil =>
    rw [List.nil_append, afterColon?, hend]
    rfl
  | cons c hint ih =>
    obtain ⟨hc, hrest⟩ : '\n' ≠ c ∧ '\n' ∉ hint := by simpa using hhint
    rw [List.cons_append, afterColon?.eq_def]
    split
    · next heq => cases heq
    · next heq =>
      obtain ⟨rfl, rfl⟩ := List.cons.inj heq
      cases hline : afterLineEnd? (hint ++ ':' :: (blanks ++ '\n' :: r)) with
      | none => exact ih hrest
      | some s =>
        obtain ⟨blanks', hblanks', heq⟩ := afterLineEnd?_eq_some_iff.mp hline
        have hsame : hint ++ ':' :: blanks ++ '\n' :: r = blanks' ++ '\n' :: s := by
          simpa using heq
        rw [eq_of_append_newline (newline_notMem_hint hrest hblanks)
          (newline_notMem_of_blanks hblanks') hsame]
        rfl
    · next heq =>
      obtain ⟨rfl, rfl⟩ := List.cons.inj heq
      rw [if_neg (by simpa using hc.symm)]
      exact ih hrest

/-! ### The end of a head -/

/-- White space is dropped up to what is none. -/
theorem dropWhile_space_append {space : Text} (hspace : ∀ c ∈ space, Text.isSpaceChar c) {c : Char}
    (hc : Text.isSpaceChar c = false) (r : Text) :
    (space ++ c :: r).dropWhile Text.isSpaceChar = c :: r := by
  rw [List.dropWhile_append_of_pos hspace, List.dropWhile_cons_of_neg (by simp [hc])]

/-- The white space at the start of a text. -/
theorem exists_space (t : Text) :
    ∃ space, (∀ c ∈ space, Text.isSpaceChar c) ∧ t = space ++ t.drop (spaceLength t) := by
  refine ⟨t.takeWhile Text.isSpaceChar, fun c hc => List.mem_takeWhile_imp hc, ?_⟩
  rw [spaceLength, Text.drop_length_takeWhile, List.takeWhile_append_dropWhile]

/-- **The end of a head** is what stands behind the parameters, exactly. -/
theorem afterParameters?_eq_some_iff {t r : Text} : afterParameters? t = some r ↔
    ∃ tail, EndsHead tail ∧ t = tail ++ r := by
  constructor
  · intro h
    obtain ⟨space, hspace, ht⟩ := exists_space t
    rw [afterParameters?] at h
    split at h
    · next u hdrop =>
      obtain ⟨hint, blanks, hhint, hblanks, rfl⟩ := exists_of_afterColon? h
      refine ⟨_, .annotated hspace hhint hblanks, ?_⟩
      rw [hdrop] at ht
      simpa using ht
    · next u hdrop =>
      obtain ⟨blanks, hblanks, rfl⟩ := afterLineEnd?_eq_some_iff.mp h
      refine ⟨_, .plain hspace hblanks, ?_⟩
      rw [hdrop] at ht
      simpa using ht
    · cases h
  · rintro ⟨tail, htail, rfl⟩
    rw [afterParameters?, spaceLength, Text.drop_length_takeWhile]
    cases htail with
    | @plain space blanks hspace hblanks =>
      rw [List.append_assoc, List.cons_append, dropWhile_space_append hspace (by decide)]
      exact afterLineEnd?_eq_some_iff.mpr ⟨blanks, hblanks, by simp⟩
    | @annotated space hint blanks hspace hhint hblanks =>
      rw [List.append_assoc, List.cons_append, dropWhile_space_append hspace (by decide)]
      simpa using afterColon?_append hhint hblanks r

/-- The end of a head is white space and one line. -/
theorem EndsHead.exists_line {tail : Text} (h : EndsHead tail) : ∃ space line,
    (∀ c ∈ space, Text.isSpaceChar c) ∧ '\n' ∉ line ∧ tail = space ++ (line ++ ['\n']) := by
  cases h with
  | @plain space blanks hspace hblanks =>
    exact ⟨space, ':' :: blanks, hspace, by simp [newline_notMem_of_blanks hblanks], by simp⟩
  | @annotated space hint blanks hspace hhint hblanks =>
    have hline := newline_notMem_hint hhint hblanks
    exact ⟨space, '-' :: '>' :: (hint ++ ':' :: blanks), hspace, by simpa using hline,
      by simp⟩

/-- **A head that ends sooner is no longer**: the line that ends it is met first. -/
theorem EndsHead.length_le {tail tail' params r r' : Text} (h : EndsHead tail)
    (h' : EndsHead tail') (heq : tail ++ r = params ++ ')' :: (tail' ++ r')) :
    r'.length ≤ r.length := by
  obtain ⟨space, line, hspace, hline, rfl⟩ := h.exists_line
  obtain ⟨space', line', -, -, rfl⟩ := h'.exists_line
  rw [List.append_assoc] at heq
  rcases List.append_eq_append_iff.mp heq with ⟨u, -, hrest⟩ | ⟨u, rfl, hrest⟩
  · have hsame : line ++ '\n' :: r = (u ++ ')' :: (space' ++ line')) ++ '\n' :: r' := by
      simpa using hrest
    exact length_le_of_append_newline hline hsame
  · cases u with
    | nil =>
      have hsame : line ++ '\n' :: r = (')' :: (space' ++ line')) ++ '\n' :: r' := by
        simpa using hrest.symm
      exact length_le_of_append_newline hline hsame
    | cons c u =>
      obtain ⟨rfl, -⟩ := List.cons.inj hrest
      have hparen := hspace ')' (List.mem_append_right params List.mem_cons_self)
      exact absurd hparen (by decide)

/-! ### The body -/

/-- What is read as a head ends with a parenthesis and an end of a head. -/
theorem exists_of_afterHead? {t r : Text} (h : afterHead? t = some r) :
    ∃ params tail, EndsHead tail ∧ t = params ++ ')' :: (tail ++ r) := by
  induction t with
  | nil => cases h
  | cons c t ih =>
    have hlater (h : afterHead? t = some r) :
        ∃ params tail, EndsHead tail ∧ c :: t = params ++ ')' :: (tail ++ r) := by
      obtain ⟨params, tail, htail, rfl⟩ := ih h
      exact ⟨c :: params, tail, htail, rfl⟩
    rw [afterHead?.eq_def] at h
    split at h
    · cases h
    · next heq =>
      obtain ⟨rfl, rfl⟩ := List.cons.inj heq
      simp only [Option.orElse_eq_orElse, Option.orElse_eq_or, Option.or_eq_some_iff] at h
      rcases h with hend | ⟨-, hrest⟩
      · obtain ⟨tail, htail, rfl⟩ := afterParameters?_eq_some_iff.mp hend
        exact ⟨[], tail, htail, rfl⟩
      · exact hlater hrest
    · next heq =>
      obtain ⟨rfl, rfl⟩ := List.cons.inj heq
      exact hlater h

/-- **Where a head ends there is a body**, which starts there or sooner. -/
theorem exists_afterHead? {tail : Text} (htail : EndsHead tail) (params r : Text) :
    ∃ s, afterHead? (params ++ ')' :: (tail ++ r)) = some s ∧ r.length ≤ s.length := by
  induction params with
  | nil =>
    refine ⟨r, ?_, le_rfl⟩
    rw [List.nil_append, afterHead?, afterParameters?_eq_some_iff.mpr ⟨tail, htail, rfl⟩]
    rfl
  | cons c params ih =>
    obtain ⟨s, hs, hle⟩ := ih
    rw [List.cons_append, afterHead?.eq_def]
    split
    · next heq => cases heq
    · next heq =>
      obtain ⟨rfl, rfl⟩ := List.cons.inj heq
      cases hend : afterParameters? (params ++ ')' :: (tail ++ r)) with
      | none => exact ⟨s, hs, hle⟩
      | some s' =>
        obtain ⟨tail', htail', heq⟩ := afterParameters?_eq_some_iff.mp hend
        exact ⟨s', rfl, htail'.length_le htail heq.symm⟩
    · next heq =>
      obtain ⟨rfl, rfl⟩ := List.cons.inj heq
      exact ⟨s, hs, hle⟩

/-- A word with white space behind it. -/
theorem afterSpacedWord?_eq_some_iff {w : String} {t r : Text} : afterSpacedWord? w t = some r ↔
    ∃ gap, IsGap gap ∧ (∀ c ∈ r.head?, Text.isSpaceChar c = false) ∧
      t = Text.of w ++ (gap ++ r) := by
  constructor
  · intro h
    rw [afterSpacedWord?] at h
    split at h
    · next u hu =>
      split at h
      · cases h
      · next hspace =>
        obtain rfl := Option.some.inj h
        obtain ⟨gap, hgap, -, hsplit⟩ := Prose.exists_gap (t := u) hspace
        refine ⟨gap, hgap, fun c hc => ?_, ?_⟩
        · rw [spaceLength, Text.drop_length_takeWhile, Option.mem_def] at hc
          have hstop := List.head?_dropWhile_not Text.isSpaceChar u
          rw [hc] at hstop
          exact hstop
        · rw [Text.eq_of_dropPrefix? hu]
          exact congrArg _ hsplit
    · cases h
  · rintro ⟨gap, hgap, hr, rfl⟩
    have hlength : spaceLength (gap ++ r) = gap.length := Prose.spaceLength_append hgap hr
    rw [afterSpacedWord?, Html.dropPrefix?_append]
    dsimp only
    rw [hlength, if_neg (List.length_pos_of_ne_nil hgap.ne_nil).ne', List.drop_left]

/-- The word characters at the start of a text. -/
theorem exists_word (t : Text) : ∃ word, (∀ c ∈ word, Text.isWord c.toNat) ∧
    wordLength t = word.length ∧ t = word ++ t.drop (wordLength t) := by
  refine ⟨t.takeWhile fun c => Text.isWord c.toNat,
    fun c hc => List.mem_takeWhile_imp (p := fun c => Text.isWord (Char.toNat c)) hc, rfl, ?_⟩
  rw [wordLength, Text.drop_length_takeWhile, List.takeWhile_append_dropWhile]

/-- What is read behind the word `def`. -/
theorem wrapped?_eq_some_iff_exists {t body : Text} : wrapped? t = some body ↔
    ∃ name space r, name ≠ [] ∧ (∀ c ∈ name, Text.isWord c.toNat) ∧
      (∀ c ∈ space, Text.isSpaceChar c) ∧ afterHead? r = some body ∧
      afterSpacedWord? "def" ((afterSpacedWord? "async" t).getD t) =
        some (name ++ (space ++ '(' :: r)) := by
  rw [wrapped?]
  constructor
  · intro h
    split at h
    · cases h
    · next u hu =>
      dsimp only at h
      obtain ⟨name, hname, hlength, hsplit⟩ := exists_word u
      obtain ⟨space, hspace, hsplit'⟩ := exists_space (u.drop (wordLength u))
      split at h
      · next r hdrop =>
        split at h
        · cases h
        · next hn =>
          rw [hdrop] at hsplit'
          refine ⟨name, space, r, fun hnil => hn (by rw [hlength, hnil]; rfl), hname, hspace, h, ?_⟩
          rw [hu, ← hsplit', ← hsplit]
      · cases h
  · rintro ⟨name, space, r, hne, hname, hspace, hbody, hdef⟩
    have hstop : (space ++ '(' :: r).takeWhile (fun c => Text.isWord c.toNat) = [] := by
      cases space with
      | nil => rw [List.nil_append, List.takeWhile_cons_of_neg (by decide)]
      | cons c space =>
        have hc := Text.isWord_of_isSpace (hspace c List.mem_cons_self)
        rw [List.cons_append, List.takeWhile_cons_of_neg (by simpa using hc)]
    have hlength : wordLength (name ++ (space ++ '(' :: r)) = name.length := by
      rw [wordLength, List.takeWhile_append_of_pos hname, hstop, List.append_nil]
    rw [hdef]
    dsimp only
    rw [hlength, List.drop_left, spaceLength, Text.drop_length_takeWhile,
      dropWhile_space_append hspace (by decide)]
    show (if name.length = 0 then none else afterHead? r) = some body
    rw [if_neg (List.length_pos_of_ne_nil hne).ne', hbody]

/-- The word `async` is no part of what follows `def`. -/
theorem afterSpacedWord?_async_def (r : Text) :
    afterSpacedWord? "async" (Text.of "def" ++ r) = none := rfl

/-- What stands in front of the body reads as a head. -/
theorem exists_head_of_wrapped? {t body : Text} (h : wrapped? t = some body) :
    ∃ head, IsHead head ∧ t = head ++ body := by
  obtain ⟨name, space, r, hne, hname, hspace, hbody, hdef⟩ := wrapped?_eq_some_iff_exists.mp h
  obtain ⟨gap, hgap, -, hsplit⟩ := afterSpacedWord?_eq_some_iff.mp hdef
  obtain ⟨params, tail, htail, rfl⟩ := exists_of_afterHead? hbody
  have hhead : IsDefHead
      (Text.of "def" ++ (gap ++ (name ++ (space ++ '(' :: (params ++ ')' :: tail))))) :=
    .mk hgap hne hname hspace htail
  cases hasync : afterSpacedWord? "async" t with
  | none =>
    rw [hasync, Option.getD_none] at hsplit
    exact ⟨_, .plain hhead, by simpa using hsplit⟩
  | some u =>
    obtain ⟨gap', hgap', -, rfl⟩ := afterSpacedWord?_eq_some_iff.mp hasync
    rw [hasync, Option.getD_some] at hsplit
    exact ⟨_, .async hgap' hhead, by simp [hsplit]⟩

/-- A head does not begin with white space. -/
theorem head?_of_isDefHead {head body : Text} (h : IsDefHead head) :
    ∀ c ∈ (head ++ body).head?, Text.isSpaceChar c = false := by
  cases h with
  | mk =>
    rintro _ ⟨⟩
    decide

/-- **Where a head stands there is a body**, which starts behind it or sooner. With `async` and
without, the same is read from `def` on. -/
theorem exists_wrapped?_of_isHead {head : Text} (h : IsHead head) (body : Text) :
    ∃ s, wrapped? (head ++ body) = some s ∧ body.length ≤ s.length := by
  have hread {t u : Text} (hu : IsDefHead u)
      (ht : (afterSpacedWord? "async" t).getD t = u ++ body) :
      ∃ s, wrapped? t = some s ∧ body.length ≤ s.length := by
    cases hu with
    | @mk gap name space params tail hgap hne hname hspace htail =>
      obtain ⟨s, hs, hle⟩ := exists_afterHead? htail params body
      refine ⟨s, wrapped?_eq_some_iff_exists.mpr ⟨name, space, params ++ ')' :: (tail ++ body), hne,
        hname, hspace, hs, ?_⟩, hle⟩
      rw [ht]
      refine afterSpacedWord?_eq_some_iff.mpr ⟨gap, hgap, ?_, by simp⟩
      obtain ⟨c, name, rfl⟩ := List.exists_cons_of_ne_nil hne
      rintro _ ⟨⟩
      cases hc : Text.isSpaceChar c with
      | false => rfl
      | true =>
        have hword := hname c List.mem_cons_self
        rw [Text.isWord_of_isSpace hc] at hword
        cases hword
  cases h with
  | plain hdef =>
    refine hread hdef ?_
    cases hdef with
    | mk => rw [List.append_assoc, afterSpacedWord?_async_def, Option.getD_none]
  | @async gap head hgap hdef =>
    refine hread hdef ?_
    rw [List.append_assoc, List.append_assoc, afterSpacedWord?_eq_some_iff.mpr
      ⟨gap, hgap, head?_of_isDefHead hdef, rfl⟩, Option.getD_some]

/-- **There is no body** just if no head stands at the start. -/
theorem wrapped?_eq_none_iff {t : Text} :
    wrapped? t = none ↔ ∀ head, IsHead head → ¬ head <+: t := by
  constructor
  · rintro h head hhead ⟨body, rfl⟩
    obtain ⟨s, hs, -⟩ := exists_wrapped?_of_isHead hhead body
    rw [h] at hs
    cases hs
  · intro h
    cases hbody : wrapped? t with
    | none => rfl
    | some body =>
      obtain ⟨head, hhead, rfl⟩ := exists_head_of_wrapped? hbody
      exact absurd (List.prefix_append head body) (h head hhead)

/-- **The body** is what follows the shortest head. -/
theorem wrapped?_eq_some_iff {t body : Text} :
    wrapped? t = some body ↔ ∃ head, Heads head t ∧ t = head ++ body := by
  constructor
  · intro h
    obtain ⟨head, hhead, rfl⟩ := exists_head_of_wrapped? h
    refine ⟨head, ⟨hhead, List.prefix_append head body, fun head' hhead' hprefix => ?_⟩, rfl⟩
    obtain ⟨body', hsplit⟩ := hprefix
    obtain ⟨s, hs, hle⟩ := exists_wrapped?_of_isHead hhead' body'
    rw [hsplit, h] at hs
    obtain rfl := Option.some.inj hs
    have hlength := congrArg List.length hsplit
    rw [List.length_append, List.length_append] at hlength
    omega
  · rintro ⟨head, hheads, rfl⟩
    obtain ⟨s, hs, hle⟩ := exists_wrapped?_of_isHead hheads.isHead body
    obtain ⟨head', hhead', hsplit⟩ := exists_head_of_wrapped? hs
    have hshortest := hheads.shortest head' hhead' (hsplit ▸ List.prefix_append head' s)
    have hlength := congrArg List.length hsplit
    rw [List.length_append, List.length_append] at hlength
    rw [hs, (List.append_inj' hsplit (by omega)).2]

end ApiPage.Example
