import ApiPage.Proofs.Scanning

/-!
# References to an RFC

A reference to an RFC is `RFC`, white space and a number of three to five digits, with a section
behind it if one is named: a comma or not, white space, the word, white space and a dotted number.
What matches as a reference is the longest one at the start of a text.

The fields of a reference are its runs of word characters and points. White space divides fields,
and so does the comma, so that the fields are the letters, the number, the word and the number of
the section, and the reference is a link to what it names.

## Main definitions

* `Prose.IsRfc`: a reference, with its number and that of its section.
* `Prose.rfcHref`: where the text that a reference names is found.
* `Prose.dividesFields`: a character that is in no field.

## Main results

* `Prose.exists_of_rfcLength?`, `Prose.IsRfc.length_le`: what matches is the longest reference.
* `Prose.rfcFields_append`: fields on both sides of a character that is in none.
* `Prose.IsRfc.rfcPiece_eq`: a reference is a link to what it names.
-/

namespace ApiPage

/-- No white space is a word character. -/
theorem Text.isWord_of_isSpace {n : Nat} (h : isSpace n = true) : isWord n = false := by
  rw [isSpace] at h
  split at h
  · next hlt =>
    have hascii : ∀ n < 128, isSpace n = true → isWord n = false := by decide +kernel
    refine hascii n hlt ?_
    rw [isSpace, if_pos hlt]
    exact h
  · have hall : ∀ r ∈ spaceRanges, ∀ n ∈ List.range' r.1 (r.2 + 1 - r.1), isWord n = false := by
      decide +kernel
    obtain ⟨r, hr, hmem⟩ := List.any_eq_true.mp h
    simp only [Bool.and_eq_true, decide_eq_true_eq] at hmem
    refine hall r hr n (List.mem_range'_1.mpr ⟨hmem.1, ?_⟩)
    omega

/-- Every ASCII digit is a word character. -/
theorem Text.isWord_of_isAsciiDigit {n : Nat} (h : isAsciiDigit n = true) : isWord n = true := by
  have hlt : n < 128 := by
    simp only [isAsciiDigit, Bool.and_eq_true, decide_eq_true_eq] at h
    omega
  simp [isWord, isAlnum, isDigit, isDecimal, hlt, h]

/-! ### Splitting -/

/-- A text in which nothing divides is one piece. -/
theorem Text.splitBy_of_forall {p : Char → Bool} {t : Text} (h : ∀ c ∈ t, p c = false) :
    splitBy p t = [t] := by
  induction t with
  | nil => rfl
  | cons c t ih =>
    obtain ⟨hc, ht⟩ := List.forall_mem_cons.mp h
    rw [splitBy, hc, ih ht]
    rfl

namespace Prose

/-! ### The grammar of references -/

/-- **Digits**, one at least. -/
structure IsDigits (t : Text) : Prop where
  ne_nil : t ≠ []
  digit : ∀ c ∈ t, Text.isAsciiDigit c.toNat

/-- **A gap**: white space, one character at least. -/
structure IsGap (t : Text) : Prop where
  ne_nil : t ≠ []
  space : ∀ c ∈ t, Text.isSpaceChar c

/-- **Dotted number**: runs of digits with a point between neighbours. -/
inductive IsDotted : Text → Prop
  | digits {d : Text} : IsDigits d → IsDotted d
  | point {d r : Text} : IsDigits d → IsDotted r → IsDotted (d ++ '.' :: r)

/-- **The end of a reference**: nothing, or a section and its number. -/
inductive NamesSection : Option Text → Text → Prop
  | bare : NamesSection none []
  | named {comma gap gap' part : Text} {s : Char} : comma = [] ∨ comma = [','] → IsGap gap →
      s = 'S' ∨ s = 's' → IsGap gap' → IsDotted part →
      NamesSection (some part) (comma ++ (gap ++ (s :: Text.of "ection" ++ (gap' ++ part))))

/-- **A reference to an RFC** by its number, and to one of its sections if `part` is the number of
one. -/
inductive IsRfc (number : Text) (part : Option Text) : Text → Prop
  | mk {gap rest : Text} : IsGap gap → IsDigits number → 3 ≤ number.length → number.length ≤ 5 →
      NamesSection part rest → IsRfc number part (Text.of "RFC" ++ (gap ++ (number ++ rest)))

/-! ### Runs of digits and of white space -/

/-- The white space at the start of a text, if there is any. -/
theorem exists_gap {t : Text} (h : spaceLength t ≠ 0) :
    ∃ gap, IsGap gap ∧ spaceLength t = gap.length ∧ t = gap ++ t.drop (spaceLength t) := by
  refine ⟨t.takeWhile Text.isSpaceChar, ⟨fun hnil => h ?_, fun _ hc => List.mem_takeWhile_imp hc⟩,
    rfl, ?_⟩
  · rw [spaceLength, hnil, List.length_nil]
  · rw [spaceLength, Text.drop_length_takeWhile, List.takeWhile_append_dropWhile]

/-- The digits at the start of a text, if there are any. -/
theorem exists_digits {t : Text} (h : digitsLength t ≠ 0) :
    ∃ d, IsDigits d ∧ digitsLength t = d.length ∧ t = d ++ t.drop (digitsLength t) := by
  refine ⟨t.takeWhile fun c => Text.isAsciiDigit c.toNat, ⟨fun hnil => h ?_, fun c hc => ?_⟩,
    rfl, ?_⟩
  · rw [digitsLength, hnil, List.length_nil]
  · have hdigit := List.mem_takeWhile_imp hc
    exact hdigit
  · rw [digitsLength, Text.drop_length_takeWhile, List.takeWhile_append_dropWhile]

/-- Digits in front of a text are digits at its start. -/
theorem digitsLength_append {d : Text} (h : IsDigits d) (u : Text) :
    digitsLength (d ++ u) = d.length + digitsLength u := by
  rw [digitsLength, List.takeWhile_append_of_pos h.digit, List.length_append]
  rfl

/-- A gap ends where no white space follows. -/
theorem spaceLength_append {gap u : Text} (h : IsGap gap)
    (hu : ∀ c ∈ u.head?, Text.isSpaceChar c = false) : spaceLength (gap ++ u) = gap.length := by
  have hstop : u.takeWhile Text.isSpaceChar = [] := by
    cases u with
    | nil => rfl
    | cons c u => rw [List.takeWhile_cons, hu c rfl]; rfl
  rw [spaceLength, List.takeWhile_append_of_pos h.space, hstop, List.append_nil]

/-- A digit is no white space. -/
theorem isSpaceChar_of_isAsciiDigit {c : Char} (h : Text.isAsciiDigit c.toNat) :
    Text.isSpaceChar c = false := by
  cases hspace : Text.isSpaceChar c with
  | false => rfl
  | true =>
    have hword := Text.isWord_of_isSpace hspace
    rw [Text.isWord_of_isAsciiDigit h] at hword
    cases hword

/-- A text that begins with digits does not begin with white space. -/
theorem isSpaceChar_head_of_digits {t : Text} (h : 0 < digitsLength t) :
    ∀ c ∈ t.head?, Text.isSpaceChar c = false := by
  obtain ⟨d, hd, -, ht⟩ := exists_digits h.ne'
  obtain ⟨c, d, rfl⟩ := List.exists_cons_of_ne_nil hd.ne_nil
  rw [ht]
  rintro _ ⟨⟩
  exact isSpaceChar_of_isAsciiDigit (hd.digit c List.mem_cons_self)

/-! ### Dotted numbers -/

/-- **What matches behind digits** makes a dotted number of them. -/
theorem exists_of_dottedLength (fuel : Nat) (t : Text) : ∃ w r, t = w ++ r ∧
    dottedLength fuel t = w.length ∧ ∀ d, IsDigits d → IsDotted (d ++ w) := by
  induction fuel generalizing t with
  | zero => exact ⟨[], t, rfl, rfl, fun d hd => by simpa using IsDotted.digits hd⟩
  | succ fuel ih =>
    have hnone : ∃ w r, t = w ++ r ∧ 0 = w.length ∧ ∀ d, IsDigits d → IsDotted (d ++ w) :=
      ⟨[], t, rfl, rfl, fun d hd => by simpa using IsDotted.digits hd⟩
    rw [dottedLength.eq_def]
    split
    · exact hnone
    · next k u heq =>
      obtain rfl := Nat.succ.inj heq
      dsimp only
      split
      · exact hnone
      · next hn =>
        obtain ⟨d', hd', hlength', hu⟩ := exists_digits hn
        obtain ⟨w, r, hrest, hlength, hdotted⟩ := ih (u.drop (digitsLength u))
        refine ⟨'.' :: (d' ++ w), r, ?_, ?_, fun d hd => .point hd (hdotted d' hd')⟩
        · rw [List.cons_append, List.append_assoc, ← hrest, ← hu]
        · rw [hlength, hlength', List.length_cons, List.length_append]
          omega
    · exact hnone

/-- A dotted number begins with a digit. -/
theorem IsDotted.digitsLength_pos {part : Text} (h : IsDotted part) (u : Text) :
    0 < digitsLength (part ++ u) := by
  have hpos {d : Text} (hd : IsDigits d) (v : Text) : 0 < digitsLength (d ++ v) := by
    have hlength := List.length_pos_of_ne_nil hd.ne_nil
    rw [digitsLength_append hd]
    omega
  cases h with
  | digits hd => exact hpos hd u
  | point hd _ =>
    rw [List.append_assoc]
    exact hpos hd _

/-- **No dotted number at the start of a text is longer** than what matches. -/
theorem IsDotted.length_le {part : Text} (h : IsDotted part) (fuel : Nat) (u : Text)
    (hfuel : ((part ++ u).drop (digitsLength (part ++ u))).length ≤ fuel) :
    part.length ≤ digitsLength (part ++ u) +
      dottedLength fuel ((part ++ u).drop (digitsLength (part ++ u))) := by
  induction h generalizing fuel with
  | @digits d hd =>
    rw [digitsLength_append hd]
    omega
  | @point d r hd hr ih =>
    have hpoint : digitsLength ('.' :: (r ++ u)) = 0 := rfl
    have hdigits : digitsLength (d ++ '.' :: r ++ u) = d.length := by
      rw [List.append_assoc, List.cons_append, digitsLength_append hd, hpoint, Nat.add_zero]
    have hdrop : (d ++ '.' :: r ++ u).drop d.length = '.' :: (r ++ u) := by
      rw [List.append_assoc]
      exact List.drop_left' rfl
    rw [hdigits, hdrop] at hfuel ⊢
    obtain ⟨fuel, rfl⟩ := Nat.exists_eq_add_of_le' (Nat.one_le_of_lt hfuel)
    have hpos := hr.digitsLength_pos u
    have hrest := ih fuel (by
      rw [List.length_drop]
      rw [List.length_cons] at hfuel
      omega)
    rw [dottedLength, if_neg hpos.ne', List.length_append, List.length_cons]
    omega

/-! ### Sections -/

/-- Whether a comma is at the start of a section is seen at its first character. -/
theorem length_comma {comma gap : Text} (hcomma : comma = [] ∨ comma = [',']) (hgap : IsGap gap)
    (u : Text) :
    (if (comma ++ (gap ++ u)).head? == some ',' then 1 else 0) = comma.length := by
  rcases hcomma with rfl | rfl
  · obtain ⟨c, gap, rfl⟩ := List.exists_cons_of_ne_nil hgap.ne_nil
    have hne : c ≠ ',' := by
      rintro rfl
      exact absurd (hgap.space ',' List.mem_cons_self) (by decide)
    simp [hne]
  · rfl

/-- **The length of a section** at the start of a text, by its parts. -/
theorem sectionLength_append {comma gap gap' r : Text} {s : Char}
    (hcomma : comma = [] ∨ comma = [',']) (hgap : IsGap gap) (hs : s = 'S' ∨ s = 's')
    (hgap' : IsGap gap') (hr : 0 < digitsLength r) :
    sectionLength (comma ++ (gap ++ (s :: Text.of "ection" ++ (gap' ++ r)))) =
      comma.length + gap.length + 7 + gap'.length + digitsLength r +
        dottedLength r.length (r.drop (digitsLength r)) := by
  have hword : ∀ c ∈ (s :: Text.of "ection" ++ (gap' ++ r)).head?, Text.isSpaceChar c = false := by
    rintro _ ⟨⟩
    rcases hs with rfl | rfl <;> decide
  have hletter : (s == 'S' || s == 's') = true := by simpa using hs
  have hpos := List.length_pos_of_ne_nil hgap.ne_nil
  have hpos' := List.length_pos_of_ne_nil hgap'.ne_nil
  rw [sectionLength, length_comma hcomma hgap]
  dsimp only
  rw [List.drop_left, spaceLength_append hgap hword, List.drop_left, List.cons_append]
  dsimp only
  rw [hletter, Html.dropPrefix?_append]
  dsimp only
  rw [spaceLength_append hgap' (isSpaceChar_head_of_digits hr), List.drop_left]
  simp [hpos.ne', hpos'.ne', hr.ne']

/-- The comma at the start of a text, if there is one. -/
theorem exists_comma (t : Text) : ∃ comma u, t = comma ++ u ∧ (comma = [] ∨ comma = [',']) ∧
    (if t.head? == some ',' then 1 else 0) = comma.length := by
  split
  · next h =>
    cases t with
    | nil => cases h
    | cons c u =>
      obtain rfl : c = ',' := by simpa using h
      exact ⟨[','], u, rfl, .inr rfl, rfl⟩
  · exact ⟨[], t, rfl, .inl rfl, rfl⟩

/-- **What matches behind the number** of a reference is the end of one. -/
theorem exists_of_sectionLength (t : Text) : ∃ part w r, t = w ++ r ∧
    sectionLength t = w.length ∧ NamesSection part w := by
  have hnone : ∃ part w r, t = w ++ r ∧ 0 = w.length ∧ NamesSection part w :=
    ⟨none, [], t, rfl, rfl, .bare⟩
  obtain ⟨comma, u, ht, hcomma, hlength⟩ := exists_comma t
  have hu : t.drop comma.length = u := by rw [ht, List.drop_left]
  rw [sectionLength, hlength]
  dsimp only
  rw [hu]
  split
  · next s r hr =>
    split
    · exact hnone
    · next hgap =>
      split
      · exact hnone
      · next r' hword =>
        split
        · exact hnone
        · next hgap' =>
          simp only [Bool.or_eq_true, Bool.not_eq_true', decide_eq_true_eq, not_or,
            Bool.not_eq_false, beq_iff_eq] at hgap hgap'
          obtain ⟨gap, hgap₁, hlength₁, hu₁⟩ := exists_gap hgap.1
          obtain ⟨gap', hgap₂, hlength₂, hu₂⟩ := exists_gap hgap'.1
          obtain ⟨d, hd, hlength₃, hu₃⟩ := exists_digits hgap'.2
          obtain ⟨w, rest, hrest, hdotted, hpart⟩ := exists_of_dottedLength
            (r'.drop (spaceLength r')).length
            ((r'.drop (spaceLength r')).drop (digitsLength (r'.drop (spaceLength r'))))
          refine ⟨_, _, rest, ?_, ?_, .named hcomma hgap₁ hgap.2 hgap₂ (hpart d hd)⟩
          · rw [ht, hu₁, hr, Text.eq_of_dropPrefix? hword, hu₂, hu₃, hrest]
            simp only [List.append_assoc, List.cons_append]
          · rw [hdotted, hlength₃, hlength₁, hlength₂]
            have hword : (Text.of "ection").length = 6 := rfl
            simp only [List.length_append, List.length_cons, hword]
            omega
  · exact hnone

/-- **No end of a reference is longer** than what matches. -/
theorem NamesSection.length_le {part : Option Text} {w : Text} (h : NamesSection part w)
    (u : Text) : w.length ≤ sectionLength (w ++ u) := by
  cases h with
  | bare => exact Nat.zero_le _
  | @named comma gap gap' part s hcomma hgap hs hgap' hpart =>
    have hlength := hpart.length_le (part ++ u).length u (by
      rw [List.length_drop]
      exact Nat.sub_le _ _)
    have heq := sectionLength_append hcomma hgap hs hgap' (hpart.digitsLength_pos u)
    have hword : (Text.of "ection").length = 6 := rfl
    simp only [List.append_assoc, List.cons_append] at heq ⊢
    rw [heq]
    simp only [List.length_append, List.length_cons, hword] at hlength ⊢
    omega

/-- Behind a number that goes on with a digit there is no section. -/
theorem NamesSection.eq_nil {part : Option Text} {w u : Text} (h : NamesSection part w)
    (hdigits : 0 < digitsLength (w ++ u)) : w = [] := by
  cases h with
  | bare => rfl
  | @named comma gap gap' part s hcomma hgap _ _ _ =>
    obtain ⟨d, hd, -, hstart⟩ := exists_digits hdigits.ne'
    obtain ⟨c, d, rfl⟩ := List.exists_cons_of_ne_nil hd.ne_nil
    obtain ⟨g, gap, rfl⟩ := List.exists_cons_of_ne_nil hgap.ne_nil
    have hdigit := hd.digit c List.mem_cons_self
    rcases hcomma with rfl | rfl
    · obtain ⟨rfl, -⟩ := List.cons_eq_cons.mp hstart
      have hspace := hgap.space g List.mem_cons_self
      rw [isSpaceChar_of_isAsciiDigit hdigit] at hspace
      cases hspace
    · obtain ⟨rfl, -⟩ := List.cons_eq_cons.mp hstart
      exact absurd hdigit (by decide)

/-! ### References -/

/-- The number of a reference: no more digits are taken than there are, and at most five. -/
theorem exists_number {u : Text} (h : 3 ≤ min 5 (digitsLength u)) : ∃ number, IsDigits number ∧
    min 5 (digitsLength u) = number.length ∧ u = number ++ u.drop (min 5 (digitsLength u)) := by
  obtain ⟨d, hd, hlength, hu⟩ := exists_digits (t := u) (by omega)
  have hle : min 5 (digitsLength u) ≤ d.length := hlength ▸ min_le_right _ _
  have htake : ∀ k ≤ d.length, u.take k = d.take k := by
    intro k hk
    rw [hu]
    exact List.take_append_of_le_length hk
  have hlen : (d.take (min 5 (digitsLength u))).length = min 5 (digitsLength u) :=
    List.length_take_of_le hle
  refine ⟨d.take (min 5 (digitsLength u)), ⟨fun hnil => ?_, fun c hc => ?_⟩, hlen.symm, ?_⟩
  · rw [hnil, List.length_nil] at hlen
    omega
  · exact hd.digit c (List.mem_of_mem_take hc)
  · rw [← htake _ hle, List.take_append_drop]

/-- **What matches as a reference is one.** -/
theorem exists_of_rfcLength? {t : Text} {n : Nat} (h : rfcLength? t = some n) :
    ∃ number part w r, IsRfc number part w ∧ t = w ++ r ∧ n = w.length := by
  rw [rfcLength?] at h
  split at h
  · cases h
  · next u hu =>
    dsimp only at h
    split at h
    · cases h
    · next hparts =>
      obtain rfl := Option.some.inj h
      simp only [Bool.or_eq_true, decide_eq_true_eq, not_or, not_lt] at hparts
      obtain ⟨gap, hgap, hgapLength, hbehindGap⟩ := exists_gap hparts.1
      obtain ⟨number, hnumber, hnumberLength, hbehindNumber⟩ := exists_number hparts.2
      obtain ⟨part, w, r, hrest, hsectionLength, hsection⟩ := exists_of_sectionLength
        ((u.drop (spaceLength u)).drop (min 5 (digitsLength (u.drop (spaceLength u)))))
      have hletters : (Text.of "RFC").length = 3 := rfl
      refine ⟨number, part, _, r, .mk hgap hnumber (by omega) (by omega) hsection, ?_, ?_⟩
      · rw [Text.eq_of_dropPrefix? hu, hbehindGap, hbehindNumber, hrest]
        simp only [List.append_assoc]
      · rw [hsectionLength, hnumberLength, hgapLength]
        simp only [List.length_append, hletters]
        omega

/-- A reference is not empty. -/
theorem IsRfc.ne_nil {number : Text} {part : Option Text} {w : Text} (h : IsRfc number part w) :
    w ≠ [] := by
  cases h
  exact List.cons_ne_nil _ _

/-- **No reference at the start of a text is longer** than what matches. -/
theorem IsRfc.length_le {number : Text} {part : Option Text} {w : Text} (h : IsRfc number part w)
    (u : Text) : ∃ n, rfcLength? (w ++ u) = some n ∧ w.length ≤ n := by
  obtain ⟨hgap, hnumber, hmin, hmax, hsection⟩ := h
  next gap rest =>
  have hgapLength := List.length_pos_of_ne_nil hgap.ne_nil
  have hdigits := digitsLength_append hnumber (rest ++ u)
  have hspace := spaceLength_append hgap
    (isSpaceChar_head_of_digits (t := number ++ (rest ++ u)) (by omega))
  rw [List.append_assoc, List.append_assoc, List.append_assoc, rfcLength?, Html.dropPrefix?_append]
  dsimp only
  have hparts : ¬(decide (gap.length = 0) ||
      decide (min 5 (number.length + digitsLength (rest ++ u)) < 3)) = true := by
    simp only [Bool.or_eq_true, decide_eq_true_eq]
    omega
  rw [hspace, List.drop_left, hdigits, if_neg hparts]
  refine ⟨_, rfl, ?_⟩
  have hletters : (Text.of "RFC").length = 3 := rfl
  rw [List.length_append, List.length_append, List.length_append, hletters]
  by_cases hmore : digitsLength (rest ++ u) = 0
  · have hle := hsection.length_le u
    have hfive : min 5 (number.length + digitsLength (rest ++ u)) = number.length := by omega
    rw [hfive, List.drop_left]
    omega
  · rw [hsection.eq_nil (Nat.pos_of_ne_zero hmore), List.length_nil]
    omega

/-! ### Fields -/

/-- **A character that divides fields** is in no field. -/
def dividesFields (c : Char) : Bool := c == '_' || !(c == '.' || Text.isWord c.toNat)

/-- The fields of a reference are what stands between its separators. -/
theorem rfcFields_eq (w : Text) :
    rfcFields w = (Text.splitBy dividesFields w).filter (!·.isEmpty) := rfl

/-- **Fields on both sides of a character that divides them**. All that is needed of fields follows
from this. -/
theorem rfcFields_append {c : Char} (hc : dividesFields c = true) (t u : Text) :
    rfcFields (t ++ c :: u) = rfcFields t ++ rfcFields u := by
  rw [rfcFields_eq, Text.splitBy_append hc, List.filter_append]
  rfl

/-- Several characters that divide fields do what one of them does. -/
theorem rfcFields_append_of_divides {gap : Text} (hne : gap ≠ [])
    (hgap : ∀ c ∈ gap, dividesFields c = true) (t u : Text) :
    rfcFields (t ++ (gap ++ u)) = rfcFields t ++ rfcFields u := by
  induction gap generalizing t with
  | nil => exact absurd rfl hne
  | cons c gap ih =>
    obtain ⟨hc, hgap⟩ := List.forall_mem_cons.mp hgap
    rw [List.cons_append, rfcFields_append hc]
    by_cases hnil : gap = []
    · rw [hnil, List.nil_append]
    · exact congrArg (rfcFields t ++ ·) (ih hnil hgap [])

/-- A text without such characters is one field. -/
theorem rfcFields_of_undivided {t : Text} (hne : t ≠ []) (h : ∀ c ∈ t, dividesFields c = false) :
    rfcFields t = [t] := by
  rw [rfcFields_eq, Text.splitBy_of_forall h]
  simpa using hne

/-- White space divides fields. -/
theorem dividesFields_of_isSpaceChar {c : Char} (h : Text.isSpaceChar c = true) :
    dividesFields c = true := by
  have hpoint : c ≠ '.' := by
    rintro rfl
    exact absurd h (by decide)
  simp [dividesFields, hpoint, Text.isWord_of_isSpace h]

/-- A digit divides no fields. -/
theorem dividesFields_of_isAsciiDigit {c : Char} (h : Text.isAsciiDigit c.toNat = true) :
    dividesFields c = false := by
  have hunderscore : c ≠ '_' := by
    rintro rfl
    exact absurd h (by decide)
  simp [dividesFields, hunderscore, Text.isWord_of_isAsciiDigit h]

/-- Digits are one field. -/
theorem IsDigits.rfcFields_eq {d : Text} (h : IsDigits d) : rfcFields d = [d] :=
  rfcFields_of_undivided h.ne_nil fun c hc => dividesFields_of_isAsciiDigit (h.digit c hc)

/-- A dotted number is not divided. -/
theorem IsDotted.undivided {part : Text} (h : IsDotted part) :
    ∀ c ∈ part, dividesFields c = false := by
  have hdigits {d : Text} (hd : IsDigits d) : ∀ c ∈ d, dividesFields c = false :=
    fun c hc => dividesFields_of_isAsciiDigit (hd.digit c hc)
  have hpoint : dividesFields '.' = false := by decide
  induction h with
  | digits hd => exact hdigits hd
  | point hd _ ih =>
    rw [List.forall_mem_append, List.forall_mem_cons]
    exact ⟨hdigits hd, hpoint, ih⟩

/-- A dotted number is not empty. -/
theorem IsDotted.ne_nil {part : Text} (h : IsDotted part) : part ≠ [] := by
  cases h with
  | digits hd => exact hd.ne_nil
  | point hd _ => exact List.append_ne_nil_of_left_ne_nil hd.ne_nil _

/-- A gap divides fields. -/
theorem IsGap.rfcFields_append {gap : Text} (h : IsGap gap) (t u : Text) :
    rfcFields (t ++ (gap ++ u)) = rfcFields t ++ rfcFields u :=
  rfcFields_append_of_divides h.ne_nil (fun c hc => dividesFields_of_isSpaceChar (h.space c hc)) t u

/-! ### What a reference names -/

/-- **Where the text that a reference names is found.** -/
def rfcHref (number : Text) : Option Text → Text
  | none => rfcUrl number
  | some part => rfcUrl number ++ Text.of "#section-" ++ part

/-- The fields of a number with a section behind it. -/
theorem rfcFields_section {number comma gap gap' part : Text} {s : Char}
    (hnumber : IsDigits number) (hcomma : comma = [] ∨ comma = [',']) (hgap : IsGap gap)
    (hs : s = 'S' ∨ s = 's') (hgap' : IsGap gap') (hpart : IsDotted part) :
    rfcFields (number ++ (comma ++ (gap ++ (s :: Text.of "ection" ++ (gap' ++ part))))) =
      [number, s :: Text.of "ection", part] := by
  have hdivides : ∀ c ∈ comma ++ gap, dividesFields c = true := by
    rw [List.forall_mem_append]
    refine ⟨fun c hc => ?_, fun c hc => dividesFields_of_isSpaceChar (hgap.space c hc)⟩
    rcases hcomma with rfl | rfl
    · cases hc
    · obtain rfl := List.mem_singleton.mp hc
      decide
  have hword : rfcFields (s :: Text.of "ection") = [s :: Text.of "ection"] := by
    rcases hs with rfl | rfl <;> decide
  rw [← List.append_assoc comma, rfcFields_append_of_divides
    (List.append_ne_nil_of_right_ne_nil _ hgap.ne_nil) hdivides, hgap'.rfcFields_append, hword,
    hnumber.rfcFields_eq, rfcFields_of_undivided hpart.ne_nil hpart.undivided]
  rfl

/-- **A reference is a link to what it names.** -/
theorem IsRfc.rfcPiece_eq {number : Text} {part : Option Text} {w : Text}
    (h : IsRfc number part w) : rfcPiece w = .link (rfcHref number part) w := by
  obtain ⟨hgap, hnumber, -, -, hsection⟩ := h
  next gap rest =>
  have hletters : rfcFields (Text.of "RFC") = [Text.of "RFC"] := by decide
  have hfields := hgap.rfcFields_append (Text.of "RFC") (number ++ rest)
  rw [hletters] at hfields
  cases hsection with
  | bare =>
    rw [List.append_nil, hnumber.rfcFields_eq] at hfields
    rw [rfcPiece, List.append_nil, hfields]
    rfl
  | named hcomma hgap₁ hs hgap₂ hpart =>
    rw [rfcFields_section hnumber hcomma hgap₁ hs hgap₂ hpart] at hfields
    rw [rfcPiece, hfields]
    rfl

/-- A match of a reference is a link that shows the match. -/
theorem exists_rfcPiece {t : Text} {n : Nat} (h : rfcLength? t = some n) :
    ∃ href, rfcPiece (t.take n) = .link href (t.take n) := by
  obtain ⟨number, part, w, r, hrfc, rfl, rfl⟩ := exists_of_rfcLength? h
  rw [List.take_left' rfl]
  exact ⟨_, hrfc.rfcPiece_eq⟩

end Prose
end ApiPage
