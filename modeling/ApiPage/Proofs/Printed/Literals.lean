import Mathlib
import ApiPage.Syntax.Printer.Expression

/-!
# Characters of literals

Literals are printed with *plain* characters, the printable ones. What else a string denotes is
escaped, so that nothing in it can end the text that it stands in; but where a string is printed
with few escapes, its newlines and tabs stay. This is shown for any property that plain characters
have.

## Main definitions

* `isPlain`: a plain character.
* `MadeOf`: all characters of a text have a property.
* `LayoutOf`: so have the newlines and tabs that a string denotes.

## Main results

* `madeOf_quote`, `madeOf_quoteBytes`: literals of strings are plain.
* `madeOf_formattedLiteral`: so are formatted strings, but for newlines and tabs of their fields.
* `madeOf_toText`: so are those of numbers.
-/

namespace ApiPage

/-- **Plain character**: a printable one. -/
def isPlain (c : Char) : Bool := Text.isPrintable c.toNat

/-- **A property of plain characters**. -/
class Admits (P : Char → Prop) : Prop where
  plain : ∀ c, isPlain c = true → P c

/-- **A property of plain characters, newlines and tabs**. -/
class AdmitsLayout (P : Char → Prop) : Prop extends Admits P where
  newline : P '\n'
  tab : P '\t'

/-- **A text made of characters** with a property. -/
def MadeOf (P : Char → Prop) (t : Text) : Prop := ∀ c ∈ t, P c

/-- A text made of other characters than one does not hold that one. -/
theorem madeOf_ne {c : Char} {t : Text} : MadeOf (· ≠ c) t ↔ c ∉ t :=
  ⟨fun h hmem => h _ hmem rfl, fun h _ hd heq => h (heq ▸ hd)⟩

variable {P : Char → Prop}

namespace MadeOf

/-- An empty text. -/
theorem nil : MadeOf P [] := List.forall_mem_nil _

/-- One character more. -/
theorem cons {c : Char} {t : Text} (hc : P c) (ht : MadeOf P t) : MadeOf P (c :: t) :=
  List.forall_mem_cons.mpr ⟨hc, ht⟩

/-- One text before another. -/
theorem append {t u : Text} (ht : MadeOf P t) (hu : MadeOf P u) : MadeOf P (t ++ u) :=
  List.forall_mem_append.mpr ⟨ht, hu⟩

/-- A text whose characters are all in one that is made so. -/
theorem subset {t u : Text} (hu : MadeOf P u) (h : t ⊆ u) : MadeOf P t := fun c hc => hu c (h hc)

/-- A text without some of its end. -/
theorem dropEnd {p : Char → Bool} {t : Text} (ht : MadeOf P t) : MadeOf P (Text.dropEnd p t) :=
  ht.subset fun _ hc =>
    List.mem_reverse.mp ((List.dropWhile_sublist _).subset (List.mem_reverse.mp hc))

/-- Texts made so, one after another. -/
theorem flatMap {α : Type} {as : List α} {f : α → Text} (h : ∀ a ∈ as, MadeOf P (f a)) :
    MadeOf P (as.flatMap f) := by
  intro c hc
  obtain ⟨a, ha, hc⟩ := List.mem_flatMap.mp hc
  exact h a ha c hc

/-- Texts with a separator between them. -/
theorem join {sep : Text} {ts : List Text} (hsep : MadeOf P sep) (h : ∀ t ∈ ts, MadeOf P t) :
    MadeOf P (Text.join sep ts) := by
  fun_induction Text.join sep ts with
  | case1 => exact nil
  | case2 t => exact h t List.mem_cons_self
  | case3 t ts _ ih =>
    obtain ⟨ht, hts⟩ := List.forall_mem_cons.mp h
    exact (ht.append hsep).append (ih hts)

end MadeOf

section Plain

variable [Admits P]

/-- A plain character before a text. -/
theorem MadeOf.mark {c : Char} {t : Text} (ht : MadeOf P t)
    (hc : isPlain c = true := by decide) : MadeOf P (c :: t) :=
  .cons (Admits.plain c hc) ht

/-- A text of plain characters. -/
theorem madeOf_of_all {t : Text} (h : t.all isPlain = true) : MadeOf P t :=
  fun c hc => Admits.plain c (List.all_eq_true.mp h c hc)

/-! ### Numerals -/

/-- A digit is below the base. -/
theorem lt_of_mem_digitsRev {b fuel n d : Nat} (hb : 0 < b) (h : d ∈ Text.digitsRev b fuel n) :
    d < b := by
  induction fuel generalizing n with
  | zero => exact nomatch h
  | succ fuel ih =>
    unfold Text.digitsRev at h
    split at h
    · rwa [List.mem_singleton.mp h]
    · rcases List.mem_cons.mp h with rfl | h
      · exact Nat.mod_lt n hb
      · exact ih h

/-- Digits to base sixteen are plain. -/
theorem isPlain_digitChar : ∀ d < 16, isPlain (Text.digitChar d) = true := by decide

/-- Digits in a base up to sixteen. -/
theorem madeOf_digits {b fuel n : Nat} (hpos : 0 < b) (hb : b ≤ 16) :
    MadeOf P ((Text.digitsRev b fuel n).map Text.digitChar).reverse := by
  intro c hc
  obtain ⟨d, hd, rfl⟩ := List.mem_map.mp (List.mem_reverse.mp hc)
  exact Admits.plain _ (isPlain_digitChar d ((lt_of_mem_digitsRev hpos hd).trans_le hb))

/-- A plain character that is repeated. -/
theorem madeOf_replicate {n : Nat} {c : Char} (hc : isPlain c = true) :
    MadeOf P (List.replicate n c) := fun _ hd => (List.mem_replicate.mp hd).2 ▸ Admits.plain c hc

/-- A number in decimal digits. -/
theorem madeOf_ofNat (n : Nat) : MadeOf P (Text.ofNat n) := madeOf_digits (by decide) (by decide)

/-- A number in digits to base sixteen. -/
theorem madeOf_hex (width n : Nat) : MadeOf P (Text.hex width n) :=
  (madeOf_replicate (by decide)).append (madeOf_digits (by decide) (by decide))

/-- A number that is padded with zeros. -/
theorem madeOf_padNat (width n : Nat) : MadeOf P (Text.padNat width n) :=
  (madeOf_replicate (by decide)).append (madeOf_ofNat n)

section Numbers

open Decimal

/-- The marks of a style are plain. -/
structure FloatStyle.Plain (style : FloatStyle) : Prop where
  whole : style.whole.all isPlain = true
  infinity : style.infinity.all isPlain = true

/-- An exponent with its sign. -/
theorem madeOf_exponentText (x : Int) : MadeOf P (exponentText x) := by
  refine .cons (Admits.plain _ (by decide)) (.cons (Admits.plain _ ?_) (madeOf_padNat 2 _))
  split <;> decide

/-- Digits with a point in their place. -/
theorem madeOf_placePoint {style : FloatStyle} (hstyle : FloatStyle.Plain style) {ds : Text}
    (hds : MadeOf P ds) {point : Int} : MadeOf P (placePoint style ds point) := by
  have hzeros : ∀ n, MadeOf P (List.replicate n '0') := fun n => madeOf_replicate (by decide)
  unfold placePoint
  split
  · split
    · exact ((madeOf_of_all (by decide)).append (hzeros _)).append hds
    · dsimp only
      split
      · exact (hds.append (hzeros _)).append (madeOf_of_all hstyle.whole)
      · exact (hds.subset (List.take_subset _ _)).append
          ((hds.subset (List.drop_subset _ _)).mark (by decide))
  · split
    · exact .nil
    · next d rest =>
      obtain ⟨hd, hrest⟩ := List.forall_mem_cons.mp hds
      refine .cons hd (.append ?_ (madeOf_exponentText _))
      split
      · exact .nil
      · exact .cons (Admits.plain _ (by decide)) hrest

/-- The shortest digits of a number. -/
theorem madeOf_shortest (m : Nat) (e : Int) : MadeOf P (shortest m e).1 :=
  (madeOf_ofNat _).dropEnd

/-- **A number** in a style of plain marks. -/
theorem madeOf_toText {style : FloatStyle} (hstyle : FloatStyle.Plain style) (x : Binary64) :
    MadeOf P (x.toText style) := by
  have hsign : ∀ neg : Bool, MadeOf P (if neg then ['-'] else []) := fun neg => by
    cases neg
    · exact .nil
    · exact madeOf_of_all (by decide)
  cases x with
  | infinite neg => exact (hsign neg).append (madeOf_of_all hstyle.infinity)
  | finite neg m e =>
    refine (hsign neg).append ?_
    split
    · exact .cons (Admits.plain _ (by decide)) (madeOf_of_all hstyle.whole)
    · exact madeOf_placePoint hstyle (madeOf_shortest m e)

end Numbers

/-! ### Strings -/

/-- Printable codes are no surrogates, and there are characters for all of them. -/
theorem valid_printableRanges : (Text.printableRanges.all fun r =>
    decide (r.2 < 0xD800) || decide (0xE000 ≤ r.1) && decide (r.2 < 0x110000)) = true := by
  decide +kernel

/-- Printable codes are those of characters. -/
theorem isValidChar_of_isPrintable {n : Nat} (h : Text.isPrintable n = true) : n.isValidChar := by
  unfold Text.isPrintable at h
  unfold Nat.isValidChar
  split at h
  · omega
  · obtain ⟨r, hr, hn⟩ := List.any_eq_true.mp h
    have hvalid := List.all_eq_true.mp valid_printableRanges r hr
    simp only [Bool.and_eq_true, Bool.or_eq_true, decide_eq_true_eq] at hn hvalid
    omega

/-- The character of a printable code is plain. -/
theorem isPlain_of_isPrintable {n : Nat} (h : Text.isPrintable n = true) :
    isPlain (Char.ofNat n) = true := by
  rw [isPlain, Char.toNat_ofNat, if_pos (isValidChar_of_isPrintable h), h]

/-- What a code is escaped to. -/
theorem madeOf_escapeCode (n : Nat) : MadeOf P (Text.escapeCode n) := by
  unfold Text.escapeCode
  repeat' split
  · exact madeOf_of_all (by decide)
  · exact madeOf_of_all (by decide)
  · exact madeOf_of_all (by decide)
  · exact madeOf_of_all (by decide)
  · exact (madeOf_of_all (by decide)).append (madeOf_hex 2 n)
  · exact (madeOf_of_all (by decide)).append (madeOf_hex 4 n)
  · exact (madeOf_of_all (by decide)).append (madeOf_hex 8 n)

/-- The quotes that a string is put in are plain. -/
theorem isPlain_quoteFor (s : List Nat) : isPlain (Text.quoteFor s) = true := by
  unfold Text.quoteFor
  split <;> decide

/-- A code of a string, escaped if it is not printable. -/
theorem madeOf_quotedCode {q : Char} (hq : isPlain q = true) (n : Nat) :
    MadeOf P (Text.quotedCode q n) := by
  unfold Text.quotedCode
  split
  · exact .cons (Admits.plain _ (by decide)) (.cons (Admits.plain _ hq) .nil)
  · split
    · exact madeOf_escapeCode n
    · next hn =>
      simp only [Bool.or_eq_true, decide_eq_true_eq, Bool.not_eq_true', not_or,
        Bool.not_eq_false] at hn
      exact .cons (Admits.plain _ (isPlain_of_isPrintable hn.2)) .nil

/-- A byte of a string, escaped if it is not printable. -/
theorem madeOf_quotedByte {q : Char} (hq : isPlain q = true) (n : Nat) :
    MadeOf P (Text.quotedByte q n) := by
  unfold Text.quotedByte
  split
  · exact .cons (Admits.plain _ (by decide)) (.cons (Admits.plain _ hq) .nil)
  · split
    · exact madeOf_escapeCode n
    · next hn =>
      have hprintable : Text.isPrintable n = true := by
        simp only [Bool.or_eq_true, decide_eq_true_eq, not_or] at hn
        rw [Text.isPrintable, if_pos (by omega)]
        simp only [Bool.and_eq_true, decide_eq_true_eq]
        omega
      exact .cons (Admits.plain _ (isPlain_of_isPrintable hprintable)) .nil

/-- **A quoted string**. -/
theorem madeOf_quote (s : List Nat) : MadeOf P (Text.quote s) := by
  have hq := isPlain_quoteFor s
  exact .cons (Admits.plain _ hq) (.append (.flatMap fun n _ => madeOf_quotedCode hq n)
    (.cons (Admits.plain _ hq) .nil))

/-- **Quoted bytes**. -/
theorem madeOf_quoteBytes (s : List Nat) : MadeOf P (Text.quoteBytes s) := by
  have hq := isPlain_quoteFor s
  exact .cons (Admits.plain _ (by decide)) (.cons (Admits.plain _ hq)
    (.append (.flatMap fun n _ => madeOf_quotedByte hq n) (.cons (Admits.plain _ hq) .nil)))

end Plain

/-! ### Strings with few escapes -/

namespace Syntax.Printer

/-- The newlines and tabs that a string denotes have a property. -/
def LayoutOf (P : Char → Prop) (s : List Nat) : Prop := ∀ n ∈ s, n = 10 ∨ n = 9 → P (Char.ofNat n)

/-- Where newlines and tabs are admitted, those of every string are. -/
theorem layoutOf [AdmitsLayout P] (s : List Nat) : LayoutOf P s := by
  rintro n - (rfl | rfl)
  · exact AdmitsLayout.newline
  · exact AdmitsLayout.tab

variable [Admits P]

/-- A code of a literal, whose newlines and tabs stand raw unless they are escaped. -/
theorem madeOf_literalCode {escapeLayout : Bool} {n : Nat}
    (h : escapeLayout = false → n = 10 ∨ n = 9 → P (Char.ofNat n)) :
    MadeOf P (literalCode escapeLayout n) := by
  unfold literalCode
  split
  · next hn =>
    simp only [Bool.and_eq_true, Bool.or_eq_true, decide_eq_true_eq, Bool.not_eq_true'] at hn
    exact .cons (h hn.2 hn.1) .nil
  · split
    · exact madeOf_escapeCode n
    · next hn =>
      simp only [Bool.or_eq_true, decide_eq_true_eq, Bool.not_eq_true', not_or,
        Bool.not_eq_false] at hn
      exact .cons (Admits.plain _ (isPlain_of_isPrintable hn.2)) .nil

/-- **A form made of characters** with a property: so are its body and all its quotes. -/
structure FormOf (P : Char → Prop) (f : LiteralForm) : Prop where
  body : MadeOf P f.body
  quotes : ∀ q ∈ f.quotes, MadeOf P q

omit [Admits P] in
/-- The first quotes that a form offers. -/
theorem FormOf.headD {f : LiteralForm} (h : FormOf P f) : MadeOf P (f.quotes.headD []) := by
  cases hf : f.quotes with
  | nil => exact .nil
  | cons q qs => exact h.quotes q (by rw [hf]; exact List.mem_cons_self)

variable {quotes : List Text} (hquotes : ∀ q ∈ quotes, MadeOf P q)

include hquotes

/-- A literal that no quotes can enclose without escapes. -/
theorem formOf_escapedForm (s : List Nat) : FormOf P (escapedForm quotes s) where
  body := (madeOf_quote s).subset fun _ hc =>
    List.mem_of_mem_drop (List.dropLast_subset _ hc)
  quotes q hq := by
    obtain rfl := List.mem_singleton.mp hq
    cases hfind : quotes.find? (·.contains (Text.quoteFor s)) with
    | none => exact .cons (Admits.plain _ (isPlain_quoteFor s)) .nil
    | some q => exact hquotes q (List.mem_of_find?_eq_some hfind)

/-- A literal whose newlines and tabs are escaped or have the property. -/
theorem formOf_literalForm {escapeLayout : Bool} {s : List Nat}
    (hs : escapeLayout = false → LayoutOf P s) : FormOf P (literalForm quotes escapeLayout s) := by
  have hbody : MadeOf P (s.flatMap (literalCode escapeLayout)) :=
    .flatMap fun n hn => madeOf_literalCode fun h => hs h n hn
  unfold literalForm
  dsimp only
  split
  · split
    · exact formOf_escapedForm hquotes s
    · exact ⟨hbody, fun q hq => hquotes q (List.mem_filter.mp hq).1⟩
  · next c hlast =>
    split
    · exact formOf_escapedForm hquotes s
    · next q qs hfits =>
      refine ⟨?_, fun q' hq' => ?_⟩
      · split
        · exact (hbody.subset (List.dropLast_subset _)).append (.cons (Admits.plain _ (by decide))
            (.cons (hbody c (List.mem_of_getLast? hlast)) .nil))
        · exact hbody
      · have hmem : q' ∈ q :: qs := hq'
        rw [← hfits, List.mem_append] at hmem
        have hfit := hmem.elim (fun h => (List.mem_filter.mp h).1) fun h => (List.mem_filter.mp h).1
        exact hquotes q' (List.mem_filter.mp hfit).1

/-- The pieces of a formatted string have one form together. -/
theorem formOf_joinPieces {ps : List Piece} {f : LiteralForm} (h : joinPieces quotes ps = some f)
    (hps : ∀ p ∈ ps, p.isText = false → LayoutOf P p.codes) : FormOf P f := by
  induction ps generalizing quotes f with
  | nil =>
    obtain rfl := Option.some.inj h
    exact ⟨.nil, hquotes⟩
  | cons p ps ih =>
    obtain ⟨hp, hps⟩ := List.forall_mem_cons.mp hps
    have hform := formOf_literalForm hquotes hp
    unfold joinPieces at h
    dsimp only at h
    split at h
    · cases h
    · obtain ⟨rest, hrest, rfl⟩ := Option.map_eq_some_iff.mp h
      have hrest := ih hform.quotes hrest hps
      exact ⟨hform.body.append hrest.body, hrest.quotes⟩

omit hquotes

/-- Quotes of one character and of three are plain. -/
theorem madeOf_allQuotes : ∀ q ∈ allQuotes, MadeOf P q := by
  have hall : ∀ q ∈ allQuotes, q.all isPlain = true := by decide
  exact fun q hq => madeOf_of_all (hall q hq)

/-- **A formatted string**: the newlines and tabs in its text are escaped, and those in its fields
are not. -/
theorem madeOf_formattedLiteral {ps : List Piece}
    (hps : ∀ p ∈ ps, p.isText = false → LayoutOf P p.codes) : MadeOf P (formattedLiteral ps) := by
  unfold formattedLiteral
  split
  · next f hf =>
    have h := formOf_joinPieces (madeOf_allQuotes (P := P)) hf hps
    have hq := h.headD
    exact (hq.append h.body).append hq
  · refine ((madeOf_of_all (by decide)).append (.flatMap fun p _ => ?_)).append
      (madeOf_of_all (by decide))
    exact (madeOf_quote (34 :: p.codes)).subset fun _ hc =>
      List.mem_of_mem_drop (List.dropLast_subset _ hc)

end Syntax.Printer
end ApiPage
