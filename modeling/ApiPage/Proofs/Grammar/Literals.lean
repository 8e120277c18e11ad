import ApiPage.Proofs.Grammar.Reads
import ApiPage.Syntax.Parser

/-!
# Names in string literals

A string literal is one token. The expressions in a formatted string are read from its text, by a
reading of their own, so no token is taken for them and nothing is remembered of them.

## Main definitions

* `Keeps`: a reader that takes nothing.

## Main results

* `Grammar.reads_strings`: string literals hold no names.
-/

namespace ApiPage.Syntax

open ApiPage.Syntax.Parser

variable {ts : List Token} {μ : Weight} {α β : Type}

/-- **A reader that takes nothing**. -/
def Keeps (ts : List Token) (μ : Weight) (p : Parser α) : Prop :=
  ∀ φ : Input → Prop, Meets ts μ φ p fun _ => φ

namespace Keeps

/-- A value that is given without reading keeps the names left. -/
theorem pure {a : α} : Keeps ts μ (pure a : Parser α) := fun _ => Meets.pure fun _ => id

/-- One reader after another. -/
theorem bind {p : Parser α} {f : α → Parser β} (hp : Keeps ts μ p) (hf : ∀ a, Keeps ts μ (f a)) :
    Keeps ts μ (p >>= f) :=
  fun φ => Meets.bind (hp φ) fun a => hf a φ

/-- A fault at a row ends the reading. -/
theorem abortAt {row : Nat} {message : Text} : Keeps ts μ (abortAt row message : Parser α) :=
  fun _ => Meets.abortAt

/-- A fault at the next token ends the reading. -/
theorem abortHere {message : Text} : Keeps ts μ (abortHere message : Parser α) :=
  fun _ => Meets.abortHere

/-- A fault in a formatted string ends the reading. -/
theorem formatFault {message : Text} : Keeps ts μ (formatFault message : Parser α) := abortHere

/-- The characters of a literal hold no names. -/
theorem textCodes {isRaw : Bool} {t : Text} : Keeps ts μ (textCodes isRaw t) := by
  unfold Syntax.textCodes
  split
  · exact pure
  · split
    · exact pure
    · exact abortHere

variable {field : FieldReader}

/-- A check that may abort before a reader that takes nothing. -/
theorem checked {c : Prop} [Decidable c] {message : Text} {p : Unit → Parser α}
    (hp : Keeps ts μ (p ())) :
    Keeps ts μ (if c then Syntax.formatFault message >>= p else p ()) := by
  split
  · exact fun _ => Meets.abortHere
  · exact hp

/-- The parts of a formatted string hold none, if its fields do not. -/
theorem formatParts (hfield : ∀ row col t, Keeps ts μ (field row col t)) {isRaw : Bool}
    {row col : Nat} (fuel level : Nat) (parts : List Part) (s : Cursor) :
    Keeps ts μ (formatParts field isRaw row col fuel level parts s) := by
  induction fuel generalizing level parts s with
  | zero => exact pure
  | succ fuel ih =>
    unfold Syntax.formatParts
    split
    · exact formatFault
    · exact bind textCodes fun _ => ih _ _ _
    · refine bind textCodes fun _ => ?_
      extract_lets _ _ _ _ _ inside
      split
      · refine checked ?_
        simp -zeta only [inside]
        split
        · exact formatFault
        · extract_lets _ _ _ _ _ read filled
          refine checked ?_
          simp -zeta only [filled]
          refine checked ?_
          simp -zeta only [read]
          refine bind (hfield _ _ _) fun _ => ?_
          extract_lets withConversion
          have hformat : ∀ cs, Keeps ts μ (withConversion cs) := by
            rintro ⟨conversion, rest⟩
            simp -zeta only [withConversion]
            extract_lets withFormat
            have hend : ∀ fs, Keeps ts μ (withFormat fs) := fun _ => checked (ih _ _ _)
            split
            · exact bind (ih _ _ _) fun _ => checked (bind pure hend)
            · exact bind pure hend
          split
          · split
            · exact bind pure hformat
            · exact bind formatFault hformat
          · exact bind formatFault hformat
          · exact bind pure hformat
      · exact pure

/-- One more literal of a string adds no names. -/
theorem addLiteral (hfield : ∀ row col t, Keeps ts μ (field row col t)) {value : StringValue}
    {t : Token} : Keeps ts μ (addLiteral field value t) := by
  unfold Syntax.addLiteral
  extract_lets _ _ mixed decoded checkedBytes _ formatted
  have hmixed : Keeps ts μ (mixed : Parser (List Part × Bool)) := abortHere
  have hdecoded : ∀ codes, Keeps ts μ (decoded codes) := by
    intro codes
    simp -zeta only [decoded]
    split
    · exact pure
    · exact pure
    · exact abortHere
  have hbytes : Keeps ts μ (checkedBytes ()) := by
    simp -zeta only [checkedBytes]
    split
    · exact bind pure hdecoded
    · split
      · exact bind pure hdecoded
      · exact bind abortHere hdecoded
  have hformatted : ∀ ps, Keeps ts μ (formatted ps) := by
    rintro ⟨parts, was⟩
    simp -zeta only [formatted]
    split
    · exact bind (formatParts hfield _ _ _ _) fun _ => pure
    · exact bind textCodes fun _ => pure
  split
  · split
    · exact bind abortAt fun _ => hbytes
    · exact hbytes
  · split
    · exact bind pure hformatted
    · exact bind pure hformatted
    · split
      · exact bind hmixed hformatted
      · exact bind textCodes fun _ => bind hmixed hformatted

/-- All literals of a string add no names. -/
theorem addLiterals (hfield : ∀ row col t, Keeps ts μ (field row col t)) {value : StringValue}
    {tokens : List Token} : Keeps ts μ (addLiterals field value tokens) := by
  induction tokens generalizing value with
  | nil => exact pure
  | cons t tokens ih => exact bind (addLiteral hfield) fun _ => ih

end Keeps

namespace Grammar

/-- **A field is read by itself**, from its own tokens, and takes none of the source. -/
theorem keeps_fieldExpression {self : Rules} {row col : Nat} {t : Text} :
    Keeps ts μ (fieldExpression self row col t) := by
  intro φ i m hi hs
  unfold fieldExpression
  dsimp only
  split
  · exact ⟨hi, hs⟩
  · trivial

/-- **String literals** hold no names: the names in them are no tokens. -/
theorem reads_strings {self : Rules} : Reads ts μ (stringsOf (fieldExpression self)) := by
  intro k l u v
  refine Meets.bind (Meets.many1 (ψ := fun _ => Left ts μ k l u v) Meets.stringToken
    fun _ => Meets.stringToken) fun tokens => ?_
  extract_lets
  refine Meets.bind (Meets.spanFrom.mono fun _ _ hi => hi.1) fun s => ?_
  refine Meets.bind (Keeps.addLiterals (fun _ _ _ => keeps_fieldExpression) _) fun value => ?_
  split <;> exact Meets.pure fun _ => id

end Grammar
end ApiPage.Syntax
