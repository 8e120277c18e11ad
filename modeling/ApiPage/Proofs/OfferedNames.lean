import ApiPage.Proofs.RfcReferences

/-!
# Names that are offered

A name of a line is offered to the resolver where the characters around it are delimiters and an
even number of quotation marks stands before it. What counts as the character before it is the last
one that belongs to no reference, so that a name directly behind a URL or a reference to an RFC is
judged by what comes before these. Nothing else can stand between that character and the name: a
name takes all the word characters that it can, and every reference begins with one.

## Main definitions

* `Prose.Delimited`: two texts between which a name may stand.
* `Prose.Behind`: the last character that belongs to no reference, and the links behind it.

## Main results

* `Prose.isWord_of_reference?`: every reference begins with a word character.
* `Prose.Reaches.behind`: what the scan keeps as the character before.
* `Prose.delimited_of_offered`: the surroundings of a name that is offered.
* `Prose.not_delimited_numberedWord`: the character right before it may be no delimiter.
-/

namespace ApiPage

/-! ### Word characters -/

/-- What follows the run of word characters at the start of a text begins with none. -/
theorem Text.isWord_head_dropWhile (t : Text) :
    ∀ c ∈ (t.dropWhile fun c => isWord c.toNat).head?, isWord c.toNat = false := by
  intro c hc
  have hhead := List.head?_dropWhile_not (fun c => isWord c.toNat) t
  rw [Option.mem_def.mp hc] at hhead
  exact hhead

namespace Prose

/-- What follows a name without points begins with no word character. -/
theorem isWord_head_of_wordLength? {t : Text} {n : Nat} (h : wordLength? t = some n) :
    ∀ c ∈ (t.drop n).head?, Text.isWord c.toNat = false := by
  cases t with
  | nil => cases h
  | cons c r =>
    rw [wordLength?] at h
    split at h
    · obtain rfl := Option.some.inj h
      rw [Nat.add_comm, List.drop_succ_cons, Text.drop_length_takeWhile]
      exact Text.isWord_head_dropWhile r
    · cases h

/-- Behind dotted words no word goes on. -/
theorem isWord_head_drop_dottedWordLength (fuel : Nat) {t : Text}
    (h : ∀ c ∈ t.head?, Text.isWord c.toNat = false) :
    ∀ c ∈ (t.drop (dottedWordLength fuel t)).head?, Text.isWord c.toNat = false := by
  induction fuel generalizing t with
  | zero => exact h
  | succ fuel ih =>
    rw [dottedWordLength.eq_def]
    split
    · exact h
    · next k r heq =>
      obtain rfl := Nat.succ.inj heq
      split
      · exact h
      · next n hn =>
        have hrest := ih (isWord_head_of_wordLength? hn)
        rw [List.drop_drop] at hrest
        rw [Nat.add_assoc, Nat.add_comm 1, List.drop_succ_cons]
        exact hrest
    · exact h

/-- **What follows a name** begins with no word character. -/
theorem isWord_head_of_nameLength? {t : Text} {n : Nat} (h : nameLength? t = some n) :
    ∀ c ∈ (t.drop n).head?, Text.isWord c.toNat = false := by
  obtain ⟨k, hk, rfl⟩ := Option.map_eq_some_iff.mp h
  rw [← List.drop_drop]
  exact isWord_head_drop_dottedWordLength _ (isWord_head_of_wordLength? hk)

/-- **A reference begins with a word character**. -/
theorem isWord_of_reference? {before c : Char} {quotes n : Nat} {r : Text} {p : Piece}
    (h : reference? before quotes (c :: r) = some (p, n)) : Text.isWord c.toNat = true := by
  rcases reference?_cases h with ⟨k, hk, -⟩ | ⟨-, hrfc, -⟩ | ⟨-, -, hname, -⟩
  · obtain ⟨scheme, host, path, m, rest, hurl, heq, -⟩ := exists_of_urlLength? hk
    have hall : (schemes.all fun s => s.head?.any fun c => Text.isWord c.toNat) = true := by decide
    have hscheme := List.all_eq_true.mp hall scheme hurl.scheme_mem
    cases scheme with
    | nil => cases hscheme
    | cons d s =>
      rw [hurl.eq] at heq
      obtain ⟨rfl, -⟩ := List.cons_eq_cons.mp heq
      exact hscheme
  · rw [rfcLength?] at hrfc
    split at hrfc
    · cases hrfc
    · next u hu =>
      obtain ⟨rfl, -⟩ := List.cons_eq_cons.mp (Text.eq_of_dropPrefix? hu)
      decide
  · obtain ⟨k, hk, -⟩ := Option.map_eq_some_iff.mp hname
    rw [wordLength?] at hk
    split at hk
    · next hstart =>
      rw [isWordStart, Bool.and_eq_true] at hstart
      exact hstart.1
    · cases hk

/-! ### The character before -/

/-- **The character before**, as the scan keeps it: behind the pieces `ps` it is the last character
in front of the links that end them, and NUL where nothing is in front of these. -/
def Behind (ps : List Piece) (before : Char) : Prop :=
  ∃ front links, ps = front ++ links ∧ (∀ l ∈ links, ∃ href label, l = .link href label) ∧
    before = (front.flatMap Piece.shown).getLast?.getD '\x00'

/-- At the start of a line nothing stands before. -/
theorem behind_nil : Behind [] '\x00' := ⟨[], [], rfl, List.forall_mem_nil _, rfl⟩

/-- Behind a plain character it is that character. -/
theorem behind_plain (ps : List Piece) (c : Char) : Behind (ps ++ [.plain [c]]) c := by
  refine ⟨ps ++ [.plain [c]], [], (List.append_nil _).symm, List.forall_mem_nil _, ?_⟩
  rw [List.flatMap_append, List.flatMap_singleton]
  exact (congrArg (·.getD '\x00') List.getLast?_concat).symm

/-- Behind a link it stays what it is. -/
theorem Behind.link {ps : List Piece} {before : Char} (h : Behind ps before) (href label : Text) :
    Behind (ps ++ [.link href label]) before := by
  obtain ⟨front, links, rfl, hlinks, hbefore⟩ := h
  refine ⟨front, links ++ [.link href label], List.append_assoc .., ?_, hbefore⟩
  rw [List.forall_mem_append]
  exact ⟨hlinks, by simp⟩

/-- Of the two cases in which a scan may be, a reference begins only in the first. -/
theorem behind_of_reference? {ps : List Piece} {before : Char} {quotes n : Nat} {t : Text}
    {p : Piece} (h : Behind ps before ∨ ∀ c ∈ t.head?, Text.isWord c.toNat = false) (ht : t ≠ [])
    (href : reference? before quotes t = some (p, n)) : Behind ps before := by
  refine h.resolve_right fun hhead => ?_
  obtain ⟨c, u, rfl⟩ := List.exists_cons_of_ne_nil ht
  have hword := isWord_of_reference? href
  rw [hhead c rfl] at hword
  cases hword

/-- **What the scan keeps is the character before**, wherever a reference may begin. Behind a name
none may, for the name takes all the word characters. -/
theorem Reaches.behind {line : Text} {ps : List Piece} {before : Char} {t : Text}
    (h : Reaches line ps before t) :
    Behind ps before ∨ ∀ c ∈ t.head?, Text.isWord c.toNat = false := by
  induction h with
  | start => exact .inl behind_nil
  | step _ hstep ih =>
    rcases hstep.inv with ⟨c, rfl, -, rfl, -⟩ | ⟨ht, rfl, n, href, rfl⟩
    · exact .inl (behind_plain _ _)
    · have hbehind := behind_of_reference? ih ht href
      rcases reference?_cases href with ⟨k, -, -, rfl⟩ | ⟨-, hrfc, rfl⟩ | ⟨-, -, hname, -⟩
      · exact .inl (hbehind.link _ _)
      · obtain ⟨url, hurl⟩ := exists_rfcPiece hrfc
        rw [hurl]
        exact .inl (hbehind.link _ _)
      · exact .inr (isWord_head_of_nameLength? hname)

/-! ### Offered names -/

/-- **Texts between which a name may stand**: the one before it is empty or ends in a character that
a name may follow, and the one behind it is empty or begins with one that it may precede. -/
structure Delimited (front rest : Text) : Prop where
  follows : ∀ c ∈ front.getLast?, nameMayFollow c
  precedes : ∀ c ∈ rest.head?, nameMayPrecede c

/-- **The surroundings of a name that is offered**: it stands behind a delimiter, or behind links
that stand right behind one; a delimiter follows it, and the quotation marks before it are even in
number. -/
theorem delimited_of_offered {line : Text} {ps qs : List Piece} {w : Text}
    (h : pieces (convertQuotes line) = ps ++ .name w :: qs) :
    ∃ front links, ps = front ++ links ∧ (∀ l ∈ links, ∃ href label, l = .link href label) ∧
      Delimited (front.flatMap Piece.shown) (qs.flatMap Piece.shown) ∧
      Even (countQuotes (ps.flatMap Piece.shown)) := by
  obtain ⟨before, before', hreach, hstep⟩ := step_of_pieces h
  obtain ⟨ht, -, n, href, hrest⟩ := hstep.inv.resolve_left (by simp)
  rcases reference?_cases href with ⟨k, -, -, hp⟩ | ⟨-, hrfc, hp⟩ | ⟨-, -, -, hp | ⟨-, hname⟩⟩
  · cases hp
  · obtain ⟨url, hurl⟩ := exists_rfcPiece hrfc
    rw [hurl] at hp
    cases hp
  · cases hp
  · rw [hrest] at hname
    obtain ⟨hbefore, hafter, hquotes⟩ := hname
    obtain ⟨front, links, hps, hlinks, rfl⟩ := behind_of_reference? hreach.behind ht href
    refine ⟨front, links, hps, hlinks, ⟨fun c hc => ?_, fun c hc => ?_⟩, Nat.even_iff.mpr hquotes⟩
    · rwa [Option.mem_def.mp hc] at hbefore
    · rwa [Option.mem_def.mp hc] at hafter

/-- A line with quoted text, and a name directly behind a reference to an RFC. -/
def numberedWord : Text := Text.of "``a'' RFC 791x."

/-- The pieces of `numberedWord` in front of its last name. -/
def numberedFront : List Piece :=
  [.plain ['“'], .plain ['a'], .plain ['”'], .plain [' '],
    .link (rfcUrl (Text.of "791")) (Text.of "RFC 791")]

/-- The word behind the reference is offered. -/
theorem pieces_numberedWord : pieces (convertQuotes numberedWord) =
    numberedFront ++ .name ['x'] :: [.plain ['.']] := by
  decide +kernel

/-- The word stands behind a link, before which there is a blank. -/
theorem delimited_of_offered_numberedWord :
    pieces (convertQuotes numberedWord) = numberedFront ++ .name ['x'] :: [.plain ['.']] ∧
      ∃ front links, numberedFront = front ++ links ∧
        (∀ l ∈ links, ∃ href label, l = .link href label) ∧
        Delimited (front.flatMap Piece.shown) ([.plain ['.']].flatMap Piece.shown) ∧
        Even (countQuotes (numberedFront.flatMap Piece.shown)) :=
  ⟨pieces_numberedWord, delimited_of_offered pieces_numberedWord⟩

/-- **A name may be offered without a delimiter before it**: `x` stands right behind a digit. -/
theorem not_delimited_numberedWord :
    ∃ ps qs, pieces (convertQuotes numberedWord) = ps ++ .name ['x'] :: qs ∧
      ¬Delimited (ps.flatMap Piece.shown) (qs.flatMap Piece.shown) := by
  refine ⟨_, _, pieces_numberedWord, fun h => ?_⟩
  have hdigit := h.follows '1' rfl
  revert hdigit
  decide

end Prose
end ApiPage
