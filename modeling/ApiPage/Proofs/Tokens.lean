import ApiPage.Proofs.Composed
import ApiPage.Syntax.Lexer

/-!
# Tokens of a text

Every token of a text knows its place in the stream, and the names among them are written with
characters that a name may hold, one at least.

## Main definitions

* `Spelled`: a kind of token whose name, if it is one, is written with name characters.
* `Numbered`: tokens that know their places.

## Main results

* `numbered_tokenize`, `spelled_of_mem_tokenize`: so it is with the tokens of a text.
* `isUnsigned_of_mem_tokenize`: no name of a text holds a sign of ASCII.
* `nameText_ne_nil_of_mem_tokenize`: no name of a text is empty.
-/

namespace ApiPage.Syntax

/-- **Spelled kind**: a name that is written with name characters, one at least, or no name. -/
def Spelled (k : TokenKind) : Prop :=
  ∀ n, k = .name n → n ≠ [] ∧ ∀ c ∈ n, Text.isNameContinue c.toNat = true

/-- **Numbered tokens**, the first of which has the number `k`. -/
def Numbered (k : Nat) (ts : List Token) : Prop :=
  ∀ (n : Nat) (t : Token), ts[n]? = some t → t.index = k + n

/-! ### One token -/

/-- What may start a name may stand in it. -/
theorem isNameContinue_of_isNameStart {n : Nat} (h : Text.isNameStart n = true) :
    Text.isNameContinue n = true := by
  unfold Text.isNameStart at h
  unfold Text.isNameContinue
  split at h
  · rw [if_pos ‹_›, h, Bool.true_or]
  · rw [if_neg ‹_›, h, Bool.true_or]

/-- A word without a character that is bad in names is a name. -/
theorem isNameContinue_of_badNameChar {n : Text} (h : badNameChar? n = none) :
    ∀ c ∈ n, Text.isNameContinue c.toNat = true := by
  cases n with
  | nil => exact List.forall_mem_nil _
  | cons c r =>
    simp only [badNameChar?] at h
    split at h
    · next hstart =>
      refine List.forall_mem_cons.mpr ⟨isNameContinue_of_isNameStart hstart, fun d hd => ?_⟩
      simpa using List.find?_eq_none.mp h d hd
    · cases h

variable {s : Reader} {index : Nat}

/-- A token knows the index that it was read at. -/
theorem index_tokenAt : (tokenAt s index).1.index = index := by
  unfold tokenAt
  dsimp only
  repeat' split
  all_goals rfl

/-- **A token at a reader is spelled** with name characters if it is a name, which one branch gives.
-/
theorem spelled_tokenAt : Spelled (tokenAt s index).1.kind := by
  intro n hn
  unfold tokenAt at hn
  dsimp only at hn
  repeat' split at hn
  all_goals try exact TokenKind.noConfusion hn
  next hstart _ hbad _ _ =>
    obtain rfl := TokenKind.name.inj hn
    have hlike := (Bool.and_eq_true_iff.mp hstart).1
    refine ⟨?_, isNameContinue_of_badNameChar hbad⟩
    rw [List.takeWhile_cons_of_pos hlike]
    exact List.cons_ne_nil _ _

/-! ### The stream -/

/-- No tokens are numbered from anywhere. -/
theorem numbered_nil {k : Nat} : Numbered k [] := fun _ _ h => nomatch h

/-- One token more before numbered ones. -/
theorem Numbered.cons {k : Nat} {t : Token} {ts : List Token} (ht : t.index = k)
    (hts : Numbered (k + 1) ts) : Numbered k (t :: ts) := by
  intro n t' hn
  cases n with
  | zero => rwa [← Option.some.inj hn]
  | succ n => rw [hts n t' hn, Nat.add_right_comm, Nat.add_assoc]

/-- The tokens that close indents are numbered on. -/
theorem numbered_dedents {s : Reader} {index n : Nat} {ts : List Token}
    (hts : Numbered (index + n) ts) : Numbered index (dedents s index n ++ ts) := by
  induction n generalizing index with
  | zero => exact hts
  | succ n ih => exact .cons rfl (ih (by rwa [Nat.add_right_comm]))

/-- **The tokens of a reader** are numbered from the index on that it is given. -/
theorem numbered_tokensFrom (fuel : Nat) (lineStart : Bool) (s : Reader) (index : Nat) :
    Numbered index (tokensFrom fuel lineStart s index) := by
  have hat : ∀ {s s' : Reader} {index : Nat} {t : Token}, tokenAt s index = (t, s') →
      t.index = index := fun {s s' index t} h => by
    have ht := @index_tokenAt s index
    rwa [h] at ht
  fun_induction tokensFrom fuel lineStart s index with
  | case7 _ _ _ _ _ _ _ _ _ _ _ ih => exact .cons rfl ih
  | case8 _ _ _ _ _ _ _ _ _ _ _ _ _ ih => exact numbered_dedents ih
  | case10 _ _ _ _ _ _ ih => exact .cons rfl ih
  | case17 _ _ _ _ _ _ _ _ _ _ _ _ _ _ htoken => exact .cons (hat htoken) numbered_nil
  | case18 _ _ _ _ _ _ _ _ _ _ _ _ _ _ htoken _ ih => exact .cons (hat htoken) ih
  | _ => first
    | exact .cons rfl numbered_nil
    | assumption

/-- The fault at the end of a text spells nothing. -/
theorem spelled_endFault {s : Reader} : Spelled s.endFault := by
  intro n hn
  unfold Reader.endFault at hn
  split at hn <;> exact TokenKind.noConfusion hn

/-- Where a line cannot be measured there is no name. -/
theorem spelled_measure {fuel : Nat} {s s' : Reader} {col alt fixed : Nat} {k : TokenKind}
    (h : measure fuel s col alt fixed = .bad s' k) : Spelled k := by
  fun_induction measure fuel s col alt fixed with
  | case5 =>
    obtain ⟨-, rfl⟩ := Margin.bad.inj h
    exact spelled_endFault
  | case7 =>
    obtain ⟨-, rfl⟩ := Margin.bad.inj h
    exact fun _ hn => TokenKind.noConfusion hn
  | _ => first
    | exact Margin.noConfusion h
    | exact (by assumption : _ → Spelled k) h

/-- The tokens that close indents spell nothing. -/
theorem spelled_of_mem_dedents {s : Reader} {index n : Nat} {t : Token}
    (ht : t ∈ dedents s index n) : Spelled t.kind := by
  induction n generalizing index with
  | zero => exact nomatch ht
  | succ n ih =>
    rcases List.mem_cons.mp ht with rfl | ht
    · exact fun _ hn => TokenKind.noConfusion hn
    · exact ih ht

/-- **The names that a reader gives** are written with name characters. -/
theorem spelled_tokensFrom (fuel : Nat) (lineStart : Bool) (s : Reader) (index : Nat) :
    ∀ t ∈ tokensFrom fuel lineStart s index, Spelled t.kind := by
  have hat : ∀ {s s' : Reader} {index : Nat} {t : Token}, tokenAt s index = (t, s') →
      Spelled t.kind := fun {s s' index t} h => by
    have ht := @spelled_tokenAt s index
    rwa [h] at ht
  have hmark : ∀ {k : TokenKind}, (∀ n, k ≠ .name n) → Spelled k := fun h n hn => absurd hn (h n)
  fun_induction tokensFrom fuel lineStart s index with
  | case2 _ _ _ _ _ hbad => exact List.forall_mem_singleton.mpr (spelled_measure hbad)
  | case7 _ _ _ _ _ _ _ _ _ _ _ ih =>
    exact List.forall_mem_cons.mpr ⟨hmark fun _ h => TokenKind.noConfusion h, ih⟩
  | case8 _ _ _ _ _ _ _ _ _ _ _ _ _ ih =>
    intro t ht
    rcases List.mem_append.mp ht with ht | ht
    · exact spelled_of_mem_dedents ht
    · exact ih t ht
  | case9 =>
    refine List.forall_mem_singleton.mpr ?_
    simp only [Reader.markToken, Reader.token]
    split
    · exact hmark fun _ h => TokenKind.noConfusion h
    · exact spelled_endFault
  | case10 _ _ _ _ _ _ ih =>
    exact List.forall_mem_cons.mpr ⟨hmark fun _ h => TokenKind.noConfusion h, ih⟩
  | case13 => exact List.forall_mem_singleton.mpr spelled_endFault
  | case17 _ _ _ _ _ _ _ _ _ _ _ _ _ _ htoken => exact List.forall_mem_singleton.mpr (hat htoken)
  | case18 _ _ _ _ _ _ _ _ _ _ _ _ _ _ htoken _ ih =>
    exact List.forall_mem_cons.mpr ⟨hat htoken, ih⟩
  | _ => first
    | exact List.forall_mem_singleton.mpr (hmark fun _ h => TokenKind.noConfusion h)
    | assumption

variable {row : Nat} {text : Text}

/-- **The tokens of a text** know their places. -/
theorem numbered_tokenize : Numbered 0 (tokenize row text) := numbered_tokensFrom _ _ _ _

/-- **The names of a text** are written with name characters. -/
theorem spelled_of_mem_tokenize {t : Token} (ht : t ∈ tokenize row text) : Spelled t.kind :=
  spelled_tokensFrom _ _ _ _ t ht

/-- **No name of a text holds a sign of ASCII**, in its composed form either. -/
theorem isUnsigned_of_mem_tokenize {t : Token} (ht : t ∈ tokenize row text) :
    ∀ c ∈ t.nameText, Text.isUnsigned c.toNat = true :=
  isUnsigned_of_mem_nameText fun n hn => (spelled_of_mem_tokenize ht n hn).2

/-- **No name of a text is empty**. -/
theorem nameText_ne_nil_of_mem_tokenize {t : Token} (ht : t ∈ tokenize row text) {n : Text}
    (hn : t.kind = .name n) : t.nameText ≠ [] :=
  nameText_ne_nil hn (spelled_of_mem_tokenize ht n hn).1

/-- A sign is in no name. -/
theorem not_mem_nameText {t : Token} (ht : t ∈ tokenize row text) {c : Char}
    (hc : Text.isUnsigned c.toNat = false) : c ∉ t.nameText := fun hmem => by
  rw [isUnsigned_of_mem_tokenize ht c hmem] at hc
  exact Bool.noConfusion hc

end ApiPage.Syntax
