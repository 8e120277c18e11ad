import ApiPage.Proofs.Mentions
import ApiPage.Syntax.Grammar.Parameter

/-!
# Readers and the names they take

A reader of the grammar takes tokens and gives a value. Here it is said what it means that the value
holds the names among these tokens: its mentions weigh no more than they do, and all of them are
counted. The rules for it follow the readers: choice, repetition, memory.

## Conventions

Only the first reading gives a value, so fault rules are never followed. Names are weighed, which
makes of them sums of numbers: a weight that finds one mention counts it, and a weight that finds
names with some property shows whether there are any.

## Main definitions

* `Parser.Meets`: what holds before and after a reader.
* `Left`: the names left in an input, with those that were taken.
* `Parser.Reads`: a reader whose value holds the names that it takes.
-/

namespace ApiPage.Syntax

/-! ### Names among tokens -/

/-- The mention that a name makes. -/
def Token.named (t : Token) : Mention := (⟨t.row, t.col⟩, t.nameText)

/-- The mention that a token makes. -/
def Token.mention? (t : Token) : Option Mention :=
  match t.kind with
  | .name _ => some t.named
  | _ => none

/-- The mentions that some tokens make. -/
def tokenMentions (ts : List Token) : List Mention := ts.filterMap Token.mention?

/-- **Tokens in place**: names take as many bytes as their composed forms, and the name of a
definition follows the word that opens it after one blank. -/
structure InPlace (ts : List Token) : Prop where
  spelled : ∀ t ∈ ts, t.mention?.isSome →
    t.endRow = t.row ∧ t.endCol = t.col + Text.byteSize t.nameText
  defined : ∀ (n : Nat) (t t' : Token), ts[n]? = some t → ts[n + 1]? = some t' →
    t.kind = .word .defWord → t'.mention?.isSome → t'.row = t.row ∧ t'.col = t.col + 4
  async : ∀ (n : Nat) (t t' : Token), ts[n]? = some t → ts[n + 1]? = some t' →
    t.kind = .word .async → t'.kind = .word .defWord → t'.row = t.row ∧ t'.col = t.col + 6
  classes : ∀ (n : Nat) (t t' : Token), ts[n]? = some t → ts[n + 1]? = some t' →
    t.kind = .word .classWord → t'.mention?.isSome → t'.row = t.row ∧ t'.col = t.col + 6

/-- **Tidy tokens**: they know their place in the stream, names are not empty and hold neither a point
nor a star, and the tokens are in place where that bears on the weight. -/
structure Tidy (ts : List Token) (μ : Weight) : Prop where
  index : ∀ (n : Nat) (t : Token), ts[n]? = some t → t.index = n
  plain : ∀ t ∈ ts, t.mention?.isSome → t.nameText ≠ [] ∧ '.' ∉ t.nameText ∧ '*' ∉ t.nameText
  placed : μ.Placeless ∨ InPlace ts

variable {ts : List Token} {μ : Weight}

/-- **Names left in an input**, a rest of the tokens `ts`. Of the weight `k` that was left once, `u`
or more was taken since, and of `l` names in all `v` were. -/
structure Left (ts : List Token) (μ : Weight) (k l u v : Nat) (i : Input) : Prop where
  rest : ∃ n, i.tokens = ts.drop n
  seen : ((tokenMentions i.tokens).map μ).sum + u ≤ k
  all : (tokenMentions i.tokens).length + v = l

/-- The mentions of what a rule gives. -/
instance Rule.mentioning : (r : Rule) → Mentioning r.Result
  | .arguments => inferInstanceAs (Mentioning (List Expr × List Keyword))
  | .namedFault => inferInstanceAs (Mentioning Unit)
  | .closedPattern => inferInstanceAs (Mentioning Pattern)
  | .starPattern => inferInstanceAs (Mentioning Pattern)
  | .block => inferInstanceAs (Mentioning (List Stmt))
  | .simpleStatement => inferInstanceAs (Mentioning Stmt)
  | .elifStatement => inferInstanceAs (Mentioning Stmt)
  | .expression => inferInstanceAs (Mentioning Expr)
  | .disjunction => inferInstanceAs (Mentioning Expr)
  | .conjunction => inferInstanceAs (Mentioning Expr)
  | .inversion => inferInstanceAs (Mentioning Expr)
  | .bitOr => inferInstanceAs (Mentioning Expr)
  | .bitXor => inferInstanceAs (Mentioning Expr)
  | .bitAnd => inferInstanceAs (Mentioning Expr)
  | .shift => inferInstanceAs (Mentioning Expr)
  | .sum => inferInstanceAs (Mentioning Expr)
  | .term => inferInstanceAs (Mentioning Expr)
  | .factor => inferInstanceAs (Mentioning Expr)
  | .awaited => inferInstanceAs (Mentioning Expr)
  | .primary => inferInstanceAs (Mentioning Expr)
  | .strings => inferInstanceAs (Mentioning Expr)
  | .starExpression => inferInstanceAs (Mentioning Expr)
  | .starTarget => inferInstanceAs (Mentioning Expr)
  | .targetAtom => inferInstanceAs (Mentioning Expr)
  | .targetPrimary => inferInstanceAs (Mentioning Expr)
  | .deleteTarget => inferInstanceAs (Mentioning Expr)
  | .singleTarget => inferInstanceAs (Mentioning Expr)
  | .hintTarget => inferInstanceAs (Mentioning Expr)

/-- **A sound entry**: its value holds the names from the place on where it is remembered to the
input after it. -/
def Entry.Sound (ts : List Token) (μ : Weight) (n : Nat) (e : Entry) : Prop :=
  ∀ a i', e.result = some (a, i') → ∀ i k l u v, i.tokens = ts.drop n → Left ts μ k l u v i →
    Left ts μ k l (u + seenIn μ a) (v + nameCount a) i'

/-- **Sound memory**: so are all its entries. -/
def Memory.Sound (ts : List Token) (μ : Weight) (m : Memory) : Prop :=
  ∀ (n : Nat) (es : List Entry), m.table[n]? = some es → ∀ e ∈ es, Entry.Sound ts μ n e

/-- **An outcome in order**: its memory is sound, and of its value and input `ψ` holds. -/
def Outcome.Meets {α : Type} (ts : List Token) (μ : Weight) (ψ : α → Input → Prop) :
    Outcome α → Prop
  | .ok a i m => ψ a i ∧ m.Sound ts μ
  | .fail m => m.Sound ts μ
  | .abort _ _ => True

namespace Parser

variable {α β : Type} {φ : Input → Prop} {χ : β → Input → Prop} {ψ : α → Input → Prop}

/-- **What a reader meets**: where `φ` holds before it, `ψ` holds of its value and the input after
it. -/
def Meets (ts : List Token) (μ : Weight) (φ : Input → Prop) (p : Parser α)
    (ψ : α → Input → Prop) : Prop :=
  ∀ i m, φ i → m.Sound ts μ → (p false i m).Meets ts μ ψ

/-- **A reader whose value holds the names that it takes**. -/
def Reads [Mentioning α] (ts : List Token) (μ : Weight) (p : Parser α) : Prop :=
  ∀ k l u v, Meets ts μ (Left ts μ k l u v) p
    fun a => Left ts μ k l (u + seenIn μ a) (v + nameCount a)

/-- **A reader that takes no names**. -/
def Skips (ts : List Token) (μ : Weight) (p : Parser α) : Prop :=
  ∀ k l u v, Meets ts μ (Left ts μ k l u v) p fun _ => Left ts μ k l u v

/-! ### Sequence and choice -/

/-- An outcome in order stays so for a weaker condition. -/
theorem outcome_mono {ψ χ : α → Input → Prop} {o : Outcome α} (h : o.Meets ts μ ψ)
    (hm : ∀ a i, ψ a i → χ a i) : o.Meets ts μ χ := by
  cases o with
  | ok a i m => exact ⟨hm a i h.1, h.2⟩
  | fail m => exact h
  | abort e m => trivial

namespace Meets

/-- A weaker condition behind a reader. -/
theorem mono {p : Parser α} {ψ' : α → Input → Prop} (h : Meets ts μ φ p ψ)
    (hm : ∀ a i, ψ a i → ψ' a i) : Meets ts μ φ p ψ' :=
  fun i m hi hs => outcome_mono (h i m hi hs) hm

/-- A stronger condition before a reader. -/
theorem pre {p : Parser α} {φ' : Input → Prop} (h : Meets ts μ φ p ψ) (hm : ∀ i, φ' i → φ i) :
    Meets ts μ φ' p ψ :=
  fun i m hi hs => h i m (hm i hi) hs

/-- A fact that does not depend on the input. -/
theorem given {p : Parser α} {P : Prop} (h : P → Meets ts μ φ p ψ) :
    Meets ts μ (fun i => φ i ∧ P) p ψ :=
  fun i m hi hs => h hi.2 i m hi.1 hs

/-- A fact that does not depend on the input holds on. -/
theorem frame {p : Parser α} {P : Prop} (h : Meets ts μ φ p ψ) :
    Meets ts μ (fun i => φ i ∧ P) p fun a i => ψ a i ∧ P :=
  given fun hP => h.mono fun _ _ h => ⟨h, hP⟩

/-- A value that is given without reading. -/
theorem pure {a : α} (h : ∀ i, φ i → ψ a i) : Meets ts μ φ (pure a) ψ :=
  fun i _ hi hs => ⟨h i hi, hs⟩

/-- **One reader after another**: what holds behind the first holds before the second. -/
theorem bind {p : Parser β} {f : β → Parser α} (hp : Meets ts μ φ p χ)
    (hf : ∀ b, Meets ts μ (χ b) (f b) ψ) : Meets ts μ φ (p >>= f) ψ := by
  intro i m hi hs
  have h := hp i m hi hs
  simp only [Bind.bind]
  cases hpi : p false i m with
  | ok b i' m' =>
    rw [hpi] at h
    exact hf b i' m' h.1 h.2
  | fail m' =>
    rw [hpi] at h
    exact h
  | abort e m' => trivial

/-- A choice, if both readers keep the condition. -/
theorem orElse {p q : Parser α} (hp : Meets ts μ φ p ψ) (hq : Meets ts μ φ q ψ) :
    Meets ts μ φ (p <|> q) ψ := by
  intro i m hi hs
  have h := hp i m hi hs
  simp only [HOrElse.hOrElse, OrElse.orElse]
  cases hpi : p false i m with
  | ok a i' m' =>
    rw [hpi] at h
    exact h
  | fail m' =>
    rw [hpi] at h
    exact hq i m' hi h
  | abort e m' => trivial

/-- A reader that fails gives no value. -/
theorem failure : Meets ts μ φ (failure : Parser α) ψ := fun _ _ _ hs => hs

/-- A choice that is made once the first of two readers has read. -/
theorem commit {p : Parser β} {f : β → Parser α} {q : Parser α} (hp : Meets ts μ φ p χ)
    (hf : ∀ b, Meets ts μ (χ b) (f b) ψ) (hq : Meets ts μ φ q ψ) :
    Meets ts μ φ (commit p f q) ψ := by
  intro i m hi hs
  have h := hp i m hi hs
  unfold Parser.commit
  cases hpi : p false i m with
  | ok b i' m' =>
    rw [hpi] at h
    exact hf b i' m' h.1 h.2
  | fail m' =>
    rw [hpi] at h
    exact hq i m' hi h
  | abort e m' => trivial

/-- A reader that may find nothing. -/
theorem opt {p : Parser α} {ψ : Option α → Input → Prop}
    (hp : Meets ts μ φ p fun a => ψ (some a)) (hn : ∀ i, φ i → ψ none i) :
    Meets ts μ φ (opt p) ψ := by
  intro i m hi hs
  have h := hp i m hi hs
  unfold Parser.opt
  cases hpi : p false i m with
  | ok a i' m' =>
    rw [hpi] at h
    exact h
  | fail m' =>
    rw [hpi] at h
    exact ⟨hn i hi, h⟩
  | abort e m' => trivial

/-- Looking ahead takes nothing. -/
theorem ahead {p : Parser β} (hp : Meets ts μ φ p χ) : Meets ts μ φ (ahead p) fun _ => φ := by
  intro i m hi hs
  have h := hp i m hi hs
  unfold Parser.ahead
  cases hpi : p false i m with
  | ok b i' m' =>
    rw [hpi] at h
    exact ⟨hi, h.2⟩
  | fail m' =>
    rw [hpi] at h
    exact h
  | abort e m' => trivial

/-- Looking ahead for what must not stand there takes nothing. -/
theorem notAhead {p : Parser β} (hp : Meets ts μ φ p χ) :
    Meets ts μ φ (notAhead p) fun _ => φ := by
  intro i m hi hs
  have h := hp i m hi hs
  unfold Parser.notAhead
  cases hpi : p false i m with
  | ok b i' m' =>
    rw [hpi] at h
    exact h.2
  | fail m' =>
    rw [hpi] at h
    exact ⟨hi, h⟩
  | abort e m' => trivial

/-- Fault rules are not followed. -/
theorem faulty {p : Parser α} : Meets ts μ φ (faulty p) ψ := fun _ _ _ hs => hs

/-- A fault at a row ends the reading. -/
theorem abortAt {row : Nat} {message : Text} : Meets ts μ φ (abortAt row message : Parser α) ψ :=
  fun _ _ _ _ => trivial

/-- A fault at the next token ends the reading. -/
theorem abortHere {message : Text} : Meets ts μ φ (abortHere message : Parser α) ψ :=
  fun _ _ _ _ => trivial

/-! ### Repetition -/

/-- **What every step keeps holds at the end.** -/
theorem iterate {step : α → Parser α} (hstep : ∀ a, Meets ts μ (ψ a) (step a) ψ) (n : Nat) (a : α) :
    Meets ts μ (ψ a) (iterate step n a) ψ := by
  induction n generalizing a with
  | zero => exact pure fun _ hi => hi
  | succ n ih =>
    intro i m hi hs
    have h := hstep a i m hi hs
    unfold Parser.iterate
    cases hpi : step a false i m with
    | ok b i' m' =>
      rw [hpi] at h
      exact ih b i' m' h.1 h.2
    | fail m' =>
      rw [hpi] at h
      exact ⟨hi, h⟩
    | abort e m' => trivial

/-- What every step of growing keeps holds of the grown value. -/
theorem grow {step : α → Parser α} (hstep : ∀ a, Meets ts μ (ψ a) (step a) ψ) (a : α) :
    Meets ts μ (ψ a) (grow step a) ψ :=
  fun i m hi hs => iterate hstep i.tokens.length a i m hi hs

end Meets

/-! ### Tokens -/

/-- Noting how far the reading got keeps the memory sound. -/
theorem sound_touch {m : Memory} (h : m.Sound ts μ) (t : Token) : (m.touch t).Sound ts μ := by
  have htable : (m.touch t).table = m.table := by
    unfold Memory.touch
    split
    · split <;> rfl
    · rfl
  intro n es hes
  exact h n es (htable ▸ hes)

/-- The input after its first token. -/
def nextInput (i : Input) (t : Token) (r : List Token) : Input :=
  if t.isSolid then ⟨r, t.endRow, t.endCol⟩ else { i with tokens := r }

/-- Behind its first token an input has the other ones. -/
theorem tokens_nextInput (i : Input) (t : Token) (r : List Token) : (nextInput i t r).tokens = r := by
  unfold nextInput
  split <;> rfl

namespace Meets

/-- The token that is looked at is the first of the input. -/
theorem peek : Meets ts μ φ peek fun t i => φ i ∧ i.tokens.head? = some t := by
  intro i m hi hs
  unfold Parser.peek
  cases htok : i.tokens with
  | nil => exact hs
  | cons t r =>
    cases hk : t.kind with
    | fault e => simp [hk, Outcome.Meets]
    | _ => simpa [hk, Outcome.Meets, htok] using ⟨hi, sound_touch hs t⟩

/-- A look ahead of which nothing is kept. -/
theorem look : Meets ts μ φ Parser.peek fun _ => φ := peek.mono fun _ _ h => h.1

/-- Taking the token that was looked at. -/
theorem advance {t : Token} {ψ : Input → Prop}
    (h : ∀ i r, φ i → i.tokens = t :: r → ψ (nextInput i t r)) :
    Meets ts μ (fun i => φ i ∧ i.tokens.head? = some t) advance fun _ => ψ := by
  intro i m hi hs
  obtain ⟨hi, hhead⟩ := hi
  cases htok : i.tokens with
  | nil => simp [htok] at hhead
  | cons t' r =>
    obtain rfl : t' = t := by simpa [htok] using hhead
    have hnext := h i r hi htok
    unfold Parser.advance
    rw [htok]
    exact ⟨hnext, hs⟩

/-- **Taking a token**. -/
theorem accept {f : Token → Option α}
    (h : ∀ i t r a, φ i → i.tokens = t :: r → f t = some a → ψ a (nextInput i t r)) :
    Meets ts μ φ (accept f) ψ := by
  refine bind peek fun t => ?_
  cases hf : f t with
  | none => exact failure
  | some a => exact bind (advance fun i r hi htok => h i t r a hi htok hf) fun _ => pure fun _ => id

end Meets
end Parser

/-! ### Names left -/

namespace Left

variable {k l u v : Nat} {i : Input}

/-- As many names are left if fewer are said to be taken. -/
theorem mono {u' v' : Nat} (h : Left ts μ k l u v i) (hu : u' ≤ u) (hv : v' = v) :
    Left ts μ k l u' v' i := by
  obtain ⟨hrest, hseen, hall⟩ := h
  exact ⟨hrest, by omega, by omega⟩

/-- A token is taken with the name that it may be. -/
theorem next {t : Token} {r : List Token} (h : Left ts μ k l u v i) (ht : i.tokens = t :: r) :
    Left ts μ k l (u + (t.mention?.toList.map μ).sum) (v + t.mention?.toList.length)
      (Parser.nextInput i t r) := by
  obtain ⟨⟨n, hn⟩, hseen, hall⟩ := h
  have hsplit : tokenMentions i.tokens = t.mention?.toList ++ tokenMentions r := by
    rw [ht]
    cases hm : t.mention? <;> simp [tokenMentions, hm]
  rw [hsplit, List.map_append, List.sum_append] at hseen
  rw [hsplit, List.length_append] at hall
  refine ⟨⟨n + 1, ?_⟩, ?_, ?_⟩
  · rw [Parser.tokens_nextInput, ← List.tail_drop, ← hn, ht, List.tail_cons]
  · rw [Parser.tokens_nextInput]
    omega
  · rw [Parser.tokens_nextInput]
    omega

end Left

/-- **A name was taken**: the input is behind it. -/
structure NameTaken (ts : List Token) (μ : Weight) (k l u v : Nat) (t : Token) (i : Input) :
    Prop where
  left : Left ts μ k l (u + μ t.named) (v + 1) i
  isName : t.mention? = some t.named
  place : μ.Placeless ∨ i.endRow = t.row ∧ (i.endCol : Int) - Text.byteSize t.nameText = t.col
  notEmpty : t.nameText ≠ []
  noPoint : '.' ∉ t.nameText
  noStar : '*' ∉ t.nameText

namespace Parser

variable {α β : Type} {φ : Input → Prop} {ψ : α → Input → Prop} {k l u v : Nat}

namespace Meets

/-- Taking a token that is no name. -/
theorem acceptOther {f : Token → Option α} (hf : ∀ t a, f t = some a → t.mention? = none) :
    Meets ts μ (Left ts μ k l u v) (Parser.accept f) fun _ => Left ts μ k l u v := by
  refine accept fun i t r a hi htok ha => ?_
  have hnext := hi.next htok
  rw [hf t a ha] at hnext
  exact hnext

/-- A token of a kind that is no name takes no names. -/
theorem kind {kd : TokenKind} (hk : ∀ n, kd ≠ .name n) :
    Meets ts μ (Left ts μ k l u v) (kind kd) fun _ => Left ts μ k l u v := by
  refine acceptOther fun t a ha => ?_
  split at ha
  · next heq =>
    unfold Token.mention?
    split
    · next n hn => exact absurd (heq.symm.trans hn) (hk n)
    · rfl
  · cases ha

/-- An operator takes no names. -/
theorem op {o : Op} : Meets ts μ (Left ts μ k l u v) (op o) fun _ => Left ts μ k l u v :=
  kind fun _ h => nomatch h

/-- A reserved word takes no names. -/
theorem word {w : Word} : Meets ts μ (Left ts μ k l u v) (word w) fun _ => Left ts μ k l u v :=
  kind fun _ h => nomatch h

/-- A string takes no names. -/
theorem stringToken :
    Meets ts μ (Left ts μ k l u v) stringToken fun _ => Left ts μ k l u v := by
  refine acceptOther fun t a ha => ?_
  split at ha
  · next n hn => simp [Token.mention?, hn]
  · cases ha

/-- Taking a name, of which is known what is known of the next token. -/
theorem nameTokenOf (ht : Tidy ts μ) {P : Token → Prop} :
    Meets ts μ (fun i => Left ts μ k l u v i ∧ ∀ t ∈ i.tokens.head?, P t) nameToken
      fun t i => NameTaken ts μ k l u v t i ∧ P t := by
  refine accept fun i t r a hi htok ha => ?_
  obtain ⟨hi, hP⟩ := hi
  split at ha
  · next n hn =>
    obtain rfl : t = a := Option.some.inj ha
    have hm : t.mention? = some t.named := by simp [Token.mention?, Token.named, hn]
    have hnext := hi.next htok
    obtain ⟨j, hj⟩ := hi.rest
    have hmem : t ∈ ts := by
      have : t ∈ ts.drop j := by simp [← hj, htok]
      exact List.mem_of_mem_drop this
    obtain ⟨hempty, hpoint, hstar⟩ := ht.plain t hmem (by simp [hm])
    have hsolid : t.isSolid = true := by simp [Token.isSolid, hn]
    simp only [hm, Option.toList_some, List.map_singleton, List.sum_singleton,
      List.length_singleton] at hnext
    refine ⟨⟨hnext, hm, ht.placed.imp_right fun h => ?_, hempty, hpoint, hstar⟩,
      hP t (by simp [htok])⟩
    obtain ⟨hrow, hcol⟩ := h.spelled t hmem (by simp [hm])
    simp [nextInput, hsolid, hrow, hcol]
  · cases ha

/-- Taking a name. -/
theorem nameToken (ht : Tidy ts μ) :
    Meets ts μ (Left ts μ k l u v) nameToken (NameTaken ts μ k l u v) :=
  ((nameTokenOf ht).pre fun _ hi => ⟨hi, fun _ _ => trivial⟩).mono fun _ _ h => h.1

/-- Taking a name whose place does not matter. -/
theorem nameOnly (ht : Tidy ts μ) :
    Meets ts μ (Left ts μ k l u v) Parser.nameToken fun _ => Left ts μ k l u (v + 1) :=
  (nameToken ht).mono fun _ _ h => h.left.mono (Nat.le_add_right _ _) rfl

/-- A word that is a name elsewhere is counted as a name. -/
theorem softWord {w : String} :
    Meets ts μ (Left ts μ k l u v) (softWord w) fun _ => Left ts μ k l u (v + 1) := by
  refine accept fun i t r a hi htok ha => ?_
  split at ha
  · next n hn =>
    have hnext := hi.next htok
    simp only [Token.mention?, hn, Option.toList_some, List.length_singleton] at hnext
    exact hnext.mono (Nat.le_add_right _ _) rfl
  · cases ha

/-- An operator that has to stand there takes no names. -/
theorem forced {o : Op} {shown : String} :
    Meets ts μ (Left ts μ k l u v) (forced o shown) fun _ => Left ts μ k l u v := by
  refine bind peek fun t => ?_
  split
  · next hk =>
    refine bind (advance fun i r hi htok => ?_) fun _ => pure fun _ => id
    have hnext := hi.next htok
    simpa only [Token.mention?, hk, Option.toList_none, List.map_nil, List.sum_nil,
      List.length_nil, Nat.add_zero] using hnext
  · exact abortAt

/-! ### Spans -/

/-- The span from a token on ends where the input stands. -/
theorem spanFrom {start : Token} : Meets ts μ φ (spanFrom start) fun s i =>
    φ i ∧ s = ⟨start.row, start.col, i.endRow, i.endCol⟩ :=
  fun _ _ hi hs => ⟨⟨hi, rfl⟩, hs⟩

/-- A value that is made from its span, which starts at the first token. -/
theorem spannedAt {p : Parser (Span → α)}
    (hp : ∀ t, Meets ts μ (fun i => φ i ∧ i.tokens.head? = some t) p
      fun f i => ∀ s, startOf s = ⟨t.row, t.col⟩ → ψ (f s) i) :
    Meets ts μ φ (spanned p) ψ :=
  bind peek fun t => bind (hp t) fun _ => bind spanFrom fun s => pure fun _ hi =>
    hi.1 s (by rw [hi.2]; rfl)

/-- A value that is made from its span. -/
theorem spanned {p : Parser (Span → α)} (hp : Meets ts μ φ p fun f i => ∀ s, ψ (f s) i) :
    Meets ts μ φ (spanned p) ψ :=
  spannedAt fun _ => (hp.pre fun _ hi => hi.1).mono fun _ _ hi s _ => hi s

/-- A value that is made from its span and starts with a name. -/
theorem spannedName (ht : Tidy ts μ) {f : Token → Parser (Span → α)}
    (hf : ∀ n, Meets ts μ (Left ts μ k l (u + μ n.named) (v + 1)) (f n)
      fun g i => ∀ s, startOf s = n.named.1 → ψ (g s) i) :
    Meets ts μ (Left ts μ k l u v) (Parser.spanned (Parser.nameToken >>= f)) ψ := by
  refine spannedAt fun t => bind ((nameTokenOf ht (P := (· = t))).pre fun i hi => ⟨hi.1, ?_⟩)
    fun n => ?_
  · intro t' ht'
    rw [hi.2] at ht'
    exact (Option.some.inj ht').symm
  · intro i m hi hs
    obtain ⟨hi, rfl⟩ := hi
    exact hf n i m hi.left hs

/-! ### Lists -/

/-- Reading what may be missing, of which nothing is kept. -/
theorem optional {p : Parser β} (hp : Meets ts μ φ p fun _ => φ) :
    Meets ts μ φ (Parser.opt p) fun _ => φ :=
  opt hp fun _ => id

/-- Values in a list, of which `ψ` holds with every one more. -/
theorem many {p : Parser α} {ψ : List α → Input → Prop}
    (hp : ∀ as, Meets ts μ (ψ as) p fun a => ψ (as ++ [a])) : Meets ts μ (ψ []) (many p) ψ := by
  refine bind (grow (ψ := fun rs => ψ rs.reverse) (fun rs => ?_) []) fun rs => pure fun _ => id
  exact bind (hp rs.reverse) fun a => pure fun i hi => by rwa [List.reverse_cons]

/-- Values in a list that is not empty, of which `ψ` holds with every one more. -/
theorem many1 {p : Parser α} {ψ : List α → Input → Prop}
    (hfirst : Meets ts μ φ p fun a => ψ [a])
    (hp : ∀ as, Meets ts μ (ψ as) p fun a => ψ (as ++ [a])) : Meets ts μ φ (many1 p) ψ := by
  refine bind hfirst fun a => ?_
  refine bind (grow (ψ := fun rs => ψ rs.reverse) (fun rs => ?_) [a]) fun rs => pure fun _ => id
  exact bind (hp rs.reverse) fun a => pure fun i hi => by rwa [List.reverse_cons]

/-- Values with separators between them, of which `ψ` holds with every one more. -/
theorem sepBy1 {p : Parser α} {sep : Parser β} {ψ : List α → Input → Prop}
    (hfirst : Meets ts μ φ p fun a => ψ [a]) (hsep : ∀ as, Meets ts μ (ψ as) sep fun _ => ψ as)
    (hp : ∀ as, Meets ts μ (ψ as) p fun a => ψ (as ++ [a])) :
    Meets ts μ φ (sepBy1 p sep) ψ := by
  refine bind hfirst fun a => ?_
  refine bind (grow (ψ := fun rs => ψ rs.reverse) (fun rs => ?_) [a]) fun rs => pure fun _ => id
  refine bind (hsep rs.reverse) fun _ => ?_
  exact bind (hp rs.reverse) fun a => pure fun i hi => by rwa [List.reverse_cons]

end Meets

/-! ### Readers of values with names -/

/-- An operator is no name. -/
theorem skips_op {o : Op} : Skips ts μ (op o) := fun _ _ _ _ => Meets.op

/-- A reserved word is no name. -/
theorem skips_word {w : Word} : Skips ts μ (word w) := fun _ _ _ _ => Meets.word

namespace Reads

variable [Mentioning α] [Mentioning β]

/-- A choice between readers of names. -/
theorem orElse {p q : Parser α} (hp : Reads ts μ p) (hq : Reads ts μ q) : Reads ts μ (p <|> q) :=
  fun k l u v => (hp k l u v).orElse (hq k l u v)

/-- What stands before a value and is no part of it. -/
theorem after {γ : Type} {p : Parser γ} {q : Parser α} (hp : Skips ts μ p) (hq : Reads ts μ q) :
    Reads ts μ (p >>= fun _ => q) :=
  fun k l u v => Meets.bind (hp k l u v) fun _ => hq k l u v

/-- A reader that fails drops no names. -/
theorem failure : Reads ts μ (failure : Parser α) := fun _ _ _ _ => Meets.failure

/-- A fault rule drops no names, since it is not followed. -/
theorem faulty {p : Parser α} : Reads ts μ (faulty p) := fun _ _ _ _ => Meets.faulty

/-- Nothing is read. -/
theorem none : Reads ts μ (pure (none : Option α)) := fun _ _ _ _ => Meets.pure fun _ => id

/-- A value that may be missing. -/
theorem opt {p : Parser α} (hp : Reads ts μ p) : Reads ts μ (opt p) :=
  fun k l u v => Meets.opt (hp k l u v) fun _ => id

/-- A list of values holds the names of all of them. -/
theorem many {p : Parser α} (hp : Reads ts μ p) : Reads ts μ (many p) := by
  intro k l u v
  refine Meets.many (ψ := fun as => Left ts μ k l (u + seenIn μ as) (v + nameCount as)) fun as =>
    (hp k l _ _).mono fun a i hi => hi.mono ?_ ?_
  · simp [seenIn, Nat.add_assoc]
  · simp [nameCount]
    omega

/-- A list of one value or more holds the names of all of them. -/
theorem many1 {p : Parser α} (hp : Reads ts μ p) : Reads ts μ (many1 p) := by
  intro k l u v
  refine Meets.many1 ((hp k l u v).mono fun a i hi => hi.mono ?_ ?_) fun as =>
    (hp k l _ _).mono fun a i hi => hi.mono ?_ ?_
  · simp [seenIn]
  · simp [nameCount]
  · simp [seenIn, Nat.add_assoc]
  · simp [nameCount]
    omega

/-- A list with separators holds the names of all its values. -/
theorem sepBy1 {p : Parser α} (hp : Reads ts μ p) {o : Op} : Reads ts μ (sepBy1 p (op o)) := by
  intro k l u v
  refine Meets.sepBy1 ((hp k l u v).mono fun a i hi => hi.mono ?_ ?_) (fun as => Meets.op)
    fun as => (hp k l _ _).mono fun a i hi => hi.mono ?_ ?_
  · simp [seenIn]
  · simp [nameCount]
  · simp [seenIn, Nat.add_assoc]
  · simp [nameCount]
    omega

end Reads

/-! ### Memory -/

/-- What is found among entries is the result of one of them. -/
theorem mem_of_find? {r : Rule} {es : List Entry} {result : Option (r.Result × Input)}
    (h : Entry.find? r es = some result) : ⟨r, result⟩ ∈ es := by
  induction es with
  | nil => cases h
  | cons e es ih =>
    unfold Entry.find? at h
    split at h
    · next hr =>
      obtain ⟨rule, res⟩ := e
      subst hr
      obtain rfl : res = result := Option.some.inj h
      exact List.mem_cons_self
    · exact List.mem_cons_of_mem e (ih h)

/-- What is recalled is sound. -/
theorem sound_recall {m : Memory} (hs : m.Sound ts μ) {r : Rule} {n : Nat}
    {result : Option (r.Result × Input)} (h : m.recall r n = some result) :
    Entry.Sound ts μ n ⟨r, result⟩ := by
  unfold Memory.recall at h
  split at h
  · next es hes => exact hs n es hes _ (mem_of_find? h)
  · cases h

/-- Memory stays sound when a sound entry is recorded. -/
theorem sound_record {m : Memory} (hs : m.Sound ts μ) {n : Nat} {e : Entry}
    (he : Entry.Sound ts μ n e) : (m.record n e).Sound ts μ := by
  intro j es hes
  unfold Memory.record at hes
  rw [Array.getElem?_modify] at hes
  split at hes
  · next hn =>
    subst hn
    obtain ⟨es', hes', rfl⟩ := Option.map_eq_some_iff.mp hes
    intro e' he'
    rcases List.mem_cons.mp he' with rfl | he'
    · exact he
    · exact hs n es' hes' e' he'
  · exact hs j es hes

/-- The names left do not depend on where the input stands. -/
theorem left_congr {k l u v : Nat} {i j : Input} (h : Left ts μ k l u v i)
    (hij : i.tokens = j.tokens) : Left ts μ k l u v j :=
  ⟨hij ▸ h.rest, hij ▸ h.seen, hij ▸ h.all⟩

/-- **Remembering keeps a reader sound.** What is remembered serves later readings too, so it has to
be sound for every weight of names left, and not for the one at hand alone. -/
theorem Reads.remember (ht : Tidy ts μ) {r : Rule} {p : Parser r.Result} (hp : Reads ts μ p) :
    Reads ts μ (remember r p) := by
  intro k l u v i m hi hs
  obtain ⟨n, hn⟩ := hi.rest
  have hpeek := Meets.peek (φ := (· = i)) i m rfl hs
  unfold Parser.remember
  cases hpk : peek false i m with
  | fail m' =>
    rw [hpk] at hpeek
    exact hpeek
  | abort e m' => trivial
  | ok t j m' =>
    rw [hpk] at hpeek
    obtain ⟨⟨rfl, hhead⟩, hs'⟩ := hpeek
    have hindex : t.index = n := by
      refine ht.index n t ?_
      rw [← hhead, hn, List.head?_drop]
    simp only [hindex]
    cases hrec : m'.recall r n with
    | some result =>
      have hsound := sound_recall hs' hrec
      cases result with
      | none => exact hs'
      | some ai => exact ⟨hsound ai.1 ai.2 rfl j k l u v hn hi, hs'⟩
    | none =>
      have hout : ∀ k l u v, Left ts μ k l u v j → (p false j m').Meets ts μ fun a =>
          Left ts μ k l (u + seenIn μ a) (v + nameCount a) :=
        fun k l u v hi => hp k l u v j m' hi hs'
      cases hpi : p false j m' with
      | ok a i' m'' =>
        rw [hpi] at hout
        refine ⟨(hout k l u v hi).1, sound_record (hout k l u v hi).2 ?_⟩
        intro b i'' hb j' k l u v hj' hleft
        obtain ⟨rfl, rfl⟩ : a = b ∧ i' = i'' := by simpa using hb
        exact (hout k l u v (left_congr hleft (hj'.trans hn.symm))).1
      | fail m'' =>
        rw [hpi] at hout
        exact sound_record (hout k l u v hi) fun _ _ hb => nomatch hb
      | abort e m'' => trivial

end Parser

/-! ### Rules -/

/-- **Rules in order**: each reads what it gives. -/
def Rules.Read (ts : List Token) (μ : Weight) (self : Rules) : Prop :=
  ∀ r : Rule, Parser.Reads ts μ (self r)

end ApiPage.Syntax
