import ApiPage.Proofs.Grammar.Targets
import ApiPage.Syntax.Grammar.Pattern

/-!
# Names in patterns

A pattern holds the values in it with the places of their names. The names that it binds, those of
members and the wildcard it holds without a place; they are counted.

## Main results

* `Grammar.reads_patterns`: the patterns of a case hold the names among their tokens.
-/

namespace ApiPage.Syntax

open ApiPage.Syntax.Parser

variable {ts : List Token} {μ : Weight} {self : Rules} {k l u v : Nat}

namespace Grammar

attribute [local simp] seenIn nameCount Expr.mentions Pattern.mentions Pattern.unplaced
  Nat.add_assoc

/-! ### Literals -/

/-- A value that may have a sign. -/
theorem reads_signed {p : Parser Expr} (hp : Reads ts μ p) : Reads ts μ (signed p) := by
  refine Reads.orElse hp fun k l u v => Meets.spanned (Meets.bind Meets.op fun _ => ?_)
  exact Meets.bind (hp k l u v) fun e => Meets.pure fun i hi s => hi

/-- A real number holds no names. -/
theorem reads_realNumber : Reads ts μ realNumber := by
  intro k l u v
  refine Meets.bind (reads_number k l u v) fun e => ?_
  split
  · exact Meets.abortAt
  · exact Meets.pure fun _ => id

/-- An imaginary number holds no names. -/
theorem reads_imaginaryNumber : Reads ts μ imaginaryNumber := by
  intro k l u v
  refine Meets.bind (reads_number k l u v) fun e => ?_
  split
  · exact Meets.pure fun _ => id
  · exact Meets.abortAt

/-- A sum of a real and an imaginary number holds no names. -/
theorem reads_complexNumber : Reads ts μ complexNumber := by
  intro k l u v
  refine Meets.spanned (Meets.bind (reads_signed reads_realNumber k l u v) fun re => ?_)
  refine Meets.bind (Meets.acceptOther fun t a ha => ?_) fun o => ?_
  · cases hk : t.kind <;> simp_all [Token.mention?]
  refine Meets.bind (reads_imaginaryNumber k l _ _) fun im => Meets.pure fun i hi s => hi.mono ?_ ?_
  · simp
  · simp

/-- A literal as a pattern. -/
theorem reads_literalValue (h : self.Read ts μ) : Reads ts μ (literalValue self) := by
  refine Reads.orElse (fun k l u v => ?_) (Reads.orElse reads_complexNumber (h .strings))
  refine Meets.bind (reads_signed reads_number k l u v) fun e => ?_
  exact Meets.bind (Meets.notAhead (Meets.orElse Meets.op Meets.op)) fun _ => Meets.pure fun _ => id

/-- A constant that is a word is no name. -/
theorem skips_singleton : Skips ts μ singleton := by
  intro k l u v
  refine Meets.acceptOther fun t a ha => ?_
  cases hk : t.kind <;> simp_all [Token.mention?]

/-- A literal as a key of a mapping. -/
theorem reads_literalKey (h : self.Read ts μ) : Reads ts μ (literalKey self) :=
  Reads.orElse (reads_literalValue h) fun k l u v =>
    Meets.spanned (Meets.bind (skips_singleton k l u v) fun _ => Meets.pure fun _ hi _ => hi)

/-! ### Names -/

/-- A look at whether a dotted name goes on takes nothing. -/
theorem skips_nameGoesOn : Skips ts μ nameGoesOn := fun _ _ _ _ =>
  Meets.ahead (Meets.orElse Meets.op (Meets.orElse Meets.op Meets.op))

/-- A capture is a name whose place is not kept. -/
theorem meets_captureName (ht : Tidy ts μ) :
    Meets ts μ (Left ts μ k l u v) captureName fun _ => Left ts μ k l u (v + 1) := by
  refine Meets.bind (Meets.notAhead Meets.softWord) fun _ => Meets.bind (Meets.nameOnly ht) fun n => ?_
  exact Meets.bind (Meets.notAhead (skips_nameGoesOn k l _ _)) fun _ => Meets.pure fun _ => id

/-- A dotted name as a value, a mention for each of its names. -/
theorem reads_dottedValue (ht : Tidy ts μ) {least : Nat} : Reads ts μ (dottedValue least) := by
  intro k l u v
  refine Meets.bind Meets.look fun start => Meets.bind (reads_nameExpr ht k l u v) fun e => ?_
  refine Meets.bind (Meets.grow (ψ := fun en : Expr × Nat =>
    Left ts μ k l (u + seenIn μ en.1) (v + nameCount en.1)) (fun en => ?_) (e, 0)) fun en => ?_
  · exact Meets.bind (meets_memberOf ht) fun m => Meets.pure fun _ => id
  · dsimp only
    split
    · exact Meets.bind (Meets.failure (ψ := fun _ _ => False)) fun _ => Meets.pure fun _ hi => hi.elim
    · exact Meets.pure fun _ => id

/-! ### Patterns that end themselves -/

/-- Pairs hold the names of their first and of their second parts. -/
theorem weight_unzip {α β : Type} [Mentioning α] [Mentioning β] (ps : List (α × β)) :
    seenIn μ (ps.map (·.1)) + seenIn μ (ps.map (·.2)) = seenIn μ ps := by
  induction ps with
  | nil => rfl
  | cons p ps ih =>
    obtain ⟨a, b⟩ := p
    simp only [seenIn, List.map_cons, mentions_cons, mentions_pair, List.map_append,
      List.sum_append] at ih ⊢
    omega

/-- The parts of pairs, taken apart, are as many names as the pairs. -/
theorem length_unzip {α β : Type} [Mentioning α] [Mentioning β] (ps : List (α × β)) :
    nameCount (ps.map (·.1)) + nameCount (ps.map (·.2)) = nameCount ps := by
  induction ps with
  | nil => rfl
  | cons p ps ih =>
    obtain ⟨a, b⟩ := p
    simp only [nameCount, List.map_cons, mentions_cons, unplaced_cons, mentions_pair, unplaced_pair,
      List.length_append] at ih ⊢
    omega

section Items

variable {pattern : Parser Pattern} (hp : Reads ts μ pattern)

include hp

/-- An item of a sequence, starred or not. -/
theorem reads_starOrPattern (h : self.Read ts μ) : Reads ts μ (starOrPattern self pattern) :=
  Reads.orElse (h .starPattern) hp

/-- The items of a sequence. -/
theorem reads_sequenceItems (h : self.Read ts μ) : Reads ts μ (sequenceItems self pattern) :=
  reads_items (reads_starOrPattern hp h)

/-- A sequence with a comma behind its first element. -/
theorem reads_openSequence (h : self.Read ts μ) : Reads ts μ (openSequence self pattern) := by
  intro k l u v
  refine Meets.bind (reads_starOrPattern hp h k l u v) fun p => Meets.bind Meets.op fun _ => ?_
  refine Meets.bind (Reads.opt (reads_sequenceItems hp h) k l _ _) fun ps => ?_
  refine Meets.pure fun i hi => (left_getD hi).mono ?_ ?_
  · simp
  · simp
    omega

/-- A sequence in parentheses or brackets. -/
theorem reads_sequencePattern (h : self.Read ts μ) : Reads ts μ (sequencePattern self pattern) := by
  refine Reads.orElse (fun k l u v => Meets.bind Meets.op fun _ => ?_) fun k l u v =>
    Meets.bind Meets.op fun _ => ?_
  · refine Meets.bind (Reads.opt (reads_sequenceItems hp h) k l u v) fun ps => ?_
    exact Meets.bind Meets.op fun _ => Meets.pure fun i hi => (left_getD hi).mono (by simp) (by simp)
  · refine Meets.bind (Reads.opt (reads_openSequence hp h) k l u v) fun ps => ?_
    exact Meets.bind Meets.op fun _ => Meets.pure fun i hi => (left_getD hi).mono (by simp) (by simp)

/-- A key of a mapping with the pattern of its value. -/
theorem reads_keyPattern (ht : Tidy ts μ) (h : self.Read ts μ) :
    Reads ts μ (keyPattern self pattern) := by
  intro k l u v
  refine Meets.bind (Reads.orElse (reads_literalKey h) (reads_dottedValue ht) k l u v) fun key => ?_
  refine Meets.bind Meets.op fun _ => Meets.bind (hp k l _ _) fun p => Meets.pure fun i hi => ?_
  exact hi.mono (by simp) (by simp)

/-- A mapping, with the name of the rest if there is one. -/
theorem reads_mappingPattern (ht : Tidy ts μ) (h : self.Read ts μ) :
    Reads ts μ (mappingPattern self pattern) := by
  have hitems : Reads ts μ (sepBy1 (keyPattern self pattern) (op .comma)) :=
    Reads.sepBy1 (reads_keyPattern hp ht h)
  have hrest : ∀ k l u v, Meets ts μ (Left ts μ k l u v) restPattern fun _ =>
      Left ts μ k l u (v + 1) := fun k l u v =>
    Meets.bind Meets.op fun _ => meets_captureName ht
  have hmapping : ∀ (ps : List (Expr × Pattern)) (rest : Option Text),
      seenIn μ (Pattern.mapping (ps.map (·.1)) (ps.map (·.2)) rest) = seenIn μ ps ∧
        nameCount (Pattern.mapping (ps.map (·.1)) (ps.map (·.2)) rest) =
          nameCount ps + rest.toList.length := by
    intro ps rest
    have hseen := weight_unzip (μ := μ) ps
    have hcount := length_unzip ps
    simp only [seenIn, nameCount, mentions_pattern, unplaced_pattern, Pattern.mentions,
      Pattern.unplaced, mentionsIn_eq, patternMentions_eq, patternsUnplaced_eq, List.map_append,
      List.sum_append, List.length_append, unplaced_eq_zero] at hseen hcount ⊢
    omega
  refine Reads.orElse ?_ (Reads.orElse ?_ (Reads.orElse ?_ ?_)) <;> intro k l u v
  · exact Meets.bind Meets.op fun _ => Meets.bind Meets.op fun _ => Meets.pure fun _ => id
  · refine Meets.bind Meets.op fun _ => Meets.bind (hrest k l u v) fun r => ?_
    refine Meets.bind (skips_optComma k l _ _) fun _ => Meets.bind Meets.op fun _ => ?_
    exact Meets.pure fun i hi => hi.mono (by simp) (by simp)
  · refine Meets.bind Meets.op fun _ => Meets.bind (hitems k l u v) fun ps => ?_
    refine Meets.bind Meets.op fun _ => Meets.bind (hrest k l _ _) fun r => ?_
    refine Meets.bind (skips_optComma k l _ _) fun _ => Meets.bind Meets.op fun _ => ?_
    refine Meets.pure fun i hi => hi.mono ?_ ?_
    · rw [(hmapping ps (some r)).1]
    · rw [(hmapping ps (some r)).2]
      simp
  · refine Meets.bind Meets.op fun _ => Meets.bind (hitems k l u v) fun ps => ?_
    refine Meets.bind (skips_optComma k l _ _) fun _ => Meets.bind Meets.op fun _ => ?_
    refine Meets.pure fun i hi => hi.mono ?_ ?_
    · rw [(hmapping ps none).1]
    · rw [(hmapping ps none).2]
      simp

/-- A member of a class with its pattern. -/
theorem reads_keywordPattern (ht : Tidy ts μ) : Reads ts μ (keywordPattern pattern) := by
  intro k l u v
  refine Meets.bind (Meets.nameOnly ht) fun n => Meets.bind Meets.op fun _ => ?_
  refine Meets.bind (hp k l _ _) fun p => Meets.pure fun i hi => hi.mono ?_ ?_
  · simp
  · simp
    omega

/-- A class with the patterns of its members. -/
theorem reads_classPattern (ht : Tidy ts μ) : Reads ts μ (classPattern pattern) := by
  have hitems : Reads ts μ (sepBy1 pattern (op .comma)) := Reads.sepBy1 hp
  have hkeywords : Reads ts μ (sepBy1 (keywordPattern pattern) (op .comma)) :=
    Reads.sepBy1 (reads_keywordPattern hp ht)
  have hopened : Reads ts μ (do let e ← dottedValue 0; let _ ← op .lpar; return e) :=
    fun k l u v => Meets.bind (reads_dottedValue ht k l u v) fun e => Meets.bind Meets.op fun _ =>
      Meets.pure fun _ => id
  have hclosed : Skips ts μ (do optComma; let _ ← op .rpar) := fun k l u v =>
    Meets.bind (skips_optComma k l u v) fun _ => Meets.bind Meets.op fun _ => Meets.pure fun _ => id
  refine Reads.orElse ?_ (Reads.orElse ?_ (Reads.orElse ?_ (Reads.orElse ?_ Reads.faulty))) <;>
    intro k l u v <;> refine Meets.bind (hopened k l u v) fun e => ?_
  · exact Meets.bind Meets.op fun _ => Meets.pure fun i hi => hi.mono (by simp) (by simp)
  · refine Meets.bind (hitems k l _ _) fun ps => Meets.bind (hclosed k l _ _) fun _ => ?_
    exact Meets.pure fun i hi => hi.mono (by simp) (by simp)
  · refine Meets.bind (hkeywords k l _ _) fun ks => Meets.bind (hclosed k l _ _) fun _ => ?_
    exact Meets.pure fun i hi => hi.mono (by simp) (by simp)
  · refine Meets.bind (hitems k l _ _) fun ps => Meets.bind Meets.op fun _ => ?_
    refine Meets.bind (hkeywords k l _ _) fun ks => Meets.bind (hclosed k l _ _) fun _ => ?_
    refine Meets.pure fun i hi => hi.mono ?_ ?_
    · simp
    · simp
      omega

end Items

/-! ### Patterns that others join -/

/-- Patterns with bars between them. -/
theorem reads_orPattern (h : self.Read ts μ) : Reads ts μ (orPattern self) := by
  intro k l u v
  refine Meets.bind (Reads.sepBy1 (h .closedPattern) k l u v) fun ps => ?_
  split
  · exact Meets.pure fun i hi => hi.mono (by simp) (by simp)
  · exact Meets.pure fun i hi => hi.mono (by simp) (by simp)

/-- A pattern that may be bound to a name. -/
theorem reads_pattern (ht : Tidy ts μ) (h : self.Read ts μ) : Reads ts μ (pattern self) := by
  refine Reads.orElse (fun k l u v => ?_) (Reads.orElse Reads.faulty (reads_orPattern h))
  refine Meets.bind (reads_orPattern h k l u v) fun p => Meets.bind Meets.word fun _ => ?_
  exact Meets.bind (meets_captureName ht) fun n => Meets.pure fun i hi =>
    hi.mono (by simp) (by simp)

/-- **Closed patterns**: literals, captures, values, groups, sequences, mappings, classes. -/
theorem reads_closedPattern (ht : Tidy ts μ) (h : self.Read ts μ) :
    Reads ts μ (closedPattern self) := by
  have hpattern : Reads ts μ (pattern self) := reads_pattern ht h
  refine Reads.orElse ?_ (Reads.orElse ?_ (Reads.orElse ?_ (Reads.orElse ?_ (Reads.orElse ?_
    (Reads.orElse ?_ (Reads.orElse (reads_sequencePattern hpattern h)
      (Reads.orElse (reads_mappingPattern hpattern ht h) (reads_classPattern hpattern ht)))))))) <;>
    intro k l u v
  · exact Meets.bind (reads_literalValue h k l u v) fun e => Meets.pure fun _ => id
  · exact Meets.bind (skips_singleton k l u v) fun e => Meets.pure fun _ => id
  · exact Meets.bind (meets_captureName ht) fun n => Meets.pure fun _ => id
  · exact Meets.bind Meets.softWord fun n => Meets.pure fun _ => id
  · refine Meets.bind (reads_dottedValue ht k l u v) fun e => ?_
    exact Meets.bind (Meets.notAhead (skips_nameGoesOn k l _ _)) fun _ => Meets.pure fun _ => id
  · refine Meets.bind Meets.op fun _ => Meets.bind (hpattern k l u v) fun p => ?_
    exact Meets.bind Meets.op fun _ => Meets.pure fun _ => id

/-- A starred pattern holds its name without a place. -/
theorem reads_starPattern (ht : Tidy ts μ) : Reads ts μ starPattern := by
  refine Reads.after skips_op (Reads.orElse ?_ ?_) <;> intro k l u v
  · exact Meets.bind (meets_captureName ht) fun n => Meets.pure fun _ => id
  · exact Meets.bind Meets.softWord fun n => Meets.pure fun _ => id

/-- The pattern of a case, be it a sequence without brackets. -/
theorem reads_patterns (ht : Tidy ts μ) (h : self.Read ts μ) : Reads ts μ (patterns self) :=
  Reads.orElse (fun k l u v => Meets.bind (reads_openSequence (reads_pattern ht h) h k l u v)
    fun ps => Meets.pure fun i hi => hi.mono (by simp) (by simp)) (reads_pattern ht h)

end Grammar
end ApiPage.Syntax
