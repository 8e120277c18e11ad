import ApiPage.Proofs.Grammar.Reads

/-!
# Names in parameter lists

A parameter list holds the names that are read with it: those of its parameters and those in their
types and defaults.

## Main results

* `Grammar.reads_params`: a parameter list holds the names among its tokens.
-/

namespace ApiPage.Syntax

open ApiPage.Syntax.Parser

variable {ts : List Token} {μ : Weight} {self : Rules}

namespace Grammar

variable {style : ParamStyle}

attribute [local simp] seenIn nameCount Expr.mentions Params.mentions Nat.add_assoc

/-! ### Parameters -/

/-- What ends a parameter, a comma or the end of the list, holds no names. -/
theorem skips_paramEnd : Skips ts μ (paramEnd style) := fun _ _ _ _ =>
  Meets.orElse (Meets.bind Meets.op fun _ => Meets.pure fun _ => id) (Meets.ahead Meets.op)

/-- The default of a parameter. -/
theorem reads_paramDefault (h : self.Read ts μ) : Reads ts μ (paramDefault self style) :=
  (Reads.after skips_op (h .expression)).orElse Reads.faulty

/-- A parameter is read without a default. -/
theorem meets_paramTyped (ht : Tidy ts μ) {hint : Parser Expr} (hhint : Reads ts μ hint)
    {k l u v : Nat} : Meets ts μ (Left ts μ k l u v) (paramTyped style hint) fun p i =>
      Left ts μ k l (u + seenIn μ p) (v + nameCount p) i ∧ p.default? = none := by
  have hmk : ∀ (n : Token) (o : Option Expr) (i : Input),
      Left ts μ k l (u + μ n.named + seenIn μ o) (v + 1 + nameCount o) i → ∀ s : Span,
        startOf s = n.named.1 → Left ts μ k l (u + seenIn μ (Param.mk s n.nameText o none))
          (v + nameCount (Param.mk s n.nameText o none)) i := by
    intro n o i hi s hs
    refine hi.mono ?_ ?_
    · simp [hs, Token.named]
    · simp
      omega
  refine Meets.spannedName ht fun n => ?_
  dsimp only
  split
  · refine Meets.bind (Reads.opt (Reads.after skips_op hhint) k l _ _) fun o => ?_
    exact Meets.pure fun i hi s hs => ⟨hmk n o i hi s hs, rfl⟩
  · refine Meets.bind (Reads.none k l _ _) fun o => ?_
    exact Meets.pure fun i hi s hs => ⟨hmk n o i hi s hs, rfl⟩

/-- A parameter holds its name and its annotation, and has no default yet. -/
theorem meets_param (ht : Tidy ts μ) (h : self.Read ts μ) {k l u v : Nat} :
    Meets ts μ (Left ts μ k l u v) (param self style) fun p i =>
      Left ts μ k l (u + seenIn μ p) (v + nameCount p) i ∧ p.default? = none :=
  meets_paramTyped ht (h .expression)

/-- A parameter without a default. -/
theorem reads_param (ht : Tidy ts μ) (h : self.Read ts μ) : Reads ts μ (param self style) :=
  fun _ _ _ _ => (meets_param ht h).mono fun _ _ hi => hi.1

/-- A parameter gets a default, or none. -/
theorem left_withDefault {k l u v : Nat} {p : Param} (hp : p.default? = none) {d : Option Expr}
    {i : Input}
    (hi : Left ts μ k l (u + seenIn μ p + seenIn μ d) (v + nameCount p + nameCount d) i) :
    Left ts μ k l (u + seenIn μ (p.withDefault d)) (v + nameCount (p.withDefault d)) i := by
  obtain ⟨s, name, hint, d'⟩ := p
  obtain rfl : d' = none := hp
  refine hi.mono ?_ ?_
  · simp [Param.withDefault]
  · simp [Param.withDefault]
    omega

/-- A parameter that may have no default. -/
theorem reads_plainParam (ht : Tidy ts μ) (h : self.Read ts μ) :
    Reads ts μ (plainParam self style) := by
  intro k l u v
  refine Meets.bind (reads_param ht h k l u v) fun p => ?_
  exact Meets.bind (skips_paramEnd k l _ _) fun _ => Meets.pure fun _ => id

/-- A parameter that has a default. -/
theorem reads_defaultParam (ht : Tidy ts μ) (h : self.Read ts μ) :
    Reads ts μ (defaultParam self style) := by
  intro k l u v
  refine Meets.bind (meets_param ht h) fun p => Meets.given fun hp => ?_
  refine Meets.bind (reads_paramDefault h k l _ _) fun d => ?_
  exact Meets.bind (skips_paramEnd k l _ _) fun _ => Meets.pure fun i hi =>
    left_withDefault hp (d := some d) hi

/-- A parameter that may have a default. -/
theorem reads_eitherParam (ht : Tidy ts μ) (h : self.Read ts μ) :
    Reads ts μ (eitherParam self style) := by
  intro k l u v
  refine Meets.bind (meets_param ht h) fun p => Meets.given fun hp => ?_
  refine Meets.bind (Reads.opt (reads_paramDefault h) k l _ _) fun d => ?_
  exact Meets.bind (skips_paramEnd k l _ _) fun _ => Meets.pure fun i hi => left_withDefault hp hi

/-- The slash that ends positional parameters holds no names. -/
theorem skips_slashMark : Skips ts μ (slashMark style) := fun k l u v =>
  Meets.bind Meets.op fun _ => skips_paramEnd k l u v

/-- Parameters before a slash, all without defaults. -/
theorem reads_slashPlain (ht : Tidy ts μ) (h : self.Read ts μ) :
    Reads ts μ (slashPlain self style) := by
  intro k l u v
  refine Meets.bind (Reads.many1 (reads_plainParam ht h) k l u v) fun ps => ?_
  exact Meets.bind (skips_slashMark k l _ _) fun _ => Meets.pure fun _ => id

/-- Parameters before a slash, of which the last have defaults. -/
theorem reads_slashDefault (ht : Tidy ts μ) (h : self.Read ts μ) :
    Reads ts μ (slashDefault self style) := by
  intro k l u v
  refine Meets.bind (Reads.many (reads_plainParam ht h) k l u v) fun ps => ?_
  refine Meets.bind (Reads.many1 (reads_defaultParam ht h) k l _ _) fun ds => ?_
  refine Meets.bind (skips_slashMark k l _ _) fun _ => Meets.pure fun i hi => hi.mono ?_ ?_
  · simp
  · simp

/-- The parameter `**a` that takes all other keywords. -/
theorem reads_restKeywords (ht : Tidy ts μ) (h : self.Read ts μ) :
    Reads ts μ (restKeywords self style) :=
  Reads.orElse Reads.faulty (Reads.after skips_op (reads_plainParam ht h))

/-- The parameters from a star on. -/
theorem reads_starParams (ht : Tidy ts μ) (h : self.Read ts μ) :
    Reads ts μ (starParams self style) := by
  have hks : Reads ts μ (many (eitherParam self style)) := Reads.many (reads_eitherParam ht h)
  have hrest : Reads ts μ (opt (restKeywords self style)) := Reads.opt (reads_restKeywords ht h)
  refine Reads.orElse Reads.faulty (Reads.orElse ?_ (Reads.orElse ?_ (Reads.orElse ?_ ?_)))
  · refine Reads.after skips_op fun k l u v => ?_
    refine Meets.bind (reads_plainParam ht h k l u v) fun p => Meets.bind (hks k l _ _) fun ks => ?_
    exact Meets.bind (hrest k l _ _) fun r => Meets.pure fun i hi =>
      hi.mono (by simp) (by simp)
  · have htyped : Reads ts μ (do
        let _ ← op .star
        let p ← paramTyped style self.starExpression
        paramEnd style
        let ks ← many (eitherParam self style)
        return (some p, ks, ← opt (restKeywords self style))) := by
      refine Reads.after skips_op fun k l u v => ?_
      refine Meets.bind (meets_paramTyped ht (h .starExpression)) fun p => ?_
      refine Meets.bind ((skips_paramEnd k l _ _).pre fun _ hi => hi.1) fun _ => ?_
      refine Meets.bind (hks k l _ _) fun ks => ?_
      exact Meets.bind (hrest k l _ _) fun r => Meets.pure fun i hi =>
        hi.mono (by simp) (by simp)
    dsimp only
    split
    · exact Reads.after (fun _ _ _ _ => Meets.failure) htyped
    · exact htyped
  · refine Reads.after skips_op (Reads.after skips_op fun k l u v => ?_)
    refine Meets.bind (Reads.many1 (reads_eitherParam ht h) k l u v) fun ks => ?_
    exact Meets.bind (hrest k l _ _) fun r => Meets.pure fun i hi =>
      hi.mono (by simp) (by simp)
  · exact fun k l u v => Meets.bind (reads_restKeywords ht h k l u v) fun r =>
      Meets.pure fun i hi => hi.mono (by simp) (by simp)

/-- A list of parameters holds the names of its groups, in whatever order they come. -/
theorem left_paramsOf {k l u v : Nat} {i : Input} {ps qs : List Param}
    {star : Option (Option Param × List Param × Option Param)}
    (hi : Left ts μ k l (u + seenIn μ ps + seenIn μ qs + seenIn μ star)
      (v + nameCount ps + nameCount qs + nameCount star) i) :
    Left ts μ k l (u + seenIn μ (paramsOf ps qs star)) (v + nameCount (paramsOf ps qs star)) i := by
  cases star with
  | none => exact hi.mono (by simp [paramsOf]) (by simp [paramsOf])
  | some star =>
    obtain ⟨rest, keywordOnly, restKeywords⟩ := star
    exact hi.mono (by simp [paramsOf]) (by simp [paramsOf])

/-- **Parameters** hold their names, annotations and defaults. -/
theorem reads_params (ht : Tidy ts μ) (h : self.Read ts μ) : Reads ts μ (params self style) := by
  have hplain : Reads ts μ (many (plainParam self style)) := Reads.many (reads_plainParam ht h)
  have hdefault : Reads ts μ (many (defaultParam self style)) :=
    Reads.many (reads_defaultParam ht h)
  have hstar : Reads ts μ (opt (starParams self style)) := Reads.opt (reads_starParams ht h)
  refine Reads.orElse Reads.faulty (Reads.orElse ?_ (Reads.orElse ?_ (Reads.orElse ?_
    (Reads.orElse ?_ ?_)))) <;> intro k l u v
  · refine Meets.bind (reads_slashPlain ht h k l u v) fun ps => ?_
    refine Meets.bind (hplain k l _ _) fun qs => Meets.bind (hdefault k l _ _) fun ds => ?_
    exact Meets.bind (hstar k l _ _) fun star => Meets.pure fun i hi =>
      left_paramsOf (hi.mono (by simp) (by simp))
  · refine Meets.bind (reads_slashDefault ht h k l u v) fun ps => ?_
    refine Meets.bind (hdefault k l _ _) fun ds => ?_
    exact Meets.bind (hstar k l _ _) fun star => Meets.pure fun i hi => left_paramsOf hi
  · refine Meets.bind (Reads.many1 (reads_plainParam ht h) k l u v) fun ps => ?_
    refine Meets.bind (hdefault k l _ _) fun ds => ?_
    exact Meets.bind (hstar k l _ _) fun star => Meets.pure fun i hi =>
      left_paramsOf (hi.mono (by simp) (by simp))
  · refine Meets.bind (Reads.many1 (reads_defaultParam ht h) k l u v) fun ds => ?_
    exact Meets.bind (hstar k l _ _) fun star => Meets.pure fun i hi => left_paramsOf hi
  · refine Meets.bind (reads_starParams ht h k l u v) fun star => Meets.pure fun i hi => ?_
    exact left_paramsOf hi

/-- Parameters that may be missing. -/
theorem reads_optParams (ht : Tidy ts μ) (h : self.Read ts μ) :
    Reads ts μ (optParams self style) := by
  intro k l u v
  refine Meets.bind (Reads.opt (reads_params ht h) k l u v) fun ps => Meets.pure fun i hi => ?_
  cases ps with
  | none => exact hi
  | some ps => exact hi

end Grammar
end ApiPage.Syntax
