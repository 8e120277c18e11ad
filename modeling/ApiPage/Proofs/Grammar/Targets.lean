import ApiPage.Proofs.Grammar.Expressions
import ApiPage.Syntax.Grammar.Argument
import ApiPage.Syntax.Grammar.Target

/-!
# Names in arguments and targets

The arguments of a call are sorted into those by position and those by name; both together hold the
names that are read with them. So do targets.

## Main results

* `Grammar.reads_arguments`: the arguments of a call hold the names among their tokens.
* `Grammar.reads_starTarget`, `Grammar.reads_partTarget`: so do targets.
-/

namespace ApiPage.Syntax

open ApiPage.Syntax.Parser

variable {ts : List Token} {μ : Weight} {self : Rules} {k l u v : Nat}

namespace Grammar

attribute [local simp] seenIn nameCount Expr.mentions Nat.add_assoc

/-! ### Arguments -/

instance : Mentioning Argument where
  mentions
    | .positional e => mentions e
    | .keyword k => mentions k
  unplaced _ := 0

instance : Placed Argument := ⟨fun _ => rfl⟩

/-- A positional argument mentions what its value does. -/
@[simp] theorem mentions_positional (e : Expr) :
    mentions (Argument.positional e) = e.mentions := rfl

/-- A keyword argument mentions what it does among keywords. -/
@[simp] theorem mentions_keywordArgument (k : Keyword) :
    mentions (Argument.keyword k) = mentions k := rfl

/-- Arguments hold the names of those by position and of those by name. -/
theorem weight_arguments (as : List Argument) :
    seenIn μ (positionalOf as, keywordsOf as) = seenIn μ as := by
  induction as with
  | nil => rfl
  | cons a as ih =>
    cases a <;> simp_all [positionalOf, keywordsOf]
    omega

/-- Arguments parted by their kind are as many names as before. -/
theorem length_arguments (as : List Argument) :
    nameCount (positionalOf as, keywordsOf as) = nameCount as := by
  induction as with
  | nil => rfl
  | cons a as ih =>
    cases a <;> simp_all [positionalOf, keywordsOf]
    omega

/-- Positional arguments mention what their values do. -/
theorem mentions_map_positional (es : List Expr) :
    mentions (es.map Argument.positional) = mentions es := by
  induction es with
  | nil => rfl
  | cons e es ih => rw [List.map_cons, mentions_cons, ih]; rfl

/-- An argument with a name, `n=a`. -/
theorem reads_namedArgument (ht : Tidy ts μ) (h : self.Read ts μ) :
    Reads ts μ (namedArgument self) := by
  intro k l u v
  refine Meets.spannedName ht fun n => Meets.bind Meets.op fun _ => ?_
  refine Meets.bind (h .expression k l _ _) fun e => Meets.pure fun i hi s hs => hi.mono ?_ ?_
  · simp [hs, Token.named]
  · simp
    omega

/-- A starred argument `*a` among positional ones. -/
theorem reads_starredPositional (h : self.Read ts μ) :
    Reads ts μ (do return Argument.positional (← starredArgument self)) := fun k l u v =>
  Meets.bind (reads_starred (h .expression) k l u v) fun _ => Meets.pure fun _ => id

/-- An argument with a name, or a starred one. -/
theorem reads_keywordOrStarred (ht : Tidy ts μ) (h : self.Read ts μ) :
    Reads ts μ (keywordOrStarred self) :=
  Reads.orElse Reads.faulty (Reads.orElse (reads_namedArgument ht h) (reads_starredPositional h))

/-- An argument with a name, or a mapping `**a`. -/
theorem reads_keywordOrMapping (ht : Tidy ts μ) (h : self.Read ts μ) :
    Reads ts μ (keywordOrMapping self) := by
  refine Reads.orElse Reads.faulty (Reads.orElse (reads_namedArgument ht h) fun k l u v => ?_)
  refine Meets.spanned (Meets.bind Meets.op fun _ => Meets.bind (h .expression k l u v) fun e => ?_)
  exact Meets.pure fun i hi s => hi.mono (by simp) (by simp)

/-- The arguments from the first one with a name on. -/
theorem reads_keywordArguments (ht : Tidy ts μ) (h : self.Read ts μ) :
    Reads ts μ (keywordArguments self) := by
  have hstarred : Reads ts μ (sepBy1 (keywordOrStarred self) (op .comma)) :=
    Reads.sepBy1 (reads_keywordOrStarred ht h)
  have hmapping : Reads ts μ (sepBy1 (keywordOrMapping self) (op .comma)) :=
    Reads.sepBy1 (reads_keywordOrMapping ht h)
  refine Reads.orElse (fun k l u v => ?_) (Reads.orElse hstarred hmapping)
  refine Meets.bind (hstarred k l u v) fun as => Meets.bind Meets.op fun _ => ?_
  exact Meets.bind (hmapping k l _ _) fun bs => Meets.pure fun i hi => hi.mono (by simp) (by simp)

/-- An argument without a name: a value, a starred or a named expression. -/
theorem reads_positionalArgument (ht : Tidy ts μ) (h : self.Read ts μ) :
    Reads ts μ (positionalArgument self) := by
  refine Reads.orElse (reads_starred (h .expression)) fun k l u v => ?_
  refine Meets.bind (reads_assignmentOr ht h (reads_unnamed h) k l u v) fun e => ?_
  exact Meets.bind (Meets.notAhead Meets.op) fun _ => Meets.pure fun _ => id

/-- All arguments: those without names, and behind them the others. -/
theorem reads_args (ht : Tidy ts μ) (h : self.Read ts μ) : Reads ts μ (args self) := by
  have hkeywords : Reads ts μ (keywordArguments self) := reads_keywordArguments ht h
  refine Reads.orElse (fun k l u v => ?_) hkeywords
  refine Meets.bind (Reads.sepBy1 (reads_positionalArgument ht h) k l u v) fun es => ?_
  refine Meets.bind (Reads.opt (Reads.after skips_op hkeywords) k l _ _) fun ks => ?_
  refine Meets.pure fun i hi => (left_getD hi).mono ?_ ?_
  · simp [mentions_map_positional]
  · simp [mentions_map_positional]

/-- The arguments of a call, parted by kind. -/
theorem reads_arguments (ht : Tidy ts μ) (h : self.Read ts μ) : Reads ts μ (arguments self) := by
  refine Reads.orElse (fun k l u v => ?_) Reads.faulty
  refine Meets.bind (reads_args ht h k l u v) fun as => Meets.bind (skips_optComma k l _ _) fun _ => ?_
  refine Meets.bind (Meets.ahead Meets.op) fun _ => Meets.pure fun i hi => ?_
  rw [weight_arguments, length_arguments]
  exact hi

/-! ### Targets -/

/-- A look at whether a primary goes on takes nothing. -/
theorem skips_primaryGoesOn : Skips ts μ primaryGoesOn := fun _ _ _ _ =>
  Meets.ahead (Meets.orElse Meets.op (Meets.orElse Meets.op Meets.op))

/-- A step of a primary that goes on. -/
theorem meets_goingOn {p : Parser Expr} {φ : Input → Prop} {f g : Expr → Nat}
    (hp : Meets ts μ φ p fun e => Left ts μ k l (f e) (g e)) :
    Meets ts μ φ (do let e ← p; primaryGoesOn; return e) fun e => Left ts μ k l (f e) (g e) :=
  Meets.bind hp fun _ => Meets.bind (skips_primaryGoesOn k l _ _) fun _ => Meets.pure fun _ => id

/-- The primary that a target is a part of. -/
theorem reads_targetPrimary (ht : Tidy ts μ) (h : self.Read ts μ) :
    Reads ts μ (targetPrimary self) := by
  intro k l u v
  refine Meets.bind Meets.look fun start => ?_
  refine Meets.bind (meets_goingOn (reads_atom ht h k l u v)) fun e => ?_
  refine Meets.grow (ψ := fun e => Left ts μ k l (u + seenIn μ e) (v + nameCount e)) (fun e => ?_) e
  exact Meets.orElse (meets_goingOn (meets_memberOf ht))
    (Meets.orElse (meets_goingOn (meets_itemOf ht h))
      (Meets.orElse (meets_goingOn (meets_generatorCallOf ht h)) (meets_goingOn (meets_callOf h))))

/-- A target that is a member or a subscript of a primary. -/
theorem reads_partTarget (ht : Tidy ts μ) (h : self.Read ts μ) : Reads ts μ (partTarget self) := by
  refine Reads.orElse (fun k l u v => ?_) fun k l u v => ?_
  · refine Meets.bind Meets.look fun start => Meets.bind (h .targetPrimary k l u v) fun e => ?_
    refine Meets.bind (meets_memberOf ht) fun m => ?_
    exact Meets.bind (Meets.notAhead (skips_primaryGoesOn k l _ _)) fun _ => Meets.pure fun _ => id
  · refine Meets.bind Meets.look fun start => Meets.bind (h .targetPrimary k l u v) fun e => ?_
    refine Meets.bind (meets_itemOf ht h) fun m => ?_
    exact Meets.bind (Meets.notAhead (skips_primaryGoesOn k l _ _)) fun _ => Meets.pure fun _ => id

/-- Targets with commas. -/
theorem reads_targetTuple (h : self.Read ts μ) : Reads ts μ (targetTuple self) := by
  refine Reads.orElse (fun k l u v => ?_) fun k l u v => ?_
  · refine Meets.bind (h .starTarget k l u v) fun e => ?_
    refine Meets.bind (Reads.many1 (Reads.after skips_op (h .starTarget)) k l _ _) fun es => ?_
    exact Meets.bind (skips_optComma k l _ _) fun _ => Meets.pure fun i hi =>
      hi.mono (by simp) (by simp)
  · refine Meets.bind (h .starTarget k l u v) fun e => Meets.bind Meets.op fun _ => ?_
    exact Meets.pure fun i hi => hi.mono (by simp) (by simp)

/-- Targets in parentheses or brackets. -/
theorem reads_bracketTarget (ht : Tidy ts μ) (h : self.Read ts μ) :
    Reads ts μ (bracketTarget self) :=
  Reads.orElse (reads_nameExpr ht) (Reads.orElse (reads_enclosed (h .targetAtom))
    (Reads.orElse (reads_tupleIn (reads_targetTuple h)) (reads_listIn (reads_items (h .starTarget)))))

/-- A target that is a name, or targets in brackets. -/
theorem reads_targetAtom (ht : Tidy ts μ) (h : self.Read ts μ) : Reads ts μ (targetAtom self) :=
  Reads.orElse (reads_partTarget ht h) (reads_bracketTarget ht h)

/-- A target that may be starred. -/
theorem reads_starTarget (h : self.Read ts μ) : Reads ts μ (starTarget self) := by
  refine Reads.orElse (fun k l u v => Meets.spanned (Meets.bind Meets.op fun _ => ?_)) (h .targetAtom)
  refine Meets.bind (Meets.notAhead Meets.op) fun _ => Meets.bind (h .starTarget k l u v) fun e => ?_
  exact Meets.pure fun i hi s => hi

/-- The one target of an annotated assignment. -/
theorem reads_singleTarget (ht : Tidy ts μ) (h : self.Read ts μ) : Reads ts μ (singleTarget self) :=
  Reads.orElse (reads_partTarget ht h) (Reads.orElse (reads_nameExpr ht)
    (reads_enclosed (h .singleTarget)))

/-- A target of a `del`. -/
theorem reads_deleteTarget (ht : Tidy ts μ) (h : self.Read ts μ) : Reads ts μ (deleteTarget self) :=
  Reads.orElse (reads_partTarget ht h) (Reads.orElse (reads_nameExpr ht)
    (Reads.orElse (reads_enclosed (h .deleteTarget))
      (Reads.orElse (reads_tupleIn (reads_items (h .deleteTarget)))
        (reads_listIn (reads_items (h .deleteTarget))))))

end Grammar
end ApiPage.Syntax
