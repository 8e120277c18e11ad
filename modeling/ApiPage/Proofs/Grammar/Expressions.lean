import ApiPage.Proofs.Grammar.Parameters
import ApiPage.Syntax.Grammar.Expression

/-!
# Names in expressions

An expression holds the names that are read with it. A reader that makes an expression from its
parts is in order if they are, so there is one lemma for each rule.

## Main results

* `Grammar.reads_expression`, `Grammar.reads_primary`: expressions hold the names among their tokens.
* `Grammar.meets_memberOf`: a member stands where its name was read.
-/

namespace ApiPage.Syntax

open ApiPage.Syntax.Parser

variable {ts : List Token} {μ : Weight} {self : Rules} {k l u v : Nat}

namespace Grammar

attribute [local simp] seenIn nameCount Expr.mentions Nat.add_assoc

/-- A comma that may close a list holds no names. -/
theorem skips_optComma : Skips ts μ optComma := fun _ _ _ _ =>
  Meets.bind (Meets.optional Meets.op) fun _ => Meets.pure fun _ => id

/-! ### Operators -/

/-- Operands of an operator that groups to the left, as in `a - b - c`. -/
theorem reads_leftJoined {p : Parser Expr} (hp : Reads ts μ p) {ops : List (Op × BinaryOp)} :
    Reads ts μ (leftJoined p ops) := by
  intro k l u v
  refine Meets.bind Meets.look fun start => Meets.bind (hp k l u v) fun first => ?_
  refine Meets.grow (ψ := fun e => Left ts μ k l (u + seenIn μ e) (v + nameCount e))
    (fun left => ?_) first
  refine Meets.bind (Meets.acceptOther fun t a ha => ?_) fun o => ?_
  · cases hk : t.kind <;> simp_all [Token.mention?]
  refine Meets.bind (hp k l _ _) fun right => Meets.bind Meets.spanFrom fun s => ?_
  exact Meets.pure fun i hi => hi.1.mono (by simp) (by simp)

/-- Operands of `and` or `or`. -/
theorem reads_wordJoined {p : Parser Expr} (hp : Reads ts μ p) {w : Word} {o : BoolOp} :
    Reads ts μ (wordJoined p w o) := by
  intro k l u v
  refine Meets.spanned (Meets.bind (hp k l u v) fun first => ?_)
  refine Meets.bind (Reads.many (Reads.after skips_word hp) k l _ _) fun rest => ?_
  refine Meets.pure fun i hi s => ?_
  cases rest with
  | nil => exact hi
  | cons e es => exact hi.mono (by simp) (by simp)

/-- An operator of comparison, be it of words as in `not in`, holds no names. -/
theorem skips_compareOp : Skips ts μ compareOp := by
  intro k l u v
  refine Meets.orElse (Meets.acceptOther fun t a ha => ?_)
    (Meets.bind Meets.word fun _ => Meets.bind Meets.word fun _ => Meets.pure fun _ => id)
  cases hk : t.kind <;> simp_all [Token.mention?]

/-- One step of a comparison, as in `< b`. -/
theorem reads_comparePair (h : self.Read ts μ) : Reads ts μ (comparePair self) := by
  have hpair : ∀ o : CompareOp, Reads ts μ (do return (o, ← self.bitOr)) := fun o k l u v =>
    Meets.bind (h .bitOr k l u v) fun e => Meets.pure fun i hi => hi.mono (by simp) (by simp)
  refine Reads.orElse ?_ (Reads.orElse ?_ ?_)
  · exact fun k l u v => Meets.bind (skips_compareOp k l u v) fun o => hpair o k l u v
  · exact Reads.after skips_word (Reads.after skips_word (hpair _))
  · exact Reads.after skips_word (hpair _)

/-- A comparison, as in `a < b <= c`. -/
theorem reads_comparison (h : self.Read ts μ) : Reads ts μ (comparison self) := by
  intro k l u v
  refine Meets.spanned (Meets.bind (h .bitOr k l u v) fun left => ?_)
  refine Meets.bind (Reads.many (reads_comparePair h) k l _ _) fun rest => ?_
  refine Meets.pure fun i hi s => ?_
  cases rest with
  | nil => exact hi
  | cons e es => exact hi.mono (by simp) (by simp)

/-- A negation `not a`, or a comparison. -/
theorem reads_inversion (h : self.Read ts μ) : Reads ts μ (inversion self) := by
  refine Reads.orElse (fun k l u v => Meets.spanned ?_) (reads_comparison h)
  refine Meets.bind Meets.word fun _ => Meets.bind (h .inversion k l u v) fun e => ?_
  exact Meets.pure fun i hi s => hi

/-- An operand with a sign, or a power. -/
theorem reads_factor (h : self.Read ts μ) : Reads ts μ (factor self) := by
  refine Reads.orElse (fun k l u v => Meets.spanned ?_) fun k l u v => Meets.spanned ?_
  · refine Meets.bind (Meets.acceptOther fun t a ha => ?_) fun o => ?_
    · cases hk : t.kind <;> simp_all [Token.mention?]
    · exact Meets.bind (h .factor k l u v) fun e => Meets.pure fun i hi s => hi
  · refine Meets.bind (h .awaited k l u v) fun base => ?_
    refine Meets.bind (Reads.opt (Reads.after skips_op (h .factor)) k l _ _) fun exponent => ?_
    refine Meets.pure fun i hi s => ?_
    cases exponent with
    | none => exact hi
    | some e => exact hi.mono (by simp) (by simp)

/-- An operand that is awaited. -/
theorem reads_awaited (h : self.Read ts μ) : Reads ts μ (awaited self) := by
  refine Reads.orElse (fun k l u v => Meets.spanned ?_) (h .primary)
  refine Meets.bind Meets.word fun _ => Meets.bind (h .primary k l u v) fun e => ?_
  exact Meets.pure fun i hi s => hi

/-! ### Conditionals, yields and starred expressions -/

/-- A conditional expression `a if b else c`. -/
theorem reads_conditional (ht : Tidy ts μ) (h : self.Read ts μ) : Reads ts μ (conditional self) := by
  refine Reads.orElse (fun k l u v => Meets.spanned ?_)
    (Reads.orElse (h .disjunction) fun k l u v => Meets.spanned ?_)
  · refine Meets.bind (h .disjunction k l u v) fun body => Meets.bind Meets.word fun _ => ?_
    refine Meets.bind (h .disjunction k l _ _) fun test => Meets.bind Meets.word fun _ => ?_
    refine Meets.bind (h .expression k l _ _) fun orElse => Meets.pure fun i hi s => hi.mono ?_ ?_
    · simp
      omega
    · simp
      omega
  · refine Meets.bind Meets.word fun _ => Meets.bind (reads_optParams ht h k l u v) fun ps => ?_
    refine Meets.bind Meets.op fun _ => Meets.bind (h .expression k l _ _) fun e => ?_
    exact Meets.pure fun i hi s => hi.mono (by simp) (by simp)

/-- One value, or several with commas as a tuple without brackets. -/
theorem reads_tupleOf {p : Parser Expr} (hp : Reads ts μ p) : Reads ts μ (tupleOf p) := by
  intro k l u v
  refine Meets.spanned (Meets.bind (hp k l u v) fun first => ?_)
  refine Meets.bind (Reads.many (Reads.after skips_op hp) k l _ _) fun rest => ?_
  refine Meets.bind (Meets.optional Meets.op) fun trailing => Meets.pure fun i hi s => ?_
  cases rest with
  | nil => cases trailing <;> exact hi.mono (by simp) (by simp)
  | cons e es => exact hi.mono (by simp) (by simp)

/-- Expressions with commas, any of them starred. -/
theorem reads_starExpressions (h : self.Read ts μ) : Reads ts μ (starExpressions self) :=
  reads_tupleOf (h .starExpression)

/-- **Expressions**: a conditional, or a lambda with its parameters. -/
theorem reads_expression (ht : Tidy ts μ) (h : self.Read ts μ) : Reads ts μ (expression self) :=
  Reads.orElse Reads.faulty (reads_conditional ht h)

/-- A starred value `*a`. -/
theorem reads_starred {p : Parser Expr} (hp : Reads ts μ p) : Reads ts μ (starred p) := by
  intro k l u v
  refine Meets.spanned (Meets.bind Meets.op fun _ => Meets.bind (hp k l u v) fun e => ?_)
  exact Meets.pure fun i hi s => hi

/-- An expression that may be starred. -/
theorem reads_starExpression (h : self.Read ts μ) : Reads ts μ (starExpression self) :=
  Reads.orElse (reads_starred (h .bitOr)) (h .expression)

/-- What a `yield` gives, or what a `yield from` runs over. -/
theorem reads_yieldExpression (h : self.Read ts μ) : Reads ts μ (yieldExpression self) := by
  refine Reads.orElse (fun k l u v => Meets.spanned ?_) fun k l u v => Meets.spanned ?_
  · refine Meets.bind Meets.word fun _ => Meets.bind Meets.word fun _ => ?_
    exact Meets.bind (h .expression k l u v) fun e => Meets.pure fun i hi s => hi
  · refine Meets.bind Meets.word fun _ => ?_
    refine Meets.bind (Reads.opt (reads_starExpressions h) k l u v) fun e => ?_
    exact Meets.pure fun i hi s => hi.mono (by simp) (by simp)

/-- What may be assigned: a `yield`, or expressions with commas. -/
theorem reads_assigned (h : self.Read ts μ) : Reads ts μ (assigned self) :=
  Reads.orElse (reads_yieldExpression h) (reads_starExpressions h)

/-! ### Brackets -/

/-- Items that may be missing are as good as none. -/
theorem left_getD {α : Type} [Mentioning α] {o : Option (List α)} {i : Input}
    (hi : Left ts μ k l (u + seenIn μ o) (v + nameCount o) i) :
    Left ts μ k l (u + seenIn μ (o.getD [])) (v + nameCount (o.getD [])) i := by
  cases o <;> exact hi

/-- An expression in parentheses. -/
theorem reads_enclosed {p : Parser Expr} (hp : Reads ts μ p) :
    Reads ts μ (do let _ ← op .lpar; let e ← p; let _ ← op .rpar; return e) := fun k l u v =>
  Meets.bind Meets.op fun _ => Meets.bind (hp k l u v) fun _ => Meets.bind Meets.op fun _ =>
    Meets.pure fun _ => id

/-- Items with commas between, after which one more comma may stand. -/
theorem reads_items {α : Type} [Mentioning α] {p : Parser α} (hp : Reads ts μ p) :
    Reads ts μ (do let es ← sepBy1 p (op .comma); optComma; return es) := fun k l u v =>
  Meets.bind (Reads.sepBy1 hp k l u v) fun _ => Meets.bind (skips_optComma k l _ _) fun _ =>
    Meets.pure fun _ => id

/-- A tuple in parentheses. -/
theorem reads_tupleIn {p : Parser (List Expr)} (hp : Reads ts μ p) :
    Reads ts μ (spanned do
      let _ ← op .lpar
      let es ← opt p
      let _ ← op .rpar
      return fun s => Expr.tuple s (es.getD [])) := by
  intro k l u v
  refine Meets.spanned (Meets.bind Meets.op fun _ => Meets.bind (Reads.opt hp k l u v) fun es => ?_)
  refine Meets.bind Meets.op fun _ => Meets.pure fun i hi s => (left_getD hi).mono ?_ ?_
  · simp
  · simp

/-- A list in brackets. -/
theorem reads_listIn {p : Parser (List Expr)} (hp : Reads ts μ p) :
    Reads ts μ (spanned do
      let _ ← op .lsqb
      let es ← opt p
      let _ ← op .rsqb
      return fun s => Expr.list s (es.getD [])) := by
  intro k l u v
  refine Meets.spanned (Meets.bind Meets.op fun _ => Meets.bind (Reads.opt hp k l u v) fun es => ?_)
  refine Meets.bind Meets.op fun _ => Meets.pure fun i hi s => (left_getD hi).mono ?_ ?_
  · simp
  · simp

/-! ### Named expressions -/

/-- A name as an expression is a mention of it. -/
theorem reads_nameExpr (ht : Tidy ts μ) {usage : Usage} : Reads ts μ (nameExpr usage) := by
  intro k l u v
  refine Meets.spannedName ht fun n => Meets.pure fun i hi s hs => hi.mono ?_ ?_
  · simp [hs, Token.named]
  · simp

/-- An expression behind which no `:=` follows. -/
theorem reads_unnamed (h : self.Read ts μ) : Reads ts μ (unnamed self) := by
  intro k l u v
  refine Meets.bind (h .expression k l u v) fun e => ?_
  exact Meets.bind (Meets.notAhead Meets.op) fun _ => Meets.pure fun _ => id

/-- A named expression `n := a`, where it mentions the name, or another one. -/
theorem reads_assignmentOr (ht : Tidy ts μ) (h : self.Read ts μ) {q : Parser Expr}
    (hq : Reads ts μ q) : Reads ts μ (assignmentOr self q) := by
  intro k l u v
  refine Meets.bind Meets.look fun start => Meets.commit
    (Meets.bind (reads_nameExpr ht k l u v) fun n => Meets.bind Meets.op fun _ =>
      Meets.pure fun _ => id) (fun n => ?_) (hq k l u v)
  refine Meets.bind (h .expression k l _ _) fun e => Meets.bind Meets.spanFrom fun s => ?_
  exact Meets.pure fun i hi => hi.1.mono (by simp) (by simp)

/-- A named expression, or an expression. -/
theorem reads_namedExpression (ht : Tidy ts μ) (h : self.Read ts μ) :
    Reads ts μ (namedExpression self) :=
  Reads.orElse (reads_assignmentOr ht h Reads.failure) (Reads.orElse Reads.faulty (reads_unnamed h))

/-- An item of a display, starred or named or neither. -/
theorem reads_starNamed (ht : Tidy ts μ) (h : self.Read ts μ) : Reads ts μ (starNamed self) :=
  Reads.orElse (reads_starred (h .bitOr)) (reads_namedExpression ht h)

/-- The items of a display. -/
theorem reads_starNamedList (ht : Tidy ts μ) (h : self.Read ts μ) :
    Reads ts μ (starNamedList self) :=
  reads_items (reads_starNamed ht h)

/-! ### Comprehensions -/

/-- The targets of a loop. -/
theorem reads_starTargets (h : self.Read ts μ) : Reads ts μ (starTargets self) :=
  reads_tupleOf (h .starTarget)

/-- The head of a clause, `for` with its targets, asynchronous or not. -/
theorem reads_loopTarget (h : self.Read ts μ) : Reads ts μ (do
    let a ← opt (word .async)
    let _ ← word .for
    let target ← starTargets self
    let _ ← word .in
    return (a.isSome, target)) := by
  intro k l u v
  refine Meets.bind (Meets.optional Meets.word) fun a => Meets.bind Meets.word fun _ => ?_
  refine Meets.bind (reads_starTargets h k l u v) fun target => Meets.bind Meets.word fun _ => ?_
  exact Meets.pure fun i hi => hi.mono (by simp) (by simp)

/-- A clause of a comprehension with its conditions. -/
theorem reads_forClause (h : self.Read ts μ) : Reads ts μ (forClause self) := by
  intro k l u v
  refine Meets.commit (reads_loopTarget h k l u v) (fun target => ?_) Meets.faulty
  obtain ⟨isAsync, target⟩ := target
  refine Meets.bind (h .disjunction k l _ _) fun iter => ?_
  refine Meets.bind (Reads.many (Reads.after skips_word (h .disjunction)) k l _ _) fun tests => ?_
  exact Meets.pure fun i hi => hi.mono (by simp) (by simp)

/-- The clauses of a comprehension. -/
theorem reads_forClauses (h : self.Read ts μ) : Reads ts μ (forClauses self) :=
  Reads.many1 (reads_forClause h)

/-- A list comprehension. -/
theorem reads_listComp (ht : Tidy ts μ) (h : self.Read ts μ) : Reads ts μ (listComp self) := by
  refine Reads.orElse (fun k l u v => Meets.spanned ?_) Reads.faulty
  refine Meets.bind Meets.op fun _ => Meets.bind (reads_namedExpression ht h k l u v) fun e => ?_
  refine Meets.bind (reads_forClauses h k l _ _) fun cs => Meets.bind Meets.op fun _ => ?_
  exact Meets.pure fun i hi s => hi.mono (by simp) (by simp)

/-- A set comprehension. -/
theorem reads_setComp (ht : Tidy ts μ) (h : self.Read ts μ) : Reads ts μ (setComp self) := by
  refine Reads.orElse (fun k l u v => Meets.spanned ?_) Reads.faulty
  refine Meets.bind Meets.op fun _ => Meets.bind (reads_namedExpression ht h k l u v) fun e => ?_
  refine Meets.bind (reads_forClauses h k l _ _) fun cs => Meets.bind Meets.op fun _ => ?_
  exact Meets.pure fun i hi s => hi.mono (by simp) (by simp)

/-- A generator in parentheses. -/
theorem reads_generator (ht : Tidy ts μ) (h : self.Read ts μ) : Reads ts μ (generator self) := by
  have he : Reads ts μ (assignmentOr self (unnamed self)) :=
    reads_assignmentOr ht h (reads_unnamed h)
  refine Reads.orElse (fun k l u v => Meets.spanned ?_) Reads.faulty
  refine Meets.bind Meets.op fun _ => Meets.bind (he k l u v) fun e => ?_
  refine Meets.bind (reads_forClauses h k l _ _) fun cs => Meets.bind Meets.op fun _ => ?_
  exact Meets.pure fun i hi s => hi.mono (by simp) (by simp)

/-! ### Displays -/

/-- A list display. -/
theorem reads_list (ht : Tidy ts μ) (h : self.Read ts μ) : Reads ts μ (list self) :=
  reads_listIn (reads_starNamedList ht h)

/-- A tuple in parentheses, the empty one included. -/
theorem reads_tuple (ht : Tidy ts μ) (h : self.Read ts μ) : Reads ts μ (tuple self) := by
  refine reads_tupleIn fun k l u v => ?_
  refine Meets.bind (reads_starNamed ht h k l u v) fun e => Meets.bind Meets.op fun _ => ?_
  refine Meets.bind (Reads.opt (reads_starNamedList ht h) k l _ _) fun es => ?_
  exact Meets.pure fun i hi => (left_getD hi).mono (by simp) (by simp)

/-- An expression in parentheses. -/
theorem reads_group (ht : Tidy ts μ) (h : self.Read ts μ) : Reads ts μ (group self) :=
  Reads.orElse (reads_enclosed (Reads.orElse (reads_yieldExpression h) (reads_namedExpression ht h)))
    Reads.faulty

/-- A set display. -/
theorem reads_set (ht : Tidy ts μ) (h : self.Read ts μ) : Reads ts μ (set self) := by
  intro k l u v
  refine Meets.spanned (Meets.bind Meets.op fun _ => ?_)
  refine Meets.bind (reads_starNamedList ht h k l u v) fun es => Meets.bind Meets.op fun _ => ?_
  exact Meets.pure fun i hi s => hi.mono (by simp) (by simp)

/-- A key with its value. -/
theorem reads_keyValue (h : self.Read ts μ) : Reads ts μ (keyValue self) := by
  intro k l u v
  refine Meets.bind (h .expression k l u v) fun key => Meets.bind Meets.op fun _ => ?_
  refine Meets.bind (h .expression k l _ _) fun value => Meets.pure fun i hi => hi.mono ?_ ?_
  · simp
  · simp

/-- An item of a dictionary: a key with its value, or `**a`. -/
theorem reads_dictItem (h : self.Read ts μ) : Reads ts μ (dictItem self) := by
  refine Reads.orElse (Reads.after skips_op fun k l u v => ?_) fun k l u v => ?_
  · refine Meets.bind (h .bitOr k l u v) fun e => Meets.pure fun i hi => hi.mono ?_ ?_
    · simp
    · simp
  · exact Meets.bind (reads_keyValue h k l u v) fun kv => Meets.pure fun i hi => hi

/-- A dictionary display. -/
theorem reads_dict (h : self.Read ts μ) : Reads ts μ (dict self) := by
  refine Reads.orElse (fun k l u v => Meets.spanned (Meets.bind Meets.op fun _ => ?_)) Reads.faulty
  refine Meets.bind (Reads.opt (reads_items (reads_dictItem h)) k l u v) fun items => ?_
  refine Meets.bind Meets.op fun _ => Meets.pure fun i hi s => (left_getD hi).mono ?_ ?_
  · simp
  · simp

/-- A dictionary comprehension. -/
theorem reads_dictComp (h : self.Read ts μ) : Reads ts μ (dictComp self) := by
  refine Reads.orElse (fun k l u v => Meets.spanned (Meets.bind Meets.op fun _ => ?_)) Reads.faulty
  refine Meets.bind (reads_keyValue h k l u v) fun kv => ?_
  obtain ⟨key, value⟩ := kv
  refine Meets.bind (reads_forClauses h k l _ _) fun cs => Meets.bind Meets.op fun _ => ?_
  exact Meets.pure fun i hi s => hi.mono (by simp) (by simp)

/-! ### Atoms and primaries -/

/-- A number holds no names. -/
theorem reads_number : Reads ts μ number := by
  intro k l u v
  refine Meets.spanned (Meets.bind (Meets.acceptOther fun t a ha => ?_) fun t => ?_)
  · cases hk : t.kind <;> simp_all [Token.mention?]
  · dsimp only
    split
    · exact Meets.pure fun i hi s => hi
    · exact Meets.abortAt

/-- A constant that is a word, `None`, `True` or `False`, is no name. -/
theorem reads_wordConstant : Reads ts μ wordConstant := by
  intro k l u v
  refine Meets.spanned (Meets.bind (Meets.acceptOther fun t a ha => ?_) fun c => ?_)
  · cases hk : t.kind <;> simp_all [Token.mention?]
  · exact Meets.pure fun i hi s => hi

/-- **Atoms**: names, constants, displays and comprehensions. -/
theorem reads_atom (ht : Tidy ts μ) (h : self.Read ts μ) : Reads ts μ (atom self) := by
  intro k l u v
  refine Meets.bind Meets.look fun t => ?_
  split
  · exact reads_nameExpr ht k l u v
  · exact h .strings k l u v
  · exact reads_number k l u v
  · exact Reads.orElse (reads_tuple ht h)
      (Reads.orElse (reads_group ht h) (reads_generator ht h)) k l u v
  · exact Reads.orElse (reads_list ht h) (reads_listComp ht h) k l u v
  · exact Reads.orElse (reads_dict h) (Reads.orElse (reads_set ht h)
      (Reads.orElse (reads_dictComp h) (reads_setComp ht h))) k l u v
  · exact reads_wordConstant k l u v

/-- A slice `a:b:c`, any part of which may be missing, or an index. -/
theorem reads_slice (ht : Tidy ts μ) (h : self.Read ts μ) : Reads ts μ (slice self) := by
  have hopt : Reads ts μ (opt self.expression) := Reads.opt (h .expression)
  refine Reads.orElse (fun k l u v => Meets.spanned ?_) (reads_namedExpression ht h)
  refine Meets.bind (hopt k l u v) fun lower => Meets.bind Meets.op fun _ => ?_
  refine Meets.bind (hopt k l _ _) fun upper => ?_
  refine Meets.bind (Reads.opt (Reads.after skips_op hopt) k l _ _) fun step => ?_
  refine Meets.pure fun i hi s => ?_
  cases step with
  | none => exact hi.mono (by simp) (by simp)
  | some step => exact hi.mono (by simp) (by simp)

/-- What stands between the brackets of a subscript. -/
theorem reads_slices (ht : Tidy ts μ) (h : self.Read ts μ) : Reads ts μ (slices self) := by
  refine Reads.orElse (fun k l u v => ?_) fun k l u v => Meets.spanned ?_
  · refine Meets.bind (reads_slice ht h k l u v) fun e => ?_
    exact Meets.bind (Meets.notAhead Meets.op) fun _ => Meets.pure fun _ => id
  · refine Meets.bind (Reads.sepBy1 (Reads.orElse (reads_slice ht h) (reads_starred (h .expression)))
      k l u v) fun es => ?_
    refine Meets.bind (skips_optComma k l _ _) fun _ => Meets.pure fun i hi s => hi.mono ?_ ?_
    · simp
    · simp

/-- The arguments of a call, in their parentheses. -/
theorem reads_callArguments (h : self.Read ts μ) : Reads ts μ (callArguments self) := by
  intro k l u v
  refine Meets.bind Meets.op fun _ => Meets.bind (Reads.opt (h .arguments) k l u v) fun as => ?_
  refine Meets.bind Meets.op fun _ => Meets.pure fun i hi => ?_
  cases as <;> exact hi

/-- **A member** adds its name to those of the expression. -/
theorem meets_memberOf (ht : Tidy ts μ) {start : Token} {e : Expr} :
    Meets ts μ (Left ts μ k l (u + seenIn μ e) (v + nameCount e)) (memberOf start e) fun e' =>
      Left ts μ k l (u + seenIn μ e') (v + nameCount e') := by
  refine Meets.bind Meets.op fun _ => Meets.bind (Meets.nameToken ht) fun n => ?_
  refine Meets.bind Meets.spanFrom fun s => Meets.pure fun i hi => ?_
  obtain ⟨hi, rfl⟩ := hi
  have hplace : μ (memberPlace ⟨start.row, start.col, i.endRow, i.endCol⟩ n.nameText, n.nameText) =
      μ n.named := by
    rcases hi.place with h | ⟨hrow, hcol⟩
    · exact h _ _ _
    · rw [memberPlace, hrow, hcol, Token.named]
  refine hi.left.mono ?_ ?_
  · simp [hplace]
  · simp

/-- A subscript adds the names of its index to those of what it is taken of. -/
theorem meets_itemOf (ht : Tidy ts μ) (h : self.Read ts μ) {start : Token} {e : Expr} :
    Meets ts μ (Left ts μ k l (u + seenIn μ e) (v + nameCount e)) (itemOf self start e) fun e' =>
      Left ts μ k l (u + seenIn μ e') (v + nameCount e') := by
  refine Meets.bind Meets.op fun _ => Meets.bind (reads_slices ht h k l _ _) fun i => ?_
  refine Meets.bind Meets.op fun _ => Meets.bind Meets.spanFrom fun s => Meets.pure fun i hi => ?_
  exact hi.1.mono (by simp) (by simp)

/-- A call with one generator adds its names to those of what is called. -/
theorem meets_generatorCallOf (ht : Tidy ts μ) (h : self.Read ts μ) {start : Token} {e : Expr} :
    Meets ts μ (Left ts μ k l (u + seenIn μ e) (v + nameCount e)) (generatorCallOf self start e)
      fun e' => Left ts μ k l (u + seenIn μ e') (v + nameCount e') := by
  refine Meets.bind (reads_generator ht h k l _ _) fun g => ?_
  refine Meets.bind Meets.spanFrom fun s => Meets.pure fun i hi => hi.1.mono ?_ ?_
  · simp
  · simp

/-- A call adds the names of its arguments to those of what is called. -/
theorem meets_callOf (h : self.Read ts μ) {start : Token} {e : Expr} :
    Meets ts μ (Left ts μ k l (u + seenIn μ e) (v + nameCount e)) (callOf self start e) fun e' =>
      Left ts μ k l (u + seenIn μ e') (v + nameCount e') := by
  refine Meets.bind (reads_callArguments h k l _ _) fun as => ?_
  obtain ⟨as, ks⟩ := as
  refine Meets.bind Meets.spanFrom fun s => Meets.pure fun i hi => hi.1.mono ?_ ?_
  · simp
  · simp

/-- **Primaries**: an atom with the members, subscripts and calls behind it. -/
theorem reads_primary (ht : Tidy ts μ) (h : self.Read ts μ) : Reads ts μ (primary self) := by
  intro k l u v
  refine Meets.bind Meets.look fun start => Meets.bind (reads_atom ht h k l u v) fun e => ?_
  refine Meets.grow (ψ := fun e => Left ts μ k l (u + seenIn μ e) (v + nameCount e)) (fun e => ?_) e
  exact Meets.orElse (meets_memberOf ht) (Meets.orElse (meets_generatorCallOf ht h)
    (Meets.orElse (meets_callOf h) (meets_itemOf ht h)))

end Grammar
end ApiPage.Syntax
