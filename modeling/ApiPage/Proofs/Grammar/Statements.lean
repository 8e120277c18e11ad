import ApiPage.Proofs.Grammar.Literals
import ApiPage.Proofs.Grammar.Patterns

/-!
# Names in statements

The places of names of an import are not kept, nor are those of a handler or a global statement;
all other names of a statement it holds with their places. With the statements all rules of the
grammar are known to hold what they read.

## Main results

* `Grammar.read_rules`: every rule of the grammar holds the names among its tokens.
* `Grammar.reads_moduleBody`: so does a module.
-/

namespace ApiPage.Syntax

open ApiPage.Syntax.Parser

variable {ts : List Token} {μ : Weight} {self : Rules} {k l u v : Nat}

namespace Grammar

attribute [local simp] seenIn nameCount Expr.mentions Stmt.mentions Stmt.unplaced Nat.add_assoc

/-! ### Assignments -/

/-- An operator such as `+=` holds no names. -/
theorem skips_augmentOp : Skips ts μ augmentOp := by
  intro k l u v
  refine Meets.acceptOther fun t a ha => ?_
  cases hk : t.kind <;> simp_all [Token.mention?]

/-- An annotation with the value behind it, if there is one. -/
theorem reads_hintAndValue (h : self.Read ts μ) : Reads ts μ (hintAndValue self) := by
  intro k l u v
  refine Meets.bind Meets.op fun _ => Meets.bind (h .expression k l u v) fun hint => ?_
  refine Meets.bind (Reads.opt (Reads.after skips_op (reads_assigned h)) k l _ _) fun value => ?_
  exact Meets.pure fun i hi => hi.mono (by simp) (by simp)

/-- Targets before an equals sign. -/
theorem reads_equalTarget (h : self.Read ts μ) : Reads ts μ (equalTarget self) := fun k l u v =>
  Meets.bind (reads_starTargets h k l u v) fun _ => Meets.bind Meets.op fun _ =>
    Meets.pure fun _ => id

/-- **Assignments**: annotated, with targets, or with an operator. -/
theorem reads_assignment (ht : Tidy ts μ) (h : self.Read ts μ) : Reads ts μ (assignment self) := by
  refine Reads.orElse ?_ (Reads.orElse ?_ (Reads.orElse ?_ ?_)) <;> intro k l u v
  · refine Meets.spanned (Meets.bind (reads_nameExpr ht k l u v) fun n => ?_)
    refine Meets.bind (reads_hintAndValue h k l _ _) fun hv => ?_
    obtain ⟨hint, value⟩ := hv
    exact Meets.pure fun i hi s => hi.mono (by simp) (by simp)
  · refine Meets.spanned (Meets.bind (Reads.orElse (reads_enclosed (h .singleTarget))
      (reads_partTarget ht h) k l u v) fun t => ?_)
    refine Meets.bind (reads_hintAndValue h k l _ _) fun hv => ?_
    obtain ⟨hint, value⟩ := hv
    exact Meets.pure fun i hi s => hi.mono (by simp) (by simp)
  · refine Meets.spanned (Meets.bind (Reads.many1 (reads_equalTarget h) k l u v) fun targets => ?_)
    refine Meets.bind (reads_assigned h k l _ _) fun value => ?_
    exact Meets.bind (Meets.notAhead Meets.op) fun _ => Meets.pure fun i hi s =>
      hi.mono (by simp) (by simp)
  · refine Meets.bind Meets.look fun start => Meets.commit (χ := fun r =>
      Left ts μ k l (u + seenIn μ r.1) (v + nameCount r.1)) ?_ (fun r => ?_) Meets.faulty
    · exact Meets.bind (h .singleTarget k l u v) fun t =>
        Meets.bind (skips_augmentOp k l _ _) fun o => Meets.pure fun _ => id
    · obtain ⟨t, o⟩ := r
      refine Meets.bind (reads_assigned h k l _ _) fun value => ?_
      refine Meets.bind Meets.spanFrom fun s => ?_
      exact Meets.pure fun i hi => hi.1.mono (by simp) (by simp)

/-! ### Imports -/

/-- Names without points that points join are as many as they were. -/
theorem dottedSize_join {ns : List Text} (hne : ns ≠ []) (hns : ∀ n ∈ ns, '.' ∉ n) :
    dottedSize (Text.join ['.'] ns) = ns.length := by
  induction ns with
  | nil => exact absurd rfl hne
  | cons n ns ih =>
    have hn : List.count '.' n = 0 := List.count_eq_zero.mpr (hns n List.mem_cons_self)
    cases ns with
    | nil => simp [Text.join, dottedSize, hn]
    | cons m ms =>
      have hrest := ih (by simp) fun n hn => hns n (List.mem_cons_of_mem _ hn)
      simp only [dottedSize, Text.join, List.count_append, hn, List.length_cons] at hrest ⊢
      simp
      omega

/-- A path of names is no star. -/
theorem join_ne_star {ns : List Text} (hns : ∀ n ∈ ns, '*' ∉ n) : Text.join ['.'] ns ≠ ['*'] := by
  have hmem : '*' ∉ Text.join ['.'] ns := by
    induction ns with
    | nil => simp [Text.join]
    | cons n ns ih =>
      have hn := hns n List.mem_cons_self
      have hrest := ih fun n hn => hns n (List.mem_cons_of_mem _ hn)
      cases ns with
      | nil => exact hn
      | cons m ms => simp [Text.join, hn, hrest]
  exact fun h => hmem (by simp [h])

/-- A name without points is not missing in a path that begins with it. -/
theorem absentIn_eq_nil {n : Text} (hne : n ≠ []) (hn : '.' ∉ n) : absentIn n = [] := by
  obtain ⟨c, r, rfl⟩ := List.exists_cons_of_ne_nil hne
  have hc : c ≠ '.' := fun h => hn (h ▸ List.mem_cons_self)
  simp [absentIn, hc]

/-- No name is missing at the start of a path of names. -/
theorem absentIn_join {ns : List Text} (hne : ns ≠ []) (hns : ∀ n ∈ ns, n ≠ [] ∧ '.' ∉ n) :
    absentIn (Text.join ['.'] ns) = [] := by
  cases ns with
  | nil => exact absurd rfl hne
  | cons n ns =>
    obtain ⟨hn, hpoint⟩ := hns n List.mem_cons_self
    cases ns with
    | nil => exact absentIn_eq_nil hn hpoint
    | cons m ms =>
      obtain ⟨c, r, rfl⟩ := List.exists_cons_of_ne_nil hn
      have hc : c ≠ '.' := fun h => hpoint (h ▸ List.mem_cons_self)
      simp [absentIn, Text.join, hc]

/-- **Names joined by points** are counted, and none is missing. -/
def MeetsPath (ts : List Token) (μ : Weight) (p : Parser Text) : Prop :=
  ∀ k l u v, Meets ts μ (Left ts μ k l u v) p fun n i =>
    Left ts μ k l u (v + dottedSize n) i ∧ n ≠ ['*'] ∧ absentIn n = []

/-- One name is a path. -/
theorem meetsPath_nameText (ht : Tidy ts μ) :
    MeetsPath ts μ (do return (← nameToken).nameText) := by
  intro k l u v
  refine Meets.bind (Meets.nameToken ht) fun n => Meets.pure fun i hi =>
    ⟨?_, ?_, absentIn_eq_nil hi.notEmpty hi.noPoint⟩
  · have hsize : dottedSize n.nameText = 1 := by
      rw [dottedSize, List.count_eq_zero.mpr hi.noPoint]
    rw [hsize]
    exact hi.left.mono (Nat.le_add_right _ _) rfl
  · exact fun h => hi.noStar (by simp [h])

/-- Names with points between them are a path. -/
theorem meetsPath_dottedName (ht : Tidy ts μ) : MeetsPath ts μ dottedName := by
  intro k l u v
  refine Meets.bind (Meets.sepBy1 (ψ := fun ns i => Left ts μ k l u (v + ns.length) i ∧
    ns ≠ [] ∧ ∀ n ∈ ns, n.nameText ≠ [] ∧ '.' ∉ n.nameText ∧ '*' ∉ n.nameText) ?_ (fun ns => ?_)
    fun ns => ?_)
    fun ns => Meets.pure fun i hi => ?_
  · refine (Meets.nameToken ht).mono fun n i hi => ⟨?_, by simp, ?_⟩
    · exact hi.left.mono (Nat.le_add_right _ _) rfl
    · simpa using ⟨hi.notEmpty, hi.noPoint, hi.noStar⟩
  · exact Meets.frame Meets.op
  · refine Meets.given fun hns => (Meets.nameToken ht).mono fun n i hi => ⟨?_, by simp, ?_⟩
    · exact hi.left.mono (Nat.le_add_right _ _) (by simp [Nat.add_assoc])
    · intro n' hn'
      rcases List.mem_append.mp hn' with hn' | hn'
      · exact hns.2 n' hn'
      · obtain rfl := List.mem_singleton.mp hn'
        exact ⟨hi.notEmpty, hi.noPoint, hi.noStar⟩
  · obtain ⟨hi, hne, hns⟩ := hi
    have hne' : ns.map Token.nameText ≠ [] := by simpa using hne
    have hns' : ∀ n ∈ ns.map Token.nameText, n ≠ [] ∧ '.' ∉ n ∧ '*' ∉ n := by
      intro n hn
      obtain ⟨t, ht, rfl⟩ := List.mem_map.mp hn
      exact hns t ht
    refine ⟨?_, join_ne_star fun n hn => (hns' n hn).2.2,
      absentIn_join hne' fun n hn => ⟨(hns' n hn).1, (hns' n hn).2.1⟩⟩
    rw [dottedSize_join hne' fun n hn => (hns' n hn).2.1, List.length_map]
    exact hi

/-- What is imported, with the name it is bound to: as many names as its path has. -/
theorem reads_aliasOf (ht : Tidy ts μ) {p : Parser Text} (hp : MeetsPath ts μ p) :
    Reads ts μ (aliasOf p) := by
  intro k l u v
  refine Meets.bind (hp k l u v) fun n => Meets.given fun hn => ?_
  refine Meets.bind (Meets.opt (ψ := fun a => Left ts μ k l u (v + dottedSize n + a.toList.length))
    (Meets.bind Meets.word fun _ => Meets.nameOnly ht) fun _ => id) fun a => ?_
  refine Meets.pure fun i hi => hi.mono ?_ ?_
  · simp [hn.2]
  · cases a <;> simp [Alias.size, hn.1, hn.2]

/-- The names that are imported from a module. -/
theorem reads_importedNames (ht : Tidy ts μ) : Reads ts μ importedNames := by
  have hnames : Reads ts μ (sepBy1 (aliasOf (do return (← nameToken).nameText)) (op .comma)) :=
    Reads.sepBy1 (reads_aliasOf ht (meetsPath_nameText ht))
  refine Reads.orElse ?_ (Reads.orElse ?_ (Reads.orElse ?_ Reads.faulty)) <;> intro k l u v
  · refine Meets.bind Meets.op fun _ => Meets.bind (hnames k l u v) fun ns => ?_
    exact Meets.bind (skips_optComma k l _ _) fun _ => Meets.bind Meets.op fun _ =>
      Meets.pure fun _ => id
  · refine Meets.bind (hnames k l u v) fun ns => ?_
    exact Meets.bind (Meets.notAhead Meets.op) fun _ => Meets.pure fun _ => id
  · exact Meets.bind Meets.op fun _ => Meets.pure fun i hi => hi

/-- The points of an import are one level at least. -/
theorem meets_importLevel :
    Meets ts μ (Left ts μ k l u v) importLevel fun n i => Left ts μ k l u v i ∧ n ≠ 0 :=
  Meets.orElse (Meets.bind Meets.op fun _ => Meets.pure fun _ hi => ⟨hi, by decide⟩)
    (Meets.bind Meets.op fun _ => Meets.pure fun _ hi => ⟨hi, by decide⟩)

/-- The points before a module hold no names. -/
theorem skips_importLevel : Skips ts μ importLevel := fun _ _ _ _ =>
  meets_importLevel.mono fun _ _ hi => hi.1

/-- There is a point or more before a module without a name. -/
theorem meets_importLevels :
    Meets ts μ (Left ts μ k l u v) (many1 importLevel) fun levels i =>
      Left ts μ k l u v i ∧ levels.foldr (· + ·) 0 ≠ 0 := by
  refine (Meets.many1 (ψ := fun levels i => Left ts μ k l u v i ∧ levels.sum ≠ 0)
    (meets_importLevel.mono fun n i hi => ?_) fun levels => ?_).mono fun levels i hi => ?_
  · simpa using hi
  · refine Meets.given fun hsum => (skips_importLevel k l u v).mono fun n i hi => ⟨hi, ?_⟩
    rw [List.sum_append]
    omega
  · rwa [List.sum_eq_foldr] at hi

/-- Imports hold the names of their paths, none of which has a place. -/
theorem reads_importStatement (ht : Tidy ts μ) : Reads ts μ importStatement := by
  refine Reads.orElse ?_ (Reads.orElse ?_ ?_) <;> intro k l u v
  · refine Meets.spanned (Meets.bind Meets.word fun _ => ?_)
    refine Meets.bind (Reads.sepBy1 (reads_aliasOf ht (meetsPath_dottedName ht)) k l u v) fun ns =>
      ?_
    exact Meets.pure fun i hi s => hi.mono (by simp) (by simp)
  · refine Meets.spanned (Meets.bind Meets.word fun _ => ?_)
    refine Meets.bind (Meets.many (ψ := fun _ => Left ts μ k l u v) fun _ =>
      skips_importLevel k l u v) fun levels => ?_
    refine Meets.bind (meetsPath_dottedName ht k l u v) fun path => Meets.given fun hpath => ?_
    refine Meets.bind Meets.word fun _ => ?_
    refine Meets.bind (reads_importedNames ht k l _ _) fun ns => ?_
    refine Meets.pure fun i hi s => hi.mono ?_ ?_
    · simp [hpath.2]
    · simp [hpath.2]
      omega
  · refine Meets.spanned (Meets.bind Meets.word fun _ => ?_)
    refine Meets.bind meets_importLevels fun levels => Meets.given fun hlevels => ?_
    refine Meets.bind Meets.word fun _ => Meets.bind (reads_importedNames ht k l u v) fun ns => ?_
    exact Meets.pure fun i hi s => hi.mono (by simp [hlevels]) (by simp [hlevels])

/-! ### Simple statements -/

/-- What a `raise` raises, and from what. -/
theorem reads_raiseStatement (h : self.Read ts μ) : Reads ts μ (raiseStatement self) := by
  refine Reads.orElse ?_ ?_ <;> intro k l u v
  · refine Meets.spanned (Meets.bind Meets.word fun _ => ?_)
    refine Meets.bind (h .expression k l u v) fun e => ?_
    refine Meets.bind (Reads.opt (Reads.after skips_word (h .expression)) k l _ _) fun c => ?_
    exact Meets.pure fun i hi s => hi.mono (by simp) (by simp)
  · exact Meets.spanned (Meets.bind Meets.word fun _ => Meets.pure fun i hi s => hi)

/-- The targets of a `del`. -/
theorem reads_deleteStatement (h : self.Read ts μ) : Reads ts μ (deleteStatement self) := by
  refine Reads.orElse (fun k l u v => ?_) Reads.faulty
  refine Meets.spanned (Meets.bind Meets.word fun _ => ?_)
  refine Meets.bind (Reads.sepBy1 (h .deleteTarget) k l u v) fun es => ?_
  refine Meets.bind (skips_optComma k l _ _) fun _ => ?_
  refine Meets.bind (Meets.ahead (Meets.orElse Meets.op (Meets.kind fun _ hk => nomatch hk)))
    fun _ => ?_
  exact Meets.pure fun i hi s => hi.mono (by simp) (by simp)

/-- A statement of one word holds no names. -/
theorem reads_wordStatement {w : Word} {f : Span → Stmt} (hf : ∀ s, nameCount (f s) = 0) :
    Reads ts μ (wordStatement w f) := by
  intro k l u v
  refine Meets.spanned (Meets.bind Meets.word fun _ => Meets.pure fun i hi s => hi.mono ?_ ?_)
  · have hnil : mentions (f s) = [] := List.length_eq_zero_iff.mp (Nat.add_eq_zero_iff.mp (hf s)).1
    simp [hnil]
  · rw [hf s, Nat.add_zero]

/-- A statement that lists names holds them without places. -/
theorem reads_namesStatement (ht : Tidy ts μ) {w : Word} {f : Span → List Text → Stmt}
    (hseen : ∀ s ns, seenIn μ (f s ns) = 0) (hcount : ∀ s ns, nameCount (f s ns) = ns.length) :
    Reads ts μ (namesStatement w f) := by
  intro k l u v
  refine Meets.spanned (Meets.bind Meets.word fun _ => ?_)
  refine Meets.bind (Meets.sepBy1 (ψ := fun ns => Left ts μ k l u (v + ns.length))
    (Meets.nameOnly ht) (fun _ => Meets.op) fun ns => ?_) fun ns => ?_
  · exact (Meets.nameOnly ht).mono fun n i hi => hi.mono (Nat.le_refl _) (by simp [Nat.add_assoc])
  · refine Meets.pure fun i hi s => ?_
    rw [hseen, hcount, List.length_map]
    exact hi

/-- **Simple statements**: assignments, imports, returns and what else has no block. -/
theorem reads_simpleStatement (ht : Tidy ts μ) (h : self.Read ts μ) :
    Reads ts μ (simpleStatement self) := by
  refine Reads.orElse (reads_assignment ht h) (Reads.orElse ?_ (Reads.orElse ?_
    (Reads.orElse (reads_importStatement ht) (Reads.orElse (reads_raiseStatement h)
    (Reads.orElse (reads_wordStatement fun _ => rfl) (Reads.orElse (reads_deleteStatement h)
    (Reads.orElse ?_ (Reads.orElse ?_ (Reads.orElse (reads_wordStatement fun _ => rfl)
    (Reads.orElse (reads_wordStatement fun _ => rfl) (Reads.orElse
    (reads_namesStatement ht (fun _ _ => rfl) fun _ _ => by simp)
    (reads_namesStatement ht (fun _ _ => rfl) fun _ _ => by simp)))))))))))) <;>
    intro k l u v <;> refine Meets.spanned ?_
  · exact Meets.bind (reads_starExpressions h k l u v) fun e => Meets.pure fun i hi s => hi
  · refine Meets.bind Meets.word fun _ => ?_
    refine Meets.bind (Reads.opt (reads_starExpressions h) k l u v) fun e => ?_
    exact Meets.pure fun i hi s => hi.mono (by simp) (by simp)
  · exact Meets.bind (reads_yieldExpression h k l u v) fun e => Meets.pure fun i hi s => hi
  · refine Meets.bind Meets.word fun _ => Meets.bind (h .expression k l u v) fun e => ?_
    refine Meets.bind (Reads.opt (Reads.after skips_op (h .expression)) k l _ _) fun m => ?_
    exact Meets.pure fun i hi s => hi.mono (by simp) (by simp)

/-- The simple statements of a line. -/
theorem reads_simpleStatements (h : self.Read ts μ) : Reads ts μ (simpleStatements self) := by
  refine Reads.orElse ?_ ?_ <;> intro k l u v
  · refine Meets.bind (h .simpleStatement k l u v) fun s => ?_
    refine Meets.bind (Meets.notAhead Meets.op) fun _ => ?_
    refine Meets.bind (Meets.kind fun _ hk => nomatch hk) fun _ => ?_
    refine Meets.pure fun i hi => hi.mono ?_ ?_
    · simp
    · simp
  · refine Meets.bind (Reads.sepBy1 (h .simpleStatement) k l u v) fun ss => ?_
    refine Meets.bind (Meets.optional Meets.op) fun _ => ?_
    exact Meets.bind (Meets.kind fun _ hk => nomatch hk) fun _ => Meets.pure fun _ => id

/-! ### Conditions and loops -/

/-- The block behind a colon that has to stand there. -/
theorem reads_forcedBlock (h : self.Read ts μ) : Reads ts μ (forcedBlock self) := fun k l u v =>
  Meets.bind Meets.forced fun _ => h .block k l u v

/-- The block behind a colon. -/
theorem reads_colonBlock (h : self.Read ts μ) : Reads ts μ (colonBlock self) :=
  Reads.after skips_op (h .block)

/-- The block of an `else`. -/
theorem reads_elseBlock (h : self.Read ts μ) : Reads ts μ (elseBlock self) :=
  Reads.orElse Reads.faulty (Reads.after skips_word (reads_forcedBlock h))

/-- The block of an `else`, or none. -/
theorem reads_optElse (h : self.Read ts μ) : Reads ts μ (optElse self) := fun k l u v =>
  Meets.bind (Reads.opt (reads_elseBlock h) k l u v) fun _ => Meets.pure fun _ hi => left_getD hi

/-- A condition with its block, as `if` and `while` have. -/
theorem reads_condition (ht : Tidy ts μ) (h : self.Read ts μ) {w : Word} {what : String} :
    Reads ts μ (condition self w what) := by
  refine Reads.orElse Reads.faulty fun k l u v => Meets.spanned ?_
  refine Meets.bind (Reads.after skips_word (reads_namedExpression ht h) k l u v) fun test => ?_
  refine Meets.bind (reads_colonBlock h k l _ _) fun body => ?_
  refine Meets.bind (Reads.orElse (fun k l u v => Meets.bind (h .elifStatement k l u v) fun s =>
    Meets.pure fun i hi => hi.mono ?_ ?_) (reads_optElse h) k l _ _) fun orElse => ?_
  · simp
  · simp
  · refine Meets.pure fun i hi s => hi.mono ?_ ?_
    · simp
    · simp
      omega

/-- A `while` loop. -/
theorem reads_whileStatement (ht : Tidy ts μ) (h : self.Read ts μ) :
    Reads ts μ (whileStatement self) := by
  refine Reads.orElse Reads.faulty fun k l u v => Meets.spanned ?_
  refine Meets.bind (Reads.after skips_word (reads_namedExpression ht h) k l u v) fun test => ?_
  refine Meets.bind (reads_colonBlock h k l _ _) fun body => ?_
  refine Meets.bind (reads_optElse h k l _ _) fun orElse => Meets.pure fun i hi s => hi.mono ?_ ?_
  · simp
  · simp
    omega

/-- The word that makes a statement asynchronous is no name. -/
theorem reads_asyncOr {α : Type} [Mentioning α] {p : Parser α} (hp : Reads ts μ p) :
    Reads ts μ (asyncOr p) := fun k l u v =>
  Meets.bind (Meets.optional Meets.word) fun _ => Meets.bind (hp k l u v) fun _ =>
    Meets.pure fun _ hi => hi.mono (by simp) (by simp)

/-- A `for` loop. -/
theorem reads_forStatement (h : self.Read ts μ) : Reads ts μ (forStatement self) := by
  have htarget : Reads ts μ (do
      let _ ← word .for
      let target ← starTargets self
      let _ ← word .in
      return target) := fun k l u v =>
    Meets.bind Meets.word fun _ => Meets.bind (reads_starTargets h k l u v) fun _ =>
      Meets.bind Meets.word fun _ => Meets.pure fun _ => id
  refine Reads.orElse Reads.faulty fun k l u v => ?_
  refine Meets.bind Meets.look fun start => Meets.commit (reads_asyncOr htarget k l u v)
    (fun r => ?_) Meets.faulty
  obtain ⟨isAsync, target⟩ := r
  refine Meets.bind (reads_starExpressions h k l _ _) fun iter => ?_
  refine Meets.bind (reads_colonBlock h k l _ _) fun body => ?_
  refine Meets.bind (reads_optElse h k l _ _) fun orElse => Meets.bind Meets.spanFrom fun s => ?_
  refine Meets.pure fun i hi => hi.1.mono ?_ ?_
  · simp
  · simp
    omega

/-! ### Contexts -/

/-- A context with the target it is bound to. -/
theorem reads_withItem (h : self.Read ts μ) : Reads ts μ (withItem self) := by
  refine Reads.orElse ?_ (Reads.orElse Reads.faulty ?_) <;> intro k l u v <;>
    refine Meets.bind (h .expression k l u v) fun e => ?_
  · refine Meets.bind Meets.word fun _ => Meets.bind (h .starTarget k l _ _) fun t => ?_
    refine Meets.bind (Meets.ahead (Meets.orElse Meets.op (Meets.orElse Meets.op Meets.op)))
      fun _ => ?_
    exact Meets.pure fun i hi => hi.mono (by simp) (by simp)
  · exact Meets.pure fun i hi => hi.mono (by simp) (by simp)

/-- A `with` statement. -/
theorem reads_withStatement (h : self.Read ts μ) : Reads ts μ (withStatement self) := by
  have hitems : Reads ts μ (sepBy1 (withItem self) (op .comma)) := Reads.sepBy1 (reads_withItem h)
  have hblock : ∀ p : Parser (List (Expr × Option Expr)), Reads ts μ p → Reads ts μ (spanned do
      let r ← asyncOr (do let _ ← word .with; p)
      let body ← colonBlock self
      return fun s => Stmt.withBlock s r.1 r.2 body) := by
    intro p hp k l u v
    refine Meets.spanned (Meets.bind (reads_asyncOr (Reads.after skips_word hp) k l u v) fun r => ?_)
    obtain ⟨isAsync, items⟩ := r
    refine Meets.bind (reads_colonBlock h k l _ _) fun body => Meets.pure fun i hi s => hi.mono ?_ ?_
    · simp
    · simp
  refine Reads.orElse Reads.faulty (Reads.orElse (hblock _ fun k l u v => ?_)
    (Reads.orElse (hblock _ hitems) Reads.faulty))
  refine Meets.bind Meets.op fun _ => Meets.bind (hitems k l u v) fun is => ?_
  exact Meets.bind (skips_optComma k l _ _) fun _ => Meets.bind Meets.op fun _ =>
    Meets.pure fun _ => id

/-! ### Handlers -/

/-- The name of a caught error is not kept with its place. -/
theorem meets_errorName (ht : Tidy ts μ) :
    Meets ts μ (Left ts μ k l u v) errorName fun n => Left ts μ k l u (v + n.toList.length) := by
  refine Meets.bind (Meets.opt (ψ := fun n => Left ts μ k l u (v + n.toList.length))
    (Meets.bind Meets.word fun _ => Meets.nameOnly ht) fun _ => id) fun n => Meets.pure ?_
  cases n <;> exact fun _ => id

/-- An `except` with its type, the name it binds and its block. -/
theorem reads_handler (ht : Tidy ts μ) (h : self.Read ts μ) : Reads ts μ (handler self) := by
  refine Reads.orElse Reads.faulty (Reads.orElse ?_ (Reads.orElse ?_ Reads.faulty)) <;>
    intro k l u v <;> refine Meets.bind Meets.word fun _ => ?_
  · refine Meets.bind (h .expression k l u v) fun e => Meets.bind (meets_errorName ht) fun n => ?_
    refine Meets.bind (reads_colonBlock h k l _ _) fun body => Meets.pure fun i hi => hi.mono ?_ ?_
    · simp
    · simp
      omega
  · exact Meets.bind (reads_colonBlock h k l u v) fun body => Meets.pure fun i hi =>
      hi.mono (by simp) (by simp)

/-- An `except*` with its type, the name it binds and its block. -/
theorem reads_groupHandler (ht : Tidy ts μ) (h : self.Read ts μ) :
    Reads ts μ (groupHandler self) := by
  refine Reads.orElse Reads.faulty (Reads.orElse (fun k l u v => ?_) Reads.faulty)
  refine Meets.bind Meets.word fun _ => Meets.bind Meets.op fun _ => ?_
  refine Meets.bind (h .expression k l u v) fun e => Meets.bind (meets_errorName ht) fun n => ?_
  refine Meets.bind (reads_colonBlock h k l _ _) fun body => Meets.pure fun i hi => hi.mono ?_ ?_
  · simp
  · simp
    omega

/-- The block of a `finally`. -/
theorem reads_finallyBlock (h : self.Read ts μ) : Reads ts μ (finallyBlock self) :=
  Reads.orElse Reads.faulty (Reads.after skips_word (reads_forcedBlock h))

/-- A `try` statement with its handlers. -/
theorem reads_tryStatement (ht : Tidy ts μ) (h : self.Read ts μ) : Reads ts μ (tryStatement self) := by
  have hhandled : ∀ (isGroup : Bool) (p : Parser Handler), Reads ts μ p → Reads ts μ (spanned do
      let _ ← word .try
      let body ← forcedBlock self
      let hs ← many1 p
      let orElse ← optElse self
      let final ← opt (finallyBlock self)
      return fun s => Stmt.tryBlock s isGroup body hs orElse (final.getD [])) := by
    intro isGroup p hp k l u v
    refine Meets.spanned (Meets.bind Meets.word fun _ => ?_)
    refine Meets.bind (reads_forcedBlock h k l u v) fun body => ?_
    refine Meets.bind (Reads.many1 hp k l _ _) fun hs => ?_
    refine Meets.bind (reads_optElse h k l _ _) fun orElse => ?_
    refine Meets.bind (Reads.opt (reads_finallyBlock h) k l _ _) fun final => ?_
    refine Meets.pure fun i hi s => (left_getD hi).mono ?_ ?_
    · simp
    · simp
      omega
  refine Reads.orElse Reads.faulty (Reads.orElse (fun k l u v => ?_)
    (Reads.orElse (hhandled _ _ (reads_handler ht h)) (hhandled _ _ (reads_groupHandler ht h))))
  refine Meets.spanned (Meets.bind Meets.word fun _ => ?_)
  refine Meets.bind (reads_forcedBlock h k l u v) fun body => ?_
  refine Meets.bind (reads_finallyBlock h k l _ _) fun final => Meets.pure fun i hi s => hi.mono ?_ ?_
  · simp
  · simp
    omega

/-! ### Matches -/

/-- What a `match` looks at. -/
theorem reads_matchSubject (ht : Tidy ts μ) (h : self.Read ts μ) : Reads ts μ (matchSubject self) := by
  refine Reads.orElse (fun k l u v => Meets.spanned ?_) (reads_namedExpression ht h)
  refine Meets.bind (reads_starNamed ht h k l u v) fun e => Meets.bind Meets.op fun _ => ?_
  refine Meets.bind (Reads.opt (reads_starNamedList ht h) k l _ _) fun es => ?_
  exact Meets.pure fun i hi s => (left_getD hi).mono (by simp) (by simp)

/-- The condition of a case. -/
theorem reads_guard (ht : Tidy ts μ) (h : self.Read ts μ) : Reads ts μ (guard self) :=
  Reads.after skips_word (reads_namedExpression ht h)

/-- A case of a `match`, whose first word is a name without a place. -/
theorem reads_caseBlock (ht : Tidy ts μ) (h : self.Read ts μ) : Reads ts μ (caseBlock self) := by
  refine Reads.orElse Reads.faulty fun k l u v => ?_
  refine Meets.bind (χ := fun r : Pattern × Option Expr =>
    Left ts μ k l (u + seenIn μ r) (v + 1 + nameCount r)) ?_ fun r => ?_
  · refine Meets.bind Meets.softWord fun _ => Meets.bind (reads_patterns ht h k l _ _) fun p => ?_
    refine Meets.bind (Reads.opt (reads_guard ht h) k l _ _) fun g => ?_
    refine Meets.pure fun i hi => hi.mono ?_ ?_
    · simp
    · simp
      omega
  · obtain ⟨p, g⟩ := r
    refine Meets.bind (reads_colonBlock h k l _ _) fun body => Meets.pure fun i hi => hi.mono ?_ ?_
    · simp
    · simp
      omega

/-- A `match` statement, whose first word is a name without a place. -/
theorem reads_matchStatement (ht : Tidy ts μ) (h : self.Read ts μ) :
    Reads ts μ (matchStatement self) := by
  refine Reads.orElse (fun k l u v => Meets.spanned ?_) Reads.faulty
  refine Meets.bind (Meets.bind Meets.softWord fun _ => reads_matchSubject ht h k l _ _) fun e => ?_
  refine Meets.bind Meets.op fun _ => Meets.bind (Meets.kind fun _ hk => nomatch hk) fun _ => ?_
  refine Meets.bind (Meets.kind fun _ hk => nomatch hk) fun _ => ?_
  refine Meets.bind (Reads.many1 (reads_caseBlock ht h) k l _ _) fun cs => ?_
  refine Meets.bind (Meets.kind fun _ hk => nomatch hk) fun _ => ?_
  refine Meets.pure fun i hi s => hi.mono ?_ ?_
  · simp
  · simp
    omega

/-! ### Definitions -/

/-- Taking a word, of which is known what is known of the next token. What comes next is the token
behind it. -/
theorem meets_wordOf {w : Word} {P : Token → Prop} :
    Meets ts μ (fun i => Left ts μ k l u v i ∧ ∀ t ∈ i.tokens.head?, P t) (word w) fun t i =>
      Left ts μ k l u v i ∧ P t ∧ t.kind = .word w ∧
        ∃ n, ts[n]? = some t ∧ i.tokens.head? = ts[n + 1]? := by
  refine Meets.accept fun i t r a hi htok ha => ?_
  obtain ⟨hi, hP⟩ := hi
  split at ha
  · next hk =>
    obtain rfl : t = a := Option.some.inj ha
    have hnext := hi.next htok
    obtain ⟨n, hn⟩ := hi.rest
    refine ⟨?_, hP t (by simp [htok]), hk, n, ?_, ?_⟩
    · simpa [Token.mention?, hk] using hnext
    · rw [← List.head?_drop, ← hn, htok, List.head?_cons]
    · rw [Parser.tokens_nextInput, ← List.head?_drop, ← List.tail_drop, ← hn, htok, List.tail_cons]
  · cases ha

/-- **The name of a function** stands where the first token of its head says, as far as the weight
can tell. -/
theorem meets_functionName (ht : Tidy ts μ) {t : Token} :
    Meets ts μ (fun i => Left ts μ k l u v i ∧ i.tokens.head? = some t)
      (asyncOr (do let _ ← word .defWord; nameToken)) fun r i =>
        Left ts μ k l (u + μ r.2.named) (v + 1) i ∧ (μ.Placeless ∨
          r.2.row = t.row ∧ r.2.col = t.col + (if r.1 then 10 else 4)) := by
  refine Meets.bind (χ := fun a i => Left ts μ k l u v i ∧ ∀ d ∈ i.tokens.head?,
    d.kind = .word .defWord → μ.Placeless ∨
      d.row = t.row ∧ d.col = t.col + (if a.isSome then 6 else 0))
    (Meets.opt ?_ fun i hi => ⟨hi.1, ?_⟩) fun a => ?_
  · refine ((meets_wordOf (k := k) (l := l) (u := u) (v := v) (P := (· = t))).pre
      fun i hi => ⟨hi.1, ?_⟩).mono fun a i hi => ?_
    · exact fun a ha => (Option.some.inj (hi.2.symm.trans ha)).symm
    · obtain ⟨hi, rfl, hk, n, hn, hhead⟩ := hi
      exact ⟨hi, fun d hd hdk => ht.placed.imp_right fun h =>
        h.async n a d hn (hhead.symm.trans hd) hk hdk⟩
  · intro d hd _
    obtain rfl := Option.some.inj (hi.2.symm.trans hd)
    exact .inr ⟨rfl, rfl⟩
  · refine Meets.bind (χ := fun n i => Left ts μ k l (u + μ n.named) (v + 1) i ∧ (μ.Placeless ∨
      n.row = t.row ∧ n.col = t.col + (if a.isSome then 10 else 4))) ?_ fun n =>
        Meets.pure fun _ => id
    refine Meets.bind meets_wordOf fun d => ?_
    refine ((Meets.nameTokenOf (k := k) (l := l) (u := u) (v := v) ht
      (P := fun n => n.mention?.isSome → μ.Placeless ∨ n.row = t.row ∧
        n.col = t.col + (if a.isSome then 10 else 4))).pre fun i hi => ?_).mono fun n i hi => ?_
    · obtain ⟨hi, hP, hk, j, hj, hhead⟩ := hi
      refine ⟨hi, fun n hn hname => ?_⟩
      rcases hP hk, ht.placed with ⟨h | ⟨hrow, hcol⟩, h' | h'⟩
      · exact .inl h
      · exact .inl h
      · exact .inl h'
      obtain ⟨hrow', hcol'⟩ := h'.defined j d n hj (hhead.symm.trans hn) hk hname
      refine .inr ⟨hrow'.trans hrow, ?_⟩
      rw [hcol', hcol]
      split <;> omega
    · exact ⟨hi.1.left, hi.2 (by simp [hi.1.isName])⟩

/-- Decorators hold the names of their expressions. -/
theorem reads_decorators (ht : Tidy ts μ) (h : self.Read ts μ) : Reads ts μ (decorators self) :=
  Reads.many1 fun k l u v => Meets.bind Meets.op fun _ =>
    Meets.bind (reads_namedExpression ht h k l u v) fun _ =>
      Meets.bind (Meets.kind fun _ hk => nomatch hk) fun _ => Meets.pure fun _ => id

/-- A name that stands where the head says has its weight there. -/
theorem weight_placeAfter {s : Span} {t n : Token} {m : Nat} (hs : startOf s = ⟨t.row, t.col⟩)
    (hn : μ.Placeless ∨ n.row = t.row ∧ n.col = t.col + m) :
    μ (placeAfter s m, n.nameText) = μ n.named := by
  rcases hn with h | ⟨hrow, hcol⟩
  · exact h _ _ _
  · obtain ⟨hsrow, hscol⟩ := Place.mk.inj hs
    rw [placeAfter, Token.named, hrow, hcol, hsrow, hscol, Nat.cast_add]

/-- A function holds its names besides those of its decorators, which were read before. -/
theorem meets_function (ht : Tidy ts μ) (h : self.Read ts μ) {ds : List Expr} :
    Meets ts μ (Left ts μ k l (u + seenIn μ ds) (v + nameCount ds)) (function self ds) fun s =>
      Left ts μ k l (u + seenIn μ s) (v + nameCount s) := by
  refine Meets.orElse Meets.faulty (Meets.spannedAt fun t => ?_)
  refine Meets.bind (meets_functionName ht) fun r => ?_
  obtain ⟨isAsync, n⟩ := r
  refine Meets.given fun hplace => Meets.bind Meets.forced fun _ => ?_
  refine Meets.bind (reads_optParams ht h k l _ _) fun ps => Meets.bind Meets.op fun _ => ?_
  refine Meets.bind (Reads.opt (Reads.after skips_op (h .expression)) k l _ _) fun r => ?_
  refine Meets.bind (reads_forcedBlock h k l _ _) fun body => Meets.pure fun i hi s hs => ?_
  have hname : μ (placeAfter s (if isAsync then 10 else 4), n.nameText) = μ n.named :=
    weight_placeAfter hs hplace
  refine hi.mono ?_ ?_
  · simp [hname, List.sum_cons]
    omega
  · simp
    omega

/-- **The name of a class** stands where the first token of its head says, as far as the weight can
tell. -/
theorem meets_className (ht : Tidy ts μ) {t : Token} {α : Type} {f : Token → Parser α}
    {ψ : α → Input → Prop}
    (hf : ∀ n, Meets ts μ (fun i => Left ts μ k l (u + μ n.named) (v + 1) i ∧ (μ.Placeless ∨
      n.row = t.row ∧ n.col = t.col + 6)) (f n) ψ) :
    Meets ts μ (fun i => Left ts μ k l u v i ∧ i.tokens.head? = some t)
      (do let _ ← word .classWord; let n ← nameToken; f n) ψ := by
  refine Meets.bind ((meets_wordOf (k := k) (l := l) (u := u) (v := v) (P := (· = t))).pre
    fun i hi => ⟨hi.1, ?_⟩) fun d => Meets.bind (((Meets.nameTokenOf (k := k) (l := l) (u := u)
      (v := v) ht (P := fun n => n.mention?.isSome → μ.Placeless ∨
        n.row = t.row ∧ n.col = t.col + 6)).pre fun i hi => ?_).mono fun n i hi => ?_) hf
  · exact fun d hd => (Option.some.inj (hi.2.symm.trans hd)).symm
  · obtain ⟨hi, rfl, hk, j, hj, hhead⟩ := hi
    exact ⟨hi, fun n hn hname => ht.placed.imp_right fun h =>
      h.classes j d n hj (hhead.symm.trans hn) hk hname⟩
  · exact ⟨hi.1.left, hi.2 (by simp [hi.1.isName])⟩

/-- A class holds its names besides those of its decorators, which were read before. -/
theorem meets_classDef (ht : Tidy ts μ) (h : self.Read ts μ) {ds : List Expr} :
    Meets ts μ (Left ts μ k l (u + seenIn μ ds) (v + nameCount ds)) (classDef self ds) fun s =>
      Left ts μ k l (u + seenIn μ s) (v + nameCount s) := by
  refine Meets.orElse Meets.faulty (Meets.spannedAt fun t => ?_)
  refine Meets.bind (χ := fun r i => Left ts μ k l (u + seenIn μ ds + μ r.1.named +
    seenIn μ r.2) (v + nameCount ds + 1 + nameCount r.2) i ∧ (μ.Placeless ∨
      r.1.row = t.row ∧ r.1.col = t.col + 6)) ?_ fun r => ?_
  · refine meets_className ht fun n => Meets.given fun hn => ?_
    refine Meets.bind (Reads.opt (reads_callArguments h) k l _ _) fun as => Meets.pure fun i hi => ?_
    cases as <;> exact ⟨hi, hn⟩
  · obtain ⟨n, bases, keywords⟩ := r
    refine Meets.given fun hplace => ?_
    refine Meets.bind (reads_colonBlock h k l _ _) fun body => Meets.pure fun i hi s hs => ?_
    have hname : μ (placeAfter s 6, n.nameText) = μ n.named := weight_placeAfter hs hplace
    refine hi.mono ?_ ?_
    · simp [hname, List.sum_cons]
      omega
    · simp
      omega

/-- A definition that adds its names to those of the decorators before it. -/
theorem reads_decorated (ht : Tidy ts μ) (h : self.Read ts μ) {p : List Expr → Parser Stmt}
    (hp : ∀ ds k l u v, Meets ts μ (Left ts μ k l (u + seenIn μ ds) (v + nameCount ds)) (p ds)
      fun s => Left ts μ k l (u + seenIn μ s) (v + nameCount s)) : Reads ts μ (decorated self p) :=
  Reads.orElse (fun k l u v => Meets.bind (reads_decorators ht h k l u v) fun ds => hp ds k l u v)
    fun k l u v => hp [] k l u v

/-! ### Statements -/

/-- **Compound statements**: loops, conditions, handlers, matches, definitions. -/
theorem reads_compoundStatement (ht : Tidy ts μ) (h : self.Read ts μ) :
    Reads ts μ (compoundStatement self) := by
  have his : ∀ (c : Prop) [Decidable c] (p : Parser Stmt), Reads ts μ p →
      Reads ts μ (if c then p else failure) := by
    intro c _ p hp
    split
    · exact hp
    · exact Reads.failure
  intro k l u v
  refine Meets.bind Meets.look fun t => ?_
  refine Reads.orElse (his _ _ (reads_decorated ht h fun _ _ _ _ _ => meets_function ht h))
    (Reads.orElse (his _ _ (reads_condition ht h))
    (Reads.orElse (his _ _ (reads_decorated ht h fun _ _ _ _ _ => meets_classDef ht h))
    (Reads.orElse (his _ _ (reads_withStatement h)) (Reads.orElse (his _ _ (reads_forStatement h))
    (Reads.orElse (his _ _ (reads_tryStatement ht h)) (Reads.orElse
    (his _ _ (reads_whileStatement ht h)) (reads_matchStatement ht h))))))) k l u v

/-- The lines of a block, joined, hold the names that they held. -/
theorem flatten_mentions {α : Type} [Mentioning α] (as : List (List α)) :
    mentions as.flatten = mentions as ∧ unplaced as.flatten = unplaced as := by
  induction as with
  | nil => exact ⟨rfl, rfl⟩
  | cons a as ih => simp [ih.1, ih.2]

/-- The statements of a block. -/
theorem reads_statements (ht : Tidy ts μ) (h : self.Read ts μ) : Reads ts μ (statements self) := by
  have hstatement : Reads ts μ
      ((do return [← compoundStatement self]) <|> simpleStatements self) := by
    refine Reads.orElse (fun k l u v => ?_) (reads_simpleStatements h)
    exact Meets.bind (reads_compoundStatement ht h k l u v) fun s => Meets.pure fun i hi =>
      hi.mono (by simp) (by simp)
  intro k l u v
  refine Meets.bind (Reads.many1 hstatement k l u v) fun ss => Meets.pure fun i hi => hi.mono ?_ ?_
  · simp [flatten_mentions]
  · simp [flatten_mentions]

/-- A block, indented or on the line of its head. -/
theorem reads_block (ht : Tidy ts μ) (h : self.Read ts μ) : Reads ts μ (block self) := by
  refine Reads.orElse (fun k l u v => ?_) (Reads.orElse (reads_simpleStatements h) Reads.faulty)
  refine Meets.bind (Meets.kind fun _ hk => nomatch hk) fun _ => ?_
  refine Meets.bind (Meets.kind fun _ hk => nomatch hk) fun _ => ?_
  refine Meets.bind (reads_statements ht h k l u v) fun ss => ?_
  exact Meets.bind (Meets.kind fun _ hk => nomatch hk) fun _ => Meets.pure fun _ => id

/-! ### All rules -/

/-- **Every rule reads what it gives**, if the rules that it calls do. -/
theorem read_body (ht : Tidy ts μ) (h : self.Read ts μ) : (body self).Read ts μ
  | .expression => reads_expression ht h
  | .disjunction => reads_wordJoined (h .conjunction)
  | .conjunction => reads_wordJoined (h .inversion)
  | .inversion => reads_inversion h
  | .bitOr => reads_leftJoined (h .bitXor)
  | .bitXor => reads_leftJoined (h .bitAnd)
  | .bitAnd => reads_leftJoined (h .shift)
  | .shift => reads_leftJoined (h .sum)
  | .sum => reads_leftJoined (h .term)
  | .term => reads_leftJoined (h .factor)
  | .factor => reads_factor h
  | .awaited => reads_awaited h
  | .primary => reads_primary ht h
  | .strings => reads_strings
  | .starExpression => reads_starExpression h
  | .arguments => reads_arguments ht h
  | .namedFault => Reads.faulty
  | .starTarget => reads_starTarget h
  | .targetAtom => reads_targetAtom ht h
  | .targetPrimary => reads_targetPrimary ht h
  | .deleteTarget => reads_deleteTarget ht h
  | .singleTarget => reads_singleTarget ht h
  | .hintTarget => Reads.faulty
  | .closedPattern => reads_closedPattern ht h
  | .starPattern => reads_starPattern ht
  | .block => reads_block ht h
  | .simpleStatement => reads_simpleStatement ht h
  | .elifStatement => reads_condition ht h

/-- **The rules of the grammar** give what holds the names that they take. -/
theorem read_rules (ht : Tidy ts μ) (n : Nat) : (rules n).Read ts μ := by
  induction n with
  | zero => exact fun r => Reads.failure
  | succ n ih =>
    intro r
    unfold rules
    split
    · exact Reads.remember ht (read_body ht ih r)
    · exact read_body ht ih r

/-- The statements of a module. -/
theorem reads_moduleBody (ht : Tidy ts μ) (h : self.Read ts μ) : Reads ts μ (moduleBody self) := by
  intro k l u v
  refine Meets.bind (Reads.opt (reads_statements ht h) k l u v) fun ss => ?_
  exact Meets.bind (Meets.kind fun _ hk => nomatch hk) fun _ => Meets.pure fun _ hi => left_getD hi

end Grammar
end ApiPage.Syntax
