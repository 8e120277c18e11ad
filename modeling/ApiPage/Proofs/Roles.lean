import ApiPage.Proofs.LargeLiterals

/-!
# Roles of identifiers

An identifier of a tree is declared there, or is a parameter, the name of an argument, or a name
that is stored, deleted or read. A name that is read inside a lambda expression or a comprehension
that binds it is local there, at any depth; only the others that are read, and members, may stand
for something of a module.

## Conventions

A lambda expression binds its parameters, also for their types and defaults, and a comprehension
binds the names of its targets, for all of its parts. The root of an attribute is read, whatever
becomes of the attribute. Identifiers inside formatted strings are none of the tree.

## Main definitions

* `Role`: what an identifier stands for in a tree.
* `blockIdentifiers`: the identifiers of a block with their places and roles.
* `Explains`: identifiers that account for a sighting.

## Main results

* `explains_exprSightings`, `explains_blockSightings`: the identifiers of a tree account for all
  that a walk over it meets.
-/

namespace ApiPage

open Syntax

/-- **Role of an identifier**. -/
inductive Role
  | declared | parameter | argument | stored | deleted | hidden | free | member
  deriving DecidableEq

/-- An identifier that stands for something which a page may link to: it is read outside of what
binds it, or is a member. -/
def Role.mayLink : Role → Bool
  | free | member => true
  | _ => false

/-- **Identifier** of a tree with its place and role. -/
structure Identifier where
  place : Place
  name : Text
  role : Role

namespace Syntax

/-! ### Expressions -/

/-- The role of a name that is used where some names are bound. -/
def roleOf (bound : List Text) (name : Text) : Usage → Role
  | .store => .stored
  | .delete => .deleted
  | .load => if name ∈ bound then .hidden else .free

/-- The names that the targets of a comprehension bind. -/
def clauseNamesBound (cs : List Clause) : List Text :=
  cs.flatMap fun | .mk _ target _ _ => target.boundNames.map BoundName.name

mutual

/-- **The identifiers of an expression** where some names are bound. -/
def Expr.identifiers (bound : List Text) : Expr → List Identifier
  | .boolOp _ _ values => identifiersIn bound values
  | .named _ target value => target.identifiers bound ++ value.identifiers bound
  | .binary _ left _ right => left.identifiers bound ++ right.identifiers bound
  | .unary _ _ operand => operand.identifiers bound
  | .lambda _ params body =>
    params.identifiers (params.ids ++ bound) ++ body.identifiers (params.ids ++ bound)
  | .conditional _ test body orElse =>
    test.identifiers bound ++ body.identifiers bound ++ orElse.identifiers bound
  | .dict _ items => keyIdentifiers bound items ++ valueIdentifiers bound items
  | .set _ items => identifiersIn bound items
  | .listComp _ item clauses =>
    item.identifiers (clauseNamesBound clauses ++ bound) ++
      clauseIdentifiers (clauseNamesBound clauses ++ bound) clauses
  | .setComp _ item clauses =>
    item.identifiers (clauseNamesBound clauses ++ bound) ++
      clauseIdentifiers (clauseNamesBound clauses ++ bound) clauses
  | .dictComp _ key value clauses =>
    key.identifiers (clauseNamesBound clauses ++ bound) ++
      value.identifiers (clauseNamesBound clauses ++ bound) ++
      clauseIdentifiers (clauseNamesBound clauses ++ bound) clauses
  | .generator _ item clauses =>
    item.identifiers (clauseNamesBound clauses ++ bound) ++
      clauseIdentifiers (clauseNamesBound clauses ++ bound) clauses
  | .await _ value => value.identifiers bound
  | .yield _ value => optIdentifiers bound value
  | .yieldFrom _ value => value.identifiers bound
  | .compare _ left rest => left.identifiers bound ++ comparedIdentifiers bound rest
  | .call _ func args keywords =>
    func.identifiers bound ++ identifiersIn bound args ++ keywordIdentifiers bound keywords
  | .joined .. => []
  | .constant .. => []
  | .attr s value member =>
    (match value with
      | .name n id _ => [⟨startOf n, id, roleOf bound id .load⟩]
      | _ => value.identifiers bound) ++ [⟨memberPlace s member, member, .member⟩]
  | .subscript _ value index => value.identifiers bound ++ index.identifiers bound
  | .starred _ value => value.identifiers bound
  | .name s id usage => [⟨startOf s, id, roleOf bound id usage⟩]
  | .list _ items => identifiersIn bound items
  | .tuple _ items => identifiersIn bound items
  | .slice _ lower upper step =>
    optIdentifiers bound lower ++ optIdentifiers bound upper ++ optIdentifiers bound step

/-- The identifiers of an expression that may be missing. -/
def optIdentifiers (bound : List Text) : Option Expr → List Identifier
  | none => []
  | some e => e.identifiers bound

/-- The identifiers of some expressions. -/
def identifiersIn (bound : List Text) : List Expr → List Identifier
  | [] => []
  | e :: es => e.identifiers bound ++ identifiersIn bound es

/-- The identifiers of the keys of a mapping. -/
def keyIdentifiers (bound : List Text) : List (Option Expr × Expr) → List Identifier
  | [] => []
  | (k, _) :: items => optIdentifiers bound k ++ keyIdentifiers bound items

/-- The identifiers of the values of a mapping. -/
def valueIdentifiers (bound : List Text) : List (Option Expr × Expr) → List Identifier
  | [] => []
  | (_, v) :: items => v.identifiers bound ++ valueIdentifiers bound items

/-- The identifiers of the operands of comparisons. -/
def comparedIdentifiers (bound : List Text) : List (CompareOp × Expr) → List Identifier
  | [] => []
  | (_, e) :: rest => e.identifiers bound ++ comparedIdentifiers bound rest

/-- The identifiers of the clauses of a comprehension. -/
def clauseIdentifiers (bound : List Text) : List Clause → List Identifier
  | [] => []
  | .mk _ target iter conditions :: cs =>
    target.identifiers bound ++ iter.identifiers bound ++ identifiersIn bound conditions ++
      clauseIdentifiers bound cs

/-- The identifiers of arguments by name. -/
def keywordIdentifiers (bound : List Text) : List Keyword → List Identifier
  | [] => []
  | .mk s name value :: ks =>
    (match name with
      | some n => [⟨startOf s, n, .argument⟩]
      | none => []) ++ value.identifiers bound ++ keywordIdentifiers bound ks

/-- The identifiers of parameters, without their defaults. -/
def paramIdentifiers (bound : List Text) : List Param → List Identifier
  | [] => []
  | .mk s name hint _ :: ps =>
    ⟨startOf s, name, .parameter⟩ :: optIdentifiers bound hint ++ paramIdentifiers bound ps

/-- The identifiers of a parameter that may be missing. -/
def optParamIdentifiers (bound : List Text) : Option Param → List Identifier
  | none => []
  | some (.mk s name hint _) => ⟨startOf s, name, .parameter⟩ :: optIdentifiers bound hint

/-- The identifiers of the defaults of parameters. -/
def defaultIdentifiers (bound : List Text) : List Param → List Identifier
  | [] => []
  | .mk _ _ _ default :: ps => optIdentifiers bound default ++ defaultIdentifiers bound ps

/-- The identifiers of a parameter list. -/
def Params.identifiers (bound : List Text) : Params → List Identifier
  | .mk positionalOnly positional rest keywordOnly restKeywords =>
    paramIdentifiers bound positionalOnly ++ paramIdentifiers bound positional ++
      optParamIdentifiers bound rest ++
      paramIdentifiers bound keywordOnly ++ defaultIdentifiers bound keywordOnly ++
      optParamIdentifiers bound restKeywords ++ defaultIdentifiers bound positionalOnly ++
      defaultIdentifiers bound positional

end

/-! ### Patterns and targets -/

mutual

/-- The identifiers of a pattern. -/
def Pattern.identifiers : Pattern → List Identifier
  | .value e => e.identifiers []
  | .singleton _ => []
  | .sequence ps => patternIdentifiers ps
  | .mapping keys ps _ => identifiersIn [] keys ++ patternIdentifiers ps
  | .ofClass cls ps keywords =>
    cls.identifiers [] ++ patternIdentifiers ps ++ memberPatternIdentifiers keywords
  | .star _ => []
  | .capture none _ => []
  | .capture (some p) _ => p.identifiers
  | .either ps => patternIdentifiers ps

/-- The identifiers of some patterns. -/
def patternIdentifiers : List Pattern → List Identifier
  | [] => []
  | p :: ps => p.identifiers ++ patternIdentifiers ps

/-- The identifiers of the patterns of members. -/
def memberPatternIdentifiers : List (Text × Pattern) → List Identifier
  | [] => []
  | (_, p) :: ps => p.identifiers ++ memberPatternIdentifiers ps

end

mutual

/-- **The identifiers of an assignment target**. The names that it binds are declared. -/
def Expr.targetIdentifiers : Expr → List Identifier
  | .name s id _ => [⟨startOf s, id, .declared⟩]
  | .tuple _ es => targetIdentifiersIn es
  | .list _ es => targetIdentifiersIn es
  | .starred _ e => e.targetIdentifiers
  | e => e.identifiers []

/-- The identifiers of some assignment targets. -/
def targetIdentifiersIn : List Expr → List Identifier
  | [] => []
  | e :: es => e.targetIdentifiers ++ targetIdentifiersIn es

end

/-! ### Statements -/

/-- The identifiers of context managers. -/
def withIdentifiers : List (Expr × Option Expr) → List Identifier
  | [] => []
  | (e, t) :: is => e.identifiers [] ++ optIdentifiers [] t ++ withIdentifiers is

mutual

/-- **The identifiers of a statement**. -/
def Stmt.identifiers : Stmt → List Identifier
  | .function s isAsync name params body decorators returns =>
    ⟨placeAfter s (if isAsync then 10 else 4), name, .declared⟩ :: identifiersIn [] decorators ++
      params.identifiers [] ++ optIdentifiers [] returns ++ blockIdentifiers body
  | .classDef s name bases keywords body decorators =>
    identifiersIn [] decorators ++ ⟨placeAfter s 6, name, .declared⟩ :: identifiersIn [] bases ++
      keywordIdentifiers [] keywords ++ blockIdentifiers body
  | .ret _ value => optIdentifiers [] value
  | .delete _ targets => identifiersIn [] targets
  | .assign _ targets value _ => targetIdentifiersIn targets ++ value.identifiers []
  | .annAssign _ target hint value _ _ =>
    target.targetIdentifiers ++ hint.identifiers [] ++ optIdentifiers [] value
  | .augAssign _ target _ value => target.identifiers [] ++ value.identifiers []
  | .forLoop _ _ target iter body orElse =>
    target.identifiers [] ++ iter.identifiers [] ++ blockIdentifiers body ++
      blockIdentifiers orElse
  | .whileLoop _ test body orElse =>
    test.identifiers [] ++ blockIdentifiers body ++ blockIdentifiers orElse
  | .cond _ test body orElse =>
    test.identifiers [] ++ blockIdentifiers body ++ blockIdentifiers orElse
  | .withBlock _ _ items body => withIdentifiers items ++ blockIdentifiers body
  | .matchOn _ subject cases => subject.identifiers [] ++ caseIdentifiers cases
  | .raise _ error cause => optIdentifiers [] error ++ optIdentifiers [] cause
  | .tryBlock _ _ body handlers orElse finalBody =>
    blockIdentifiers body ++ handlerIdentifiers handlers ++ blockIdentifiers orElse ++
      blockIdentifiers finalBody
  | .assert _ test message => test.identifiers [] ++ optIdentifiers [] message
  | .expr _ value => value.identifiers []
  | _ => []

/-- **The identifiers of a block**. -/
def blockIdentifiers : List Stmt → List Identifier
  | [] => []
  | s :: ss => s.identifiers ++ blockIdentifiers ss

/-- The identifiers of handlers. -/
def handlerIdentifiers : List Handler → List Identifier
  | [] => []
  | .mk type _ body :: hs =>
    optIdentifiers [] type ++ blockIdentifiers body ++ handlerIdentifiers hs

/-- The identifiers of cases. -/
def caseIdentifiers : List Case → List Identifier
  | [] => []
  | .mk pattern guard body :: cs =>
    pattern.identifiers ++ optIdentifiers [] guard ++ blockIdentifiers body ++ caseIdentifiers cs

end

end Syntax

/-! ### Sightings accounted for -/

/-- **A base class at a place**: some class among the statements, which is no protocol, has a base
whose last name stands there. -/
def IsBaseAt (ss : List Stmt) (place : Place) (name : Text) : Prop :=
  ∃ s ∈ ss, s.isProtocol = false ∧
    ∃ b ∈ s.bases, basePlace? b = some place ∧ b.baseName? = some name

/-- **Identifiers that account for a sighting**: one stands where it is made, is called alike, may
link if it has a link and is declared if it has an anchor. An anchor that is added belongs to an
identifier that is a base class. -/
def Explains (is : List Identifier) (ss : List Stmt) : Sighting → Prop
  | .identifier place name anchor href =>
    ∃ i ∈ is, i.place = place ∧ i.name = name ∧ (href.isSome → i.role.mayLink) ∧
      (anchor.isSome → i.role = .declared)
  | .anchored place _ => ∃ i ∈ is, i.place = place ∧ IsBaseAt ss place i.name

/-- Identifiers that account for all of some sightings. -/
def ExplainsAll (is : List Identifier) (ss : List Stmt) (xs : List Sighting) : Prop :=
  ∀ x ∈ xs, Explains is ss x

namespace ExplainsAll

variable {is js : List Identifier} {ss us : List Stmt} {xs ys : List Sighting}

/-- No sightings need no names. -/
theorem nil : ExplainsAll is ss [] := List.forall_mem_nil _

/-- More names and more statements explain the same sightings. -/
theorem mono (h : ExplainsAll is ss xs) (his : is ⊆ js) (hss : ss ⊆ us) : ExplainsAll js us xs := by
  intro x hx
  have hx := h x hx
  cases x with
  | identifier =>
    obtain ⟨i, hi, hprops⟩ := hx
    exact ⟨i, his hi, hprops⟩
  | anchored =>
    obtain ⟨i, hi, hplace, s, hs, hbase⟩ := hx
    exact ⟨i, his hi, hplace, s, hss hs, hbase⟩

/-- Sightings of two parts are explained by the names of both. -/
theorem append (hxs : ExplainsAll is ss xs) (hys : ExplainsAll js us ys) :
    ExplainsAll (is ++ js) (ss ++ us) (xs ++ ys) :=
  List.forall_mem_append.mpr
    ⟨hxs.mono (List.subset_append_left _ _) (List.subset_append_left _ _),
      hys.mono (List.subset_append_right _ _) (List.subset_append_right _ _)⟩

/-- An identifier by itself. -/
theorem single {place : Place} {name : Text} {role : Role} {anchor : Option Anchor}
    {href : Option Text} (hhref : href.isSome → role.mayLink = true)
    (hanchor : anchor.isSome → role = .declared) :
    ExplainsAll [⟨place, name, role⟩] ss [.identifier place name anchor href] :=
  List.forall_mem_singleton.mpr ⟨_, List.mem_cons_self, rfl, rfl, hhref, hanchor⟩

/-- A name explains the sighting at its own place. -/
theorem seen {place : Place} {name : Text} {role : Role} :
    ExplainsAll [⟨place, name, role⟩] ss [seen place name] :=
  single (fun h => nomatch h) fun h => nomatch h

/-- An identifier without anchor and link before others. -/
theorem seen_cons {place : Place} {name : Text} {role : Role} (h : ExplainsAll is ss xs) :
    ExplainsAll (⟨place, name, role⟩ :: is) ss (ApiPage.seen place name :: xs) := by
  have hone : ExplainsAll [⟨place, name, role⟩] [] [ApiPage.seen place name] := .seen
  exact hone.append h

/-- A declared name before others. -/
theorem declared_cons {place : Place} {name : Text} {anchor : Option Anchor}
    (h : ExplainsAll is ss xs) :
    ExplainsAll (⟨place, name, .declared⟩ :: is) ss (.identifier place name anchor none :: xs) := by
  have hone : ExplainsAll [⟨place, name, .declared⟩] [] [.identifier place name anchor none] :=
    .single (fun hnone => nomatch hnone) fun _ => rfl
  exact hone.append h

/-- More identifiers behind them. -/
theorem widen (h : ExplainsAll is [] xs) : ExplainsAll (is ++ js) us xs :=
  h.mono (List.subset_append_left _ _) (List.nil_subset _)

/-- What is accounted for inside a statement. -/
theorem inside {s : Stmt} (h : ExplainsAll is ss xs) (hss : ss ⊆ s.inner) :
    ExplainsAll is s.statements xs :=
  h.mono (List.Subset.refl _) (List.subset_cons_of_subset s hss)

end ExplainsAll

/-! ### A walk over an expression -/

/-- Parts of lists joined are a part of the lists joined. -/
theorem append_subset_append {α : Type} {as bs cs ds : List α} (h : as ⊆ cs) (h' : bs ⊆ ds) :
    as ++ bs ⊆ cs ++ ds :=
  List.append_subset.mpr
    ⟨List.subset_append_of_subset_left _ h, List.subset_append_of_subset_right _ h'⟩

mutual

/-- The names that a target binds are among all its names. -/
theorem boundNames_subset_allNames : ∀ e : Expr, e.boundNames.map BoundName.name ⊆ e.allNames
  | .name .. => List.Subset.refl _
  | .tuple _ es => boundNamesIn_subset_allNames es
  | .list _ es => boundNamesIn_subset_allNames es
  | .starred _ e => boundNames_subset_allNames e
  | .boolOp .. | .named .. | .binary .. | .unary .. | .lambda .. | .conditional .. | .dict ..
  | .set .. | .listComp .. | .setComp .. | .dictComp .. | .generator .. | .await .. | .yield ..
  | .yieldFrom .. | .compare .. | .call .. | .joined .. | .constant .. | .attr .. | .subscript ..
  | .slice .. => List.nil_subset _

/-- The names that some targets bind are among all their names. -/
theorem boundNamesIn_subset_allNames :
    ∀ es : List Expr, (boundNamesIn es).map BoundName.name ⊆ allNamesIn es
  | [] => List.nil_subset _
  | e :: es => by
    rw [boundNamesIn, List.map_append, allNamesIn]
    exact append_subset_append (boundNames_subset_allNames e) (boundNamesIn_subset_allNames es)

end

/-- The walk takes all names of the targets for bound, more than a comprehension binds. -/
theorem clauseNamesBound_subset (cs : List Clause) : clauseNamesBound cs ⊆ boundByClauses cs := by
  induction cs with
  | nil => exact List.nil_subset _
  | cons c cs ih =>
    cases c with
    | mk isAsync target iter conditions =>
      rw [boundByClauses]
      exact append_subset_append (boundNames_subset_allNames target) ih

section

variable {env : Surroundings} {bound : List Text}

/-- Names that are bound inside stay local. -/
theorem subset_bind (h : bound ⊆ env.locals) {names names' : List Text} (hnames : names ⊆ names') :
    names ++ bound ⊆ (env.bind names').locals :=
  append_subset_append hnames h

/-- **A name that is not local may link** where it is loaded. -/
theorem mayLink_roleOf {id : Text} (h : bound ⊆ env.locals) (hid : ¬env.locals.contains id = true) :
    (roleOf bound id .load).mayLink = true := by
  have hnot : id ∉ bound := fun hmem => hid (List.contains_iff_mem.mpr (h hmem))
  rw [roleOf, if_neg hnot]
  rfl

/-- A name links only where nothing binds it. -/
theorem explains_name (h : bound ⊆ env.locals) (s : Span) (id : Text) (usage : Usage) {role : Role}
    (hrole : usage = .load → role = roleOf bound id .load) :
    ExplainsAll [⟨startOf s, id, role⟩] [] (exprSightings env (.name s id usage)) := by
  rw [exprSightings]
  split
  · next hload =>
    simp only [Bool.and_eq_true, decide_eq_true_eq, Bool.not_eq_true'] at hload
    obtain ⟨husage, hlocal⟩ := hload
    rw [hrole husage]
    exact .single (fun _ => mayLink_roleOf h (by rw [hlocal]; decide)) fun hnone => by cases hnone
  · exact .seen

end

mutual

/-- **The identifiers of an expression** account for what a walk over it meets. Only a name that is
not bound stands for a module. -/
theorem explains_exprSightings {env : Surroundings} {bound : List Text} (h : bound ⊆ env.locals) :
    ∀ e : Expr, ExplainsAll (e.identifiers bound) [] (exprSightings env e)
  | .boolOp _ _ values => explains_exprsSightings h values
  | .named _ target value =>
    (explains_exprSightings h target).append (explains_exprSightings h value)
  | .binary _ left _ right =>
    (explains_exprSightings h left).append (explains_exprSightings h right)
  | .unary _ _ operand => explains_exprSightings h operand
  | .lambda _ params body =>
    have henv := subset_bind h (List.Subset.refl params.ids)
    (explains_paramsSightings henv params).append (explains_exprSightings henv body)
  | .conditional _ test body orElse =>
    ((explains_exprSightings h test).append (explains_exprSightings h body)).append
      (explains_exprSightings h orElse)
  | .dict _ items => (explains_keySightings h items).append (explains_valueSightings h items)
  | .set _ items => explains_exprsSightings h items
  | .listComp _ item clauses =>
    have henv := subset_bind h (clauseNamesBound_subset clauses)
    (explains_exprSightings henv item).append (explains_clausesSightings henv clauses)
  | .setComp _ item clauses =>
    have henv := subset_bind h (clauseNamesBound_subset clauses)
    (explains_exprSightings henv item).append (explains_clausesSightings henv clauses)
  | .dictComp _ key value clauses =>
    have henv := subset_bind h (clauseNamesBound_subset clauses)
    ((explains_exprSightings henv key).append (explains_exprSightings henv value)).append
      (explains_clausesSightings henv clauses)
  | .generator _ item clauses =>
    have henv := subset_bind h (clauseNamesBound_subset clauses)
    (explains_exprSightings henv item).append (explains_clausesSightings henv clauses)
  | .await _ value => explains_exprSightings h value
  | .yield _ value => explains_optSightings h value
  | .yieldFrom _ value => explains_exprSightings h value
  | .compare _ left rest =>
    (explains_exprSightings h left).append (explains_comparedSightings h rest)
  | .call _ func args keywords =>
    ((explains_exprSightings h func).append (explains_exprsSightings h args)).append
      (explains_keywordsSightings h keywords)
  | .joined .. => .nil
  | .constant .. => .nil
  | .attr s value member => by
    have hvalue := explains_exprSightings h value
    cases value with
    | name n id usage =>
      rw [exprSightings]
      split
      · next path hpath =>
        have hlocal : ¬env.locals.contains id = true := by
          intro hmem
          rw [Surroundings.modulePath?, if_pos hmem] at hpath
          cases hpath
        have hroot : ExplainsAll [⟨startOf n, id, roleOf bound id .load⟩] []
            [.identifier (startOf n) id none (some (env.resolver.url path []))] :=
          .single (fun _ => mayLink_roleOf h hlocal) fun hnone => nomatch hnone
        exact hroot.append (.single (fun _ => rfl) fun hnone => nomatch hnone)
      · exact (explains_name h n id usage fun _ => rfl).append .seen
    | _ => exact hvalue.append .seen
  | .subscript _ value index =>
    (explains_exprSightings h value).append (explains_exprSightings h index)
  | .starred _ value => explains_exprSightings h value
  | .name s id usage => explains_name h s id usage fun husage => by rw [husage]
  | .list _ items => explains_exprsSightings h items
  | .tuple _ items => explains_exprsSightings h items
  | .slice _ lower upper step =>
    ((explains_optSightings h lower).append (explains_optSightings h upper)).append
      (explains_optSightings h step)

/-- An expression that may be missing. -/
theorem explains_optSightings {env : Surroundings} {bound : List Text} (h : bound ⊆ env.locals) :
    ∀ o : Option Expr, ExplainsAll (optIdentifiers bound o) [] (optSightings env o)
  | none => .nil
  | some e => explains_exprSightings h e

/-- The elements of a list of expressions. -/
theorem explains_exprsSightings {env : Surroundings} {bound : List Text} (h : bound ⊆ env.locals) :
    ∀ es : List Expr, ExplainsAll (identifiersIn bound es) [] (exprsSightings env es)
  | [] => .nil
  | e :: es => (explains_exprSightings h e).append (explains_exprsSightings h es)

/-- The keys of a dictionary. -/
theorem explains_keySightings {env : Surroundings} {bound : List Text} (h : bound ⊆ env.locals) :
    ∀ items : List (Option Expr × Expr),
      ExplainsAll (keyIdentifiers bound items) [] (keySightings env items)
  | [] => .nil
  | (k, _) :: items => (explains_optSightings h k).append (explains_keySightings h items)

/-- The values of a dictionary. -/
theorem explains_valueSightings {env : Surroundings} {bound : List Text} (h : bound ⊆ env.locals) :
    ∀ items : List (Option Expr × Expr),
      ExplainsAll (valueIdentifiers bound items) [] (valueSightings env items)
  | [] => .nil
  | (_, v) :: items => (explains_exprSightings h v).append (explains_valueSightings h items)

/-- The operands of a comparison. -/
theorem explains_comparedSightings {env : Surroundings} {bound : List Text}
    (h : bound ⊆ env.locals) : ∀ rest : List (CompareOp × Expr),
      ExplainsAll (comparedIdentifiers bound rest) [] (comparedSightings env rest)
  | [] => .nil
  | (_, e) :: rest => (explains_exprSightings h e).append (explains_comparedSightings h rest)

/-- The clauses of a comprehension, with the names they bind local. -/
theorem explains_clausesSightings {env : Surroundings} {bound : List Text}
    (h : bound ⊆ env.locals) : ∀ cs : List Clause,
      ExplainsAll (clauseIdentifiers bound cs) [] (clausesSightings env cs)
  | [] => .nil
  | .mk _ target iter conditions :: cs =>
    (((explains_exprSightings h target).append (explains_exprSightings h iter)).append
      (explains_exprsSightings h conditions)).append (explains_clausesSightings h cs)

/-- The keyword arguments of a call. -/
theorem explains_keywordsSightings {env : Surroundings} {bound : List Text}
    (h : bound ⊆ env.locals) : ∀ ks : List Keyword,
      ExplainsAll (keywordIdentifiers bound ks) [] (keywordsSightings env ks)
  | [] => .nil
  | .mk _ none value :: ks =>
    (explains_exprSightings h value).append (explains_keywordsSightings h ks)
  | .mk _ (some _) value :: ks =>
    (explains_exprSightings h value).seen_cons.append (explains_keywordsSightings h ks)

/-- Parameters: a name each, and its annotation. -/
theorem explains_paramSightings {env : Surroundings} {bound : List Text} (h : bound ⊆ env.locals) :
    ∀ ps : List Param, ExplainsAll (paramIdentifiers bound ps) [] (paramSightings env ps)
  | [] => .nil
  | .mk _ _ hint _ :: ps =>
    (explains_optSightings h hint).seen_cons.append (explains_paramSightings h ps)

/-- A parameter that may be missing. -/
theorem explains_optParamSightings {env : Surroundings} {bound : List Text}
    (h : bound ⊆ env.locals) : ∀ p : Option Param,
      ExplainsAll (optParamIdentifiers bound p) [] (optParamSightings env p)
  | none => .nil
  | some (.mk _ _ hint _) => (explains_optSightings h hint).seen_cons

/-- The defaults of parameters. -/
theorem explains_defaultSightings {env : Surroundings} {bound : List Text}
    (h : bound ⊆ env.locals) : ∀ ps : List Param,
      ExplainsAll (defaultIdentifiers bound ps) [] (defaultSightings env ps)
  | [] => .nil
  | .mk _ _ _ default :: ps =>
    (explains_optSightings h default).append (explains_defaultSightings h ps)

/-- A list of parameters: their defaults, names and annotations. -/
theorem explains_paramsSightings {env : Surroundings} {bound : List Text}
    (h : bound ⊆ env.locals) : ∀ ps : Params,
      ExplainsAll (ps.identifiers bound) [] (paramsSightings env ps)
  | .mk positionalOnly positional rest keywordOnly restKeywords => by
    have hpositional := (explains_paramSightings h positionalOnly).append
      (explains_paramSightings h positional)
    have hrest := hpositional.append (explains_optParamSightings h rest)
    have hkeywords := (hrest.append (explains_paramSightings h keywordOnly)).append
      (explains_defaultSightings h keywordOnly)
    have hall := hkeywords.append (explains_optParamSightings h restKeywords)
    exact (hall.append (explains_defaultSightings h positionalOnly)).append
      (explains_defaultSightings h positional)

end

/-! ### A walk over a statement -/

mutual

/-- A pattern, with no names local. -/
theorem explains_patternSightings (env : Surroundings) :
    ∀ p : Pattern, ExplainsAll p.identifiers [] (patternSightings env p)
  | .value e => explains_exprSightings (List.nil_subset _) e
  | .singleton _ => .nil
  | .sequence ps => explains_patternsSightings env ps
  | .mapping keys ps _ =>
    (explains_exprsSightings (List.nil_subset _) keys).append (explains_patternsSightings env ps)
  | .ofClass cls ps keywords =>
    ((explains_exprSightings (List.nil_subset _) cls).append
      (explains_patternsSightings env ps)).append (explains_memberPatternsSightings env keywords)
  | .star _ => .nil
  | .capture none _ => .nil
  | .capture (some p) _ => explains_patternSightings env p
  | .either ps => explains_patternsSightings env ps

/-- The parts of a pattern. -/
theorem explains_patternsSightings (env : Surroundings) :
    ∀ ps : List Pattern, ExplainsAll (patternIdentifiers ps) [] (patternsSightings env ps)
  | [] => .nil
  | p :: ps => (explains_patternSightings env p).append (explains_patternsSightings env ps)

/-- The members of a class pattern. -/
theorem explains_memberPatternsSightings (env : Surroundings) :
    ∀ ps : List (Text × Pattern),
      ExplainsAll (memberPatternIdentifiers ps) [] (memberPatternsSightings env ps)
  | [] => .nil
  | (_, p) :: ps =>
    (explains_patternSightings env p).append (explains_memberPatternsSightings env ps)

end

/-- The items of a `with`. -/
theorem explains_withSightings (env : Surroundings) (items : List (Expr × Option Expr)) :
    ExplainsAll (withIdentifiers items) [] (withSightings env items) := by
  induction items with
  | nil => exact .nil
  | cons item items ih =>
    exact ((explains_exprSightings (List.nil_subset _) item.1).append
      (explains_optSightings (List.nil_subset _) item.2)).append ih

/-! #### Targets -/

/-- The identifier that a bound name is. -/
def BoundName.identifier (n : BoundName) : Identifier := ⟨⟨n.row, n.col⟩, n.name, .declared⟩

mutual

/-- The names that a target binds are identifiers of it. -/
theorem identifier_boundNames_subset :
    ∀ e : Expr, e.boundNames.map BoundName.identifier ⊆ e.targetIdentifiers
  | .name .. => List.Subset.refl _
  | .tuple _ es => identifier_boundNamesIn_subset es
  | .list _ es => identifier_boundNamesIn_subset es
  | .starred _ e => identifier_boundNames_subset e
  | .boolOp .. | .named .. | .binary .. | .unary .. | .lambda .. | .conditional .. | .dict ..
  | .set .. | .listComp .. | .setComp .. | .dictComp .. | .generator .. | .await .. | .yield ..
  | .yieldFrom .. | .compare .. | .call .. | .joined .. | .constant .. | .attr .. | .subscript ..
  | .slice .. => List.nil_subset _

/-- The names that some targets bind are identifiers of them. -/
theorem identifier_boundNamesIn_subset :
    ∀ es : List Expr, (boundNamesIn es).map BoundName.identifier ⊆ targetIdentifiersIn es
  | [] => List.nil_subset _
  | e :: es => by
    rw [boundNamesIn, List.map_append, targetIdentifiersIn]
    exact append_subset_append (identifier_boundNames_subset e) (identifier_boundNamesIn_subset es)

end

mutual

/-- A target that binds no name is an expression like others. -/
theorem targetIdentifiers_of_boundNames :
    ∀ e : Expr, e.boundNames = [] → e.targetIdentifiers = e.identifiers []
  | .name .., h => nomatch h
  | .tuple _ es, h => targetIdentifiersIn_of_boundNames es h
  | .list _ es, h => targetIdentifiersIn_of_boundNames es h
  | .starred _ e, h => targetIdentifiers_of_boundNames e h
  | .boolOp .., _ | .named .., _ | .binary .., _ | .unary .., _ | .lambda .., _
  | .conditional .., _ | .dict .., _ | .set .., _ | .listComp .., _ | .setComp .., _
  | .dictComp .., _ | .generator .., _ | .await .., _ | .yield .., _ | .yieldFrom .., _
  | .compare .., _ | .call .., _ | .joined .., _ | .constant .., _ | .attr .., _
  | .subscript .., _ | .slice .., _ => rfl

/-- Targets that bind no names are expressions. -/
theorem targetIdentifiersIn_of_boundNames :
    ∀ es : List Expr, boundNamesIn es = [] → targetIdentifiersIn es = identifiersIn [] es
  | [], _ => rfl
  | e :: es, h => by
    obtain ⟨he, hes⟩ := List.append_eq_nil_iff.mp h
    rw [targetIdentifiersIn, identifiersIn, targetIdentifiers_of_boundNames e he,
      targetIdentifiersIn_of_boundNames es hes]

end

section

variable (env : Surroundings)

/-- The names that a statement binds are explained by themselves. -/
theorem explains_boundSightings (s : Stmt) (ns : List BoundName) :
    Yields (ExplainsAll (ns.map BoundName.identifier) []) (boundSightings env s ns) := by
  induction ns with
  | nil => exact .pure .nil
  | cons n ns ih =>
    unfold boundSightings
    extract_lets after
    have hafter : ∀ anchor, True →
        Yields (ExplainsAll ((n :: ns).map BoundName.identifier) []) (after anchor) :=
      fun _ _ => .bind ih fun _ hrest => .pure hrest.declared_cons
    split
    · exact .bind (.any _) hafter
    · exact .bind (.any _) hafter

/-- **The targets of an assignment**: where one binds names they alone are sighted. -/
theorem explains_targetSightings (s : Stmt) (ts : List Expr) :
    Yields (ExplainsAll (targetIdentifiersIn ts) []) (targetSightings env s ts) := by
  induction ts with
  | nil => exact .pure .nil
  | cons t ts ih =>
    unfold targetSightings
    extract_lets after
    have hafter : ∀ here, ExplainsAll t.targetIdentifiers [] here →
        Yields (ExplainsAll (targetIdentifiersIn (t :: ts)) []) (after here) :=
      fun _ hhere => .bind ih fun _ hrest => .pure (hhere.append hrest)
    split
    · next hnone =>
      rw [targetIdentifiers_of_boundNames t hnone] at hafter
      exact .bind (.pure (explains_exprSightings (List.nil_subset _) t)) hafter
    · refine .bind (explains_boundSightings env s _) fun here hhere => hafter here ?_
      exact hhere.mono (identifier_boundNames_subset t) (List.Subset.refl _)

/-! #### Bases -/

/-- The last name of a base is one of its identifiers. -/
theorem exists_identifier_of_base :
    ∀ {b : Expr} {place : Place} {name : Text}, basePlace? b = some place →
      b.baseName? = some name → ∃ i ∈ b.identifiers [], i.place = place ∧ i.name = name
  | .subscript _ value _, _, _, hplace, hname => by
    obtain ⟨i, hi, hprops⟩ := exists_identifier_of_base (b := value) hplace hname
    exact ⟨i, List.mem_append_left _ hi, hprops⟩
  | .name s id usage, _, _, hplace, hname => by
    obtain rfl := Option.some.inj hplace
    obtain rfl := Option.some.inj hname
    exact ⟨_, List.mem_cons_self, rfl, rfl⟩
  | .attr s value member, _, _, hplace, hname => by
    obtain rfl := Option.some.inj hplace
    obtain rfl := Option.some.inj hname
    exact ⟨_, List.mem_append_right _ List.mem_cons_self, rfl, rfl⟩

/-- **The bases of a class** are explained by the class that they stand in. -/
theorem explains_baseSightings (c : Stmt) {cls : Text} {isProtocol : Bool} {bs : List Expr}
    (hprotocol : c.isProtocol = isProtocol) (hbases : bs ⊆ c.bases) :
    Yields (ExplainsAll (identifiersIn [] bs) [c]) (baseSightings env cls isProtocol bs) := by
  induction bs with
  | nil => exact .pure .nil
  | cons b bs ih =>
    obtain ⟨hb, hbs⟩ := List.cons_subset.mp hbases
    have hexpr := (explains_exprSightings (List.nil_subset env.locals) b).mono
      (List.Subset.refl _) (List.nil_subset [c])
    unfold baseSightings
    extract_lets after
    have hafter : ∀ anchored, ExplainsAll (b.identifiers []) [c] anchored →
        Yields (ExplainsAll (identifiersIn [] (b :: bs)) [c]) (after anchored) := by
      intro anchored hanchored
      refine .bind (ih hbs) fun rest hrest => .pure ?_
      refine List.forall_mem_append.mpr ⟨List.forall_mem_append.mpr ⟨?_, ?_⟩, ?_⟩
      · exact hexpr.mono (List.subset_append_left _ _) (List.Subset.refl _)
      · exact hanchored.mono (List.subset_append_left _ _) (List.Subset.refl _)
      · exact hrest.mono (List.subset_append_right _ _) (List.Subset.refl _)
    split
    · next n place hname hplace =>
      refine .bind (.any _) fun anchor _ => .bind (.pure ?_) hafter
      obtain ⟨i, hi, rfl, rfl⟩ := exists_identifier_of_base hplace hname
      exact List.forall_mem_singleton.mpr
        ⟨i, hi, rfl, c, List.mem_cons_self, hprotocol, b, hb, hplace, hname⟩
    · exact .bind (.pure .nil) hafter

end

/-! #### Statements -/

mutual

/-- **The identifiers of a statement** account for what a walk over it meets. Bodies of functions
are not walked. -/
theorem explains_stmtSightings (env : Surroundings) :
    ∀ s : Stmt, Yields (ExplainsAll s.identifiers s.statements) (stmtSightings env s)
  | .function s isAsync name params body decorators returns => by
    unfold stmtSightings
    refine .bind (.any _) fun anchor _ => .pure ?_
    have hdecorators := explains_exprsSightings (List.nil_subset env.locals) decorators
    have hparams := explains_paramsSightings (List.nil_subset env.locals) params
    have hreturns := explains_optSightings (List.nil_subset env.locals) returns
    exact ((hdecorators.declared_cons.append hparams).append hreturns).widen
  | .classDef s name bases keywords body decorators => by
    have hdecorators := explains_exprsSightings (List.nil_subset env.locals) decorators
    have hkeywords := explains_keywordsSightings (List.nil_subset env.locals) keywords
    unfold stmtSightings
    dsimp only
    split
    · have hbases := explains_exprsSightings (List.nil_subset env.locals) bases
      exact .pure ((hdecorators.append hbases.seen_cons).append hkeywords).widen
    · refine .bind (.any _) fun anchor _ => ?_
      refine .bind (explains_baseSightings env (.classDef s name bases keywords body decorators) rfl
        (List.Subset.refl bases)) fun bs hbs => ?_
      refine .bind (explains_blockSightings { env with cls := some name } body) fun inside hinside =>
        .pure ?_
      exact ((hdecorators.append hbs.declared_cons).append hkeywords).append hinside
  | .ret _ value =>
    .pure ((explains_optSightings (List.nil_subset _) value).inside (List.nil_subset _))
  | .delete _ targets =>
    .pure ((explains_exprsSightings (List.nil_subset _) targets).inside (List.nil_subset _))
  | .assign _ targets value _ => by
    unfold stmtSightings
    exact .bind (explains_targetSightings env _ targets) fun _ hts =>
      .pure ((hts.append (explains_exprSightings (List.nil_subset _) value)).inside
        (List.nil_subset _))
  | .annAssign _ target hint value _ _ => by
    unfold stmtSightings
    refine .bind (explains_targetSightings env _ [target]) fun _ hts => .pure ?_
    rw [targetIdentifiersIn, targetIdentifiersIn, List.append_nil] at hts
    exact ((hts.append (explains_exprSightings (List.nil_subset _) hint)).append
      (explains_optSightings (List.nil_subset _) value)).inside (List.nil_subset _)
  | .augAssign _ target _ value =>
    .pure (((explains_exprSightings (List.nil_subset _) target).append
      (explains_exprSightings (List.nil_subset _) value)).inside (List.nil_subset _))
  | .forLoop _ _ target iter body orElse => by
    unfold stmtSightings
    have hhead := (explains_exprSightings (List.nil_subset env.locals) target).append
      (explains_exprSightings (List.nil_subset env.locals) iter)
    exact .bind (explains_blockSightings env body) fun _ hbody =>
      .bind (explains_blockSightings env orElse) fun _ helse =>
      .pure (((hhead.append hbody).append helse).inside (List.Subset.refl _))
  | .whileLoop _ test body orElse => by
    unfold stmtSightings
    have htest := explains_exprSightings (List.nil_subset env.locals) test
    exact .bind (explains_blockSightings env body) fun _ hbody =>
      .bind (explains_blockSightings env orElse) fun _ helse =>
      .pure (((htest.append hbody).append helse).inside (List.Subset.refl _))
  | .cond _ test body orElse => by
    unfold stmtSightings
    have htest := explains_exprSightings (List.nil_subset env.locals) test
    exact .bind (explains_blockSightings env body) fun _ hbody =>
      .bind (explains_blockSightings env orElse) fun _ helse =>
      .pure (((htest.append hbody).append helse).inside (List.Subset.refl _))
  | .withBlock _ _ items body => by
    unfold stmtSightings
    exact .bind (explains_blockSightings env body) fun _ hbody =>
      .pure (((explains_withSightings env items).append hbody).inside (List.Subset.refl _))
  | .matchOn _ subject cases => by
    unfold stmtSightings
    exact .bind (explains_casesSightings env cases) fun _ hcases =>
      .pure (((explains_exprSightings (List.nil_subset _) subject).append hcases).inside
        (List.Subset.refl _))
  | .raise _ error cause =>
    .pure (((explains_optSightings (List.nil_subset _) error).append
      (explains_optSightings (List.nil_subset _) cause)).inside (List.nil_subset _))
  | .tryBlock _ _ body handlers orElse finalBody => by
    unfold stmtSightings
    refine .bind (explains_blockSightings env body) fun _ hbody =>
      .bind (explains_handlersSightings env handlers) fun _ hhandlers =>
      .bind (explains_blockSightings env orElse) fun _ helse =>
      .bind (explains_blockSightings env finalBody) fun _ hfinal => .pure ?_
    refine (((hbody.append hhandlers).append helse).append hfinal).inside ?_
    rw [Stmt.inner, List.append_assoc, List.append_assoc]
    exact List.Subset.refl _
  | .assert _ test message =>
    .pure (((explains_exprSightings (List.nil_subset _) test).append
      (explains_optSightings (List.nil_subset _) message)).inside (List.nil_subset _))
  | .expr _ value =>
    .pure ((explains_exprSightings (List.nil_subset _) value).inside (List.nil_subset _))
  | .importNames .. => .pure .nil
  | .importFrom .. => .pure .nil
  | .globals .. => .pure .nil
  | .nonlocals .. => .pure .nil
  | .pass _ => .pure .nil
  | .breakLoop _ => .pure .nil
  | .continueLoop _ => .pure .nil

/-- **The identifiers of a block** account for what a walk over it meets. -/
theorem explains_blockSightings (env : Surroundings) :
    ∀ ss : List Stmt, Yields (ExplainsAll (blockIdentifiers ss) (blockStatements ss))
      (blockSightings env ss)
  | [] => .pure .nil
  | s :: ss => by
    unfold blockSightings
    exact .bind (explains_stmtSightings env s) fun _ hs =>
      .bind (explains_blockSightings env ss) fun _ hss => .pure (hs.append hss)

/-- The handlers of a `try`. -/
theorem explains_handlersSightings (env : Surroundings) :
    ∀ hs : List Handler, Yields (ExplainsAll (handlerIdentifiers hs) (handlerStatements hs))
      (handlersSightings env hs)
  | [] => .pure .nil
  | .mk type _ body :: hs => by
    unfold handlersSightings
    exact .bind (explains_blockSightings env body) fun _ hbody =>
      .bind (explains_handlersSightings env hs) fun _ hrest =>
      .pure (((explains_optSightings (List.nil_subset _) type).append hbody).append hrest)

/-- The cases of a `match`. -/
theorem explains_casesSightings (env : Surroundings) :
    ∀ cs : List Case, Yields (ExplainsAll (caseIdentifiers cs) (caseStatements cs))
      (casesSightings env cs)
  | [] => .pure .nil
  | .mk pattern guard body :: cs => by
    unfold casesSightings
    have hhead := (explains_patternSightings env pattern).append
      (explains_optSightings (List.nil_subset env.locals) guard)
    exact .bind (explains_blockSightings env body) fun _ hbody =>
      .bind (explains_casesSightings env cs) fun _ hcs =>
      .pure ((hhead.append hbody).append hcs)

end

end ApiPage
