import ApiPage.Proofs.Bindings
import ApiPage.Proofs.Printed.Expressions

/-!
# Destinations of links in code

The walk over a declaration meets names and members, and gives some of them a link. Such a link is
that of a name of the module, or goes to the page of an imported module. So what holds of these
holds of every link of an occurrence, wherever in the tree the identifier stands.

## Main definitions

* `LinkTo`: a property of the destinations of all sightings.
* `Surroundings.LinksTo`: a property of all destinations that the surroundings of a walk give.
* `Sighting.Keeps`: a property of what was last met at a place that a sighting keeps.

## Main results

* `linkTo_exprSightings`, `yields_stmtSightings`: what a walk over an expression or a statement
  meets.
* `yields_sights`: the occurrences of a text have what all sightings keep.
* `yields_occurrencesOf`: where the occurrences of a text link to.
-/

namespace ApiPage

open Syntax

variable {S : Text → Prop}

/-! ### Sightings -/

/-- **Sightings that link to `S`**. -/
def LinkTo (S : Text → Prop) (xs : List Sighting) : Prop :=
  ∀ x ∈ xs, ∀ href ∈ x.href?, S href

/-- No sightings have no links. -/
theorem linkTo_nil : LinkTo S [] := List.forall_mem_nil _

/-- The links of two parts. -/
theorem LinkTo.append {xs ys : List Sighting} (hxs : LinkTo S xs) (hys : LinkTo S ys) :
    LinkTo S (xs ++ ys) :=
  List.forall_mem_append.mpr ⟨hxs, hys⟩

/-- The link of one sighting, and those of the others. -/
theorem linkTo_cons {x : Sighting} {xs : List Sighting} :
    LinkTo S (x :: xs) ↔ (∀ href ∈ x.href?, S href) ∧ LinkTo S xs :=
  List.forall_mem_cons

/-- An identifier without a link. -/
theorem linkTo_unlinked {place : Place} {name : Text} {anchor : Option Anchor} {xs : List Sighting}
    (h : LinkTo S xs) : LinkTo S (.identifier place name anchor none :: xs) :=
  linkTo_cons.mpr ⟨fun _ hmem => (nomatch hmem), h⟩

/-- A name that is just seen has no link. -/
theorem linkTo_seen {place : Place} {name : Text} : LinkTo S [seen place name] :=
  linkTo_unlinked linkTo_nil

/-- **Surroundings that link to `S`**: the link of a name does, and so do the links to the page of
an imported module. -/
structure Surroundings.LinksTo (S : Text → Prop) (env : Surroundings) : Prop where
  name : ∀ n, ∀ href ∈ env.href n, S href
  page : ∀ n, ∀ path ∈ env.modulePath? n, ∀ symbol, S (env.resolver.url path symbol)

/-- More local names take links away and give none. -/
theorem Surroundings.LinksTo.bind {env : Surroundings} (h : env.LinksTo S) (names : List Text) :
    (env.bind names).LinksTo S := by
  refine ⟨h.name, fun n path hpath symbol => h.page n path ?_ symbol⟩
  unfold Surroundings.modulePath? at hpath ⊢
  split at hpath
  · cases hpath
  · next hlocal =>
    have hlocal' : ¬env.locals.contains n = true := by
      intro hmem
      refine hlocal ?_
      rw [List.contains_iff_mem] at hmem ⊢
      exact List.mem_append_right names hmem
    rw [if_neg hlocal']
    exact hpath

/-! ### A walk over an expression -/

mutual

/-- **What a walk over an expression meets** links to `S`. Of an attribute only a name may stand for
a module. -/
theorem linkTo_exprSightings {env : Surroundings} (h : env.LinksTo S) :
    ∀ e : Expr, LinkTo S (exprSightings env e)
  | .boolOp _ _ values => linkTo_exprsSightings h values
  | .named _ target value =>
    (linkTo_exprSightings h target).append (linkTo_exprSightings h value)
  | .binary _ left _ right =>
    (linkTo_exprSightings h left).append (linkTo_exprSightings h right)
  | .unary _ _ operand => linkTo_exprSightings h operand
  | .lambda _ params body =>
    have henv := h.bind params.ids
    (linkTo_paramsSightings henv params).append (linkTo_exprSightings henv body)
  | .conditional _ test body orElse =>
    ((linkTo_exprSightings h test).append (linkTo_exprSightings h body)).append
      (linkTo_exprSightings h orElse)
  | .dict _ items => (linkTo_keySightings h items).append (linkTo_valueSightings h items)
  | .set _ items => linkTo_exprsSightings h items
  | .listComp _ item clauses =>
    have henv := h.bind (boundByClauses clauses)
    (linkTo_exprSightings henv item).append (linkTo_clausesSightings henv clauses)
  | .setComp _ item clauses =>
    have henv := h.bind (boundByClauses clauses)
    (linkTo_exprSightings henv item).append (linkTo_clausesSightings henv clauses)
  | .dictComp _ key value clauses =>
    have henv := h.bind (boundByClauses clauses)
    ((linkTo_exprSightings henv key).append (linkTo_exprSightings henv value)).append
      (linkTo_clausesSightings henv clauses)
  | .generator _ item clauses =>
    have henv := h.bind (boundByClauses clauses)
    (linkTo_exprSightings henv item).append (linkTo_clausesSightings henv clauses)
  | .await _ value => linkTo_exprSightings h value
  | .yield _ value => linkTo_optSightings h value
  | .yieldFrom _ value => linkTo_exprSightings h value
  | .compare _ left rest =>
    (linkTo_exprSightings h left).append (linkTo_comparedSightings h rest)
  | .call _ func args keywords =>
    ((linkTo_exprSightings h func).append (linkTo_exprsSightings h args)).append
      (linkTo_keywordsSightings h keywords)
  | .joined .. => linkTo_nil
  | .constant .. => linkTo_nil
  | .attr _ value _ => by
    have hvalue := linkTo_exprSightings h value
    cases value with
    | name n id usage =>
      rw [exprSightings]
      split
      · next path hpath =>
        have hpage := h.page id path hpath
        refine linkTo_cons.mpr ⟨?_, linkTo_cons.mpr ⟨?_, linkTo_nil⟩⟩
        · rintro href ⟨⟩
          exact hpage []
        · rintro href ⟨⟩
          exact hpage _
      · exact hvalue.append linkTo_seen
    | _ => exact hvalue.append linkTo_seen
  | .subscript _ value index =>
    (linkTo_exprSightings h value).append (linkTo_exprSightings h index)
  | .starred _ value => linkTo_exprSightings h value
  | .name _ id _ => by
    rw [exprSightings]
    split
    · exact linkTo_cons.mpr ⟨h.name id, linkTo_nil⟩
    · exact linkTo_seen
  | .list _ items => linkTo_exprsSightings h items
  | .tuple _ items => linkTo_exprsSightings h items
  | .slice _ lower upper step =>
    ((linkTo_optSightings h lower).append (linkTo_optSightings h upper)).append
      (linkTo_optSightings h step)

/-- An expression that may be missing. -/
theorem linkTo_optSightings {env : Surroundings} (h : env.LinksTo S) :
    ∀ o : Option Expr, LinkTo S (optSightings env o)
  | none => linkTo_nil
  | some e => linkTo_exprSightings h e

/-- The elements of a list. -/
theorem linkTo_exprsSightings {env : Surroundings} (h : env.LinksTo S) :
    ∀ es : List Expr, LinkTo S (exprsSightings env es)
  | [] => linkTo_nil
  | e :: es => (linkTo_exprSightings h e).append (linkTo_exprsSightings h es)

/-- The keys of a dictionary. -/
theorem linkTo_keySightings {env : Surroundings} (h : env.LinksTo S) :
    ∀ items : List (Option Expr × Expr), LinkTo S (keySightings env items)
  | [] => linkTo_nil
  | (k, _) :: items => (linkTo_optSightings h k).append (linkTo_keySightings h items)

/-- The values of a dictionary. -/
theorem linkTo_valueSightings {env : Surroundings} (h : env.LinksTo S) :
    ∀ items : List (Option Expr × Expr), LinkTo S (valueSightings env items)
  | [] => linkTo_nil
  | (_, v) :: items => (linkTo_exprSightings h v).append (linkTo_valueSightings h items)

/-- The operands of a comparison. -/
theorem linkTo_comparedSightings {env : Surroundings} (h : env.LinksTo S) :
    ∀ rest : List (CompareOp × Expr), LinkTo S (comparedSightings env rest)
  | [] => linkTo_nil
  | (_, e) :: rest =>
    (linkTo_exprSightings h e).append (linkTo_comparedSightings h rest)

/-- The clauses of a comprehension. -/
theorem linkTo_clausesSightings {env : Surroundings} (h : env.LinksTo S) :
    ∀ cs : List Clause, LinkTo S (clausesSightings env cs)
  | [] => linkTo_nil
  | .mk _ target iter conditions :: cs =>
    (((linkTo_exprSightings h target).append (linkTo_exprSightings h iter)).append
      (linkTo_exprsSightings h conditions)).append (linkTo_clausesSightings h cs)

/-- The keyword arguments of a call. -/
theorem linkTo_keywordsSightings {env : Surroundings} (h : env.LinksTo S) :
    ∀ ks : List Keyword, LinkTo S (keywordsSightings env ks)
  | [] => linkTo_nil
  | .mk _ none value :: ks =>
    (linkTo_exprSightings h value).append (linkTo_keywordsSightings h ks)
  | .mk _ (some _) value :: ks =>
    (linkTo_seen.append (linkTo_exprSightings h value)).append (linkTo_keywordsSightings h ks)

/-- Parameters with their annotations. -/
theorem linkTo_paramSightings {env : Surroundings} (h : env.LinksTo S) :
    ∀ ps : List Param, LinkTo S (paramSightings env ps)
  | [] => linkTo_nil
  | .mk _ _ hint _ :: ps =>
    (linkTo_unlinked (linkTo_optSightings h hint)).append (linkTo_paramSightings h ps)

/-- A parameter that may be missing. -/
theorem linkTo_optParamSightings {env : Surroundings} (h : env.LinksTo S) :
    ∀ p : Option Param, LinkTo S (optParamSightings env p)
  | none => linkTo_nil
  | some (.mk _ _ hint _) => linkTo_unlinked (linkTo_optSightings h hint)

/-- The defaults of parameters. -/
theorem linkTo_defaultSightings {env : Surroundings} (h : env.LinksTo S) :
    ∀ ps : List Param, LinkTo S (defaultSightings env ps)
  | [] => linkTo_nil
  | .mk _ _ _ default :: ps =>
    (linkTo_optSightings h default).append (linkTo_defaultSightings h ps)

/-- A list of parameters. -/
theorem linkTo_paramsSightings {env : Surroundings} (h : env.LinksTo S) :
    ∀ ps : Params, LinkTo S (paramsSightings env ps)
  | .mk positionalOnly positional rest keywordOnly restKeywords => by
    have hpositional := (linkTo_paramSightings h positionalOnly).append
      (linkTo_paramSightings h positional)
    have hrest := hpositional.append (linkTo_optParamSightings h rest)
    have hkeywords := (hrest.append (linkTo_paramSightings h keywordOnly)).append
      (linkTo_defaultSightings h keywordOnly)
    have hall := hkeywords.append (linkTo_optParamSightings h restKeywords)
    exact (hall.append (linkTo_defaultSightings h positionalOnly)).append
      (linkTo_defaultSightings h positional)

end

/-! ### A walk over a statement -/

mutual

/-- The values and classes of a pattern. -/
theorem linkTo_patternSightings {env : Surroundings} (h : env.LinksTo S) :
    ∀ p : Pattern, LinkTo S (patternSightings env p)
  | .value e => linkTo_exprSightings h e
  | .singleton _ => linkTo_nil
  | .sequence ps => linkTo_patternsSightings h ps
  | .mapping keys ps _ => (linkTo_exprsSightings h keys).append (linkTo_patternsSightings h ps)
  | .ofClass cls ps keywords =>
    ((linkTo_exprSightings h cls).append (linkTo_patternsSightings h ps)).append
      (linkTo_memberPatternsSightings h keywords)
  | .star _ => linkTo_nil
  | .capture none _ => linkTo_nil
  | .capture (some p) _ => linkTo_patternSightings h p
  | .either ps => linkTo_patternsSightings h ps

/-- The parts of a pattern. -/
theorem linkTo_patternsSightings {env : Surroundings} (h : env.LinksTo S) :
    ∀ ps : List Pattern, LinkTo S (patternsSightings env ps)
  | [] => linkTo_nil
  | p :: ps => (linkTo_patternSightings h p).append (linkTo_patternsSightings h ps)

/-- The members of a class pattern. -/
theorem linkTo_memberPatternsSightings {env : Surroundings} (h : env.LinksTo S) :
    ∀ ps : List (Text × Pattern), LinkTo S (memberPatternsSightings env ps)
  | [] => linkTo_nil
  | (_, p) :: ps => (linkTo_patternSightings h p).append (linkTo_memberPatternsSightings h ps)

end

section

variable {env : Surroundings}

/-- The items of a `with`. -/
theorem linkTo_withSightings (h : env.LinksTo S) (items : List (Expr × Option Expr)) :
    LinkTo S (withSightings env items) := by
  induction items with
  | nil => exact linkTo_nil
  | cons item items ih =>
    exact ((linkTo_exprSightings h item.1).append (linkTo_optSightings h item.2)).append ih

/-- The names that a target binds carry anchors and no links. -/
theorem yields_boundSightings (s : Stmt) (ns : List BoundName) :
    Yields (LinkTo S) (boundSightings env s ns) := by
  induction ns with
  | nil => exact .pure linkTo_nil
  | cons n ns ih =>
    unfold boundSightings
    extract_lets after
    have hafter : ∀ anchor, True → Yields (LinkTo S) (after anchor) := fun _ _ =>
      .bind ih fun _ hrest => .pure (linkTo_unlinked hrest)
    split
    · exact .bind (.any _) hafter
    · exact .bind (.any _) hafter

/-- The targets of an assignment. -/
theorem yields_targetSightings (h : env.LinksTo S) (s : Stmt) (ts : List Expr) :
    Yields (LinkTo S) (targetSightings env s ts) := by
  induction ts with
  | nil => exact .pure linkTo_nil
  | cons t ts ih =>
    unfold targetSightings
    extract_lets after
    have hafter : ∀ here, LinkTo S here → Yields (LinkTo S) (after here) := fun _ hhere =>
      .bind ih fun _ hrest => .pure (hhere.append hrest)
    split
    · exact .bind (.pure (linkTo_exprSightings h t)) hafter
    · exact .bind (yields_boundSightings s _) hafter

/-- The bases of a class: only the names in them have links. -/
theorem yields_baseSightings (h : env.LinksTo S) (cls : Text) (isProtocol : Bool) (bs : List Expr) :
    Yields (LinkTo S) (baseSightings env cls isProtocol bs) := by
  induction bs with
  | nil => exact .pure linkTo_nil
  | cons b bs ih =>
    unfold baseSightings
    extract_lets after
    have hafter : ∀ anchored, LinkTo S anchored → Yields (LinkTo S) (after anchored) :=
      fun _ hanchored => .bind ih fun _ hrest =>
        .pure (((linkTo_exprSightings h b).append hanchored).append hrest)
    split
    · refine .bind (.any _) fun anchor _ => .bind (.pure ?_) hafter
      exact linkTo_cons.mpr ⟨fun _ hmem => (nomatch hmem), linkTo_nil⟩
    · exact .bind (.pure linkTo_nil) hafter

/-- Inside a class the links are the same. -/
theorem Surroundings.LinksTo.inside (h : env.LinksTo S) (cls : Option Text) :
    Surroundings.LinksTo S { env with cls } :=
  ⟨h.name, h.page⟩

end

mutual

/-- **What a walk over a statement meets** links to `S`. -/
theorem yields_stmtSightings {env : Surroundings} (h : env.LinksTo S) :
    ∀ s : Stmt, Yields (LinkTo S) (stmtSightings env s)
  | .function _ _ name params _ decorators returns => by
    unfold stmtSightings
    refine .bind (.any _) fun anchor _ => .pure ?_
    exact ((linkTo_unlinked (linkTo_exprsSightings h decorators)).append
      (linkTo_paramsSightings h params)).append (linkTo_optSightings h returns)
  | .classDef _ name bases keywords body decorators => by
    have hdecorators := linkTo_exprsSightings h decorators
    have hkeywords := linkTo_keywordsSightings h keywords
    unfold stmtSightings
    dsimp only
    split
    · have hbases := linkTo_exprsSightings h bases
      exact .pure ((hdecorators.append (linkTo_unlinked hbases)).append hkeywords)
    · refine .bind (.any _) fun anchor _ => ?_
      refine .bind (yields_baseSightings h name _ bases) fun bs hbs => ?_
      refine .bind (yields_blockSightings (h.inside (some name)) body) fun inside hinside => ?_
      exact .pure (((hdecorators.append (linkTo_unlinked hbs)).append hkeywords).append hinside)
  | .ret _ value => .pure (linkTo_optSightings h value)
  | .delete _ targets => .pure (linkTo_exprsSightings h targets)
  | .assign _ targets value _ => by
    unfold stmtSightings
    exact .bind (yields_targetSightings h _ targets) fun _ hts =>
      .pure (hts.append (linkTo_exprSightings h value))
  | .annAssign _ target hint value _ _ => by
    unfold stmtSightings
    exact .bind (yields_targetSightings h _ [target]) fun _ hts =>
      .pure ((hts.append (linkTo_exprSightings h hint)).append (linkTo_optSightings h value))
  | .augAssign _ target _ value =>
    .pure ((linkTo_exprSightings h target).append (linkTo_exprSightings h value))
  | .forLoop _ _ target iter body orElse => by
    unfold stmtSightings
    have hhead := (linkTo_exprSightings h target).append (linkTo_exprSightings h iter)
    exact .bind (yields_blockSightings h body) fun _ hbody =>
      .bind (yields_blockSightings h orElse) fun _ helse =>
      .pure ((hhead.append hbody).append helse)
  | .whileLoop _ test body orElse => by
    unfold stmtSightings
    have htest := linkTo_exprSightings h test
    exact .bind (yields_blockSightings h body) fun _ hbody =>
      .bind (yields_blockSightings h orElse) fun _ helse =>
      .pure ((htest.append hbody).append helse)
  | .cond _ test body orElse => by
    unfold stmtSightings
    have htest := linkTo_exprSightings h test
    exact .bind (yields_blockSightings h body) fun _ hbody =>
      .bind (yields_blockSightings h orElse) fun _ helse =>
      .pure ((htest.append hbody).append helse)
  | .withBlock _ _ items body => by
    unfold stmtSightings
    exact .bind (yields_blockSightings h body) fun _ hbody =>
      .pure ((linkTo_withSightings h items).append hbody)
  | .matchOn _ subject cases => by
    unfold stmtSightings
    exact .bind (yields_casesSightings h cases) fun _ hcases =>
      .pure ((linkTo_exprSightings h subject).append hcases)
  | .raise _ error cause =>
    .pure ((linkTo_optSightings h error).append (linkTo_optSightings h cause))
  | .tryBlock _ _ body handlers orElse finalBody => by
    unfold stmtSightings
    exact .bind (yields_blockSightings h body) fun _ hbody =>
      .bind (yields_handlersSightings h handlers) fun _ hhandlers =>
      .bind (yields_blockSightings h orElse) fun _ helse =>
      .bind (yields_blockSightings h finalBody) fun _ hfinal =>
      .pure (((hbody.append hhandlers).append helse).append hfinal)
  | .assert _ test message =>
    .pure ((linkTo_exprSightings h test).append (linkTo_optSightings h message))
  | .expr _ value => .pure (linkTo_exprSightings h value)
  | .importNames .. => .pure linkTo_nil
  | .importFrom .. => .pure linkTo_nil
  | .globals .. => .pure linkTo_nil
  | .nonlocals .. => .pure linkTo_nil
  | .pass _ => .pure linkTo_nil
  | .breakLoop _ => .pure linkTo_nil
  | .continueLoop _ => .pure linkTo_nil

/-- The statements of a block. -/
theorem yields_blockSightings {env : Surroundings} (h : env.LinksTo S) :
    ∀ ss : List Stmt, Yields (LinkTo S) (blockSightings env ss)
  | [] => .pure linkTo_nil
  | s :: ss => by
    unfold blockSightings
    exact .bind (yields_stmtSightings h s) fun _ hs =>
      .bind (yields_blockSightings h ss) fun _ hss => .pure (hs.append hss)

/-- The handlers of a `try`. -/
theorem yields_handlersSightings {env : Surroundings} (h : env.LinksTo S) :
    ∀ hs : List Handler, Yields (LinkTo S) (handlersSightings env hs)
  | [] => .pure linkTo_nil
  | .mk type _ body :: hs => by
    unfold handlersSightings
    exact .bind (yields_blockSightings h body) fun _ hbody =>
      .bind (yields_handlersSightings h hs) fun _ hrest =>
      .pure (((linkTo_optSightings h type).append hbody).append hrest)

/-- The cases of a `match`. -/
theorem yields_casesSightings {env : Surroundings} (h : env.LinksTo S) :
    ∀ cs : List Case, Yields (LinkTo S) (casesSightings env cs)
  | [] => .pure linkTo_nil
  | .mk pattern guard body :: cs => by
    unfold casesSightings
    have hhead := (linkTo_patternSightings h pattern).append (linkTo_optSightings h guard)
    exact .bind (yields_blockSightings h body) fun _ hbody =>
      .bind (yields_casesSightings h cs) fun _ hcs => .pure ((hhead.append hbody).append hcs)

end

/-! ### Occurrences -/

/-- A sight: a place, and what was last met there. -/
abbrev Sight := Place × Text × Option Anchor × Option Text

/-- **What a sighting keeps** of sights with a property: the sight that it makes has it, and an anchor
that it adds takes it from none. -/
def Sighting.Keeps (P : Sight → Prop) : Sighting → Prop
  | identifier place name anchor href => P (place, name, anchor, href)
  | anchored place anchor => ∀ name old href, P (place, name, old, href) →
      P (place, name, some anchor, href)

section

variable {P : Sight → Prop} {sights : Sights}

/-- What holds of all sights holds when one of them is updated so that it still does. -/
theorem forall_mem_updateSight {place : Place}
    {f : Text × Option Anchor × Option Text → Text × Option Anchor × Option Text}
    (hf : ∀ x, P (place, x) → P (place, f x)) (h : ∀ x ∈ sights, P x) :
    ∀ x ∈ updateSight place f sights, P x := by
  induction sights with
  | nil => exact h
  | cons sight sights ih =>
    obtain ⟨hsight, hsights⟩ := List.forall_mem_cons.mp h
    unfold updateSight
    split
    · next hplace =>
      subst hplace
      exact List.forall_mem_cons.mpr ⟨hf _ hsight, hsights⟩
    · exact List.forall_mem_cons.mpr ⟨hsight, ih hsights⟩

/-- **One more sighting** that keeps the property. -/
theorem forall_mem_addSighting (h : ∀ x ∈ sights, P x) {x : Sighting} (hx : x.Keeps P) :
    ∀ y ∈ addSighting sights x, P y := by
  cases x with
  | identifier place name anchor href =>
    have hnew : P (place, name, anchor, href) := hx
    rw [addSighting]
    split
    · exact forall_mem_updateSight (f := fun _ => (name, anchor, href)) (fun _ _ => hnew) h
    · exact List.forall_mem_append.mpr ⟨h, List.forall_mem_singleton.mpr hnew⟩
  | anchored place anchor => exact forall_mem_updateSight (fun x => hx x.1 x.2.1 x.2.2) h

/-- An occurrence is inserted among the others, and nothing else. -/
theorem mem_insertOccurrence {o p : Occurrence} {os : List Occurrence}
    (h : p ∈ insertOccurrence o os) : p = o ∨ p ∈ os := by
  induction os with
  | nil => exact .inl (List.mem_singleton.mp h)
  | cons q os ih =>
    unfold insertOccurrence at h
    split at h
    · exact (List.mem_cons.mp h).imp_right (List.mem_cons_of_mem q)
    · split at h
      · exact List.mem_cons.mp h
      · rcases List.mem_cons.mp h with rfl | h
        · exact .inr List.mem_cons_self
        · exact (ih h).imp_right (List.mem_cons_of_mem q)

/-- The row and column in characters of a place in a text. -/
def positionIn (t : Text) (place : Place) : Nat × Nat :=
  (place.row, (charColumn (Text.lines t) place).toNat)

/-- **The occurrences of a text** are the sights that all sightings keep. -/
theorem yields_sights {scope : Text → Option Binding} {r : Resolver} {receiver : Option Text}
    {t : Text} {ss : List Stmt}
    (h : Yields (fun xs => ∀ x ∈ xs, x.Keeps P) (sightings scope r receiver ss)) :
    Yields (fun os => ∀ o ∈ os, ∃ place, P (place, o.name, o.anchor, o.href) ∧
      (o.row, o.col) = positionIn t place) (occurrencesOf scope r receiver t ss) := by
  unfold occurrencesOf
  refine .bind h fun xs hxs => .pure ?_
  have hsights : ∀ x ∈ xs.foldl addSighting [], P x :=
    List.foldlRecOn (motive := fun sights : Sights => ∀ y ∈ sights, P y) xs _
      (List.forall_mem_nil _) fun _ hs x hx => forall_mem_addSighting hs (hxs x hx)
  refine List.foldlRecOn (motive := fun os : List Occurrence => ∀ o ∈ os, ∃ place,
    P (place, o.name, o.anchor, o.href) ∧ (o.row, o.col) = positionIn t place)
    _ _ (List.forall_mem_nil _) fun os hos x hx o ho => ?_
  rcases mem_insertOccurrence ho with rfl | ho
  · exact ⟨x.1, hsights x hx, rfl⟩
  · exact hos o ho

end

/-- **The occurrences of a text** link to `S`. -/
theorem yields_occurrencesOf {scope : Text → Option Binding} {r : Resolver} {receiver : Option Text}
    (h : Surroundings.LinksTo S ⟨scope, r, receiver, none, []⟩) (t : Text) (ss : List Stmt) :
    Yields (fun os => ∀ o ∈ os, ∀ href ∈ o.href, S href) (occurrencesOf scope r receiver t ss) := by
  have hkeeps : Yields (fun xs => ∀ x ∈ xs, x.Keeps fun sight => ∀ href ∈ sight.2.2.2, S href)
      (sightings scope r receiver ss) := fun xs hxs x hx => by
    have hlink := yields_blockSightings h ss xs hxs x hx
    cases x with
    | identifier => exact hlink
    | anchored => exact fun _ _ _ hold => hold
  intro os hos o ho
  obtain ⟨_, hlink, -⟩ := yields_sights hkeeps os hos o ho
  exact hlink

end ApiPage
