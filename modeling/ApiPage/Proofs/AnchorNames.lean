import Mathlib
import ApiPage.Proofs.Failures

/-!
# Names of anchors

The identifier of an anchor is a name of the text, or two with a point between. What is accepted in
a name and what is accepted in an identifier are told by different tables: of the characters of
ASCII both accept the same, of the others some are accepted in names alone. So a walk over the text
of a declaration fails at none but such a character.

## Main definitions

* `Fails`: what holds of the error of an outcome.
* `InName`: a character of a name in a text.

## Main results

* `fails_blockSightings`: a walk fails at a character of a name that it meets.
* `declHtml_identifier_error`: where the rendering of a declaration fails at a name.
* `exists_identifier_error`: it does fail at a sign that combines with a letter.
-/

namespace ApiPage

open Syntax

/-- **What the error of an outcome is**, if it is one. -/
def Fails {ε α : Type} (Q : ε → Prop) (r : Except ε α) : Prop := ∀ e, r = .error e → Q e

namespace Fails

variable {ε α β : Type} {Q : ε → Prop}

/-- A value that is given does not fail. -/
theorem pure {a : α} : Fails Q (pure a : Except ε α) := fun _ he => nomatch he

/-- **One part after another**: each fails as it does by itself. -/
theorem bind {r : Except ε α} {f : α → Except ε β} (hr : Fails Q r) (hf : ∀ a, Fails Q (f a)) :
    Fails Q (r >>= f) := by
  intro e he
  cases r with
  | error e' => exact hr e (congrArg _ (Except.error.inj he))
  | ok a => exact hf a e he

end Fails

/-! ### Names of targets and bases -/

variable {P : Char → Prop}

mutual

/-- The names that a target binds are names that it mentions. -/
theorem madeOf_boundNames :
    ∀ e : Expr, Named P e.mentions → ∀ n ∈ e.boundNames, MadeOf P n.name
  | .name _ id _, h, n, hn => by
    obtain rfl := List.mem_singleton.mp hn
    exact (named_cons.mp h).1
  | .tuple _ es, h, n, hn => madeOf_boundNamesIn es h n hn
  | .list _ es, h, n, hn => madeOf_boundNamesIn es h n hn
  | .starred _ e, h, n, hn => madeOf_boundNames e h n hn

/-- The names that some targets bind are names that they mention. -/
theorem madeOf_boundNamesIn :
    ∀ es : List Expr, Named P (mentionsIn es) → ∀ n ∈ boundNamesIn es, MadeOf P n.name
  | e :: es, h, n, hn => by
    obtain ⟨he, hes⟩ := named_append.mp h
    rcases List.mem_append.mp hn with hn | hn
    · exact madeOf_boundNames e he n hn
    · exact madeOf_boundNamesIn es hes n hn

end

/-- The name of a base is one that it mentions. -/
theorem madeOf_baseName : ∀ {e : Expr}, Named P e.mentions → ∀ {n : Text},
    e.baseName? = some n → MadeOf P n
  | .subscript .., h, _, hn => madeOf_baseName (named_append.mp h).1 hn
  | .name .., h, _, hn => Option.some.inj hn ▸ (named_cons.mp h).1
  | .attr .., h, _, hn => Option.some.inj hn ▸ (named_cons.mp (named_append.mp h).2).1

/-! ### Anchors -/

/-- **A character that identifiers do not have**, of a name. -/
def Blames (P : Char → Prop) (e : IdentifierError) : Prop := P e.char ∧ isIdChar e.char = false

/-- An identifier is refused for a character of it that is no identifier character. -/
theorem fails_safeId {id : Text} (h : ∀ c ∈ id, isIdChar c = false → P c) :
    Fails (Blames P) (safeId id) := by
  intro e he
  unfold safeId at he
  split at he
  · next c hc =>
    obtain rfl := Except.error.inj he
    have hbad : isIdChar c = false := by simpa using List.find?_some hc
    exact ⟨h c (List.mem_of_find?_eq_some hc) hbad, hbad⟩
  · cases he

/-- An anchor is refused for a character of its name. -/
theorem fails_anchor {name : Text} {kind : Kind} (h : MadeOf P name) :
    Fails (Blames P) (Anchor.of name kind) :=
  .bind (fails_safeId fun c hc _ => h c hc) fun _ => .pure

/-- The point between two names is no such character. -/
theorem fails_memberAnchor {c m : Text} {kind : Kind} (hc : MadeOf P c) (hm : MadeOf P m) :
    Fails (Blames P) (Anchor.of (Declaration.memberId c m) kind) := by
  refine .bind (fails_safeId fun d hd hbad => ?_) fun _ => .pure
  rcases List.mem_append.mp hd with hd | hd
  · exact hc d hd
  · rcases List.mem_cons.mp hd with rfl | hd
    · exact absurd hbad (by decide)
    · exact hm d hd

/-! ### A walk -/

/-- **Surroundings of a walk** whose classes are made of characters with a property. -/
structure Surroundings.Named (P : Char → Prop) (env : Surroundings) : Prop where
  receiver : ∀ r ∈ env.receiver, MadeOf P r
  cls : ∀ c ∈ env.cls, MadeOf P c

section

variable {env : Surroundings}

/-- The names that a statement binds. -/
theorem fails_boundSightings (henv : env.Named P) (s : Stmt) {ns : List BoundName}
    (h : ∀ n ∈ ns, MadeOf P n.name) : Fails (Blames P) (boundSightings env s ns) := by
  induction ns with
  | nil => exact .pure
  | cons n ns ih =>
    obtain ⟨hn, hns⟩ := List.forall_mem_cons.mp h
    unfold boundSightings
    extract_lets after
    have hafter : ∀ anchor, Fails (Blames P) (after anchor) := fun _ =>
      .bind (ih hns) fun _ => .pure
    split
    · next c hc => exact .bind (fails_memberAnchor (henv.cls c hc) hn) hafter
    · exact .bind (fails_anchor hn) hafter

/-- The targets of an assignment. -/
theorem fails_targetSightings (henv : env.Named P) (s : Stmt) {ts : List Expr}
    (h : Named P (mentionsIn ts)) : Fails (Blames P) (targetSightings env s ts) := by
  induction ts with
  | nil => exact .pure
  | cons t ts ih =>
    obtain ⟨ht, hts⟩ := named_append.mp h
    unfold targetSightings
    extract_lets after
    have hafter : ∀ here, Fails (Blames P) (after here) := fun _ => .bind (ih hts) fun _ => .pure
    split
    · exact .bind .pure hafter
    · exact .bind (fails_boundSightings henv s (madeOf_boundNames t ht)) hafter

/-- The bases of a class. -/
theorem fails_baseSightings {cls : Text} {isProtocol : Bool} (hcls : MadeOf P cls)
    {bs : List Expr} (h : Named P (mentionsIn bs)) :
    Fails (Blames P) (baseSightings env cls isProtocol bs) := by
  induction bs with
  | nil => exact .pure
  | cons b bs ih =>
    obtain ⟨hb, hbs⟩ := named_append.mp h
    unfold baseSightings
    extract_lets after
    have hafter : ∀ anchored, Fails (Blames P) (after anchored) := fun _ =>
      .bind (ih hbs) fun _ => .pure
    split
    · next n place hn _ =>
      exact .bind (fails_memberAnchor hcls (madeOf_baseName hb hn)) fun _ => .bind .pure hafter
    · exact .bind .pure hafter

/-- The anchor of a function, in a class or outside. -/
theorem fails_functionAnchor (henv : env.Named P) {name : Text} (h : MadeOf P name) :
    Fails (Blames P) (functionAnchor env name) := by
  unfold functionAnchor
  split
  · next c hc => exact fails_memberAnchor (henv.cls c hc) h
  · next r _ hr =>
    split
    · exact fails_anchor h
    · exact fails_memberAnchor (henv.receiver r hr) h
  · exact fails_anchor h

mutual

/-- **A walk over a statement** fails at a character of a name. -/
theorem fails_stmtSightings {env : Surroundings} (henv : env.Named P) :
    ∀ s : Stmt, Named P s.mentions → Fails (Blames P) (stmtSightings env s)
  | .function _ _ name _ _ _ _, h => by
    unfold stmtSightings
    have hname := (named_cons.mp (named_append.mp (named_append.mp (named_append.mp h).1).1).1).1
    exact .bind (fails_functionAnchor henv hname) fun _ => .pure
  | .classDef _ name bases keywords body _, h => by
    obtain ⟨h, hbody⟩ := named_append.mp h
    obtain ⟨h, -⟩ := named_append.mp h
    obtain ⟨h, hbases⟩ := named_append.mp h
    obtain ⟨hname, -⟩ := named_cons.mp h
    unfold stmtSightings
    dsimp only
    split
    · exact .pure
    · have hinside : Surroundings.Named P { env with cls := some name } :=
        ⟨henv.receiver, fun c hc => Option.some.inj hc ▸ hname⟩
      exact .bind (fails_anchor hname) fun _ => .bind (fails_baseSightings hname hbases) fun _ =>
        .bind (fails_blockSightings hinside body hbody) fun _ => .pure
  | .ret .., _ => .pure
  | .delete .., _ => .pure
  | .assign _ _ _ _, h => by
    unfold stmtSightings
    exact .bind (fails_targetSightings henv _ (named_append.mp h).1) fun _ => .pure
  | .annAssign _ target _ _ _ _, h => by
    obtain ⟨htarget, -⟩ := named_append.mp (named_append.mp h).1
    unfold stmtSightings
    exact .bind (fails_targetSightings henv _ (named_append.mpr ⟨htarget, named_nil⟩)) fun _ =>
      .pure
  | .augAssign .., _ => .pure
  | .forLoop _ _ _ _ body orElse, h => by
    obtain ⟨h, helse⟩ := named_append.mp h
    unfold stmtSightings
    exact .bind (fails_blockSightings henv body (named_append.mp h).2) fun _ =>
      .bind (fails_blockSightings henv orElse helse) fun _ => .pure
  | .whileLoop _ _ body orElse, h => by
    obtain ⟨h, helse⟩ := named_append.mp h
    unfold stmtSightings
    exact .bind (fails_blockSightings henv body (named_append.mp h).2) fun _ =>
      .bind (fails_blockSightings henv orElse helse) fun _ => .pure
  | .cond _ _ body orElse, h => by
    obtain ⟨h, helse⟩ := named_append.mp h
    unfold stmtSightings
    exact .bind (fails_blockSightings henv body (named_append.mp h).2) fun _ =>
      .bind (fails_blockSightings henv orElse helse) fun _ => .pure
  | .withBlock _ _ _ body, h => by
    unfold stmtSightings
    exact .bind (fails_blockSightings henv body (named_append.mp h).2) fun _ => .pure
  | .matchOn _ _ cases, h => by
    unfold stmtSightings
    exact .bind (fails_casesSightings henv cases (named_append.mp h).2) fun _ => .pure
  | .raise .., _ => .pure
  | .tryBlock _ _ body handlers orElse finalBody, h => by
    obtain ⟨h, hfinal⟩ := named_append.mp h
    obtain ⟨h, helse⟩ := named_append.mp h
    obtain ⟨hbody, hhandlers⟩ := named_append.mp h
    unfold stmtSightings
    exact .bind (fails_blockSightings henv body hbody) fun _ =>
      .bind (fails_handlersSightings henv handlers hhandlers) fun _ =>
      .bind (fails_blockSightings henv orElse helse) fun _ =>
      .bind (fails_blockSightings henv finalBody hfinal) fun _ => .pure
  | .assert .., _ => .pure
  | .importNames .., _ => .pure
  | .importFrom .., _ => .pure
  | .globals .., _ => .pure
  | .nonlocals .., _ => .pure
  | .expr .., _ => .pure
  | .pass _, _ => .pure
  | .breakLoop _, _ => .pure
  | .continueLoop _, _ => .pure

/-- **A walk over statements** fails at a character of a name. -/
theorem fails_blockSightings {env : Surroundings} (henv : env.Named P) :
    ∀ ss : List Stmt, Named P (blockMentions ss) → Fails (Blames P) (blockSightings env ss)
  | [], _ => .pure
  | s :: ss, h => by
    obtain ⟨hs, hss⟩ := named_append.mp h
    unfold blockSightings
    exact .bind (fails_stmtSightings henv s hs) fun _ =>
      .bind (fails_blockSightings henv ss hss) fun _ => .pure

/-- The handlers of a `try`. -/
theorem fails_handlersSightings {env : Surroundings} (henv : env.Named P) :
    ∀ hs : List Handler, Named P (handlerMentions hs) →
      Fails (Blames P) (handlersSightings env hs)
  | [], _ => .pure
  | .mk _ _ body :: hs, h => by
    obtain ⟨h, hhs⟩ := named_append.mp h
    unfold handlersSightings
    exact .bind (fails_blockSightings henv body (named_append.mp h).2) fun _ =>
      .bind (fails_handlersSightings henv hs hhs) fun _ => .pure

/-- The cases of a `match`. -/
theorem fails_casesSightings {env : Surroundings} (henv : env.Named P) :
    ∀ cs : List Case, Named P (caseMentions cs) → Fails (Blames P) (casesSightings env cs)
  | [], _ => .pure
  | .mk _ _ body :: cs, h => by
    obtain ⟨h, hcs⟩ := named_append.mp h
    unfold casesSightings
    exact .bind (fails_blockSightings henv body (named_append.mp h).2) fun _ =>
      .bind (fails_casesSightings henv cs hcs) fun _ => .pure

end

/-- **The occurrences of a text** fail at a character of a name of its statements, or of the class
that the declaration belongs to. -/
theorem fails_occurrencesOf {scope : Text → Option Binding} {resolver : Resolver}
    {receiver : Option Text} {t : Text} {ss : List Stmt} (hreceiver : ∀ r ∈ receiver, MadeOf P r)
    (h : Named P (blockMentions ss)) :
    Fails (Blames P) (occurrencesOf scope resolver receiver t ss) :=
  .bind (fails_blockSightings ⟨hreceiver, fun _ hc => absurd hc (Option.not_mem_none _)⟩ ss h)
    fun _ => .pure

end

/-! ### Characters of names -/

/-- **A character of a name** in a text. -/
def InName (t : Text) (c : Char) : Prop :=
  ∃ tok ∈ tokenize 1 t, tok.mention?.isSome ∧ c ∈ tok.nameText

/-- The names of a module are made of characters that stand in names of its source. -/
theorem madeOf_inName {t : Text} {ss : List Stmt} (h : parseModule t = .ok ss) {x : Mention}
    (hx : x ∈ blockMentions ss) : MadeOf (InName t) x.2 := by
  obtain ⟨tok, htok, hmention, hname⟩ := exists_token_of_mention h (blockMentions_eq ss ▸ hx)
  exact fun c hc => ⟨tok, htok, hmention, hname ▸ hc⟩

/-- A name character of ASCII is a word character. -/
theorem isWord_of_isUnsigned {n : Nat} (h : Text.isUnsigned n = true) (hlt : n < 128) :
    Text.isWord n = true := by
  simp only [Text.isUnsigned, Text.isNameContinue, if_pos hlt, Bool.or_eq_true] at h
  simp only [Text.isWord, Text.isAlnum, Text.isAlpha, Text.isDigit, Text.isDecimal, if_pos hlt,
    Bool.or_eq_true]
  tauto

/-- A character of a name that identifiers do not have is none of ASCII. -/
theorem not_ascii_of_inName {t : Text} {c : Char} (h : InName t c) (hbad : isIdChar c = false) :
    128 ≤ c.toNat ∧ Text.isWord c.toNat = false := by
  obtain ⟨tok, htok, -, hc⟩ := h
  obtain ⟨-, hword⟩ := Bool.or_eq_false_iff.mp hbad
  refine ⟨?_, hword⟩
  by_contra hlt
  rw [isWord_of_isUnsigned (isUnsigned_of_mem_tokenize htok c hc) (by omega)] at hword
  cases hword

variable {path source : Text} {p : Package} {d : Declaration} {o : Options} {doc : Text}

/-- **The rendering of a declaration fails at a name** only where a name of its text, or the name of
its class, has a character beyond ASCII that is no word character. No other name is ever blamed. -/
theorem declHtml_identifier_error (hp : Package.ofSource path source = .ok p)
    (hd : d ∈ p.allDeclarations) {e : IdentifierError}
    (h : (Renderer.declHtml ⟨p, o⟩ doc p.comments d).1 = .error (.identifier e)) :
    128 ≤ e.char.toNat ∧ Text.isWord e.char.toNat = false ∧
      ∃ t, shownText o.limits p.comments d = .ok t ∧
        (InName t e.char ∨ d.receiver.isSome ∧ InName source e.char) := by
  obtain ⟨h, -⟩ := declHtml_eq_error_iff.mp h
  dsimp only at h
  cases ht : shownText o.limits p.comments d with
  | error f =>
    rw [declarationLines_eq_error_of_shownText ht] at h
    obtain rfl := Except.error.inj h
    rcases error_of_shownText ht with ⟨x, hx, -⟩ | ⟨x, d', hx, -⟩
    · cases hx
    · cases hx
  | ok t =>
    rcases error_of_declarationLines ht (nul_notMem_shownText hp hd ht) h with ⟨f, hf⟩ | hi
    · cases hf
    · obtain ⟨ss, i, hss, hi, he⟩ := hi
      obtain rfl := Failure.identifier.inj he
      obtain ⟨us, cs, hus, -, rfl⟩ := Package.exists_of_ofSource hp
      have hblames : Blames (fun c => InName t c ∨ d.receiver.isSome ∧ InName source c) e := by
        refine fails_occurrencesOf (fun r hr => ?_) (fun x hx => ?_) e hi
        · obtain ⟨x, hx, rfl⟩ := (Package.of_mem_allDeclarations hd).receiver r hr
          exact fun c hc => .inr ⟨by rw [hr]; rfl, madeOf_inName hus hx c hc⟩
        · exact fun c hc => .inl (madeOf_inName hss hx c hc)
      obtain ⟨hin, hbad⟩ := hblames
      obtain ⟨hascii, hword⟩ : 128 ≤ e.char.toNat ∧ Text.isWord e.char.toNat = false := by
        rcases hin with hin | ⟨-, hin⟩
        · exact not_ascii_of_inName hin hbad
        · exact not_ascii_of_inName hin hbad
      exact ⟨hascii, hword, t, rfl, hin⟩

/-! ### A sign that combines with a letter -/

/-- A name of a letter and the sign of its vowel. -/
def combiningName : Text := Text.of "\u0915\u093f = 1\n"

/-- **The lines of the declaration fail** at the sign. -/
theorem exists_combiningName :
    ∃ p d e, Package.ofSource (Text.of "m") combiningName = .ok p ∧ d ∈ p.allDeclarations ∧
      declarationLines p.lookup (Renderer.resolver ⟨p, plainOptions⟩) plainOptions p.comments d =
        .error (.identifier e) := by
  have hcheck : ((Package.ofSource (Text.of "m") combiningName).toOption.bind fun p =>
      p.allDeclarations.find? fun d =>
        match declarationLines p.lookup (Renderer.resolver ⟨p, plainOptions⟩) plainOptions
          p.comments d with
        | .error (.identifier _) => true
        | _ => false).isSome = true := by
    decide +kernel
  obtain ⟨d, hd⟩ := Option.isSome_iff_exists.mp hcheck
  obtain ⟨p, hp, hfind⟩ := Option.bind_eq_some_iff.mp hd
  have he := List.find?_some hfind
  split at he
  · next e he' => exact ⟨p, d, e, eq_ok_of_toOption hp, List.mem_of_find?_eq_some hfind, he'⟩
  · cases he

/-- **A name that is accepted makes no anchor**, so its declaration is not rendered. -/
theorem exists_identifier_error :
    ∃ p d e, Package.ofSource (Text.of "m") combiningName = .ok p ∧ d ∈ p.allDeclarations ∧
      ∀ doc, (Renderer.declHtml ⟨p, plainOptions⟩ doc p.comments d).1 = .error (.identifier e) := by
  obtain ⟨p, d, e, hp, hd, he⟩ := exists_combiningName
  exact ⟨p, d, e, hp, hd, fun doc => declHtml_eq_error_iff.mpr ⟨he, fun f hf => nomatch hf⟩⟩

/-- A name with a vowel sign is refused for the sign. -/
theorem declHtml_identifier_error_combiningName :
    ∃ p d e, Package.ofSource (Text.of "m") combiningName = .ok p ∧ d ∈ p.allDeclarations ∧
      (Renderer.declHtml ⟨p, plainOptions⟩ [] p.comments d).1 = .error (.identifier e) ∧
      128 ≤ e.char.toNat ∧ Text.isWord e.char.toNat = false ∧
      ∃ t, shownText plainOptions.limits p.comments d = .ok t ∧
        (InName t e.char ∨ d.receiver.isSome ∧ InName combiningName e.char) := by
  obtain ⟨p, d, e, hp, hd, he⟩ := exists_combiningName
  have hfails : (Renderer.declHtml ⟨p, plainOptions⟩ [] p.comments d).1 =
      .error (.identifier e) := declHtml_eq_error_iff.mpr ⟨he, fun f hf => nomatch hf⟩
  exact ⟨p, d, e, hp, hd, hfails, declHtml_identifier_error hp hd hfails⟩

end ApiPage
