import Mathlib
import ApiPage.Proofs.Displayed
import ApiPage.Proofs.Elided
import ApiPage.Proofs.Identified
import ApiPage.Proofs.Loaded

/-!
# Failures of rendering

A declaration whose text cannot be formatted is rendered as the reason in brackets. Some failures
escape all the same: a literal may have no encoding or no printed form, and a name may have
characters that no anchor has. Nothing else does, since the text of a loaded declaration holds no
null character.

## Main results

* `nul_notMem_shownText`: there is no null character in the text of a declaration.
* `declHtml_error_iff`: what escapes when a declaration is rendered.
* `exists_encoding_failure`: a surrogate in a string does.
-/

namespace ApiPage

open Syntax

/-! ### Null characters -/

/-- A character but the null one. -/
abbrev NotNull (c : Char) : Prop := c ≠ '\x00'

instance : AdmitsLayout NotNull where
  plain := by rintro c hc rfl; exact absurd hc (by decide)
  newline := by decide
  tab := by decide

/-- Text without a null character is not refused for one. -/
theorem parseModule_ne_nullCharacter {t : Text} (h : '\x00' ∉ t) :
    parseModule t ≠ .error .nullCharacter := by
  have hnone : t.any (· == '\x00') = false := by
    refine List.any_eq_false.mpr fun c hc heq => h ?_
    rwa [← beq_iff_eq.mp heq]
  unfold parseModule
  rw [hnone, if_neg Bool.false_ne_true]
  dsimp only
  split <;> simp

section

variable {path source : Text} {p : Package} {d : Declaration} {o : Options}

/-- **The text of a loaded declaration** has no null character. -/
theorem nul_notMem_shownText (hp : Package.ofSource path source = .ok p)
    (hd : d ∈ p.allDeclarations) {l : Limits} {t : Text} (ht : shownText l p.comments d = .ok t) :
    '\x00' ∉ t := by
  obtain ⟨ss, cs, hss, hcs, rfl⟩ := Package.exists_of_ofSource hp
  have hof := Package.of_mem_allDeclarations hd
  have hcomments : cs.MadeOf NotNull :=
    Comments.madeOf_ofText hcs (madeOf_ne.mpr (nul_notMem_of_parseModule hss))
  have hnamed : Named NotNull (blockMentions d.stmts) := hof.named (by decide) hss
  unfold shownText at ht
  split at ht
  · cases ht
  · next d' hd' =>
    split at ht
    · cases ht
    · next t' ht' =>
      obtain rfl := Except.ok.inj ht
      exact madeOf_ne.mp (yields_display hcomments (proper_of_elide hd' hof.proper)
        (named_of_elide hd' hnamed) _ ht')

/-! ### What escapes -/

variable {scope : Text → Option Binding} {r : Resolver} {cs : Comments}

/-- A text without a null character fails to be annotated since it cannot be formatted, or since one
of its names has no anchor. -/
theorem error_of_declarationLines {t : Text} {e : Failure} (ht : shownText o.limits cs d = .ok t)
    (hnul : '\x00' ∉ t) (h : declarationLines scope r o cs d = .error e) :
    (∃ f, e = .format f) ∨ ∃ ss i, parseModule t = .ok ss ∧
      occurrencesOf scope r d.receiver t ss = .error i ∧ e = .identifier i := by
  unfold declarationLines at h
  rw [ht] at h
  dsimp only [bind, Except.bind, pure, Except.pure, throw, throwThe, MonadExceptOf.throw] at h
  split at h
  · next ss hss =>
    split at h
    · split at h
      · cases h
      · exact .inl ⟨_, (Except.error.inj h).symm⟩
    · next i hi => exact .inr ⟨ss, i, hss, hi, (Except.error.inj h).symm⟩
  · next hnull => exact absurd hnull (parseModule_ne_nullCharacter hnul)
  · exact .inl ⟨_, (Except.error.inj h).symm⟩

/-- Where the text cannot be shown, its failure is given. -/
theorem declarationLines_eq_error_of_shownText {e : Failure}
    (h : shownText o.limits cs d = .error e) : declarationLines scope r o cs d = .error e := by
  unfold declarationLines
  rw [h]
  rfl

/-- Where an identifier of the text is refused, that is the failure. -/
theorem declarationLines_eq_identifier {t : Text} {ss : List Stmt} {i : IdentifierError}
    (ht : shownText o.limits cs d = .ok t) (hss : parseModule t = .ok ss)
    (hi : occurrencesOf scope r d.receiver t ss = .error i) :
    declarationLines scope r o cs d = .error (.identifier i) := by
  unfold declarationLines
  rw [ht]
  dsimp only [bind, Except.bind]
  rw [hss]
  dsimp only [pure, Except.pure]
  rw [hi]
  rfl

/-- **A declaration is not shown** since a string in it has no encoding, or since a literal has no
printed form. -/
theorem error_of_shownText {l : Limits} {e : Failure} (h : shownText l cs d = .error e) :
    (∃ x, e = .encoding x ∧ d.elide l = .error x) ∨
      ∃ x d', e = .print x ∧ d.elide l = .ok d' ∧ d'.display cs = .error x := by
  unfold shownText at h
  split at h
  · next x hx => exact .inl ⟨x, (Except.error.inj h).symm, hx⟩
  · next d' hd' =>
    split at h
    · next x hx => exact .inr ⟨x, d', (Except.error.inj h).symm, hd', hx⟩
    · cases h

/-- What cannot be formatted does not escape, and all else does. -/
theorem declHtml_eq_error_iff {r : Renderer} {doc : Text} {e : Failure} :
    (r.declHtml doc cs d).1 = .error e ↔
      declarationLines r.package.lookup r.resolver r.options cs d = .error e ∧
        ∀ f, e ≠ .format f := by
  unfold Renderer.declHtml
  dsimp only
  split
  · next h => simp [h]
  · next f h =>
    rw [h]
    constructor
    · rintro ⟨⟩
    · rintro ⟨he, hformat⟩
      exact absurd (Except.error.inj he).symm (hformat f)
  · next e' hformat h =>
    rw [h]
    constructor
    · rintro ⟨⟩
      exact ⟨rfl, fun f hf => hformat f hf⟩
    · rintro ⟨⟨⟩, -⟩
      rfl

/-- **What escapes** is a failure to show the declaration, or a name that makes no anchor. -/
theorem declHtml_error_iff (hp : Package.ofSource path source = .ok p)
    (hd : d ∈ p.allDeclarations) (o : Options) (doc : Text) (e : Failure) :
    (Renderer.declHtml ⟨p, o⟩ doc p.comments d).1 = .error e ↔
      shownText o.limits p.comments d = .error e ∨
      ∃ t ss i, shownText o.limits p.comments d = .ok t ∧ parseModule t = .ok ss ∧
        occurrencesOf p.lookup (Renderer.resolver ⟨p, o⟩) d.receiver t ss = .error i ∧
        e = .identifier i := by
  rw [declHtml_eq_error_iff]
  constructor
  · rintro ⟨h, hformat⟩
    cases ht : shownText o.limits p.comments d with
    | error f =>
      obtain rfl : f = e :=
        Except.error.inj ((declarationLines_eq_error_of_shownText ht).symm.trans h)
      exact .inl rfl
    | ok t =>
      rcases error_of_declarationLines ht (nul_notMem_shownText hp hd ht) h with ⟨f, hf⟩ | hi
      · exact absurd hf (hformat f)
      · obtain ⟨ss, i, hss, hi, he⟩ := hi
        exact .inr ⟨t, ss, i, rfl, hss, hi, he⟩
  · rintro (h | ⟨t, ss, i, ht, hss, hi, rfl⟩)
    · refine ⟨declarationLines_eq_error_of_shownText h, fun f hf => ?_⟩
      rcases error_of_shownText h with ⟨x, hx, -⟩ | ⟨x, d', hx, -⟩
      · exact nomatch hx.symm.trans hf
      · exact nomatch hx.symm.trans hf
    · exact ⟨declarationLines_eq_identifier ht hss hi, fun f hf => nomatch hf⟩

end

/-- **Nothing escapes** from a class with a comment, whatever its documentation. -/
theorem declHtml_error_iff_commentedClass :
    ∃ p d, Package.ofSource (Text.of "m") commentedClass = .ok p ∧ d ∈ p.allDeclarations ∧
      ∀ doc e, (Renderer.declHtml ⟨p, plainOptions⟩ doc p.comments d).1 ≠ .error e := by
  obtain ⟨p, d, html, hp, hd, hhtml⟩ := exists_commentedClass
  obtain ⟨lines, hlines, -⟩ := bind_eq_ok.mp hhtml
  obtain ⟨t, ss, os, ls, ht, hss, hos, -, -⟩ := exists_of_declarationLines hlines
  refine ⟨p, d, hp, hd, fun doc e he => ?_⟩
  rcases (declHtml_error_iff hp hd plainOptions doc e).mp he with herror | hbad
  · rw [ht] at herror
    cases herror
  · obtain ⟨t', ss', i, ht', hss', hi, -⟩ := hbad
    obtain rfl : t = t' := Except.ok.inj (ht.symm.trans ht')
    obtain rfl : ss = ss' := Except.ok.inj (hss.symm.trans hss')
    rw [hos] at hi
    cases hi

/-! ### A string without encoding -/

/-- A string that is half of a pair. -/
def loneSurrogate : Text := Text.of "x = '\\ud800'\n"

/-- **A surrogate in a string escapes**: the size of the string cannot be told. -/
theorem exists_encoding_failure :
    ∃ p d e, Package.ofSource (Text.of "m") loneSurrogate = .ok p ∧ d ∈ p.allDeclarations ∧
      (Renderer.declHtml ⟨p, plainOptions⟩ [] p.comments d).1 = .error (.encoding e) := by
  have hcheck : ((Package.ofSource (Text.of "m") loneSurrogate).toOption.bind fun p =>
      p.allDeclarations.find? fun d =>
        match (Renderer.declHtml ⟨p, plainOptions⟩ [] p.comments d).1 with
        | .error (.encoding _) => true
        | _ => false).isSome = true := by
    decide +kernel
  obtain ⟨d, hd⟩ := Option.isSome_iff_exists.mp hcheck
  obtain ⟨p, hp, hfind⟩ := Option.bind_eq_some_iff.mp hd
  have he := List.find?_some hfind
  split at he
  · next e he' => exact ⟨p, d, e, eq_ok_of_toOption hp, List.mem_of_find?_eq_some hfind, he'⟩
  · cases he

end ApiPage
