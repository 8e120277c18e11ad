import Mathlib
import ApiPage.Proofs.Identified

/-!
# Targets of links

A page lists the anchors that links within it may point to. The anchors that it has are those of the
occurrences in the texts of its declarations.

## Main definitions

* `Package.Defines`: the page of a package has an anchor.

## Main results

* `exists_target_not_defined`: a field may be a target though its class does not show it.
-/

namespace ApiPage

open Syntax

/-- **The page of a package has an anchor**: it is that of an occurrence in the text of a declaration.
-/
def Package.Defines (p : Package) (r : Resolver) (id : Text) : Prop :=
  ∃ d ∈ p.allDeclarations, ∃ t ss os, d.display p.comments = .ok t ∧ parseModule t = .ok ss ∧
    occurrencesOf p.lookup r d.receiver t ss = .ok os ∧ ∃ o ∈ os, o.anchor.map (·.id) = some id

/-- A class with two fields, of which the first is assigned together with a private name. -/
def hiddenField : Text := Text.of "class C:\n    a, _b = 1, 2\n    x = 1\n"

/-- **A target that the page does not have**: the class shows no assignment of a private name. -/
theorem exists_target_not_defined :
    ∃ p, Package.ofSource (Text.of "m") hiddenField = .ok p ∧
      Text.of "C.a" ∈ p.anchorTargets ∧ ¬ p.Defines Resolver.empty (Text.of "C.a") := by
  have hcheck : (Package.ofSource (Text.of "m") hiddenField).toOption.any (fun p =>
      p.anchorTargets.contains (Text.of "C.a") && p.allDeclarations.all fun d =>
        (d.display p.comments).toOption.all fun t => (parseModule t).toOption.all fun ss =>
        (occurrencesOf p.lookup Resolver.empty d.receiver t ss).toOption.all fun os =>
        os.all fun o => o.anchor.map (·.id) != some (Text.of "C.a")) = true := by
    decide +kernel
  obtain ⟨p, hp, hcheck⟩ := (Option.any_eq_true _ _).mp hcheck
  obtain ⟨htarget, hall⟩ := Bool.and_eq_true_iff.mp hcheck
  refine ⟨p, eq_ok_of_toOption hp, List.contains_iff_mem.mp htarget, ?_⟩
  rintro ⟨d, hd, t, ss, os, ht, hss, hos, o, ho, hid⟩
  have hno := List.all_eq_true.mp hall d hd
  rw [ht] at hno
  simp only [Except.toOption, Option.all_some] at hno
  rw [hss] at hno
  simp only [Option.all_some] at hno
  rw [hos] at hno
  simp only [Option.all_some] at hno
  simpa [hid] using List.all_eq_true.mp hno o ho

end ApiPage
