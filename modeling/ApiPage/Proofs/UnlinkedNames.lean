import ApiPage.Proofs.Destinations
import ApiPage.Proofs.Identified
import ApiPage.Proofs.Roles

/-!
# Names that are not linked

A page links a name only where it is read and nothing around it binds it. The identifiers of a tree
account for the occurrences of its text; where they stand at different positions, an occurrence is
that of one identifier and is linked only if the role of the identifier allows it.

## Main definitions

* `ExplainsSight`: identifiers that account for what was last met at a place.

## Main results

* `keeps_of_explains`: what a walk meets is kept accounted for.
* `unlinked_of_occurrencesOf`: names that are declared, bound or local are not linked.
-/

namespace ApiPage

open Syntax

variable {is : List Identifier} {ss : List Stmt}

/-- The row and column in characters of an identifier of a text. -/
def Identifier.position (t : Text) (i : Identifier) : Nat × Nat := positionIn t i.place

/-- **Identifiers that account for a sight**: one stands there and is called alike, and it may link
if there is a link. If there is an anchor, it is declared or a base class. -/
def ExplainsSight (is : List Identifier) (ss : List Stmt) (x : Sight) : Prop :=
  ∃ i ∈ is, i.place = x.1 ∧ i.name = x.2.1 ∧ (x.2.2.2.isSome → i.role.mayLink = true) ∧
    (x.2.2.1.isSome → i.role = .declared ∨ ∃ j ∈ is, j.place = x.1 ∧ IsBaseAt ss x.1 j.name)

/-- A sighting that is explained keeps what explains it. -/
theorem keeps_of_explains {x : Sighting} (h : Explains is ss x) : x.Keeps (ExplainsSight is ss) := by
  cases x with
  | identifier =>
    obtain ⟨i, hi, hplace, hname, hhref, hanchor⟩ := h
    exact ⟨i, hi, hplace, hname, hhref, fun hsome => .inl (hanchor hsome)⟩
  | anchored =>
    rintro name old href ⟨i, hi, hplace, hname, hhref, -⟩
    exact ⟨i, hi, hplace, hname, hhref, fun _ => .inr h⟩

/-- **Names that are declared, bound or local are not linked.** If the identifiers of a tree stand
at different positions of its text, every occurrence is that of an identifier; it has no link unless
the identifier is a member or is read where nothing binds it; and it has both an anchor and a link
only if it is the base of a class that is no protocol. -/
theorem unlinked_of_occurrencesOf {scope : Text → Option Binding} {r : Resolver}
    {receiver : Option Text} {t : Text} {os : List Occurrence}
    (hplaces : ((blockIdentifiers ss).map (Identifier.position t)).Nodup)
    (hos : occurrencesOf scope r receiver t ss = .ok os) :
    (∀ o ∈ os, ∃ i ∈ blockIdentifiers ss, (o.row, o.col) = i.position t ∧ o.name = i.name) ∧
    (∀ i ∈ blockIdentifiers ss, i.role.mayLink = false →
      ∀ o ∈ os, (o.row, o.col) = i.position t → o.href = none) ∧
    ∀ o ∈ os, o.anchor.isSome → o.href.isSome → ∃ place,
      (o.row, o.col) = positionIn t place ∧ IsBaseAt (blockStatements ss) place o.name := by
  have hkeeps : Yields (fun xs => ∀ x ∈ xs,
      x.Keeps (ExplainsSight (blockIdentifiers ss) (blockStatements ss)))
      (sightings scope r receiver ss) := fun xs hxs x hx =>
    keeps_of_explains (explains_blockSightings _ ss xs hxs x hx)
  have hsights := yields_sights hkeeps os hos
  have hunique : ∀ i ∈ blockIdentifiers ss, ∀ j ∈ blockIdentifiers ss,
      i.position t = j.position t → i = j := fun i hi j hj hpos =>
    List.inj_on_of_nodup_map hplaces hi hj hpos
  refine ⟨fun o ho => ?_, fun i hi hrole o ho hpos => ?_, fun o ho hanchor hhref => ?_⟩
  · obtain ⟨place, ⟨i, hi, hplace, hname, -⟩, hpos⟩ := hsights o ho
    exact ⟨i, hi, by rw [hpos, Identifier.position, hplace], hname.symm⟩
  · obtain ⟨place, ⟨j, hj, hplace, -, hhref, -⟩, hpos'⟩ := hsights o ho
    obtain rfl := hunique i hi j hj (by rw [← hpos, hpos', Identifier.position, hplace])
    cases hlink : o.href with
    | none => rfl
    | some href =>
      have hmay := hhref (by rw [hlink]; rfl)
      rw [hrole] at hmay
      cases hmay
  · obtain ⟨place, ⟨i, hi, hplace, hname, hmay, hdeclared⟩, hpos⟩ := hsights o ho
    rcases hdeclared hanchor with hrole | ⟨j, hj, hplace', hbase⟩
    · have hlink := hmay hhref
      rw [hrole] at hlink
      cases hlink
    · obtain rfl := hunique i hi j hj (by
        rw [Identifier.position, Identifier.position, hplace, hplace'])
      have hnamed : IsBaseAt (blockStatements ss) place o.name := by
        rw [show o.name = i.name from hname.symm]
        exact hbase
      exact ⟨place, hpos, hnamed⟩

/-- A class with a base, an argument, and a comprehension around a lambda expression. -/
def shadowedNames : Text :=
  Text.of "class C(list, len=id):\n    w = [str for str in max(str, lambda min: min.real + abs)]\n"

/-- Names that are local or bound are not linked though each is predeclared; the base is linked and
has an anchor. -/
theorem unlinked_of_occurrencesOf_shadowedNames :
    ∃ ss os, parseModule shadowedNames = .ok ss ∧
      ((blockIdentifiers ss).map (Identifier.position shadowedNames)).Nodup ∧
      occurrencesOf (fun _ => none) Resolver.empty none shadowedNames ss = .ok os ∧
      (∀ i ∈ blockIdentifiers ss, i.role.mayLink = false →
        ∀ o ∈ os, (o.row, o.col) = i.position shadowedNames → o.href = none) ∧
      (os.filter fun o => o.href.isSome).map (fun o => (o.name, o.anchor.isSome)) =
        [(Text.of "list", true), (Text.of "id", false), (Text.of "max", false),
          (Text.of "abs", false)] := by
  have hcheck : ((parseModule shadowedNames).toOption.bind fun ss =>
      (occurrencesOf (fun _ => none) Resolver.empty none shadowedNames ss).toOption.filter fun os =>
        ((blockIdentifiers ss).map (Identifier.position shadowedNames)).Nodup &&
        (os.filter fun o => o.href.isSome).map (fun o => (o.name, o.anchor.isSome)) =
          [(Text.of "list", true), (Text.of "id", false), (Text.of "max", false),
            (Text.of "abs", false)]).isSome = true := by
    decide +kernel
  obtain ⟨os, hos⟩ := Option.isSome_iff_exists.mp hcheck
  obtain ⟨ss, hss, hos⟩ := Option.bind_eq_some_iff.mp hos
  obtain ⟨hrun, hprops⟩ := Option.filter_eq_some_iff.mp hos
  simp only [Bool.and_eq_true, decide_eq_true_eq] at hprops
  obtain ⟨hplaces, hlinked⟩ := hprops
  have hos := eq_ok_of_toOption hrun
  exact ⟨ss, os, eq_ok_of_toOption hss, hplaces, hos, (unlinked_of_occurrencesOf hplaces hos).2.1,
    hlinked⟩

end ApiPage
