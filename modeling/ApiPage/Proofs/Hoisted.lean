import Mathlib
import ApiPage.Page.Annotate

/-!
# Moved anchors

Anchors are moved by exchanging those of a line with those of the topmost comment above it. The
exchange changes nothing but anchors. It keeps their sequence as well: comments directly above a
line define nothing themselves and are given anchors once at most, so that the exchange is between
neighbours as far as anchors go.

## Main definitions

* `Page.Bare`: the comments at the start of some lines hold no anchors.

## Main results

* `Page.lift_eq`: a line without comments above it keeps its anchors, and any other exchanges them
  with one comment.
* `Page.map_hoist`: lines keep all that is no anchor, such as their HTML.
* `Page.anchors_hoist`: anchors keep their sequence.
-/

namespace ApiPage.Page

/-- The line with the anchors `as`. -/
def withAnchors (as : List Anchor) (l : Line) : Line := { l with anchors := as }

/-- **Bare comments**: those of the lines `above` that stand directly above the next line hold no
anchors. The lines come last first. -/
def Bare (above : List Line) : Prop := ∀ c ∈ above.takeWhile Line.isComment, c.anchors = []

variable {above ls : List Line} {l : Line}

/-- The line behind some others is changed. -/
theorem modify_length_append (cs rest : List Line) (c : Line) (f : Line → Line) :
    (cs ++ c :: rest).modify cs.length f = cs ++ f c :: rest := by
  induction cs with
  | nil => rfl
  | cons d cs ih => simpa using ih

/-- **An exchange** is between a line and the topmost of the comments directly above it. -/
theorem lift_eq (above : List Line) (l : Line) :
    (above.takeWhile Line.isComment = [] ∧ lift above l = l :: above) ∨
      ∃ cs c rest, above = cs ++ c :: rest ∧ above.takeWhile Line.isComment = cs ++ [c] ∧
        lift above l = withAnchors c.anchors l :: (cs ++ withAnchors l.anchors c :: rest) := by
  rcases List.eq_nil_or_concat (above.takeWhile Line.isComment) with hnil | ⟨cs, c, hcs⟩
  · exact .inl ⟨hnil, by simp [lift, hnil]⟩
  · rw [List.concat_eq_append] at hcs
    obtain ⟨rest, habove⟩ : ∃ rest, above = cs ++ c :: rest := by
      obtain ⟨rest, hrest⟩ := List.takeWhile_prefix (l := above) Line.isComment
      exact ⟨rest, by rw [← hrest, hcs, List.append_assoc]; rfl⟩
    refine .inr ⟨cs, c, rest, habove, hcs, ?_⟩
    have hlen : (above.takeWhile Line.isComment).length = cs.length + 1 := by simp [hcs]
    rw [lift, hlen]
    simp [habove, withAnchors, modify_length_append]

/-! ### What an exchange keeps -/

section Map

variable {β : Type} {f : Line → β}

/-- What does not look at anchors is the same when they are lifted. -/
theorem map_lift (hf : ∀ as l, f (withAnchors as l) = f l) (above : List Line) (l : Line) :
    (lift above l).map f = (l :: above).map f := by
  rcases lift_eq above l with ⟨-, hl⟩ | ⟨cs, c, rest, rfl, -, hl⟩
  · rw [hl]
  · rw [hl]
    simp [hf]

/-- **Lines keep all that is no anchor** when anchors are moved. -/
theorem map_hoist (hf : ∀ as l, f (withAnchors as l) = f l) (ls : List Line) :
    (hoist ls).map f = ls.map f := by
  suffices h : ∀ above : List Line,
      (hoistFrom above ls).map f = (above.reverse ++ ls).map f from h []
  induction ls with
  | nil => simp [hoistFrom]
  | cons l ls ih =>
    intro above
    rw [hoistFrom]
    split
    · rw [ih]
      simp
    · rw [ih, List.map_append, List.map_reverse, map_lift hf]
      simp

end Map

/-- **Lines keep their HTML** when anchors are moved. -/
theorem html_hoist (ls : List Line) : (hoist ls).map Line.html = ls.map Line.html :=
  map_hoist (fun _ _ => rfl) ls

/-- There are as many lines as before. -/
theorem length_hoist (ls : List Line) : (hoist ls).length = ls.length := by
  simpa using congrArg List.length (html_hoist ls)

/-! ### The sequence of anchors -/

/-- One line more without anchors on its comments. -/
theorem bare_cons (h : Bare above) (hl : l.isComment → l.anchors = []) : Bare (l :: above) := by
  intro c hc
  by_cases hcom : l.isComment = true
  · rw [List.takeWhile_cons_of_pos hcom] at hc
    rcases List.mem_cons.mp hc with rfl | hc
    · exact hl hcom
    · exact h c hc
  · rw [List.takeWhile_cons_of_neg hcom] at hc
    exact absurd hc (List.not_mem_nil)

/-- A line without anchors has nothing to exchange with bare comments. -/
theorem lift_of_anchors_eq_nil (h : Bare above) (hl : l.anchors = []) : lift above l = l :: above := by
  rcases lift_eq above l with ⟨-, heq⟩ | ⟨cs, c, rest, rfl, hcs, heq⟩
  · exact heq
  · have hc : c.anchors = [] := h c (by simp [hcs])
    have hline : withAnchors c.anchors l = l := by rw [hc, ← hl]; rfl
    have hcom : withAnchors l.anchors c = c := by rw [hl, ← hc]; rfl
    rw [heq, hline, hcom]

/-- After an exchange the comments are bare again: there are none below a line of code. -/
theorem bare_lift (h : Bare above) (hl : l.isComment → l.anchors = []) : Bare (lift above l) := by
  by_cases hcom : l.isComment = true
  · rw [lift_of_anchors_eq_nil h (hl hcom)]
    exact bare_cons h hl
  · rcases lift_eq above l with ⟨-, heq⟩ | ⟨cs, c, rest, -, -, heq⟩
    · rw [heq]
      exact bare_cons h hl
    · rw [heq]
      intro d hd
      have hcode : ¬(withAnchors c.anchors l).isComment = true := hcom
      rw [List.takeWhile_cons_of_neg hcode] at hd
      exact absurd hd (List.not_mem_nil)

/-- An exchange with bare comments keeps the sequence of anchors. -/
theorem anchors_lift (h : Bare above) :
    (lift above l).reverse.flatMap Line.anchors = above.reverse.flatMap Line.anchors ++ l.anchors := by
  rcases lift_eq above l with ⟨-, heq⟩ | ⟨cs, c, rest, rfl, hcs, heq⟩
  · simp [heq]
  · have hc : c.anchors = [] := h c (by simp [hcs])
    have hnil : cs.reverse.flatMap Line.anchors = [] := by
      rw [List.flatMap_eq_nil_iff]
      intro d hd
      exact h d (by simp [hcs, List.mem_reverse.mp hd])
    simp [heq, withAnchors, hc, hnil]

/-- **Anchors keep their sequence** if comments hold none before they are moved. -/
theorem anchors_hoist (h : ∀ l ∈ ls, l.isComment → l.anchors = []) :
    (hoist ls).flatMap Line.anchors = ls.flatMap Line.anchors := by
  suffices hfrom : ∀ above : List Line, Bare above →
      (hoistFrom above ls).flatMap Line.anchors =
        above.reverse.flatMap Line.anchors ++ ls.flatMap Line.anchors from
    hfrom [] (by simp [Bare])
  induction ls with
  | nil =>
    intro above _
    simp [hoistFrom]
  | cons l ls ih =>
    obtain ⟨hl, hls⟩ := List.forall_mem_cons.mp h
    intro above hbare
    rw [hoistFrom]
    split
    · rw [ih hls _ (bare_cons hbare hl)]
      simp
    · rw [ih hls _ (bare_lift hbare hl), anchors_lift hbare]
      simp

end ApiPage.Page
