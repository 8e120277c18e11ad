import ApiPage.Proofs.Annotated
import ApiPage.Proofs.Hoisted

/-!
# Where anchors land

Anchors are moved line by line, each time by an exchange between the line and the topmost comment
directly above it. Said in terms of the lines as they were at the start: the anchors of a line land
at the top of the comments above it, unless the next line has anchors too. The invariant is
`Page.Landed`: the lines behind are as they stay, and the lines ahead as they were. An exchange
touches no line on which anchors have landed, as comments directly above a line are still bare.

## Main definitions

* `Page.commentTop`: the top of the comments directly above a line.
* `Page.landing`: the line at which the anchors of a line land.

## Main results

* `Page.commentTop_eq_iff`: the top is the first line of a run of comments that is as long as can be.
* `Page.hoist_placement`: anchors are at the lines where they land, and nowhere else.
-/

namespace ApiPage.Page

variable {above rest ls cur cur' : List Line} {l : Line} {n i k : Nat}

/-- **Top of the comments** directly above line `i`; line `i` itself if there are none. -/
def commentTop (ls : List Line) : (i : Nat) → Nat
  | 0 => 0
  | i + 1 => if (lineAt ls i).isComment then commentTop ls i else i + 1

/-- **Landing** of the anchors of line `i`: at the top of the comments directly above it, or on the
line itself if the next one has anchors too. -/
def landing (ls : List Line) (i : Nat) : Nat :=
  if (lineAt ls (i + 1)).anchors = [] then commentTop ls i else i

/-! ### The top of comments -/

/-- The top of the comments above a line is not below it. -/
theorem commentTop_le (ls : List Line) (i : Nat) : commentTop ls i ≤ i := by
  induction i with
  | zero => exact Nat.le_refl 0
  | succ i ih =>
    rw [commentTop]
    split <;> omega

/-- Anchors never land below their line. -/
theorem landing_le (ls : List Line) (i : Nat) : landing ls i ≤ i := by
  rw [landing]
  split
  · exact commentTop_le ls i
  · exact Nat.le_refl i

/-- **The top of comments** is where the longest run of them begins that ends directly above. -/
theorem commentTop_eq_iff :
    commentTop ls i = n ↔ n ≤ i ∧ (∀ k, n ≤ k → k < i → (lineAt ls k).isComment) ∧
      ∀ k, n = k + 1 → ¬(lineAt ls k).isComment := by
  induction i with
  | zero =>
    simp only [commentTop]
    constructor
    · rintro rfl
      exact ⟨Nat.le_refl 0, fun k _ hk => absurd hk (Nat.not_lt_zero k), fun k hk => by omega⟩
    · rintro ⟨hle, -, -⟩
      omega
  | succ i ih =>
    rw [commentTop]
    by_cases hcom : (lineAt ls i).isComment = true
    · rw [if_pos hcom, ih]
      constructor
      · rintro ⟨hle, hrun, htop⟩
        refine ⟨by omega, fun k hk hlt => ?_, htop⟩
        obtain rfl | hlt := Nat.eq_or_lt_of_le (Nat.le_of_lt_succ hlt)
        · exact hcom
        · exact hrun k hk hlt
      · rintro ⟨hle, hrun, htop⟩
        have hne : n ≠ i + 1 := fun h => htop i h hcom
        exact ⟨by omega, fun k hk hlt => hrun k hk (by omega), htop⟩
    · rw [if_neg hcom]
      constructor
      · rintro rfl
        refine ⟨Nat.le_refl _, fun k hk hlt => by omega, fun k hk => ?_⟩
        obtain rfl : i = k := by omega
        exact hcom
      · rintro ⟨hle, hrun, -⟩
        by_contra hne
        exact hcom (hrun i (by omega) (Nat.lt_succ_self i))

/-- The top depends on nothing but what lines are comments. -/
theorem commentTop_congr (h : ∀ k, (lineAt cur k).isComment = (lineAt ls k).isComment) (i : Nat) :
    commentTop cur i = commentTop ls i := by
  induction i with
  | zero => rfl
  | succ i ih => rw [commentTop, commentTop, h, ih]

/-- The line behind some others. -/
theorem lineAt_append_length (xs ys : List Line) (l : Line) : lineAt (xs ++ l :: ys) xs.length = l := by
  simp [lineAt]

/-- A line in the midst of others matters at its index only. -/
theorem lineAt_append_of_ne {xs : List Line} (hk : k ≠ xs.length) (ys : List Line) (l l' : Line) :
    lineAt (xs ++ l :: ys) k = lineAt (xs ++ l' :: ys) k := by
  simp only [lineAt, List.getD_eq_getElem?_getD]
  rcases Nat.lt_or_gt_of_ne hk with hlt | hgt
  · rw [List.getElem?_append_left hlt, List.getElem?_append_left hlt]
  · obtain ⟨d, rfl⟩ := Nat.exists_eq_add_of_lt hgt
    have hd : xs.length + d + 1 - xs.length = d + 1 := by omega
    rw [List.getElem?_append_right (by omega), List.getElem?_append_right (by omega), hd]
    rfl

/-- The comments directly above the next line are those that end the lines behind. -/
theorem commentTop_length (above rest : List Line) :
    commentTop (above.reverse ++ rest) above.length =
      above.length - (above.takeWhile Line.isComment).length := by
  induction above generalizing rest with
  | nil => rfl
  | cons c above ih =>
    have hc : lineAt (above.reverse ++ c :: rest) above.length = c := by
      rw [← List.length_reverse]
      exact lineAt_append_length _ _ _
    rw [List.reverse_cons, List.append_assoc, List.singleton_append, List.length_cons, commentTop,
      hc, ih]
    by_cases hcom : c.isComment = true
    · rw [if_pos hcom, List.takeWhile_cons_of_pos hcom, List.length_cons, Nat.add_sub_add_right]
    · rw [if_neg hcom, List.takeWhile_cons_of_neg hcom]
      rfl

/-! ### One exchange -/

/-- Comments directly above the next line, if there are any, hold no anchors at their top. -/
theorem anchors_commentTop (h : Bare above)
    (hlt : commentTop (above.reverse ++ rest) above.length < above.length) :
    (lineAt (above.reverse ++ rest) (commentTop (above.reverse ++ rest) above.length)).anchors = [] := by
  rw [commentTop_length] at hlt ⊢
  rcases lift_eq above Line.empty with ⟨hnil, -⟩ | ⟨cs, c, below, rfl, hcs, -⟩
  · simp [hnil] at hlt
  · have htop : (cs ++ c :: below).length - (cs ++ [c]).length = below.reverse.length := by
      simp only [List.length_append, List.length_cons, List.length_nil, List.length_reverse]
      omega
    rw [hcs, htop, List.reverse_append, List.reverse_cons, List.append_assoc, List.append_assoc,
      List.singleton_append, lineAt_append_length]
    exact h c (by simp [hcs])

/-- **What an exchange does** at each line: the top of the comments takes the anchors of the line,
and leaves it without any. A line that is no longer the top may have been the one above. -/
theorem anchors_lineAt_lift (h : Bare above) (l : Line) (rest : List Line) (k : Nat) :
    (lineAt ((lift above l).reverse ++ rest) k).anchors =
      if k = commentTop (above.reverse ++ l :: rest) above.length then l.anchors
      else if k = above.length then []
      else (lineAt (above.reverse ++ l :: rest) k).anchors := by
  rw [commentTop_length]
  rcases lift_eq above l with ⟨hnil, heq⟩ | ⟨cs, c, below, rfl, hcs, heq⟩
  · rw [hnil, List.length_nil, Nat.sub_zero, heq, List.reverse_cons, List.append_assoc,
      List.singleton_append]
    split
    · next hk => rw [hk, ← List.length_reverse, lineAt_append_length]
    · rfl
  · have hc : c.anchors = [] := h c (by simp [hcs])
    have htop : (cs ++ c :: below).length - (cs ++ [c]).length = below.reverse.length := by
      simp only [List.length_append, List.length_cons, List.length_nil, List.length_reverse]
      omega
    have hnew : (lift (cs ++ c :: below) l).reverse ++ rest = below.reverse ++
        withAnchors l.anchors c :: (cs.reverse ++ withAnchors c.anchors l :: rest) := by
      simp [heq]
    rw [hcs, htop, hnew]
    split
    · next hk =>
      rw [hk, lineAt_append_length]
      rfl
    · next hk =>
      rw [lineAt_append_of_ne hk _ _ c]
      set front := below.reverse ++ c :: cs.reverse with hfront
      have hlen : (cs ++ c :: below).length = front.length := by
        simp only [hfront, List.length_append, List.length_cons, List.length_reverse]
        omega
      have hold : (cs ++ c :: below).reverse ++ l :: rest = front ++ l :: rest := by simp [hfront]
      have hafter : below.reverse ++ c :: (cs.reverse ++ withAnchors c.anchors l :: rest) =
          front ++ withAnchors c.anchors l :: rest := by simp [hfront]
      rw [hlen, hold, hafter]
      split
      · next hk =>
        rw [hk, lineAt_append_length]
        exact hc
      · next hk => rw [lineAt_append_of_ne hk _ _ l]

/-! ### The invariant -/

/-- **Anchors of the first `n` lines have landed**: those of line `i` are where they land, other
lines behind have none, and the lines ahead have theirs. The lines were `ls` and are `cur`. -/
structure Landed (ls cur : List Line) (n : Nat) : Prop where
  lands : ∀ i < n, (lineAt ls i).anchors ≠ [] →
    (lineAt cur (landing ls i)).anchors = (lineAt ls i).anchors
  others : ∀ k < n, (∀ i < n, (lineAt ls i).anchors ≠ [] → landing ls i ≠ k) →
    (lineAt cur k).anchors = []
  ahead : ∀ k, n ≤ k → (lineAt cur k).anchors = (lineAt ls k).anchors

/-- No lines have landed yet. -/
theorem Landed.zero (ls : List Line) : Landed ls ls 0 :=
  ⟨fun i hi => absurd hi (Nat.not_lt_zero i), fun k hk => absurd hk (Nat.not_lt_zero k),
    fun _ _ => rfl⟩

/-- **A step of the invariant**: the anchors of line `n` go to where they land. Anchors that landed
before are not there, since the line there, if it is another one, has none. -/
theorem Landed.step (h : Landed ls cur n)
    (hfree : landing ls n < n → (lineAt cur (landing ls n)).anchors = [])
    (hstep : ∀ k, (lineAt cur' k).anchors =
      if k = landing ls n then (lineAt ls n).anchors else if k = n then []
      else (lineAt cur k).anchors) :
    Landed ls cur' (n + 1) := by
  have hle := landing_le ls n
  refine ⟨fun i hi hne => ?_, fun k hk hnone => ?_, fun k hk => ?_⟩
  · obtain rfl | hlt := Nat.eq_or_lt_of_le (Nat.le_of_lt_succ hi)
    · rw [hstep, if_pos rfl]
    · have hland := h.lands i hlt hne
      have hbelow := landing_le ls i
      have hother : landing ls i ≠ landing ls n := by
        intro heq
        rw [heq] at hland hbelow
        exact hne (hland.symm.trans (hfree (by omega)))
      rw [hstep, if_neg hother, if_neg (by omega), hland]
  · rw [hstep]
    split
    · next heq =>
      by_contra hne
      exact hnone n (Nat.lt_succ_self n) hne heq.symm
    · split
      · rfl
      · next hn =>
        exact h.others k (by omega) fun i hi => hnone i (by omega)
  · rw [hstep, if_neg (by omega), if_neg (by omega)]
    exact h.ahead k (by omega)

/-- The next line has anchors. -/
theorem anchorsFollow_iff : anchorsFollow ls = true ↔ (lineAt ls 0).anchors ≠ [] := by
  cases ls with
  | nil => simp [anchorsFollow, lineAt, Line.empty]
  | cons l ls => simp [anchorsFollow, lineAt]

/-- Lines that are the same but for their anchors have the same comments. -/
theorem isComment_lineAt_congr (h : cur.map Line.isComment = ls.map Line.isComment) (k : Nat) :
    (lineAt cur k).isComment = (lineAt ls k).isComment := by
  have hget := congrArg (fun bs => bs.getD k Line.empty.isComment) h
  simpa only [List.getD_map, lineAt] using hget

/-- **A run of the invariant**: once all lines are behind, all anchors have landed. -/
theorem landed_hoistFrom (above : List Line)
    (hlanded : Landed ls (above.reverse ++ rest) above.length)
    (hsame : (above.reverse ++ rest).map Line.isComment = ls.map Line.isComment)
    (hbare : Bare above) (hrest : ∀ l ∈ rest, l.isComment → l.anchors = []) :
    Landed ls (hoistFrom above rest) ls.length := by
  induction rest generalizing above with
  | nil =>
    have hlen : above.length = ls.length := by simpa using congrArg List.length hsame
    simpa [hoistFrom, hlen] using hlanded
  | cons l rest ih =>
    obtain ⟨hl, hrest⟩ := List.forall_mem_cons.mp hrest
    set cur := above.reverse ++ l :: rest with hcur
    have hline : lineAt cur above.length = l := by
      rw [hcur, ← List.length_reverse, lineAt_append_length]
    have hnext : lineAt cur (above.length + 1) = lineAt rest 0 := by
      simp [hcur, lineAt, List.getElem?_append_right]
    have hanchors : (lineAt ls above.length).anchors = l.anchors := by
      rw [← hlanded.ahead _ (Nat.le_refl _), hline]
    have hfollow : (lineAt ls (above.length + 1)).anchors = (lineAt rest 0).anchors := by
      rw [← hlanded.ahead _ (Nat.le_succ _), hnext]
    rw [hoistFrom]
    split
    · next hf =>
      have hland : landing ls above.length = above.length := by
        rw [landing, hfollow, if_neg (anchorsFollow_iff.mp hf)]
      have hstay : (l :: above).reverse ++ rest = cur := by simp [hcur]
      refine ih _ ?_ (hstay ▸ hsame) (bare_cons hbare hl) hrest
      rw [hstay, List.length_cons]
      refine hlanded.step (by omega) fun k => ?_
      rw [hland, hanchors]
      split
      · next hk => rw [hk, hline]
      · rfl
    · next hf =>
      have hland : landing ls above.length = commentTop cur above.length := by
        rw [landing, hfollow, if_pos (by simpa [anchorsFollow_iff] using hf)]
        exact (commentTop_congr (isComment_lineAt_congr hsame) _).symm
      have hlift : ((lift above l).reverse ++ rest).map Line.isComment =
          cur.map Line.isComment := by
        rw [hcur, List.map_append, List.map_reverse, map_lift fun _ _ => rfl]
        simp
      have hlen : (lift above l).length = above.length + 1 := by
        simpa using congrArg List.length (map_lift (f := Line.isComment) (fun _ _ => rfl) above l)
      refine ih _ ?_ (hlift.trans hsame) (bare_lift hbare hl) hrest
      rw [hlen]
      refine hlanded.step (fun hlt => ?_) fun k => ?_
      · rw [hland] at hlt ⊢
        exact anchors_commentTop hbare hlt
      · rw [hland, hanchors]
        exact anchors_lineAt_lift hbare l rest k

/-! ### All lines -/

/-- Lifting anchors to a line above keeps them all. -/
theorem perm_lift (above : List Line) (l : Line) :
    ((lift above l).map Line.anchors).Perm ((l :: above).map Line.anchors) := by
  rcases lift_eq above l with ⟨-, heq⟩ | ⟨cs, c, below, rfl, -, heq⟩
  · rw [heq]
  · simp only [heq, withAnchors, List.map_cons, List.map_append]
    refine (List.perm_middle.cons _).trans ((List.Perm.swap _ _ _).trans ?_)
    exact List.perm_middle.symm.cons _

/-- Groups of anchors are exchanged as they are. -/
theorem perm_hoistFrom (above rest : List Line) :
    ((hoistFrom above rest).map Line.anchors).Perm ((above ++ rest).map Line.anchors) := by
  induction rest generalizing above with
  | nil =>
    rw [hoistFrom, List.append_nil]
    exact (List.reverse_perm above).map _
  | cons l rest ih =>
    have hnext : ((l :: above ++ rest).map Line.anchors).Perm
        ((above ++ l :: rest).map Line.anchors) := List.perm_middle.symm.map _
    rw [hoistFrom]
    split
    · exact (ih _).trans hnext
    · refine (ih _).trans (.trans ?_ hnext)
      rw [List.map_append, List.map_append]
      exact (perm_lift above l).append_right _

/-- **Placement of anchors.** Moving them changes no fragment and no kind of a line, and exchanges
the anchors of lines as whole groups. If comments hold no anchors before, the anchors of each line
are afterwards together at its landing, no other line has any, and their sequence is as before. -/
theorem hoist_placement (ls : List Line) :
    (hoist ls).map (withAnchors []) = ls.map (withAnchors []) ∧
      ((hoist ls).map Line.anchors).Perm (ls.map Line.anchors) ∧
      ((∀ l ∈ ls, l.isComment → l.anchors = []) →
        (∀ i < ls.length, (lineAt ls i).anchors ≠ [] →
          (lineAt (hoist ls) (landing ls i)).anchors = (lineAt ls i).anchors) ∧
        (∀ k < ls.length, (∀ i < ls.length, (lineAt ls i).anchors ≠ [] → landing ls i ≠ k) →
          (lineAt (hoist ls) k).anchors = []) ∧
        (hoist ls).flatMap Line.anchors = ls.flatMap Line.anchors) := by
  refine ⟨map_hoist (fun _ _ => rfl) ls, perm_hoistFrom [] ls, fun hbare => ?_⟩
  have hlanded := landed_hoistFrom [] (Landed.zero ls) rfl (by simp [Bare]) hbare
  exact ⟨hlanded.lands, hlanded.others, anchors_hoist hbare⟩

/-- Two comments above a line with an anchor. -/
def commentedField : List Line :=
  [⟨[Text.of "# a\n"], [], false, true⟩, ⟨[Text.of "# b\n"], [], false, true⟩,
    ⟨[Text.of "x = 1\n"], [⟨Text.of "x", .variable⟩], true, false⟩]

/-- The anchor of a field lands on the first of two comments above it. -/
theorem hoist_placement_commentedField :
    (∀ l ∈ commentedField, l.isComment → l.anchors = []) ∧
      (lineAt (hoist commentedField) 0).anchors = [⟨Text.of "x", .variable⟩] ∧
      (lineAt (hoist commentedField) 1).anchors = [] ∧
      (lineAt (hoist commentedField) 2).anchors = [] := by
  have hbare : ∀ l ∈ commentedField, l.isComment → l.anchors = [] := by decide
  obtain ⟨-, -, hplaced⟩ := hoist_placement commentedField
  obtain ⟨hlands, hothers, -⟩ := hplaced hbare
  exact ⟨hbare, hlands 2 (by decide) (by decide), hothers 1 (by decide) (by decide),
    hothers 2 (by decide) (by decide)⟩

end ApiPage.Page
