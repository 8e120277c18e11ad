import ApiPage.Package.Display
import ApiPage.Proofs.Loading

/-!
# Groups of values

Statements that bind values are declared together as long as nothing but comments stands between
them. The loader finds that out by counting: a statement follows the one before it if as many
comments lead it as there are rows between the two. Since the walk over the comments that lead a
statement ends at a row with code, and since the last row of a statement has code, the count is
right exactly if every row between holds a comment.

A group that is open only grows or becomes a declaration. So two statements are declared together if
the second joins the group that the first is the last of, and what is declared together is a chain
of statements that follow one another.

## Main definitions

* `Comments.IsNote`: a row that holds a comment of the documentation and nothing else.
* `Comments.Adjacent`: statements with nothing but such rows between them.
* `Package.Progress.Goes`: what a statement does to the open group.
* `JoinedAt`: two statements of a module that stand next to each other in a group.

## Main results

* `follows_iff`: a statement follows another if the two are adjacent.
* `Package.goes_step`: what the loader does to the open group.
* `Package.joinedAt_iff`: values are declared together if they are adjacent.
-/

namespace ApiPage

open Syntax

/-! ### Comments between statements -/

namespace Comments

/-- **A row of documentation**: it holds a comment, which does not speak to tools, and no code. -/
def IsNote (cs : Comments) (row : Nat) : Prop :=
  ∃ t, cs.at? row = some t ∧ cs.hasCode row = false ∧ isDirective t = false

/-- **Adjacent statements**: the second starts on a later row than the first ends, and every row
between is one of documentation. -/
def Adjacent (cs : Comments) (a b : Stmt) : Prop :=
  a.endRow < b.row ∧ ∀ row, a.endRow < row → row < b.row → cs.IsNote row

/-- The comments on `n` rows from `row` on, from the top. -/
def onRows (cs : Comments) (row n : Nat) : List Text := (List.range' row n).filterMap cs.at?

/-- **The comments between two statements**, from the top. -/
def between (cs : Comments) (a b : Stmt) : List Text :=
  cs.onRows (a.endRow + 1) (b.row - (a.endRow + 1))

variable {cs : Comments} {a b : Stmt}

/-- A comment by itself comes first of those above the next row. -/
theorem above_succ_of_isNote {n : Nat} (h : cs.IsNote (n + 1)) :
    ∃ t, cs.at? (n + 1) = some t ∧ cs.above (n + 1) = t :: cs.above n := by
  obtain ⟨t, ht, hcode, hdirective⟩ := h
  exact ⟨t, ht, by rw [above, ht]; simp [hcode, hdirective]⟩

/-- Above a row behind one that is no comment by itself there are none. -/
theorem above_of_not_isNote {n : Nat} (h : ¬ cs.IsNote n) : cs.above n = [] := by
  cases n with
  | zero => rfl
  | succ n =>
    rw [above]
    split
    · next t ht =>
      split
      · rfl
      · next hother =>
        simp only [Bool.or_eq_true, not_or, Bool.not_eq_true] at hother
        exact absurd ⟨t, ht, hother.1, hother.2⟩ h
    · rfl

/-- The rows that the walk over the comments went through are rows of documentation. -/
theorem isNote_of_lt_length {n row : Nat} (hle : row ≤ n) (hlt : n < row + (cs.above n).length) :
    cs.IsNote row := by
  induction n with
  | zero => simp [above] at hlt; omega
  | succ n ih =>
    by_cases hnote : cs.IsNote (n + 1)
    · obtain ⟨t, -, habove⟩ := above_succ_of_isNote hnote
      rcases Nat.eq_or_lt_of_le hle with rfl | hlt'
      · exact hnote
      · rw [habove, List.length_cons] at hlt
        exact ih (by omega) (by omega)
    · rw [above_of_not_isNote hnote, List.length_nil] at hlt
      omega

/-- **The walk over the comments** takes `n` rows of documentation above `row` before it goes on. -/
theorem above_add (cs : Comments) (row n : Nat)
    (h : ∀ r, row < r → r ≤ row + n → cs.IsNote r) :
    cs.above (row + n) = (cs.onRows (row + 1) n).reverse ++ cs.above row ∧
      (cs.onRows (row + 1) n).length = n := by
  induction n with
  | zero => exact ⟨rfl, rfl⟩
  | succ n ih =>
    obtain ⟨habove, hlength⟩ := ih fun r hr hle => h r hr (by omega)
    obtain ⟨t, ht, hstep⟩ := above_succ_of_isNote (h (row + n + 1) (by omega) le_rfl)
    have hrows : cs.onRows (row + 1) (n + 1) = cs.onRows (row + 1) n ++ [t] := by
      have hat : cs.at? (row + 1 + n) = some t := by
        rw [Nat.add_right_comm]
        exact ht
      rw [onRows, onRows, List.range'_1_concat, List.filterMap_append]
      simp [hat]
    rw [hrows]
    refine ⟨?_, by rw [List.length_append, hlength, List.length_singleton]⟩
    rw [← Nat.add_assoc, hstep, habove]
    simp

/-- **The comments that lead a statement** are all between it and a statement adjacent to it. -/
theorem leading_of_adjacent (hcode : cs.hasCode a.endRow = true) (h : cs.Adjacent a b) :
    cs.leading b.row = cs.between a b ∧
      (cs.leading b.row).length = b.row - (a.endRow + 1) := by
  obtain ⟨hlt, hnotes⟩ := h
  have hend : ¬ cs.IsNote a.endRow := by
    rintro ⟨t, -, hnone, -⟩
    rw [hcode] at hnone
    cases hnone
  have hrow : b.row - 1 = a.endRow + (b.row - (a.endRow + 1)) := by omega
  obtain ⟨habove, hlength⟩ := above_add cs a.endRow (b.row - (a.endRow + 1))
    fun r hr hle => hnotes r hr (by omega)
  rw [above_of_not_isNote hend, List.append_nil] at habove
  rw [leading, hrow, habove, List.reverse_reverse]
  exact ⟨rfl, hlength⟩

end Comments

/-- **A statement follows another** if the two are adjacent. -/
theorem Package.follows_iff {cs : Comments} {a b : Stmt} (hcode : cs.hasCode a.endRow = true) :
    follows cs b a = true ↔ cs.Adjacent a b := by
  rw [follows, decide_eq_true_iff]
  constructor
  · intro h
    refine ⟨by omega, fun row hafter hbefore => ?_⟩
    rw [Comments.leading, List.length_reverse] at h
    exact Comments.isNote_of_lt_length (n := b.row - 1) (by omega) (by omega)
  · intro h
    have hlength := (Comments.leading_of_adjacent hcode h).2
    have hlt := h.1
    omega

/-! ### One statement -/

namespace Syntax.Stmt

/-- **A statement that binds values**, one of them under a public name. -/
def bindsPublic (s : Stmt) : Bool := s.isValue && s.boundNames.any fun n => isPublic n.name

/-- A statement that binds a public name is documented. -/
theorem isDocumented_of_bindsPublic {s : Stmt} (h : s.bindsPublic = true) :
    s.isDocumented = true := by
  rw [isDocumented, show (s.isValue && s.boundNames.any fun n => isPublic n.name) = true from h,
    Bool.true_or]

end Syntax.Stmt

namespace Package

variable {cs : Comments} {p q : Progress} {s : Stmt} {ds : List Declaration} {g : List Stmt}

/-- **The open group becomes a declaration**, the first of `ds`, if there is one. -/
def Progress.Ends (p : Progress) (ds : List Declaration) : Prop :=
  (p.group = [] ∧ ds = p.declarations) ∨
    ∃ doc, p.group ≠ [] ∧ ds = .values p.group.reverse doc :: p.declarations

/-- Closing ends the open group. -/
theorem Progress.ends_close (cs : Comments) (p : Progress) : p.Ends (p.close cs).declarations := by
  unfold Progress.close
  split
  · next hnil => exact .inl ⟨List.isEmpty_iff.mp hnil, rfl⟩
  · next hsome => exact .inr ⟨_, fun hnil => hsome (List.isEmpty_iff.mpr hnil), rfl⟩

/-- **What a statement does to the open group**: public values join it if they follow its last
statement, and else begin the next; any other statement ends it, and may be declared by itself. -/
inductive Progress.Goes (cs : Comments) (p : Progress) (s : Stmt) (q : Progress) : Prop
  | joins {before : Stmt} {rest : List Stmt} : s.bindsPublic = true → p.group = before :: rest →
      follows cs s before = true → q.declarations = p.declarations → q.group = s :: p.group →
      Goes cs p s q
  | begins : s.bindsPublic = true → (∀ before ∈ p.group.head?, follows cs s before = false) →
      p.Ends q.declarations → q.group = [s] → Goes cs p s q
  | ends {ds : List Declaration} : s.bindsPublic = false → p.Ends ds →
      (q.declarations = ds ∨ ∃ d, q.declarations = d :: ds ∧ ∀ group doc, d ≠ .values group doc) →
      q.group = [] → Goes cs p s q

/-- Closing goes on behind a statement that binds no public name. -/
theorem goes_close (hs : s.bindsPublic = false) : p.Goes cs s (p.close cs) :=
  .ends hs (p.ends_close cs) (.inl rfl) (Progress.Cuts.group_close cs p)

/-- A declaration goes on behind a statement that binds no public name. -/
theorem goes_declare {name : Text} {d : Declaration} (hs : s.bindsPublic = false)
    (hd : ∀ group doc, d ≠ .values group doc) : p.Goes cs s (p.declare cs name d) := by
  unfold Progress.declare
  dsimp only
  split
  · exact .ends hs (p.ends_close cs) (.inr ⟨d, rfl, hd⟩) (Progress.Cuts.group_close cs p)
  · exact goes_close hs

/-- A value joins the open group or opens one. -/
theorem goes_addValue (hvalue : s.isValue = true) : p.Goes cs s (p.addValue cs s) := by
  have hs : s.bindsPublic = !(s.boundNames.all fun n => !isPublic n.name) := by
    rw [Stmt.bindsPublic, hvalue, Bool.true_and, List.all_eq_not_any_not]
    simp
  unfold Progress.addValue
  split
  · next hprivate => exact goes_close (by rw [hs, hprivate]; rfl)
  · next hpublic =>
    have hs : s.bindsPublic = true := by rw [hs, Bool.eq_false_iff.mpr hpublic]; rfl
    dsimp only
    split
    · next before rest hgroup =>
      split
      · next hfollows => exact .joins hs hgroup hfollows rfl rfl
      · next hfollows =>
        refine .begins hs ?_ (p.ends_close cs) (congrArg (s :: ·) (Progress.Cuts.group_close cs p))
        simpa [hgroup] using hfollows
    · next hgroup => exact .begins hs (by simp [hgroup]) (.inl ⟨hgroup, rfl⟩) (by simp [hgroup])

/-- **The loader goes on** by one statement. A string is the documentation of the one statement of
the open group. -/
theorem goes_step (cs : Comments) (p : Progress) (s : Stmt) : p.Goes cs s (p.step cs s) := by
  unfold Progress.step
  split
  · exact .ends rfl (p.ends_close cs) (.inl rfl) (Progress.Cuts.group_close cs p)
  · exact .ends rfl (p.ends_close cs) (.inl rfl) (Progress.Cuts.group_close cs p)
  · exact goes_declare rfl nofun
  · exact goes_declare rfl nofun
  · split
    · next hvalue => exact goes_addValue hvalue
    · next hvalue =>
      have hs : s.bindsPublic = false := by
        rw [Stmt.bindsPublic, Bool.eq_false_iff.mpr hvalue, Bool.false_and]
      split
      · next t v _ hgroup =>
        refine .ends hs (.inr ⟨Prose.cleanDoc t, ?_, ?_⟩) (.inl rfl) rfl
        · rw [hgroup]
          exact List.cons_ne_nil _ _
        · rw [hgroup]
          rfl
      · exact goes_close hs

/-! ### An open group -/

/-- **What was open is kept**: `ds` was declared, and then a group that begins with `g`, which is
open still or is declared. -/
def Progress.Keeps (ds : List Declaration) (g : List Stmt) (p : Progress) : Prop :=
  (p.declarations.reverse = ds ∧ ∃ more, p.group.reverse = g ++ more) ∨
    ∃ more doc after, p.declarations.reverse = ds ++ .values (g ++ more) doc :: after

namespace Progress.Keeps

/-- At the end of the group it is declared. -/
theorem ends {es : List Declaration} (h : p.Keeps ds g) (hg : g ≠ []) (hend : p.Ends es) :
    ∃ more doc after, es.reverse = ds ++ .values (g ++ more) doc :: after := by
  rcases h with ⟨hds, more, hmore⟩ | ⟨more, doc, after, hafter⟩
  · rcases hend with ⟨hnil, -⟩ | ⟨doc, -, rfl⟩
    · rw [hnil, List.reverse_nil, eq_comm, List.append_eq_nil_iff] at hmore
      exact absurd hmore.1 hg
    · exact ⟨more, doc, [], by rw [List.reverse_cons, hds, hmore]⟩
  · rcases hend with ⟨-, rfl⟩ | ⟨doc', -, rfl⟩
    · exact ⟨more, doc, after, hafter⟩
    · exact ⟨more, doc, after ++ [_], by rw [List.reverse_cons, hafter, List.append_assoc]; rfl⟩

/-- What a group begins with stays when the loader goes on. -/
theorem goes (h : p.Keeps ds g) (hg : g ≠ []) (hgoes : p.Goes cs s q) : q.Keeps ds g := by
  cases hgoes with
  | joins _ _ _ hdeclarations hgroup =>
    rcases h with ⟨hds, more, hmore⟩ | h
    · refine .inl ⟨hdeclarations ▸ hds, more ++ [s], ?_⟩
      rw [hgroup, List.reverse_cons, hmore, List.append_assoc]
    · exact .inr (hdeclarations ▸ h)
  | begins _ _ hend _ => exact .inr (h.ends hg hend)
  | ends _ hend hdeclares _ =>
    obtain ⟨more, doc, after, hafter⟩ := h.ends hg hend
    rcases hdeclares with hsame | ⟨d, hcons, -⟩
    · exact .inr ⟨more, doc, after, hsame ▸ hafter⟩
    · refine .inr ⟨more, doc, after ++ [d], ?_⟩
      rw [hcons, List.reverse_cons, hafter, List.append_assoc]
      rfl

/-- **A group that is open is declared** in the end, with all that it begins with. -/
theorem run (h : p.Keeps ds g) (cs : Comments) (hg : g ≠ []) (ss : List Stmt) :
    ∃ more doc after, ((ss.foldl (Progress.step cs) p).close cs).declarations.reverse =
      ds ++ .values (g ++ more) doc :: after := by
  induction ss generalizing p with
  | nil => exact h.ends hg (p.ends_close cs)
  | cons s ss ih => exact ih (h.goes hg (goes_step cs p s))

end Progress.Keeps

/-! ### Chains -/

/-- **Progress in chains**: in every group each statement follows the one before it. -/
structure Progress.Chained (cs : Comments) (p : Progress) : Prop where
  group : p.group.IsChain fun s before => follows cs s before = true
  declared : ∀ group doc, .values group doc ∈ p.declarations →
    group.IsChain fun before s => follows cs s before = true

namespace Progress.Chained

/-- The groups of a run are chains, each value of which follows the one before. -/
theorem ends {es : List Declaration} (h : p.Chained cs) (hend : p.Ends es) {group : List Stmt}
    {doc : Text} (hmem : .values group doc ∈ es) :
    group.IsChain fun before s => follows cs s before = true := by
  rcases hend with ⟨-, rfl⟩ | ⟨doc', -, rfl⟩
  · exact h.declared group doc hmem
  · rcases List.mem_cons.mp hmem with heq | hmem
    · obtain ⟨rfl, -⟩ := Declaration.values.inj heq
      exact List.isChain_reverse.mpr h.group
    · exact h.declared group doc hmem

/-- What goes on keeps the open group a chain. -/
theorem goes (h : p.Chained cs) (hgoes : p.Goes cs s q) : q.Chained cs := by
  cases hgoes with
  | joins _ hbefore hfollows hdeclarations hgroup =>
    refine ⟨?_, hdeclarations ▸ h.declared⟩
    have hchain := h.group
    rw [hgroup]
    rw [hbefore] at hchain ⊢
    exact List.isChain_cons_cons.mpr ⟨hfollows, hchain⟩
  | begins _ _ hend hgroup =>
    exact ⟨hgroup ▸ List.isChain_singleton s, fun _ _ hmem => h.ends hend hmem⟩
  | ends _ hend hdeclares hgroup =>
    refine ⟨hgroup ▸ List.isChain_nil, fun group doc hmem => ?_⟩
    rcases hdeclares with hsame | ⟨d, hcons, hother⟩
    · exact h.ends hend (hsame ▸ hmem)
    · rw [hcons] at hmem
      rcases List.mem_cons.mp hmem with heq | hmem
      · exact absurd heq.symm (hother group doc)
      · exact h.ends hend hmem

end Progress.Chained

/-- **The groups of a package are chains.** -/
theorem isChain_of_mem {path : Text} {ss group : List Stmt} {doc : Text}
    (h : .values group doc ∈ (ofStmts path cs ss).declarations) :
    group.IsChain fun before s => follows cs s before = true := by
  have hstart : Progress.Chained cs ⟨[], [], []⟩ := ⟨List.isChain_nil, nofun⟩
  have hend : (ss.foldl (Progress.step cs) ⟨[], [], []⟩).Chained cs :=
    List.foldlRecOn ss _ hstart fun p hp s _ => hp.goes (goes_step cs p s)
  exact hend.ends (Progress.ends_close cs _) (List.mem_reverse.mp h)

end Package

/-! ### Joined statements -/

/-- **Statements next to each other in a group**: of the documented statements of a module, those of
`pre` are declared before `a`, and those of `post` behind `b`. -/
def JoinedAt (ds : List Declaration) (pre : List Stmt) (a b : Stmt) (post : List Stmt) : Prop :=
  ∃ before front doc back after, ds = before ++ .values (front ++ a :: b :: back) doc :: after ∧
    before.flatMap Declaration.stmts ++ front = pre.filter Stmt.isDocumented ∧
    back ++ after.flatMap Declaration.stmts = post.filter Stmt.isDocumented

/-- **A place in a list** is known by how many elements of a kind come before it. -/
theorem append_cons_inj_of_countP {α : Type} {f : α → Bool} {l l' r r' : List α} {x x' : α}
    (h : l ++ x :: r = l' ++ x' :: r') (hx : f x = true) (hx' : f x' = true)
    (hcount : l.countP f = l'.countP f) : l = l' ∧ x = x' ∧ r = r' := by
  induction l generalizing l' with
  | nil =>
    cases l' with
    | nil => exact ⟨rfl, List.cons.inj h⟩
    | cons y l' =>
      obtain ⟨rfl, -⟩ := List.cons.inj h
      simp [hx] at hcount
  | cons y l ih =>
    cases l' with
    | nil =>
      obtain ⟨rfl, -⟩ := List.cons.inj h
      simp [hx'] at hcount
    | cons y' l' =>
      obtain ⟨rfl, htail⟩ := List.cons.inj h
      obtain ⟨rfl, hrest⟩ := ih htail (by rw [List.countP_cons, List.countP_cons] at hcount; omega)
      exact ⟨rfl, hrest⟩

namespace Package

variable {path : Text} {cs : Comments} {ss pre mid post : List Stmt} {a b : Stmt}

/-- Statements that are joined come right after each other, and the second follows the first: as
many statements are documented before `a` on both sides. -/
theorem follows_of_joinedAt (hss : ss = pre ++ a :: (mid ++ b :: post))
    (ha : a.isDocumented = true) (hb : b.isDocumented = true)
    (h : JoinedAt (ofStmts path cs ss).declarations pre a b post) :
    mid = [] ∧ follows cs b a = true := by
  obtain ⟨before, front, doc, back, after, hds, hbefore, hafter⟩ := h
  obtain ⟨-, pre', post', hpiece, hpre, hpost⟩ := (cut_ofStmts path cs ss).exists_piece hds
  have hfront : front.filter Stmt.isDocumented = front := List.filter_eq_self.mpr fun s hs =>
    List.of_mem_filter (hbefore ▸ List.mem_append_right _ hs : s ∈ pre.filter Stmt.isDocumented)
  have hback : back.filter Stmt.isDocumented = back := List.filter_eq_self.mpr fun s hs =>
    List.of_mem_filter (hafter ▸ List.mem_append_left _ hs : s ∈ post.filter Stmt.isDocumented)
  have hplace : pre' ++ front ++ a :: (b :: (back ++ post')) = pre ++ a :: (mid ++ b :: post) := by
    rw [← hss, hpiece]
    simp [Declaration.stmts]
  obtain ⟨-, -, htail⟩ := append_cons_inj_of_countP hplace ha ha (by
    rw [List.countP_eq_length_filter, List.countP_eq_length_filter, List.filter_append, hfront,
      ← hbefore, hpre])
  have hcount : (back ++ post').countP Stmt.isDocumented = post.countP Stmt.isDocumented := by
    rw [List.countP_eq_length_filter, List.countP_eq_length_filter, List.filter_append, hback,
      ← hafter, hpost]
  have hmid : [].countP Stmt.isDocumented = mid.countP Stmt.isDocumented := by
    have htotal := congrArg (List.countP Stmt.isDocumented) htail
    rw [List.countP_cons, hcount, List.countP_append, List.countP_cons] at htotal
    rw [List.countP_nil]
    omega
  obtain ⟨hnil, -⟩ := append_cons_inj_of_countP (l := []) htail hb hb hmid
  have hchain := isChain_of_mem (hds ▸ List.mem_append_right _ List.mem_cons_self)
  exact ⟨hnil.symm, (List.isChain_append_cons_cons.mp hchain).2.1⟩

/-- A public value is the last of the open group. -/
theorem exists_group_of_bindsPublic (cs : Comments) (p : Progress) (ha : a.bindsPublic = true) :
    ∃ rest, (p.step cs a).group = a :: rest := by
  cases goes_step cs p a with
  | joins _ _ _ _ hgroup => exact ⟨_, hgroup⟩
  | begins _ _ _ hgroup => exact ⟨_, hgroup⟩
  | ends hnot _ _ _ =>
    rw [ha] at hnot
    cases hnot

/-- One that follows it joins the group. -/
theorem group_of_follows {p : Progress} {rest : List Stmt} (hp : p.group = a :: rest)
    (hb : b.bindsPublic = true) (h : follows cs b a = true) :
    (p.step cs b).group = b :: a :: rest := by
  cases goes_step cs p b with
  | joins _ _ _ _ hgroup => rw [hgroup, hp]
  | begins _ hnot _ _ =>
    rw [hnot a (by rw [hp]; rfl)] at h
    cases h
  | ends hnot _ _ _ =>
    rw [hb] at hnot
    cases hnot

/-- Statements that are the last of the open group are joined. -/
theorem joinedAt_of_group (cs : Comments) (post : List Stmt) {p : Progress} {rest : List Stmt}
    (hp : p.Cuts (pre ++ [a, b]))
    (hgroup : p.group = b :: a :: rest) :
    JoinedAt ((post.foldl (Progress.step cs) p).close cs).declarations.reverse pre a b post := by
  have hkeeps : p.Keeps p.declarations.reverse (rest.reverse ++ [a, b]) :=
    .inl ⟨rfl, [], by simp [hgroup]⟩
  obtain ⟨more, doc, after, hdeclares⟩ := hkeeps.run cs (by simp) post
  have hclosed : Cut (pre ++ [a, b] ++ post)
      ((post.foldl (Progress.step cs) p).close cs).declarations.reverse :=
    (cuts_foldl_step cs post hp).close
  have htotal := hclosed.flatMap_stmts
  obtain ⟨⟨done, hdone, hcut⟩, hdocumented⟩ := hp
  rw [hgroup] at hdone hdocumented
  have hpre : pre = done ++ rest.reverse := by
    have hends : pre ++ [a, b] = done ++ rest.reverse ++ [a, b] := by simpa using hdone
    exact List.append_cancel_right hends
  have hrest : rest.reverse.filter Stmt.isDocumented = rest.reverse :=
    List.filter_eq_self.mpr fun s hs => hdocumented s (by simp [List.mem_reverse.mp hs])
  have hbefore : p.declarations.reverse.flatMap Declaration.stmts ++ rest.reverse =
      pre.filter Stmt.isDocumented := by
    rw [hpre, List.filter_append, hrest, hcut.flatMap_stmts]
  refine ⟨_, rest.reverse, doc, more, after, by rw [hdeclares]; simp, hbefore, ?_⟩
  have ha := hdocumented a (by simp)
  have hb := hdocumented b (by simp)
  rw [hdeclares] at htotal
  simpa [Declaration.stmts, ha, hb, ← hbefore] using htotal

/-- **A statement that follows the one before it** is joined to it. -/
theorem joinedAt_of_follows (ha : a.bindsPublic = true) (hb : b.bindsPublic = true)
    (h : follows cs b a = true) :
    JoinedAt (ofStmts path cs (pre ++ a :: b :: post)).declarations pre a b post := by
  obtain ⟨rest, hlast⟩ := exists_group_of_bindsPublic cs
    (pre.foldl (Progress.step cs) ⟨[], [], []⟩) ha
  have hcuts := cuts_foldl_step cs (pre ++ [a, b]) (Progress.Cuts.of_cut (p := ⟨[], [], []⟩) rfl .nil)
  rw [List.nil_append, List.foldl_append] at hcuts
  have hjoined := joinedAt_of_group cs post hcuts (group_of_follows hlast hb h)
  rwa [← List.foldl_append, ← List.foldl_append] at hjoined

end Package

/-! ### Displayed groups -/

namespace Display

variable {cs : Comments}

/-- **The comments above the statements of a group**: none above the first, and above another those
between it and the one before it. -/
def gaps (cs : Comments) (group : List Stmt) : List (List Text) :=
  [] :: List.zipWith cs.between group group.tail

/-- **The later values of a chain** are laid out with what stands between them. -/
theorem laterValues_eq {a : Stmt} {ss : List Stmt}
    (hcode : ∀ s ∈ a :: ss, cs.hasCode s.endRow = true) (hchain : (a :: ss).IsChain cs.Adjacent) :
    laterValues cs ss = do
      let shown ← ss.mapM (statement cs)
      return (List.zipWith (· ++ ·) (List.zipWith cs.between (a :: ss) ss) shown).flatten := by
  induction ss generalizing a with
  | nil => rfl
  | cons b ss ih =>
    obtain ⟨hadjacent, hchain⟩ := List.isChain_cons_cons.mp hchain
    obtain ⟨ha, hcode⟩ := List.forall_mem_cons.mp hcode
    rw [laterValues, ih hcode hchain, (Comments.leading_of_adjacent ha hadjacent).1, List.mapM_cons]
    simp only [bind_assoc, pure_bind, List.zipWith_cons_cons, List.flatten_cons]

/-- **A group is displayed** as its statements, each below the comments above it. -/
theorem valueLines_eq {group : List Stmt} (hcode : ∀ s ∈ group, cs.hasCode s.endRow = true)
    (hchain : group.IsChain cs.Adjacent) :
    valueLines cs group = do
      let shown ← group.mapM (statement cs)
      return (List.zipWith (· ++ ·) (gaps cs group) shown).flatten := by
  cases group with
  | nil => rfl
  | cons a ss =>
    rw [valueLines, laterValues_eq hcode hchain, List.mapM_cons]
    simp only [bind_assoc, pure_bind, gaps, List.tail_cons, List.zipWith_cons_cons,
      List.flatten_cons, List.nil_append]

end Display

/-! ### Groups of a module -/

/-- **Values are declared together if they are adjacent.** Two statements of a module that bind
values, each of them one under a public name, stand next to each other in a group just if they come
right after each other in the module, the second starts on a later row than the first ends, and
every row between the two is one of documentation. A group is displayed as its statements in their
order, each below the comments between it and the one before it. -/
theorem Package.joinedAt_iff (path : Text) {cs : Comments} {ss : List Stmt}
    (hcode : ∀ s ∈ ss, cs.hasCode s.endRow = true) :
    (∀ pre a mid b post, ss = pre ++ a :: (mid ++ b :: post) →
      a.bindsPublic = true → b.bindsPublic = true →
      (JoinedAt (ofStmts path cs ss).declarations pre a b post ↔ mid = [] ∧ cs.Adjacent a b)) ∧
    ∀ group doc, .values group doc ∈ (ofStmts path cs ss).declarations →
      group.IsChain cs.Adjacent ∧
      (Declaration.values group doc).display cs = do
        let shown ← group.mapM (Display.statement cs)
        return Text.joinLines (List.zipWith (· ++ ·) (Display.gaps cs group) shown).flatten := by
  constructor
  · intro pre a mid b post hss ha hb
    have hfollows := follows_iff (b := b) (hcode a (by rw [hss]; simp))
    constructor
    · intro h
      obtain ⟨hmid, hfollow⟩ := follows_of_joinedAt hss (Stmt.isDocumented_of_bindsPublic ha)
        (Stmt.isDocumented_of_bindsPublic hb) h
      exact ⟨hmid, hfollows.mp hfollow⟩
    · rintro ⟨rfl, hadjacent⟩
      rw [hss]
      exact joinedAt_of_follows ha hb (hfollows.mpr hadjacent)
  · intro group doc hmem
    have hgroup : ∀ s ∈ group, cs.hasCode s.endRow = true := fun s hs => by
      have hdeclared : s ∈ (ofStmts path cs ss).declarations.flatMap Declaration.stmts :=
        List.mem_flatMap.mpr ⟨_, hmem, hs⟩
      rw [(cut_ofStmts path cs ss).flatMap_stmts] at hdeclared
      exact hcode s (List.mem_filter.mp hdeclared).1
    have hchain : group.IsChain cs.Adjacent := (isChain_of_mem hmem).imp_of_mem_imp
      fun a b ha _ hfollow => (follows_iff (hgroup a ha)).mp hfollow
    refine ⟨hchain, ?_⟩
    simp only [Declaration.display, Display.valueLines_eq hgroup hchain, bind_assoc, pure_bind]

/-- Three values: a comment between the first two, and an empty line before the third. -/
def spacedValues : Text := Text.of "a = 1\n# more\nb = [\n  2]\n\nc = 3\n"

/-- The first two follow each other, and the third does not. -/
theorem exists_spacedValues : ∃ cs a b c, parseModule spacedValues = .ok [a, b, c] ∧
    Comments.ofText spacedValues = .ok cs ∧ (∀ s ∈ [a, b, c], cs.hasCode s.endRow = true) ∧
    (∀ s ∈ [a, b, c], s.bindsPublic = true) ∧ Package.follows cs b a = true ∧
    Package.follows cs c b = false := by
  have hcheck : (parseModule spacedValues).toOption.any (fun ss =>
      (Comments.ofText spacedValues).toOption.any fun cs => ss.length == 3 &&
        ss.all (fun s => cs.hasCode s.endRow) && ss.all Stmt.bindsPublic &&
        List.zipWith (fun a b => Package.follows cs b a) ss ss.tail == [true, false]) = true := by
    decide +kernel
  obtain ⟨ss, hss, hcheck⟩ := (Option.any_eq_true _ _).mp hcheck
  obtain ⟨cs, hcs, hcheck⟩ := (Option.any_eq_true _ _).mp hcheck
  simp only [Bool.and_eq_true, List.all_eq_true, beq_iff_eq] at hcheck
  obtain ⟨⟨⟨hlength, hcode⟩, hbinds⟩, hfollows⟩ := hcheck
  obtain ⟨a, b, c, rfl⟩ := List.length_eq_three.mp hlength
  obtain ⟨hab, hbc, -⟩ : _ ∧ _ ∧ True := by simpa using hfollows
  exact ⟨cs, a, b, c, eq_ok_of_toOption hss, eq_ok_of_toOption hcs, hcode, hbinds, hab, hbc⟩

/-- Two values that are joined, and one behind a gap that is not. -/
theorem joinedAt_iff_spacedValues : ∃ cs a b c, parseModule spacedValues = .ok [a, b, c] ∧
    Comments.ofText spacedValues = .ok cs ∧
    JoinedAt (Package.ofStmts (Text.of "m") cs [a, b, c]).declarations [] a b [c] ∧
    ¬ JoinedAt (Package.ofStmts (Text.of "m") cs [a, b, c]).declarations [a] b c [] ∧
    ∃ group doc, a ∈ group ∧ (Declaration.values group doc).display cs = do
      let shown ← group.mapM (Display.statement cs)
      return Text.joinLines (List.zipWith (· ++ ·) (Display.gaps cs group) shown).flatten := by
  obtain ⟨cs, a, b, c, hss, hcs, hcode, hbinds, hfollows, hnot⟩ := exists_spacedValues
  obtain ⟨hjoined, hdisplay⟩ := Package.joinedAt_iff (Text.of "m") hcode
  have hcodeAt (s : Stmt) (hs : s ∈ [a, b, c]) (t : Stmt) :
      Package.follows cs t s = true ↔ cs.Adjacent s t := Package.follows_iff (hcode s hs)
  have hab : JoinedAt (Package.ofStmts (Text.of "m") cs [a, b, c]).declarations [] a b [c] :=
    (hjoined [] a [] b [c] rfl (hbinds a (by simp)) (hbinds b (by simp))).mpr
      ⟨rfl, (hcodeAt a (by simp) b).mp hfollows⟩
  refine ⟨cs, a, b, c, hss, hcs, hab, fun hbc => ?_, ?_⟩
  · have hadjacent := ((hjoined [a] b [] c [] rfl (hbinds b (by simp)) (hbinds c (by simp))).mp
      hbc).2
    rw [(hcodeAt b (by simp) c).mpr hadjacent] at hnot
    cases hnot
  · obtain ⟨before, front, doc, back, after, hds, -, -⟩ := hab
    exact ⟨front ++ a :: b :: back, doc, by simp, (hdisplay _ doc (by rw [hds]; simp)).2⟩

end ApiPage
