import ApiPage.Package.Basic
import ApiPage.Proofs.Grammar.Modules
import ApiPage.Proofs.Lexemes
import ApiPage.Proofs.Printed.Declarations

/-!
# Loaded declarations

Where the declarations of a package come from. Each has statements of its sort, whose names are
mentioned by the module; so is the class that a method belongs to. The comments are pieces of the
source.

## Main definitions

* `Declaration.Of`: a declaration that is made of some statements.
* `Package.Progress.Of`: progress through some statements.

## Main results

* `Package.of_mem_allDeclarations`: the declarations of a package are made of its statements.
* `Comments.madeOf_ofText`: comments are made of characters of the source.
-/

namespace ApiPage

open Syntax

/-! ### Sources -/

/-- **A package is made of the statements** and the comments of its source. -/
theorem Package.exists_of_ofSource {path source : Text} {p : Package}
    (h : Package.ofSource path source = .ok p) :
    ∃ ss cs, parseModule source = .ok ss ∧ Comments.ofText source = .ok cs ∧
      p = Package.ofStmts path cs ss := by
  unfold Package.ofSource at h
  split at h
  · cases h
  · cases h
  · next ss hss =>
    split at h
    · cases h
    · next cs hcs => exact ⟨ss, cs, hss, hcs, (Except.ok.inj h).symm⟩

/-- A source that has statements has no null character. -/
theorem nul_notMem_of_parseModule {source : Text} {ss : List Stmt}
    (h : parseModule source = .ok ss) : '\x00' ∉ source := by
  intro hmem
  unfold parseModule at h
  rw [if_pos (List.any_eq_true.mpr ⟨_, hmem, rfl⟩)] at h
  cases h

/-- **No name of a module** has a character that is a sign. -/
theorem named_ne {source : Text} {ss : List Stmt} {c : Char} (hc : Text.isUnsigned c.toNat = false)
    (h : parseModule source = .ok ss) : Named (· ≠ c) (blockMentions ss) := by
  intro x hx
  obtain ⟨t, ht, -, hname⟩ := exists_token_of_mention h (blockMentions_eq ss ▸ hx)
  rw [← hname]
  exact madeOf_ne.mpr (not_mem_nameText ht hc)

/-! ### Comments -/

/-- A comment that is set was there or is the new one. -/
theorem mem_setRow {row : Nat} {t : Text} {es : List (Nat × Text)} {e : Nat × Text}
    (h : e ∈ Comments.setRow row t es) : e = (row, t) ∨ e ∈ es := by
  fun_induction Comments.setRow row t es with
  | case1 => exact .inl (List.mem_singleton.mp h)
  | case2 u es =>
    rcases List.mem_cons.mp h with rfl | h
    · exact .inl rfl
    · exact .inr (List.mem_cons_of_mem _ h)
  | case3 r u es _ ih =>
    rcases List.mem_cons.mp h with rfl | h
    · exact .inr List.mem_cons_self
    · exact (ih h).imp_right (List.mem_cons_of_mem _)

/-- A comment is the text of a lexeme. -/
theorem exists_of_mem_entriesOf {ls : List Lexeme} {e : Nat × Text}
    (h : e ∈ Comments.entriesOf ls) : ∃ l ∈ ls, l.kind = .comment ∧ e.2 = l.text := by
  suffices hall : ∀ e ∈ Comments.entriesOf ls, ∃ l ∈ ls, l.kind = .comment ∧ e.2 = l.text from
    hall e h
  refine List.foldlRecOn (motive := fun es : List (Nat × Text) =>
    ∀ e ∈ es, ∃ l ∈ ls, l.kind = .comment ∧ e.2 = l.text) ls _ (List.forall_mem_nil _) ?_
  intro es hes l hl e he
  split at he
  · next hkind =>
    rcases mem_setRow he with rfl | he
    · exact ⟨l, hl, hkind, rfl⟩
    · exact hes e he
  · exact hes e he

/-- **Comments are made of characters of the source**. -/
theorem Comments.madeOf_ofText {P : Char → Prop} {source : Text} {cs : Comments}
    (h : Comments.ofText source = .ok cs) (hP : ApiPage.MadeOf P source) : cs.MadeOf P := by
  unfold Comments.ofText at h
  cases hls : lexemes source with
  | error e =>
    rw [hls] at h
    cases h
  | ok ls =>
    rw [hls] at h
    obtain rfl := Except.ok.inj h
    intro e he
    obtain ⟨l, hl, hkind, htext⟩ := exists_of_mem_entriesOf he
    obtain ⟨-, line, hline, hpre⟩ :=
      (sits_of_lexemes hls l hl).spelled (by simp [Lexeme.isSpelled, hkind])
    rw [htext]
    refine hP.subset fun c hc => ?_
    exact subset_of_mem_splitBy (List.mem_of_getElem? hline)
      (List.drop_subset _ _ (hpre.subset hc))

/-! ### Declarations -/

/-- **A declaration of some statements**: it has statements of its sort, and all that they mention
is mentioned there, as is the class that it belongs to. -/
structure Declaration.Of (ss : List Stmt) (d : Declaration) : Prop where
  proper : d.Proper
  mentions : blockMentions d.stmts ⊆ blockMentions ss
  receiver : ∀ r, d.receiver = some r → ∃ x ∈ blockMentions ss, x.2 = r

/-- The names of a declaration hold no character that no name of the source may hold. -/
theorem Declaration.Of.named {source : Text} {ss : List Stmt} {d : Declaration} {c : Char}
    (h : d.Of ss) (hc : Text.isUnsigned c.toNat = false) (hss : parseModule source = .ok ss) :
    Named (· ≠ c) (blockMentions d.stmts) := fun x hx => named_ne hc hss x (h.mentions hx)

/-- What a statement of a block mentions the block does. -/
theorem mentions_subset_of_mem {s : Stmt} {ss : List Stmt} (h : s ∈ ss) :
    s.mentions ⊆ blockMentions ss := by
  induction ss with
  | nil => exact nomatch h
  | cons t ss ih =>
    rcases List.mem_cons.mp h with rfl | h
    · exact List.subset_append_left _ _
    · exact List.subset_append_of_subset_right _ (ih h)

/-- What some statements mention more of them do. -/
theorem blockMentions_subset {ss us : List Stmt} (h : ss ⊆ us) :
    blockMentions ss ⊆ blockMentions us := by
  induction ss with
  | nil => exact List.nil_subset _
  | cons s ss ih =>
    obtain ⟨hs, hss⟩ := List.cons_subset.mp h
    exact List.append_subset.mpr ⟨mentions_subset_of_mem hs, ih hss⟩

variable {ss : List Stmt} {s : Stmt} {d : Declaration}

/-- A declaration for the whole module. -/
theorem Declaration.of_stmts (hproper : d.Proper) (hstmts : d.stmts ⊆ ss)
    (hreceiver : d.receiver = none) : d.Of ss :=
  ⟨hproper, blockMentions_subset hstmts, fun r hr => by rw [hreceiver] at hr; cases hr⟩

/-- A function is a statement of that sort. -/
theorem sort_of_isFunction (h : s.isFunction = true) : s.sort = .function := by
  cases s with
  | function => rfl
  | _ => cases h

/-- **The methods of a class** are made of the same statements. -/
theorem Declaration.Of.method (h : d.Of ss) {m : Declaration} (hm : m ∈ d.methods) : m.Of ss := by
  cases d with
  | values => exact nomatch hm
  | function => exact nomatch hm
  | type cls =>
    have hproper := h.proper
    cases cls with
    | classDef sp name bases keywords body decorators =>
      simp only [Declaration.methods] at hm
      split at hm
      · exact nomatch hm
      · obtain ⟨fn, hfn, rfl⟩ := List.mem_map.mp hm
        obtain ⟨hbody, hshown⟩ := List.mem_filter.mp hfn
        obtain ⟨hfunction, -⟩ := Bool.and_eq_true_iff.mp hshown
        have hname : (placeAfter sp 6, name) ∈ blockMentions ss :=
          h.mentions (List.mem_append_left _ List.mem_cons_self)
        have hinside : fn.mentions ⊆ blockMentions ss := fun x hx =>
          h.mentions (List.mem_append_left _ (List.mem_append_right _
            (mentions_subset_of_mem hbody hx)))
        exact ⟨sort_of_isFunction hfunction, List.append_subset.mpr ⟨hinside, List.nil_subset _⟩,
          fun r hr => ⟨_, hname, Option.some.inj hr⟩⟩
    | _ => cases hproper

namespace Package

/-- **Progress through some statements**: what is declared is made of them, and what may yet be
joined by more is among them. -/
structure Progress.Of (ss : List Stmt) (p : Progress) : Prop where
  declarations : ∀ d ∈ p.declarations, d.Of ss
  group : p.group ⊆ ss
  assignments : ∀ s ∈ p.group, s.sort = .assignment

namespace Progress.Of

variable {cs : Comments} {p : Progress}

/-- A group of open values is one of values of the module. -/
theorem declare_group (h : p.Of ss) {group : List Stmt} (hgroup : group ⊆ p.group) {doc : Text} :
    (Declaration.values group doc).Of ss :=
  Declaration.of_stmts (fun s hs => h.assignments s (hgroup hs))
    (List.Subset.trans hgroup h.group) rfl

/-- Closing a group declares it. -/
theorem close (h : p.Of ss) : (p.close cs).Of ss := by
  unfold Progress.close
  split
  · exact h
  · have hgroup : p.group.reverse ⊆ p.group := List.reverse_subset.mpr (List.Subset.refl _)
    exact ⟨List.forall_mem_cons.mpr ⟨h.declare_group hgroup, h.declarations⟩,
      List.nil_subset _, List.forall_mem_nil _⟩

/-- One declaration more. -/
theorem declare {name : Text} (h : p.Of ss) (hd : d.Of ss) : (p.declare cs name d).Of ss := by
  unfold Progress.declare
  dsimp only
  split
  · exact ⟨List.forall_mem_cons.mpr ⟨hd, h.close.declarations⟩, h.close.group, h.close.assignments⟩
  · exact h.close

/-- Imports declare nothing. -/
theorem bind {is : List Import} (h : p.Of ss) : (p.bind cs is).Of ss :=
  ⟨h.close.declarations, h.close.group, h.close.assignments⟩

/-- One value more. -/
theorem addValue (h : p.Of ss) (hs : s ∈ ss) (hassign : s.sort = .assignment) :
    (p.addValue cs s).Of ss := by
  have hadd : ∀ {q : Progress}, q.Of ss → Progress.Of ss { q with group := s :: q.group } :=
    fun hq => ⟨hq.declarations, List.cons_subset.mpr ⟨hs, hq.group⟩,
      List.forall_mem_cons.mpr ⟨hassign, hq.assignments⟩⟩
  unfold Progress.addValue
  split
  · exact h.close
  · refine hadd ?_
    split
    · split
      · exact h
      · exact h.close
    · exact h

/-- A statement that binds values assigns them. -/
theorem sort_of_isValue (h : s.isValue = true) : s.sort = .assignment := by
  cases s with
  | assign => rfl
  | annAssign => rfl
  | _ => cases h

/-- **One more statement**. -/
theorem step (h : p.Of ss) (hs : s ∈ ss) : (p.step cs s).Of ss := by
  have hone : [s] ⊆ ss := List.cons_subset.mpr ⟨hs, List.nil_subset _⟩
  unfold Progress.step
  split
  · exact h.bind
  · exact h.bind
  · exact h.declare (Declaration.of_stmts rfl hone rfl)
  · exact h.declare (Declaration.of_stmts rfl hone rfl)
  · split
    · next hvalue => exact h.addValue hs (sort_of_isValue hvalue)
    · split
      · next hgroup =>
        exact ⟨List.forall_mem_cons.mpr
          ⟨h.declare_group (by rw [hgroup]; exact List.Subset.refl _), h.declarations⟩,
          List.nil_subset _, List.forall_mem_nil _⟩
      · exact h.close

end Progress.Of

/-- **The declarations of a package** are made of its statements. -/
theorem of_mem_allDeclarations {path : Text} {cs : Comments}
    (h : d ∈ (ofStmts path cs ss).allDeclarations) : d.Of ss := by
  have hstart : Progress.Of ss ⟨[], [], []⟩ :=
    ⟨List.forall_mem_nil _, List.nil_subset _, List.forall_mem_nil _⟩
  have hend : Progress.Of ss ((ss.foldl (Progress.step cs) ⟨[], [], []⟩).close cs) :=
    (List.foldlRecOn ss _ hstart fun _ hp _ hs => hp.step hs).close
  obtain ⟨e, he, hd⟩ := List.mem_flatMap.mp h
  have heof := hend.declarations e (List.mem_reverse.mp he)
  rcases List.mem_cons.mp hd with rfl | hd
  · exact heof
  · exact heof.method hd

end Package
end ApiPage
