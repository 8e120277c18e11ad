import ApiPage.Proofs.Grammar.Statements
import ApiPage.Proofs.Tokens

/-!
# Names of a module

What the rules of the grammar are known to hold is true of a whole reading. In particular a module
mentions nothing but names of its source, however many names are weighed: those that are of the
source have no weight if only the others have some.

## Main results

* `seenIn_le_of_parseModule`: the mentions of a module weigh no more than the names of its source.
* `exists_token_of_mention`: what a module mentions is a name of its source.
* `mem_tokenMentions_of_mention`: it stands there too if the tokens are in place.
* `ne_nil_of_mention`: so no name that it mentions is empty, and none is missing.
-/

namespace ApiPage.Syntax

open ApiPage.Syntax.Parser

variable {ts : List Token} {μ : Weight} {source : Text} {ss : List Stmt}

/-- Memory with no entries is sound. -/
theorem sound_fresh (n : Nat) : (Memory.fresh n).Sound ts μ := by
  intro j es hes e he
  obtain rfl : es = [] := by
    simp only [Memory.fresh, Array.getElem?_replicate] at hes
    split at hes
    · exact (Option.some.inj hes).symm
    · cases hes
  exact nomatch he

/-- **A whole reading** weighs no more than the tokens that it reads. -/
theorem seenIn_le_of_run {α : Type} [Mentioning α] {p : Parser α} (hp : Reads ts μ p) {a : α}
    (h : run p ts = .ok a) : seenIn μ a ≤ ((tokenMentions ts).map μ).sum := by
  have hstart : Left ts μ ((tokenMentions ts).map μ).sum (tokenMentions ts).length 0 0 ⟨ts, 0, 0⟩ :=
    ⟨⟨0, rfl⟩, Nat.le_refl _, rfl⟩
  have hread := hp _ _ _ _ ⟨ts, 0, 0⟩ (Memory.fresh ts.length) hstart (sound_fresh _)
  unfold run at h
  dsimp only at h
  cases hout : p false ⟨ts, 0, 0⟩ (Memory.fresh ts.length) with
  | ok b i m =>
    rw [hout] at h hread
    obtain rfl : b = a := Except.ok.inj h
    have hseen := hread.1.seen
    omega
  | fail m =>
    rw [hout] at h
    dsimp only at h
    repeat' split at h
    all_goals cases h
  | abort e m =>
    rw [hout] at h
    cases h

/-- A token that makes a mention is a name. -/
theorem exists_kind_of_mention {t : Token} (h : t.mention?.isSome) : ∃ n, t.kind = .name n := by
  unfold Token.mention? at h
  split at h
  · next n hn => exact ⟨n, hn⟩
  · cases h

/-- The tokens of a text are tidy for a weight that is the same at all places. -/
theorem tidy_tokenize {row : Nat} {text : Text} (hμ : μ.Placeless) :
    Tidy (tokenize row text) μ where
  index n t h := by rw [numbered_tokenize n t h, Nat.zero_add]
  plain t ht hm := by
    obtain ⟨n, hn⟩ := exists_kind_of_mention hm
    exact ⟨nameText_ne_nil_of_mem_tokenize ht hn, not_mem_nameText ht (by decide),
      not_mem_nameText ht (by decide)⟩
  placed := .inl hμ

/-- **The mentions of a module** weigh no more than the names of its source. -/
theorem seenIn_le_of_parseModule (hμ : Tidy (tokenize 1 source) μ)
    (h : parseModule source = .ok ss) :
    seenIn μ ss ≤ ((tokenMentions (tokenize 1 source)).map μ).sum := by
  unfold parseModule at h
  split at h
  · cases h
  · dsimp only at h
    split at h
    · next hrun =>
      obtain rfl := Except.ok.inj h
      exact seenIn_le_of_run (Grammar.reads_moduleBody hμ (Grammar.read_rules hμ _)) hrun
    · cases h

/-- **A weight that no name of the source has** is one that no mention has. -/
theorem weightless_of_parseModule (hμ : Tidy (tokenize 1 source) μ) (h : parseModule source = .ok ss)
    (hzero : ∀ y ∈ tokenMentions (tokenize 1 source), μ y = 0) {x : Mention}
    (hx : x ∈ mentions ss) : μ x = 0 := by
  have hle := seenIn_le_of_parseModule hμ h
  rw [List.sum_eq_zero fun n hn => by
    obtain ⟨y, hy, rfl⟩ := List.mem_map.mp hn
    exact hzero y hy] at hle
  have hone : μ x ≤ seenIn μ ss :=
    List.single_le_sum (fun _ _ => Nat.zero_le _) _ (List.mem_map.mpr ⟨x, hx, rfl⟩)
  omega

/-- **What a module mentions is a name of its source**. A weight of this name alone is zero on every
token, if none spells it, and so on every mention. -/
theorem exists_token_of_mention (h : parseModule source = .ok ss) {x : Mention}
    (hx : x ∈ mentions ss) :
    ∃ t ∈ tokenize 1 source, t.mention?.isSome ∧ t.nameText = x.2 := by
  classical
  by_contra hnone
  let μ : Weight := fun y => if y.2 = x.2 then 1 else 0
  have hzero : ∀ y ∈ tokenMentions (tokenize 1 source), μ y = 0 := fun y hy => by
    obtain ⟨t, ht, hty⟩ := List.mem_filterMap.mp hy
    have hname : t.nameText = y.2 := by
      unfold Token.mention? at hty
      split at hty
      · rw [← Option.some.inj hty, Token.named]
      · cases hty
    exact if_neg fun hxy => hnone ⟨t, ht, by rw [hty]; rfl, hname.trans hxy⟩
  have hweightless := weightless_of_parseModule (tidy_tokenize fun _ _ _ => rfl) h hzero hx
  exact Nat.one_ne_zero ((if_pos rfl : μ x = 1).symm.trans hweightless)

/-- **No name that a module mentions is empty**. -/
theorem ne_nil_of_mention (h : parseModule source = .ok ss) {x : Mention} (hx : x ∈ mentions ss) :
    x.2 ≠ [] := by
  obtain ⟨t, ht, hmention, hname⟩ := exists_token_of_mention h hx
  obtain ⟨n, hn⟩ := exists_kind_of_mention hmention
  exact hname ▸ nameText_ne_nil_of_mem_tokenize ht hn

/-- **No name is missing** in a module. -/
theorem absent_notMem (h : parseModule source = .ok ss) : absent ∉ mentions ss :=
  fun habsent => ne_nil_of_mention h habsent rfl

end ApiPage.Syntax
