import ApiPage.Proofs.Blocks
import ApiPage.Proofs.Line
import ApiPage.Prose.Links

/-!
# Lists of links

A heading with the title of a list of links opens such a list, and the next heading ends it. The
blocks outside the lists are kept as they are; of the blocks inside only the links of their bullet
lines are. A list that is split where a heading stands is split in each part by itself.

## Main definitions

* `Prose.InLinkList`: a place inside a list of links.
* `Prose.blocksAt`: the blocks at some places.
* `Prose.IsBullet`: the grammar of bullet lines.

## Main results

* `Prose.Link.ofLine?_eq_some_iff`: the link of a line is that of a bullet.
* `Prose.splitLinksFrom_eq`: the split by the places of the blocks.
* `Prose.splitLinks_divides`: what is kept and what is listed, and how splits compose.
-/

namespace ApiPage.Prose

/-! ### Bullet lines -/

/-- **Bullet line** with its link: a dash and a space or tab, the text up to the first comma, and
the destination behind it. -/
inductive IsBullet : Text → Link → Prop
  | mk {c : Char} {text href : Text} : Text.isBlankChar c → ',' ∉ text →
      IsBullet ('-' :: c :: (text ++ ',' :: href)) ⟨Text.strip text, Text.strip href⟩

/-- **The link of a line** is that of the bullet, and other lines have none. -/
theorem Link.ofLine?_eq_some_iff {l : Text} {k : Link} :
    Link.ofLine? l = some k ↔ IsBullet l k := by
  constructor
  · intro h
    unfold Link.ofLine? at h
    split at h
    · next c r =>
      split at h
      · next hc =>
        obtain ⟨⟨text, href⟩, hcut, rfl⟩ := Option.map_eq_some_iff.mp h
        obtain ⟨htext, rfl⟩ := Text.cutAt?_eq_some_iff.mp hcut
        exact .mk hc htext
      · cases h
    · cases h
  · rintro ⟨hc, htext⟩
    rw [Link.ofLine?, if_pos hc, Text.cutAt?_append htext]
    rfl

/-! ### Places -/

/-- A heading. -/
def Block.isHeading : Block → Bool
  | .heading _ => true
  | _ => false

/-- **A place inside a list of links**: the heading of the list stands there or before it, and no
other heading comes after that heading up to the place. -/
def InLinkList (bs : List Block) (i : Nat) : Prop :=
  ∃ j ≤ i, bs[j]? = some (.heading linksTitle) ∧ ∀ k ≤ i, j < k → ¬ bs[k]?.any Block.isHeading

instance (bs : List Block) : DecidablePred (InLinkList bs) := fun i =>
  inferInstanceAs (Decidable (∃ j ≤ i, bs[j]? = some (.heading linksTitle) ∧
    ∀ k ≤ i, j < k → ¬ bs[k]?.any Block.isHeading))

/-- **The blocks at the places** with a property, in order. -/
def blocksAt (p : Nat → Prop) [DecidablePred p] (bs : List Block) : List Block :=
  (bs.zipIdx.filter fun x => p x.2).map Prod.fst

/-- Blocks at some places: the first one or not, and those of the rest. -/
theorem blocksAt_cons (p : Nat → Prop) [DecidablePred p] (b : Block) (bs : List Block) :
    blocksAt p (b :: bs) = (if p 0 then [b] else []) ++ blocksAt (fun i => p (i + 1)) bs := by
  rw [blocksAt, List.zipIdx_cons', List.filter_cons, List.filter_map, blocksAt]
  split <;> simp_all [Function.comp_def]

/-- The same places pick the same blocks. -/
theorem blocksAt_congr {p q : Nat → Prop} [DecidablePred p] [DecidablePred q]
    (h : ∀ i, p i ↔ q i) (bs : List Block) : blocksAt p bs = blocksAt q bs := by
  rw [blocksAt, blocksAt, List.filter_congr fun x _ => decide_eq_decide.mpr (h x.2)]

/-- A place inside a list of links, if a list may be open where the blocks begin. -/
def InLinkListFrom (inside : Bool) (bs : List Block) (i : Nat) : Prop :=
  InLinkList bs i ∨ inside = true ∧ ∀ k ≤ i, ¬ bs[k]?.any Block.isHeading

instance (inside : Bool) (bs : List Block) : DecidablePred (InLinkListFrom inside bs) := fun i =>
  inferInstanceAs (Decidable (InLinkList bs i ∨
    inside = true ∧ ∀ k ≤ i, ¬ bs[k]?.any Block.isHeading))

/-- Whether a list of links is open behind a block. -/
def opensAfter (inside : Bool) : Block → Bool
  | .heading t => t == linksTitle
  | _ => inside

/-- The first block is in a list if one is open behind it. -/
theorem inLinkListFrom_zero (inside : Bool) (b : Block) (bs : List Block) :
    InLinkListFrom inside (b :: bs) 0 ↔ opensAfter inside b = true := by
  cases b <;> simp [InLinkListFrom, InLinkList, opensAfter, Block.isHeading]

/-- No heading up to a place behind a block, if the block is none. -/
theorem forall_le_succ_isHeading {b : Block} {bs : List Block} {i : Nat} :
    (∀ k ≤ i + 1, ¬ (b :: bs)[k]?.any Block.isHeading) ↔
      ¬ b.isHeading ∧ ∀ k ≤ i, ¬ bs[k]?.any Block.isHeading := by
  constructor
  · exact fun h => ⟨h 0 (Nat.zero_le _), fun k hk => h (k + 1) (Nat.succ_le_succ hk)⟩
  · rintro ⟨hb, hbs⟩ k hk
    cases k with
    | zero => exact hb
    | succ k => exact hbs k (Nat.le_of_succ_le_succ hk)

/-- A block is in a list of the rest, or in the one that the first block opens. -/
theorem inLinkList_succ (b : Block) (bs : List Block) (i : Nat) :
    InLinkList (b :: bs) (i + 1) ↔ InLinkList bs i ∨
      b = .heading linksTitle ∧ ∀ k ≤ i, ¬ bs[k]?.any Block.isHeading := by
  constructor
  · rintro ⟨j, hj, htitle, hnone⟩
    cases j with
    | zero =>
      exact .inr ⟨Option.some.inj htitle,
        fun k hk => hnone (k + 1) (Nat.succ_le_succ hk) (Nat.succ_pos k)⟩
    | succ j =>
      exact .inl ⟨j, Nat.le_of_succ_le_succ hj, htitle,
        fun k hk hjk => hnone (k + 1) (Nat.succ_le_succ hk) (Nat.succ_lt_succ hjk)⟩
  · rintro (⟨j, hj, htitle, hnone⟩ | ⟨rfl, hnone⟩)
    · refine ⟨j + 1, Nat.succ_le_succ hj, htitle, fun k hk hjk => ?_⟩
      obtain ⟨k, rfl⟩ := Nat.exists_eq_succ_of_ne_zero (Nat.ne_zero_of_lt hjk)
      exact hnone k (Nat.le_of_succ_le_succ hk) (Nat.lt_of_succ_lt_succ hjk)
    · refine ⟨0, Nat.zero_le _, rfl, fun k hk hk0 => ?_⟩
      obtain ⟨k, rfl⟩ := Nat.exists_eq_succ_of_ne_zero hk0.ne'
      exact hnone k (Nat.le_of_succ_le_succ hk)

/-- A later block is in a list if it is one of the rest. -/
theorem inLinkListFrom_succ (inside : Bool) (b : Block) (bs : List Block) (i : Nat) :
    InLinkListFrom inside (b :: bs) (i + 1) ↔ InLinkListFrom (opensAfter inside b) bs i := by
  rw [InLinkListFrom, InLinkListFrom, inLinkList_succ, forall_le_succ_isHeading, or_assoc]
  refine or_congr_right ?_
  cases b <;> simp [opensAfter, Block.isHeading]

/-! ### Splits -/

/-- **One block of a split**: it is kept if no list of links is open behind it, and its links are
listed if one is. -/
theorem splitLinksFrom_cons (inside : Bool) (b : Block) (bs : List Block) :
    splitLinksFrom inside (b :: bs) =
      let (kept, links) := splitLinksFrom (opensAfter inside b) bs
      if opensAfter inside b then (kept, Link.ofLines b.lines ++ links)
      else (b :: kept, links) := by
  cases b with
  | heading t =>
    by_cases ht : t = linksTitle
    · subst ht
      rfl
    · simp [splitLinksFrom, opensAfter, ht]
  | paragraph ls => rfl
  | preformat ls => rfl

/-- **The split by places**: blocks outside the lists of links are kept, and links are those of the
blocks inside. -/
theorem splitLinksFrom_eq (inside : Bool) (bs : List Block) :
    splitLinksFrom inside bs = (blocksAt (¬ InLinkListFrom inside bs ·) bs,
      (blocksAt (InLinkListFrom inside bs ·) bs).flatMap fun b => Link.ofLines b.lines) := by
  induction bs generalizing inside with
  | nil => rfl
  | cons b bs ih =>
    rw [splitLinksFrom_cons, ih, blocksAt_cons, blocksAt_cons,
      blocksAt_congr (fun i => not_congr (inLinkListFrom_succ inside b bs i)),
      blocksAt_congr (inLinkListFrom_succ inside b bs)]
    cases hopen : opensAfter inside b <;> simp [inLinkListFrom_zero, hopen]

/-- Blocks without the heading of a list of links are all kept. -/
theorem splitLinks_of_forall_ne {bs : List Block} (h : ∀ b ∈ bs, b ≠ .heading linksTitle) :
    splitLinks bs = (bs, []) := by
  induction bs with
  | nil => rfl
  | cons b bs ih =>
    obtain ⟨hb, hbs⟩ := List.forall_mem_cons.mp h
    have hclosed : opensAfter false b = false := by
      cases b with
      | heading t => simpa [opensAfter] using hb
      | _ => rfl
    rw [splitLinks] at ih ⊢
    rw [splitLinksFrom_cons, hclosed, ih hbs]
    rfl

/-- The heading of a list of links is not kept. -/
theorem ne_of_mem_splitLinksFrom {inside : Bool} {bs : List Block} :
    ∀ b ∈ (splitLinksFrom inside bs).1, b ≠ .heading linksTitle := by
  induction bs generalizing inside with
  | nil => exact List.forall_mem_nil _
  | cons b bs ih =>
    rw [splitLinksFrom_cons]
    cases hopen : opensAfter inside b with
    | true => exact ih
    | false =>
      refine List.forall_mem_cons.mpr ⟨?_, ih⟩
      rintro rfl
      cases hopen

/-- Where a heading stands, it does not matter whether a list of links was open. -/
theorem splitLinksFrom_of_head {bs : List Block} (h : ∀ b ∈ bs.head?, b.isHeading)
    (inside : Bool) : splitLinksFrom inside bs = splitLinks bs := by
  cases bs with
  | nil => rfl
  | cons b bs =>
    cases b with
    | heading t => rfl
    | _ => exact absurd (h _ rfl) Bool.false_ne_true

/-- **Blocks are split in parts** that begin with headings. -/
theorem splitLinksFrom_append {inside : Bool} {as bs : List Block}
    (h : ∀ b ∈ bs.head?, b.isHeading) :
    splitLinksFrom inside (as ++ bs) =
      ((splitLinksFrom inside as).1 ++ (splitLinks bs).1,
        (splitLinksFrom inside as).2 ++ (splitLinks bs).2) := by
  induction as generalizing inside with
  | nil => exact splitLinksFrom_of_head h inside
  | cons a as ih =>
    rw [List.cons_append, splitLinksFrom_cons, splitLinksFrom_cons, ih]
    cases opensAfter inside a <;> simp

/-- **How blocks are split**. The blocks outside the lists of links are kept, in order; listed are
the links of the bullet lines of the blocks inside, in order. What is kept is not split again.
Blocks that begin with a heading are split by themselves, whatever comes before them. -/
theorem splitLinks_divides (as : List Block) :
    (splitLinks as).1 = blocksAt (¬ InLinkList as ·) as ∧
    (splitLinks as).2 = (blocksAt (InLinkList as ·) as).flatMap
      (fun b => b.lines.filterMap Link.ofLine?) ∧
    (∀ l k, Link.ofLine? l = some k ↔ IsBullet l k) ∧
    splitLinks (splitLinks as).1 = ((splitLinks as).1, []) ∧
    ∀ bs, (∀ b ∈ bs.head?, b.isHeading) → splitLinks (as ++ bs) =
      ((splitLinks as).1 ++ (splitLinks bs).1, (splitLinks as).2 ++ (splitLinks bs).2) := by
  have hplaces (i : Nat) : InLinkListFrom false as i ↔ InLinkList as i := by
    simp [InLinkListFrom]
  have hsplit := splitLinksFrom_eq false as
  rw [blocksAt_congr hplaces, blocksAt_congr fun i => not_congr (hplaces i)] at hsplit
  refine ⟨congrArg Prod.fst hsplit, congrArg Prod.snd hsplit,
    fun _ _ => Link.ofLine?_eq_some_iff, splitLinks_of_forall_ne ne_of_mem_splitLinksFrom,
    fun bs h => splitLinksFrom_append h⟩

/-- Blocks with two lists of links, one at the heels of the other. -/
def guideBlocks : List Block :=
  [.paragraph [Text.of "- Intro, /intro"], .heading (Text.of "Links"),
    .preformat [Text.of "-\tOne, /one, two", Text.of "no link"], .heading (Text.of "Links"),
    .paragraph [Text.of "- Two, /two"]]

/-- Blocks that begin with a heading, and end with that of a list of links. -/
def usageBlocks : List Block :=
  [.heading (Text.of "Usage"), .paragraph [Text.of "- Three, /three"], .heading (Text.of "Links")]

/-- The links of the first blocks are listed, and the heading ends their list. -/
theorem splitLinks_divides_guideBlocks :
    (∀ b ∈ usageBlocks.head?, b.isHeading) ∧
    splitLinks (guideBlocks ++ usageBlocks) =
      ([.paragraph [Text.of "- Intro, /intro"], .heading (Text.of "Usage"),
        .paragraph [Text.of "- Three, /three"]],
      [⟨Text.of "One", Text.of "/one, two"⟩, ⟨Text.of "Two", Text.of "/two"⟩]) := by
  have hhead : ∀ b ∈ usageBlocks.head?, b.isHeading := by decide
  obtain ⟨hkept, hlinks, -, -, happend⟩ := splitLinks_divides guideBlocks
  refine ⟨hhead, ?_⟩
  rw [happend usageBlocks hhead, hkept, hlinks]
  decide +kernel

end ApiPage.Prose
