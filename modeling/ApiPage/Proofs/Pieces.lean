import ApiPage.Example.Scanner
import ApiPage.Proofs.Line

/-!
# The scanner of example code

The scanner keeps what is asked of lexers. It cuts code without loss: a step takes a character of
the text or leaves a mode, and code, the last mode, is never left; so the steps that a text is given
suffice to its end. A comment goes on to the end of its line.

## Main definitions

* `Example.Step.Moves`: a step that takes a character or leaves its mode.
* `Example.Step.StaysInside`: a step that takes a character and does not leave its mode.
* `Example.stepsLeft`: how many steps suffice behind some modes.
* `Example.commentPieces`: the pieces of lines that are comments.

## Main results

* `Example.moves_step?`, `Example.staysInside_codeStep`: the steps of the scanner.
* `Example.stepsLeft_lt`: after a step, fewer steps suffice.
* `Example.cuts_pieces`: the pieces of a text make up the text, and none is empty.
* `Example.takesCommentLines_pieces`: of lines that are comments, each is one piece.
-/

namespace ApiPage.Example

/-! ### What a step does -/

/-- **A step that goes on**: it takes a character or leaves the mode. -/
def Step.Moves (s : Step) : Prop := 0 < s.length ∨ s.change = .leave

/-- **A step inside a mode**: it takes a character and does not leave the mode. -/
structure Step.StaysInside (s : Step) : Prop where
  length_pos : 0 < s.length
  change_ne : s.change ≠ .leave

variable {P : Step → Prop}

/-- A step that stays inside the text moves on. -/
theorem Step.StaysInside.moves {s : Step} (h : s.StaysInside) : s.Moves := .inl h.length_pos

/-- A step of one stretch is as long as it. -/
@[simp] theorem Step.length_single (shade : Shade) (n : Nat) (change : Change) :
    Step.length ⟨[(shade, n)], change⟩ = n := rfl

/-- The length of a step is that of its stretches together. -/
theorem Step.length_cons (stretch : Shade × Nat) (stretches : List (Shade × Nat))
    (change : Change) : Step.length ⟨stretch :: stretches, change⟩ =
      stretch.2 + Step.length ⟨stretches, change⟩ := rfl

/-- A choice between steps gives one of them. -/
theorem forall_mem_orElse {o p : Option Step} (ho : ∀ s ∈ o, P s) (hp : ∀ s ∈ p, P s) :
    ∀ s ∈ (o <|> p), P s := by
  cases o with
  | none => exact hp
  | some s => exact ho

/-- Taking a stretch gives a step if there is one. -/
theorem forall_mem_taking {shade : Shade} {n : Nat} {change : Change}
    (h : 0 < n → P ⟨[(shade, n)], change⟩) : ∀ s ∈ taking shade n change, P s := by
  intro s hs
  rw [taking] at hs
  split at hs
  · cases hs
  · next hn =>
    obtain rfl := Option.some.inj hs
    exact h (Nat.pos_of_ne_zero hn)

/-- A step that is given. -/
theorem forall_mem_some {s : Step} (h : P s) : ∀ u ∈ some s, P u := by
  rintro _ ⟨⟩
  exact h

/-- Characters that are taken in some mode, be they any. -/
theorem moves_taking (shade : Shade) (n : Nat) (change : Change) :
    ∀ s ∈ taking shade n change, s.Moves := forall_mem_taking fun hn => .inl hn

/-- Leaving a mode takes nothing, and moves on all the same. -/
theorem moves_leaving : ∀ s ∈ some leaving, s.Moves := forall_mem_some (.inr rfl)

/-- Characters that are taken without leaving the mode. -/
theorem staysInside_taking (shade : Shade) (n : Nat) {change : Change} (h : change ≠ .leave) :
    ∀ s ∈ taking shade n change, s.StaysInside := forall_mem_taking fun hn => ⟨hn, h⟩

/-! ### The rules -/

/-- What opens a string is not empty. -/
theorem length_pos_of_opener? {t : Text} {f : Form} {n : Nat} (h : opener? t = some (f, n)) :
    0 < n := by
  rw [opener?] at h
  dsimp only at h
  split at h
  · split at h
    · obtain ⟨-, rfl⟩ := Prod.mk.inj (Option.some.inj h)
      split <;> omega
    · cases h
  · cases h

/-- A string with a gap before it is not empty. -/
theorem length_pos_of_docString? {t : Text} {gap n : Nat} (h : docString? t = some (gap, n)) :
    0 < n := by
  rw [docString?] at h
  split at h
  · split at h
    · obtain ⟨k, -, hk⟩ := Option.map_eq_some_iff.mp h
      obtain ⟨-, rfl⟩ := Prod.mk.inj hk
      omega
    · cases h
  · cases h

/-- A step inside an expression stays inside the text. -/
theorem staysInside_expressionStep (t : Text) : ∀ s ∈ expressionStep t, s.StaysInside := by
  rw [expressionStep]
  split
  · next hopen => exact forall_mem_some ⟨length_pos_of_opener? hopen, by simp⟩
  · have htaking (n : Nat) : ∀ s ∈ taking .other n .stay, s.StaysInside :=
      staysInside_taking .other n (by simp)
    exact forall_mem_orElse (htaking _) (forall_mem_orElse (htaking _)
      (forall_mem_orElse (htaking _) (htaking _)))

/-- **Steps of code** stay inside it. -/
theorem staysInside_codeStep (atLineStart : Bool) (t : Text) :
    ∀ s ∈ codeStep atLineStart t, s.StaysInside := by
  rw [codeStep.eq_def]
  dsimp only
  split
  · exact forall_mem_some ⟨by simp, by simp⟩
  · next gap n _ hdoc =>
    have hpos : 0 < n := by
      split at hdoc
      · exact length_pos_of_docString? hdoc
      · cases hdoc
    refine forall_mem_some ⟨?_, by simp⟩
    show 0 < gap + (n + 0)
    omega
  · refine forall_mem_some ⟨?_, by simp⟩
    rw [Step.length_single]
    omega
  · exact forall_mem_some ⟨by simp, by simp⟩
  · split
    · exact forall_mem_some ⟨by simp, by simp⟩
    · have htaking (n : Nat) (m : Mode) : ∀ s ∈ taking .other n (.enter m), s.StaysInside :=
        staysInside_taking .other n (by simp)
      refine forall_mem_orElse ?_ (forall_mem_orElse (htaking _ _) (forall_mem_orElse (htaking _ _)
        (forall_mem_orElse (htaking _ _) (forall_mem_orElse (htaking _ _)
          (staysInside_expressionStep _)))))
      split
      · exact htaking _ _
      · rintro _ ⟨⟩

/-- A step inside a literal moves on. -/
theorem moves_literalStep (f : Form) (t : Text) : ∀ s ∈ literalStep f t, s.Moves := by
  rw [literalStep.eq_def]
  dsimp only
  split
  · exact forall_mem_some (.inl (by simp))
  split
  · next hn => exact forall_mem_some (.inl (Nat.pos_of_ne_zero hn))
  split
  · exact forall_mem_some (.inr rfl)
  split
  · split
    · exact forall_mem_some (.inl (by simp))
    · refine forall_mem_some (.inl ?_)
      rw [Step.length_single, braceLength]
      split
      · next hn => exact Nat.pos_of_ne_zero hn
      · split <;> omega
  · split
    · exact forall_mem_some (.inl (by simp))
    · rintro _ ⟨⟩
  · refine forall_mem_some (.inl ?_)
    rw [Step.length_single]
    omega

/-- A step inside brackets moves on. -/
theorem moves_bracketStep (t : Text) : ∀ s ∈ bracketStep t, s.Moves := by
  rw [bracketStep.eq_def]
  split
  · split
    · exact forall_mem_some (.inl (by simp))
    split
    · exact forall_mem_some (.inr rfl)
    · exact forall_mem_orElse (moves_taking _ _ _)
        fun s hs => (staysInside_expressionStep _ s hs).moves
  · rintro _ ⟨⟩

/-- A step inside a field moves on. -/
theorem moves_fieldStep (t : Text) : ∀ s ∈ fieldStep t, s.Moves := by
  rw [fieldStep.eq_def]
  split
  · split
    · exact forall_mem_some (.inl (by simp))
    · exact forall_mem_orElse (moves_taking _ _ _) (forall_mem_orElse (moves_taking _ _ _)
        fun s hs => (staysInside_expressionStep _ s hs).moves)
  · rintro _ ⟨⟩

/-- **Every step goes on**. -/
theorem moves_step? (atLineStart : Bool) (t : Text) (m : Mode) :
    ∀ s ∈ step? atLineStart t m, s.Moves := by
  cases m with
  | code => exact fun s hs => (staysInside_codeStep atLineStart t s hs).moves
  | functionName => exact forall_mem_orElse (moves_taking _ _ _) moves_leaving
  | className => exact moves_taking _ _ _
  | moduleName =>
    refine forall_mem_orElse (moves_taking _ _ _) (forall_mem_orElse ?_
      (forall_mem_orElse (moves_taking _ _ _) moves_leaving))
    split
    · exact forall_mem_some (.inr rfl)
    · rintro _ ⟨⟩
  | moduleNames =>
    exact forall_mem_orElse (moves_taking _ _ _) (forall_mem_orElse (moves_taking _ _ _)
      (forall_mem_orElse (moves_taking _ _ _) moves_leaving))
  | wildcard => exact moves_leaving
  | literal f => exact moves_literalStep f t
  | field => exact moves_fieldStep t
  | bracket => exact moves_bracketStep t

/-! ### The stack of modes -/

/-- Code stays the last mode. -/
theorem Change.getLast?_apply {ms : List Mode} (h : ms.getLast? = some .code) (c : Change) :
    (c.apply ms).getLast? = some .code := by
  obtain ⟨m, ms, rfl⟩ := List.exists_cons_of_ne_nil (l := ms) fun hnil => by
    rw [hnil] at h
    cases h
  cases c with
  | stay => exact h
  | enter m' => rw [Change.apply, List.getLast?_cons_cons, h]
  | leave =>
    cases ms with
    | nil => exact h
    | cons m' ms => rwa [List.getLast?_cons_cons] at h

/-- A change enters one mode at most. -/
theorem Change.length_apply_le (c : Change) (ms : List Mode) :
    (c.apply ms).length ≤ ms.length + 1 := by
  rw [Change.apply.eq_def]
  split
  · omega
  · simp
  · rw [List.length_drop]
    omega
  · rfl

/-- Where a mode other than code is left, another is below it. -/
theorem length_apply_leave {ms : List Mode} (hlast : ms.getLast? = some .code)
    (hhead : ms.headD .code ≠ .code) : (Change.leave.apply ms).length < ms.length := by
  match ms with
  | [] => exact absurd rfl hhead
  | [m] => exact absurd (Option.some.inj hlast) hhead
  | m :: m' :: ms => exact Nat.lt_succ_self _

/-! ### The scanner -/

/-- How many steps suffice for a text behind some modes. -/
def stepsLeft (ms : List Mode) (t : Text) : Nat := 2 * t.length + ms.length

/-- **After a step fewer steps suffice.** -/
theorem stepsLeft_lt {ms : List Mode} {t : Text} {b : Bool} {s : Step} (ht : t ≠ [])
    (hlast : ms.getLast? = some .code) (hs : step? b t (ms.headD .code) = some s) :
    stepsLeft (s.change.apply ms) (t.drop s.length) < stepsLeft ms t := by
  have hpos := List.length_pos_of_ne_nil ht
  rw [stepsLeft, stepsLeft, List.length_drop]
  rcases Nat.eq_zero_or_pos s.length with hzero | hlength
  · have hleave : s.change = .leave :=
      (moves_step? b t _ s hs).resolve_left (by rw [hzero]; exact lt_irrefl 0)
    have hhead : ms.headD .code ≠ .code := by
      intro hcode
      rw [hcode] at hs
      exact (staysInside_codeStep b t s hs).change_ne hleave
    have hless := length_apply_leave hlast hhead
    rw [hleave]
    omega
  · have hle := s.change.length_apply_le ms
    omega

/-- What a step takes is in its pieces. -/
theorem flatMap_text_piecesOf (t : Text) (stretches : List (Shade × Nat)) (change : Change) :
    (piecesOf t stretches).flatMap Piece.text ++ t.drop (Step.length ⟨stretches, change⟩) = t := by
  induction stretches generalizing t with
  | nil => rfl
  | cons stretch stretches ih =>
    have hrest := ih (t.drop stretch.2)
    rw [List.drop_drop, ← Step.length_cons stretch] at hrest
    have hsplit := List.take_append_drop stretch.2 t
    rw [piecesOf]
    split
    · next hnil =>
      rw [List.isEmpty_iff.mp hnil, List.nil_append] at hsplit
      rw [hrest, hsplit]
    · rw [List.flatMap_cons, List.append_assoc, hrest, hsplit]

/-- No piece of a step is empty. -/
theorem text_ne_of_mem_piecesOf {t : Text} {stretches : List (Shade × Nat)} :
    ∀ p ∈ piecesOf t stretches, p.text ≠ [] := by
  induction stretches generalizing t with
  | nil => exact List.forall_mem_nil _
  | cons stretch stretches ih =>
    rw [piecesOf]
    split
    · exact ih
    · next hne => exact List.forall_mem_cons.mpr ⟨by simpa using hne, ih⟩

/-- The parts of a text that holds a wildcard. -/
theorem eq_of_wildcard? {t code : Text} {gap : Nat} (h : wildcard? t = some (gap, code)) :
    0 < gap ∧ t = t.take gap ++ (code ++ '_' :: t.drop (gap + code.length + 1)) := by
  rw [wildcard?] at h
  split at h
  · next r hdrop =>
    split at h
    · cases h
    · next hcond =>
      obtain ⟨rfl, rfl⟩ := Prod.mk.inj (Option.some.inj h)
      refine ⟨Nat.pos_of_ne_zero fun hzero => hcond (by simp [hzero]), ?_⟩
      rw [← List.drop_drop, hdrop, List.drop_one, List.tail_cons, ← hdrop, ← List.drop_drop,
        Text.drop_length_takeWhile, List.takeWhile_append_dropWhile, List.take_append_drop]
  · cases h

/-- Around a wildcard fewer steps suffice for either side. -/
theorem stepsLeft_wildcard {ms : List Mode} {t code : Text} {gap : Nat}
    (h : wildcard? t = some (gap, code)) (hms : 0 < ms.length) :
    stepsLeft [.code] code < stepsLeft ms t ∧
      stepsLeft ms (t.drop (gap + code.length + 1)) < stepsLeft ms t := by
  obtain ⟨hgap, hsplit⟩ := eq_of_wildcard? h
  have hlength := congrArg List.length hsplit
  simp only [List.length_append, List.length_take, List.length_cons, List.length_drop] at hlength
  simp only [stepsLeft, List.length_singleton, List.length_drop]
  omega

/-- **A scan loses nothing** if it has the steps that suffice. -/
theorem flatMap_text_scan {fuel : Nat} {before : Char} {ms : List Mode} {t : Text}
    (hlast : ms.getLast? = some .code) (hfuel : stepsLeft ms t ≤ fuel) :
    (scan fuel before ms t).flatMap Piece.text = t := by
  induction fuel generalizing before ms t with
  | zero =>
    have hnil : t = [] := by
      rw [stepsLeft] at hfuel
      exact List.length_eq_zero_iff.mp (by omega)
    rw [hnil]
    rfl
  | succ fuel ih =>
    cases t with
    | nil => rfl
    | cons c r =>
      have hms : 0 < ms.length := by
        cases ms with
        | nil => cases hlast
        | cons => exact Nat.succ_pos _
      rw [scan]
      dsimp only
      split
      · next gap code hwild =>
        have hwild : wildcard? (c :: r) = some (gap, code) := by
          split at hwild
          · exact hwild
          · cases hwild
        obtain ⟨-, hsplit⟩ := eq_of_wildcard? hwild
        obtain ⟨hless, hless'⟩ := stepsLeft_wildcard hwild hms
        have hcode : (scan fuel '\n' [.code] code).flatMap Piece.text = code :=
          ih rfl (by omega)
        have hrest : (scan fuel '_' ms ((c :: r).drop (gap + code.length + 1))).flatMap
            Piece.text = (c :: r).drop (gap + code.length + 1) := ih hlast (by omega)
        rw [List.flatMap_append, List.flatMap_cons, List.flatMap_cons, hcode, hrest]
        simpa using hsplit.symm
      · split
        · next s hs =>
          have hless := stepsLeft_lt (List.cons_ne_nil c r) hlast hs
          rw [List.flatMap_append, ih (s.change.getLast?_apply hlast) (by omega)]
          exact flatMap_text_piecesOf _ _ _
        · rw [List.flatMap_cons, ih]
          · rfl
          · split
            · rfl
            · exact hlast
          · rw [stepsLeft, List.length_cons] at hfuel
            rw [stepsLeft]
            split
            · rw [List.length_singleton]
              omega
            · omega

/-- **No piece of a scan is empty.** -/
theorem text_ne_of_mem_scan {fuel : Nat} {before : Char} {ms : List Mode} {t : Text} :
    ∀ p ∈ scan fuel before ms t, p.text ≠ [] := by
  induction fuel generalizing before ms t with
  | zero => exact List.forall_mem_nil _
  | succ fuel ih =>
    cases t with
    | nil => exact List.forall_mem_nil _
    | cons c r =>
      rw [scan]
      dsimp only
      split
      · next gap code hwild =>
        have hwild : wildcard? (c :: r) = some (gap, code) := by
          split at hwild
          · exact hwild
          · cases hwild
        obtain ⟨n, rfl⟩ := Nat.exists_eq_succ_of_ne_zero (eq_of_wildcard? hwild).1.ne'
        exact List.forall_mem_append.mpr ⟨List.forall_mem_cons.mpr ⟨List.cons_ne_nil _ _, ih⟩,
          List.forall_mem_cons.mpr ⟨List.cons_ne_nil _ _, ih⟩⟩
      · split
        · exact List.forall_mem_append.mpr ⟨text_ne_of_mem_piecesOf, ih⟩
        · exact List.forall_mem_cons.mpr ⟨List.cons_ne_nil _ _, ih⟩

/-- **The scanner cuts texts**: the pieces of a text make up the text, and none of them is empty. -/
theorem cuts_pieces : Lexer.Cuts pieces where
  concatenates _ := flatMap_text_scan rfl (by rw [stepsLeft, stepsFor, List.length_singleton]; omega)
  text_ne _ := text_ne_of_mem_scan

/-! ### Comment lines -/

/-- A step in code gives its pieces, and the scan goes on behind them. -/
theorem scan_of_codeStep {c : Char} {r : Text} {s : Step} {before : Char}
    (h : codeStep (before == '\n') (c :: r) = some s) (fuel : Nat) :
    scan (fuel + 1) before [.code] (c :: r) = piecesOf (c :: r) s.stretches ++
      scan fuel (charBefore before (c :: r) s.length) (s.change.apply [.code])
        ((c :: r).drop s.length) := by
  have hmode : step? (before == '\n') (c :: r) .code = some s := h
  rw [scan]
  simp only [List.headD_cons, reduceCtorEq, if_false, hmode]

/-- A number sign opens a comment, which goes on to the end of its line. -/
theorem codeStep_comment (b : Bool) (r : Text) : codeStep b ('#' :: r) =
    some ⟨[(.comment, 1 + (r.takeWhile (· ≠ '\n')).length)], .stay⟩ := by
  cases b <;> rfl

/-- **A comment is one piece**, up to the end of its line. -/
theorem scan_comment {w r : Text} (hw : '\n' ∉ w) (hr : ∀ c ∈ r.head?, c = '\n') (fuel : Nat)
    (before : Char) : scan (fuel + 1) before [.code] ('#' :: (w ++ r)) =
      ⟨.comment, '#' :: w⟩ ::
        scan fuel (charBefore before ('#' :: (w ++ r)) (1 + w.length)) [.code] r := by
  have hline : (w ++ r).takeWhile (· ≠ '\n') = w := by
    rw [List.takeWhile_append_of_pos (by simpa using fun c hc => ne_of_mem_of_not_mem hc hw)]
    cases r with
    | nil => simp
    | cons c r =>
      obtain rfl := hr c rfl
      simp
  have hstep := codeStep_comment (before == '\n') (w ++ r)
  rw [hline] at hstep
  rw [scan_of_codeStep hstep, Step.length_single, Nat.add_comm 1, piecesOf, piecesOf,
    List.take_succ_cons, List.take_left, List.drop_succ_cons, List.drop_left]
  rfl

/-- A newline in code is a step of its own. -/
theorem codeStep_newline (b : Bool) (r : Text) :
    codeStep b ('\n' :: r) = some ⟨[(.other, 1)], .stay⟩ := by
  cases b <;> rfl

/-- A newline in code is a piece of its own. -/
theorem scan_newline (fuel : Nat) (before : Char) (r : Text) :
    scan (fuel + 1) before [.code] ('\n' :: r) =
      ⟨.other, ['\n']⟩ :: scan fuel '\n' [.code] r := by
  rw [scan_of_codeStep (codeStep_newline _ r)]
  rfl

/-- Of an empty text there is nothing to scan. -/
theorem scan_nil (fuel : Nat) (before : Char) (ms : List Mode) : scan fuel before ms [] = [] := by
  cases fuel <;> rfl

/-- The pieces of comment lines: the comments, parted by newlines. -/
def commentPieces (ls : List Text) : List Piece :=
  (ls.map (⟨.comment, ·⟩)).intersperse ⟨.other, ['\n']⟩

/-- **A run over comment lines** that has a step for each character. -/
theorem scan_joinLines {fuel : Nat} {before : Char} {ls : List Text}
    (hls : ∀ l ∈ ls, IsCommentLine l) (hfuel : (Text.joinLines ls).length ≤ fuel) :
    scan fuel before [.code] (Text.joinLines ls) = commentPieces ls := by
  induction ls generalizing fuel before with
  | nil => exact scan_nil fuel before _
  | cons l ls ih =>
    obtain ⟨⟨w, rfl, hw⟩, hrest⟩ := List.forall_mem_cons.mp hls
    cases ls with
    | nil =>
      obtain ⟨fuel, rfl⟩ := Nat.exists_eq_succ_of_ne_zero (Nat.ne_zero_of_lt hfuel)
      have hone := scan_comment hw (r := []) (by simp) fuel before
      rw [List.append_nil, scan_nil] at hone
      exact hone
    | cons m ls =>
      have hjoin : Text.joinLines (('#' :: w) :: m :: ls) =
          '#' :: (w ++ '\n' :: Text.joinLines (m :: ls)) :=
        Text.joinLines_cons ('#' :: w) (List.cons_ne_nil m ls)
      rw [hjoin, List.length_cons, List.length_append, List.length_cons] at hfuel
      obtain ⟨fuel, rfl⟩ : ∃ n, fuel = n + 1 + 1 := ⟨fuel - 2, by omega⟩
      rw [hjoin, scan_comment hw (by simp), scan_newline, ih hrest (by omega)]
      rfl

/-- **The pieces of comment lines** are the comments, parted by newlines. -/
theorem pieces_joinLines {ls : List Text} (hls : ∀ l ∈ ls, IsCommentLine l) :
    pieces (Text.joinLines ls) = commentPieces ls :=
  scan_joinLines hls (by rw [stepsFor]; omega)

/-- The comments among the pieces of some comment lines are these lines. -/
theorem commentTexts_commentPieces (ls : List Text) : commentTexts (commentPieces ls) = ls := by
  induction ls with
  | nil => rfl
  | cons l ls ih =>
    cases ls with
    | nil => rfl
    | cons m ls => exact congrArg (l :: ·) ih

/-- **The scanner takes comments by the line.** -/
theorem takesCommentLines_pieces : Lexer.TakesCommentLines pieces := fun ls hls => by
  rw [pieces_joinLines hls, commentTexts_commentPieces]

end ApiPage.Example
