import Mathlib
import ApiPage.Page.Configuration

/-!
# Valid settings

Whatever a program does to the settings, they are whole numbers that are not negative, and so are
the limits of all options that it makes. A change is made as a whole or not at all: `Takes` says
which changes are made and what becomes of the configuration, and any other change is refused and
leaves it as it is. From the single change this follows for all runs, by induction on the changes.

Options are never touched again. So they keep the limits that they were given, or those of the
settings at the time when they were made.

## Main definitions

* `Limits.IsValid`: limits that are not negative.
* `Options.MadeOf`: the options that are made of arguments.
* `Configuration.Takes`: the changes that are made.

## Main results

* `Options.make_eq_ok_iff`: options are made of arguments that are all in order.
* `Configuration.step_eq_none_iff`, `Configuration.eq_of_refused`: one change.
* `Configuration.exists_make`: where the options of a run come from.
* `Configuration.stays_valid`: all settings and options of a run are valid.
-/

namespace ApiPage

/-! ### Limits -/

/-- **Valid limits**: neither is negative. -/
def Limits.IsValid (l : Limits) : Prop := 0 ≤ l.stringSize ∧ 0 ≤ l.elements

/-- The initial limits are valid. -/
theorem Limits.isValid_initial : Limits.initial.IsValid := by
  constructor <;> decide

/-- **A limit** is any whole number that is not negative, and nothing else. -/
theorem checkThreshold_eq_ok_iff {param : Text} {d : Datum} {i : Int} :
    checkThreshold param d = .ok i ↔ d = .int i ∧ 0 ≤ i := by
  cases d with
  | int j =>
    rw [checkThreshold]
    split
    · simp only [reduceCtorEq, false_iff, Datum.int.injEq]
      omega
    · simp only [Except.ok.injEq, Datum.int.injEq]
      omega
  | _ => simp [checkThreshold]

/-- A checked value is set if it is a whole number that is not negative. -/
theorem Settings.checked_eq_ok_iff {param : Text} {d : Datum} {f : Int → Settings} {s : Settings} :
    (match checkThreshold param d with
      | .ok i => .ok (f i)
      | .error e => .error (.invalid e) : Except SettingError Settings) = .ok s ↔
      ∃ i : Int, d = .int i ∧ 0 ≤ i ∧ s = f i := by
  simp only [← and_assoc, ← @checkThreshold_eq_ok_iff param]
  cases checkThreshold param d <;> simp [eq_comm]

/-- The two limits have different names. -/
theorem elementsName_ne_stringSizeName : elementsName ≠ stringSizeName := by decide

/-- **A setting is set** to a whole number that is not negative, and only one that there is. -/
theorem Settings.set_eq_ok_iff {s s' : Settings} {name : Text} {value : Datum} :
    s.set name value = .ok s' ↔ ∃ i : Int, value = .int i ∧ 0 ≤ i ∧
      (name = stringSizeName ∧ s' = { s with stringSize := i } ∨
        name = elementsName ∧ s' = { s with elements := i }) := by
  rw [set]
  split
  · next h =>
    refine (checked_eq_ok_iff (f := fun i => { s with stringSize := i })).trans ?_
    simp [h, elementsName_ne_stringSizeName.symm]
  · next h =>
    split
    · next h' =>
      refine (checked_eq_ok_iff (f := fun i => { s with elements := i })).trans ?_
      simp [h', elementsName_ne_stringSizeName]
    · next h' => simp [h, h']

/-! ### Kinds -/

/-- A kind is given by its name and nothing else. -/
theorem Kind.ofText?_eq_some_iff {t : Text} {k : Kind} : ofText? t = some k ↔ t = k.name := by
  constructor
  · intro h
    have hname := List.find?_some (show all.find? (·.name = t) = some k from h)
    exact (of_decide_eq_true hname).symm
  · rintro rfl
    cases k <;> decide

namespace Options

/-- What stands for a kind is the text of its name. -/
theorem kindOf_eq_ok_iff {d : Datum} {k : Kind} : kindOf d = .ok k ↔ d = .text k.name := by
  cases d with
  | text t =>
    rw [Datum.text.injEq, ← Kind.ofText?_eq_some_iff, kindOf]
    cases Kind.ofText? t with
    | none => simp only [reduceCtorEq]
    | some k' => simp only [Except.ok.injEq, Option.some.injEq]
  | _ => simp only [kindOf, reduceCtorEq]

/-- **Some values are taken for kinds** if each is the name of one. -/
theorem kindsOf_eq_ok_iff {ds : List Datum} {ks : List Kind} :
    kindsOf ds = .ok ks ↔ ds = ks.map fun k => .text k.name := by
  induction ds generalizing ks with
  | nil => cases ks <;> simp [kindsOf]
  | cons d ds ih =>
    simp only [kindsOf, bind_eq_ok, kindOf_eq_ok_iff, ih, pure, Except.pure, Except.ok.injEq]
    cases ks with
    | nil => simp
    | cons k ks => simp

/-! ### Options of arguments -/

/-- **A limit from arguments**: the argument of that name, or the setting if there is none. -/
def Gives (arguments : List (Text × Datum)) (name : Text) (setting i : Int) : Prop :=
  arguments.lookup name = some (.int i) ∨ arguments.lookup name = none ∧ i = setting

/-- **Kinds from an argument**: those that it names one by one, or the usual ones without it. -/
def GivesKinds (argument : Option Datum) (ks : List Kind) : Prop :=
  match argument with
  | none => ks = defaultKinds
  | some d => itemsOf d = .ok (ks.map fun k => .text k.name)

/-- The truth of an argument, if there is one. -/
def truthOf (arguments : List (Text × Datum)) (name : Text) (default : Bool) : Bool :=
  (arguments.lookup name).elim default Datum.truthy

/-- **A rule for URLs from an argument**: what it gives when it is called, or the usual rule without
it. -/
def GivesUrl (argument : Option Datum) (f : Text → Text) : Prop :=
  match argument with
  | none => f = defaultPageUrl
  | some d => ∃ type form, d = .callable type form f

/-- **Options made of arguments** while the settings are `s`: the limits are valid, and given or
those of the settings; URLs are made by a rule, and anchors are of the kinds that there are. -/
structure MadeOf (s : Settings) (arguments : List (Text × Datum)) (o : Options) : Prop where
  valid : o.limits.IsValid
  stringSize : Gives arguments stringSizeName s.stringSize o.limits.stringSize
  elements : Gives arguments elementsName s.elements o.limits.elements
  pageUrl : GivesUrl (arguments.lookup (Text.of "package_url")) o.pageUrl
  kinds : GivesKinds (arguments.lookup (Text.of "anchor_kinds")) o.kinds
  hotlinks : o.hotlinks = truthOf arguments (Text.of "enable_hotlinking") true
  permalinks : o.permalinks = !truthOf arguments (Text.of "disable_permalinks") false
  contents : o.contents = truthOf arguments (Text.of "enable_command_toc") false
  wrapsMethods : o.wrapsMethods = truthOf arguments (Text.of "wrap_receiver_methods") false

/-- **A rule for URLs** is anything that can be called, and nothing else. -/
theorem pageUrlOf_eq_ok_iff {argument : Option Datum} {f : Text → Text} :
    pageUrlOf argument = .ok f ↔ GivesUrl argument f := by
  cases argument with
  | none => simp [pageUrlOf, GivesUrl, eq_comm]
  | some d =>
    cases d with
    | callable type form call => simp [pageUrlOf, GivesUrl]
    | _ => simp [pageUrlOf, GivesUrl]

/-- A limit that is not given stays at its setting. -/
theorem getD_eq_int_iff {arguments : List (Text × Datum)} {name : Text} {setting i : Int} :
    (arguments.lookup name).getD (.int setting) = .int i ↔ Gives arguments name setting i := by
  rw [Gives]
  cases arguments.lookup name <;> simp [eq_comm]

/-- **Named values make options** if each of them is in order. -/
theorem ofFields_eq_ok_iff {s : Settings} {arguments : List (Text × Datum)} {o : Options} :
    ofFields s arguments = .ok o ↔ o.MadeOf s arguments := by
  simp only [ofFields, bind_eq_ok, checkThreshold_eq_ok_iff, getD_eq_int_iff, pageUrlOf_eq_ok_iff]
  constructor
  · rintro ⟨url, hurl, size, ⟨hsize, hsize'⟩, count, ⟨hcount, hcount'⟩, h⟩
    split at h
    · next hkinds =>
      obtain rfl := Except.ok.inj h
      exact ⟨⟨hsize', hcount'⟩, hsize, hcount, hurl, by rw [hkinds]; rfl, rfl, rfl, rfl, rfl⟩
    · next d hd =>
      split at h
      · next ks hks =>
        obtain rfl := Except.ok.inj h
        obtain ⟨ds, hds, hks⟩ := bind_eq_ok.mp hks
        have hkinds : GivesKinds (arguments.lookup (Text.of "anchor_kinds")) ks := by
          rw [hd, GivesKinds, hds, kindsOf_eq_ok_iff.mp hks]
        exact ⟨⟨hsize', hcount'⟩, hsize, hcount, hurl, hkinds, rfl, rfl, rfl, rfl⟩
      · cases h
  · intro h
    obtain ⟨pageUrl, hotlinks, permalinks, contents, limits, kinds, wrapsMethods⟩ := o
    obtain ⟨hvalid, hsize, hcount, hurl, hkinds, rfl, rfl, rfl, rfl⟩ := h
    refine ⟨_, hurl, _, ⟨hsize, hvalid.1⟩, _, ⟨hcount, hvalid.2⟩, ?_⟩
    split
    · next hnone =>
      rw [hnone] at hkinds
      obtain rfl : kinds = defaultKinds := hkinds
      rfl
    · next d hd =>
      rw [hd] at hkinds
      have hks : (itemsOf d >>= kindsOf) = .ok kinds :=
        bind_eq_ok.mpr ⟨_, hkinds, kindsOf_eq_ok_iff.mpr rfl⟩
      rw [hks]
      rfl

/-- **Arguments make options** if they are all known and in order. -/
theorem make_eq_ok_iff {s : Settings} {arguments : List (Text × Datum)} {o : Options} :
    make s arguments = .ok o ↔ (∀ a ∈ arguments, a.1 ∈ argumentNames) ∧ o.MadeOf s arguments := by
  rw [make, ← ofFields_eq_ok_iff]
  split
  · next name d hfind =>
    have hname := List.find?_some hfind
    have hmem := List.mem_of_find?_eq_some hfind
    simp only [reduceCtorEq, false_iff, not_and]
    intro hknown
    simp [hknown _ hmem] at hname
  · next hfind =>
    have hknown : ∀ a ∈ arguments, a.1 ∈ argumentNames := by simpa using hfind
    rw [and_iff_right hknown]
    cases ofFields s arguments <;> simp [Except.mapError]

end Options

namespace Configuration

variable {c c' : Configuration} {a : Change} {e : ChangeError} {i : Nat} {o : Options}

/-! ### One change -/

/-- **The changes that are made**, and what becomes of the configuration. -/
inductive Takes (c : Configuration) : Change → Configuration → Prop
  | stringSize {i : Int} (h : 0 ≤ i) :
    Takes c (.set stringSizeName (.int i))
      { c with settings := { c.settings with stringSize := i } }
  | elements {i : Int} (h : 0 ≤ i) :
    Takes c (.set elementsName (.int i)) { c with settings := { c.settings with elements := i } }
  | reset : Takes c .reset { c with settings := Limits.initial }
  | make {arguments : List (Text × Datum)} {o : Options}
    (hknown : ∀ a ∈ arguments, a.1 ∈ Options.argumentNames) (h : o.MadeOf c.settings arguments) :
    Takes c (.make arguments) { c with made := c.made ++ [o] }

/-- **A change is made** if it is one of those that are, and does what it should. -/
theorem step_eq_none_iff : c.step a = (c', none) ↔ c.Takes a c' := by
  constructor
  · intro h
    cases a with
    | set name value =>
      rw [step] at h
      split at h
      · next s hset =>
        obtain ⟨rfl, -⟩ := Prod.ext_iff.mp h
        obtain ⟨i, rfl, hi, ⟨rfl, rfl⟩ | ⟨rfl, rfl⟩⟩ := Settings.set_eq_ok_iff.mp hset
        · exact .stringSize hi
        · exact .elements hi
      · cases h
    | reset =>
      cases h
      exact .reset
    | make arguments =>
      rw [step] at h
      split at h
      · next o hmake =>
        cases h
        obtain ⟨hknown, ho⟩ := Options.make_eq_ok_iff.mp hmake
        exact .make hknown ho
      · cases h
  · intro h
    cases h with
    | stringSize hi =>
      have hset := (Settings.set_eq_ok_iff (s := c.settings)).mpr ⟨_, rfl, hi, .inl ⟨rfl, rfl⟩⟩
      rw [step, hset]
    | elements hi =>
      have hset := (Settings.set_eq_ok_iff (s := c.settings)).mpr ⟨_, rfl, hi, .inr ⟨rfl, rfl⟩⟩
      rw [step, hset]
    | reset => rfl
    | make hknown ho => rw [step, Options.make_eq_ok_iff.mpr ⟨hknown, ho⟩]

/-- **A change that is refused** leaves everything as it is. -/
theorem eq_of_refused (h : (c.step a).2 = some e) : (c.step a).1 = c := by
  cases a with
  | set name value =>
    rw [step] at h ⊢
    split at h
    · cases h
    · rfl
  | reset => cases h
  | make arguments =>
    rw [step] at h ⊢
    split at h
    · cases h
    · rfl

/-- **One change** is made, or leaves everything as it is. -/
theorem takes_or_eq (c : Configuration) (a : Change) :
    c.Takes a (c.step a).1 ∨ (c.step a).1 = c := by
  cases h : (c.step a).2 with
  | none => exact .inl (step_eq_none_iff.mp (Prod.ext rfl h))
  | some e => exact .inr (eq_of_refused h)

/-- **Valid configuration**: the settings and the limits of all options are valid. -/
structure IsValid (c : Configuration) : Prop where
  settings : c.settings.IsValid
  made : ∀ o ∈ c.made, o.limits.IsValid

/-- A change that is taken leaves the configuration valid. -/
theorem Takes.isValid (h : c.Takes a c') (hc : c.IsValid) : c'.IsValid := by
  cases h with
  | stringSize hi => exact ⟨⟨hi, hc.settings.2⟩, hc.made⟩
  | elements hi => exact ⟨⟨hc.settings.1, hi⟩, hc.made⟩
  | reset => exact ⟨Limits.isValid_initial, hc.made⟩
  | make _ ho =>
    refine ⟨hc.settings, ?_⟩
    rw [List.forall_mem_append, List.forall_mem_singleton]
    exact ⟨hc.made, ho.valid⟩

/-- **The options after a change** are those before it, and one more if it makes options. -/
theorem made_step (c : Configuration) (a : Change) : (c.step a).1.made = c.made ∨
    ∃ arguments o, a = .make arguments ∧ o.MadeOf c.settings arguments ∧
      (c.step a).1.made = c.made ++ [o] := by
  obtain h | h := takes_or_eq c a
  · generalize (c.step a).1 = c' at h ⊢
    cases h with
    | make _ ho => exact .inr ⟨_, _, rfl, ho, rfl⟩
    | _ => exact .inl rfl
  · exact .inl (by rw [h])

/-- What was made stays when a change is made. -/
theorem made_isPrefix_step (c : Configuration) (a : Change) : c.made <+: (c.step a).1.made := by
  obtain h | ⟨_, _, _, _, h⟩ := made_step c a
  · rw [h]
  · rw [h]
    exact List.prefix_append _ _

/-! ### Runs -/

/-- Changes are made one after another. -/
theorem run_append (c : Configuration) (as bs : List Change) :
    c.run (as ++ bs) = (c.run as).run bs := List.foldl_append

/-- The last change is a step of its own. -/
theorem run_concat (c : Configuration) (as : List Change) (a : Change) :
    c.run (as ++ [a]) = ((c.run as).step a).1 := run_append c as [a]

/-- **Valid configurations stay valid.** -/
theorem isValid_run (hc : c.IsValid) (as : List Change) : (c.run as).IsValid := by
  induction as using List.reverseRecOn with
  | nil => exact hc
  | append_singleton as a ih =>
    rw [run_concat]
    obtain h | h := takes_or_eq (c.run as) a
    · exact h.isValid ih
    · rwa [h]

/-- **Options are never touched again.** -/
theorem made_isPrefix_run (c : Configuration) (as : List Change) : c.made <+: (c.run as).made := by
  induction as using List.reverseRecOn with
  | nil => exact List.prefix_rfl
  | append_singleton as a ih =>
    rw [run_concat]
    exact ih.trans (made_isPrefix_step _ a)

/-- **Where options come from**: those that a run makes are made of the arguments of one of its
changes, with the settings as they are then. -/
theorem exists_make {as : List Change} (hi : c.made.length ≤ i)
    (ho : (c.run as).made[i]? = some o) :
    ∃ bs arguments cs, as = bs ++ .make arguments :: cs ∧ (c.run bs).made.length = i ∧
      o.MadeOf (c.run bs).settings arguments := by
  induction as using List.reverseRecOn with
  | nil =>
    have hnone : c.made[i]? = none := List.getElem?_eq_none hi
    cases hnone.symm.trans ho
  | append_singleton as a ih =>
    rw [run_concat] at ho
    by_cases hlt : i < (c.run as).made.length
    · obtain ⟨os, hos⟩ := made_isPrefix_step (c.run as) a
      rw [← hos, List.getElem?_append_left hlt] at ho
      obtain ⟨bs, arguments, cs, rfl, hbs, hmade⟩ := ih ho
      exact ⟨bs, arguments, cs ++ [a], by simp, hbs, hmade⟩
    · have hlast := (List.getElem?_eq_some_iff.mp ho).1
      obtain h | ⟨arguments, o', rfl, hmade, h⟩ := made_step (c.run as) a
      · rw [h] at hlast
        exact absurd hlast hlt
      · rw [h, List.length_append, List.length_singleton] at hlast
        obtain rfl : i = (c.run as).made.length := by omega
        rw [h, List.getElem?_concat_length] at ho
        obtain rfl := Option.some.inj ho
        exact ⟨as, arguments, [], rfl, rfl, hmade⟩

/-- **Settings stay valid, and what is refused changes nothing.** After any changes, made or
refused: the settings and the limits of all options are valid; the next change is made exactly if
it is one of those that are, and else it is refused and leaves everything as it is; and all options
were made by one of the changes, of its arguments and with the settings as they were then, and are
the same after any further changes. -/
theorem stays_valid (as : List Change) :
    (initial.run as).IsValid ∧
    (∀ a, (∃ c, (initial.run as).step a = (c, none) ∧ (initial.run as).Takes a c) ∨
      (∃ e, (initial.run as).step a = (initial.run as, some e)) ∧
        ¬∃ c, (initial.run as).Takes a c) ∧
    ∀ (i : Nat) o, (initial.run as).made[i]? = some o →
      (∃ bs arguments cs, as = bs ++ .make arguments :: cs ∧ (initial.run bs).made.length = i ∧
        o.MadeOf (initial.run bs).settings arguments) ∧
      ∀ bs, (initial.run (as ++ bs)).made[i]? = some o := by
  refine ⟨isValid_run ⟨Limits.isValid_initial, List.forall_mem_nil _⟩ as, fun a => ?_,
    fun i o ho => ⟨exists_make (Nat.zero_le i) ho, fun bs => ?_⟩⟩
  · cases h : ((initial.run as).step a).2 with
    | none =>
      have hstep : (initial.run as).step a = (((initial.run as).step a).1, none) := Prod.ext rfl h
      exact .inl ⟨_, hstep, step_eq_none_iff.mp hstep⟩
    | some e =>
      refine .inr ⟨⟨e, Prod.ext (eq_of_refused h) h⟩, ?_⟩
      rintro ⟨c, hc⟩
      rw [step_eq_none_iff.mpr hc] at h
      cases h
  · obtain ⟨os, hos⟩ := made_isPrefix_run (initial.run as) bs
    have hlt := (List.getElem?_eq_some_iff.mp ho).1
    rw [run_append, ← hos, List.getElem?_append_left hlt, ho]

/-- A setting is changed and not changed, options are not made with a record for the rule of URLs and
made with one limit and a rule given, and the settings are reset. -/
def mixedChanges : List Change :=
  [.set elementsName (.int 7), .set elementsName (.bool true),
    .make [(Text.of "package_url", .record [])],
    .make [(stringSizeName, .int 3),
      (Text.of "package_url", .callable (Text.of "function") (Text.of "<function url>") ('/' :: ·))],
    .set stringSizeName (.int (-1)), .reset]

/-- The first options are those of the second change that makes some. -/
theorem stays_valid_mixedChanges :
    ∃ o, (initial.run mixedChanges).made[0]? = some o ∧ o.limits = ⟨3, 7⟩ ∧ o.limits.IsValid ∧
      o.pageUrl (Text.of "m") = Text.of "/m" ∧
      (initial.run mixedChanges).settings = Limits.initial ∧
      (∃ bs arguments cs, mixedChanges = bs ++ .make arguments :: cs ∧
        (initial.run bs).made.length = 0 ∧ o.MadeOf (initial.run bs).settings arguments) ∧
      ∀ bs, (initial.run (mixedChanges ++ bs)).made[0]? = some o := by
  have hcheck : (initial.run mixedChanges).made[0]?.map
      (fun o => (o.limits, o.pageUrl (Text.of "m"))) = some (⟨3, 7⟩, Text.of "/m") := by
    decide +kernel
  obtain ⟨o, ho, hgiven⟩ := Option.map_eq_some_iff.mp hcheck
  obtain ⟨hlimits, hurl⟩ := Prod.mk.inj hgiven
  obtain ⟨hvalid, -, hmade⟩ := stays_valid mixedChanges
  obtain ⟨hfrom, hlater⟩ := hmade 0 o ho
  exact ⟨o, ho, hlimits, hvalid.made o (List.mem_of_getElem? ho), hurl, by decide +kernel, hfrom,
    hlater⟩

end Configuration
end ApiPage
