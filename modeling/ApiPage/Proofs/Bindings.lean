import ApiPage.Proofs.Displayed
import ApiPage.Proofs.Elements
import ApiPage.Proofs.Imports
import ApiPage.Proofs.Line

/-!
# What names stand for

A name of a module may be imported, declared on the page, and predeclared. Prose and code ask for it
in different ways. Prose looks among the modules that are imported only if a point follows, then on
the page, among the symbols that are imported and among the predeclared names. Code asks for the
binding: a declaration hides an import, and an import hides a predeclared name. Here it is said
where the two agree.

## Main definitions

* `Resolver.wordHref?`: where prose links a word to.
* `LinksAlike`, `LinksPairAlike`: prose and code link a name, or a name and a member, to the same
  page.

## Main results

* `href_surroundings`, `modulePath?_surroundings`: what a name stands for in code.
* `linksAlike_iff`: when prose and code agree.
* `not_linksAlike_hidingModule`: a module on whose names they do not.
-/

namespace ApiPage

open Syntax (Span)
open Html (Phrase Spells)

/-! ### Where prose links a word -/

/-- The destinations of the links of an HTML text. -/
def Html.hrefs? (h : Text) : Option (List Text) := (tokens? h).map hrefsOf

/-- An escaped text has no links. -/
theorem Html.hrefs?_escape (t : Text) : hrefs? (escape t) = some [] := by
  rw [hrefs?, (spells_escape t).tokens, Option.map_some, hrefsOf_chars]

/-- A link has one link. -/
theorem Html.hrefs?_link (href label : Text) : hrefs? (link href label) = some [href] := by
  rw [hrefs?, (spells_link href label).tokens, Option.map_some, hrefsOf_link]

/-- Two links with a point between go to two places. -/
theorem Html.hrefs?_pair (u v t w : Text) :
    hrefs? (link u t ++ '.' :: link v w) = some [u, v] := by
  have hlink (u t : Text) : ∃ ts, Spells (link u t) ts ∧ hrefsOf ts = [u] :=
    ⟨_, spells_link u t, hrefsOf_link u t⟩
  obtain ⟨ts, hts, htrefs⟩ := hlink u t
  obtain ⟨us, hus, hurefs⟩ := hlink v w
  have hpoint : Spells ['.'] [.char '.'] := spells_escape ['.']
  have hspells : Spells (link u t ++ '.' :: link v w) (ts ++ ([.char '.'] ++ us)) :=
    hts.append (hpoint.append hus)
  have hnone : hrefsOf [.char '.'] = [] := hrefsOf_chars ['.']
  rw [hrefs?, hspells.tokens, Option.map_some, hrefsOf_append, hrefsOf_append, htrefs, hurefs,
    hnone]
  rfl

/-- A pair of links shows to what each refers. -/
theorem Html.pair_inj {u v u' v' t w : Text} :
    link u t ++ '.' :: link v w = link u' t ++ '.' :: link v' w ↔ u = u' ∧ v = v' := by
  constructor
  · intro h
    have hrefs := congrArg hrefs? h
    rw [hrefs?_pair, hrefs?_pair] at hrefs
    simpa using hrefs
  · rintro ⟨rfl, rfl⟩
    rfl

namespace Resolver

variable (r : Resolver)

/-- **Where prose links a word** that does not begin with an imported module. -/
def wordHref? (w : Text) : Option Text :=
  if r.targets.contains w then some ('#' :: w)
  else match r.members.lookup w with
    | some id => some ('#' :: id)
    | none => match r.symbols.lookup w with
      | some (path, symbol) => some (r.url path symbol)
      | none => if isPredeclared w then some (r.url builtinsPath w) else none

/-- A word is a link if it refers to something, and else its text. -/
theorem plainHtml_eq (w : Text) :
    r.plainHtml w = (r.wordHref? w).elim (Html.escape w) (Html.link · w) := by
  unfold plainHtml wordHref?
  by_cases htarget : r.targets.contains w = true
  · rw [if_pos htarget, if_pos htarget]
    rfl
  · rw [if_neg htarget, if_neg htarget]
    cases r.members.lookup w with
    | some id => rfl
    | none =>
      cases r.symbols.lookup w with
      | some s => rfl
      | none =>
        dsimp only
        split <;> rfl

/-- The links of a word in prose are what it refers to. -/
theorem hrefs?_plainHtml (w : Text) :
    Html.hrefs? (r.plainHtml w) = some (r.wordHref? w).toList := by
  rw [plainHtml_eq]
  cases r.wordHref? w with
  | none => exact Html.hrefs?_escape w
  | some href => exact Html.hrefs?_link href w

/-- A word without a point is no name after a module. -/
theorem html_of_notMem {w : Text} (hw : '.' ∉ w) : r.html w = r.plainHtml w := by
  rw [html, Text.cutAt?_eq_none hw]

/-- A word with a point is one if a module is imported under the name before it. -/
theorem html_pair {w : Text} (hw : '.' ∉ w) (a : Text) :
    r.html (w ++ '.' :: a) = match r.namespaces.lookup w with
      | some path => Html.link (r.url path []) w ++ '.' :: Html.link (r.url path a) a
      | none => r.plainHtml (w ++ '.' :: a) := by
  cases hpath : r.namespaces.lookup w with
  | none => simp only [html, Text.cutAt?_append hw, hpath]
  | some path => simp only [html, Text.cutAt?_append hw, hpath]

end Resolver

/-! ### Prose and code -/

/-- The link of a sighting. -/
def Sighting.href? : Sighting → Option Text
  | .identifier _ _ _ href => href
  | .anchored .. => none

/-- **A name is linked alike** in prose, where it is a word, and in code, where it is read. -/
def LinksAlike (env : Surroundings) (w : Text) : Prop :=
  ∀ s, Html.hrefs? (env.resolver.html w) =
    some ((exprSightings env (.name s w .load)).filterMap Sighting.href?)

/-- **A name with a member is linked alike**: if prose links both to the page of a path, the name to
the page and the member to its place there, then so does code, and conversely. -/
def LinksPairAlike (env : Surroundings) (w a : Text) : Prop :=
  ∀ s n path,
    env.resolver.html (w ++ '.' :: a) =
        Html.link (env.resolver.url path []) w ++ '.' :: Html.link (env.resolver.url path a) a ↔
      exprSightings env (.attr s (.name n w .load) a) =
        [.identifier (startOf n) w none (some (env.resolver.url path [])),
          .identifier (memberPlace s a) a none (some (env.resolver.url path a))]

section Alike

variable {path source : Text} {p : Package} {o : Options} {receiver cls : Option Text}
  {locals : List Text} {w : Text}

/-- The surroundings of a name in a declaration of the page. -/
abbrev surroundings (p : Package) (o : Options) (receiver cls : Option Text) (locals : List Text) :
    Surroundings :=
  ⟨p.lookup, Renderer.resolver ⟨p, o⟩, receiver, cls, locals⟩

/-- **A module is imported** under a name. -/
def Package.ImportsModule (p : Package) (w : Text) : Prop :=
  ∃ i, p.imports.lookup w = some i ∧ i.symbol = none

/-- The link of a name in code, if it is not local. -/
theorem sightings_name {env : Surroundings} (hlocal : w ∉ env.locals) (s : Span) :
    (exprSightings env (.name s w .load)).filterMap Sighting.href? = (env.href w).toList := by
  have hcontains : env.locals.contains w = false := by simpa using hlocal
  rw [exprSightings, hcontains]
  cases env.href w <;> simp [Sighting.href?]

/-- **A word in prose** refers to a name of the page, to a symbol that is imported, or to a builtin.
-/
theorem wordHref?_resolver (hp : Package.ofSource path source = .ok p) (hw : '.' ∉ w) :
    (Renderer.resolver ⟨p, o⟩).wordHref? w =
      if w ∈ p.topNames then some ('#' :: w)
      else match p.imports.lookup w with
        | some ⟨_, path, some symbol⟩ => some ((Renderer.resolver ⟨p, o⟩).url path symbol)
        | _ => if isPredeclared w then some ((Renderer.resolver ⟨p, o⟩).url builtinsPath w)
          else none := by
  have htargets : (Renderer.resolver ⟨p, o⟩).targets.contains w = decide (w ∈ p.topNames) := by
    rw [Bool.eq_iff_iff, List.contains_iff_mem, decide_eq_true_iff]
    exact Package.mem_anchorTargets_iff hp hw
  have hmembers : (Renderer.resolver ⟨p, o⟩).members.lookup w = none := rfl
  have hsymbols := Package.lookup_symbols hp w
  unfold Resolver.wordHref?
  rw [htargets, hmembers, Renderer.resolver, hsymbols]
  by_cases htop : w ∈ p.topNames
  · simp [htop]
  · cases h : p.imports.lookup w with
    | none => simp [htop]
    | some i =>
      obtain ⟨name, m, symbol⟩ := i
      cases symbol <;> simp [htop]

/-- **A name in code** refers to a name of the page, to a symbol that is imported, or to a builtin
that no import hides. -/
theorem href_surroundings :
    (surroundings p o receiver cls locals).href w =
      if w ∈ p.topNames then some ('#' :: w)
      else match p.imports.lookup w with
        | some ⟨_, path, some symbol⟩ => some ((Renderer.resolver ⟨p, o⟩).url path symbol)
        | some ⟨_, _, none⟩ => none
        | none => if isPredeclared w then some ((Renderer.resolver ⟨p, o⟩).url builtinsPath w)
          else none := by
  unfold Surroundings.href
  dsimp only
  rw [Package.lookup]
  by_cases htop : w ∈ p.topNames
  · simp [htop]
  · cases h : p.imports.lookup w with
    | none => simp [htop]
    | some i =>
      obtain ⟨name, m, symbol⟩ := i
      cases symbol <;> simp [htop]

/-- Prose and code agree on a name if they link it to the same place. -/
theorem linksAlike_iff_href {env : Surroundings} (hw : '.' ∉ w) (hlocal : w ∉ env.locals) :
    LinksAlike env w ↔ env.resolver.wordHref? w = env.href w := by
  have hprose : Html.hrefs? (env.resolver.html w) = some (env.resolver.wordHref? w).toList := by
    rw [Resolver.html_of_notMem _ hw, Resolver.hrefs?_plainHtml]
  constructor
  · intro h
    have hs := h default
    rw [hprose, sightings_name hlocal, Option.some_inj] at hs
    simpa using congrArg List.head? hs
  · intro h s
    rw [hprose, sightings_name hlocal, h]

/-- **A name is linked alike** except where a module hides a predeclared name: prose then links the
word to the predeclared name, and code does not link it. -/
theorem linksAlike_surroundings (hp : Package.ofSource path source = .ok p) (hw : '.' ∉ w)
    (hlocal : w ∉ locals) :
    LinksAlike (surroundings p o receiver cls locals) w ↔
      ¬(p.ImportsModule w ∧ w ∉ p.topNames ∧ isPredeclared w) := by
  rw [linksAlike_iff_href hw hlocal, wordHref?_resolver hp hw, href_surroundings]
  by_cases htop : w ∈ p.topNames
  · simp [htop]
  · cases h : p.imports.lookup w with
    | none => simp [Package.ImportsModule, h]
    | some i =>
      obtain ⟨name, m, symbol⟩ := i
      cases symbol <;> simp [Package.ImportsModule, h, htop]

/-- A name in code stands for a module if that is what is imported under it. -/
theorem modulePath?_surroundings (p : Package) (o : Options) (receiver cls : Option Text)
    (hlocal : w ∉ locals) :
    (surroundings p o receiver cls locals).modulePath? w =
      if w ∈ p.topNames then none
      else (p.imports.lookup w).bind fun i => if i.symbol.isNone then some i.path else none := by
  have hcontains : locals.contains w = false := by simpa using hlocal
  unfold Surroundings.modulePath?
  dsimp only
  rw [hcontains, Package.lookup]
  by_cases htop : w ∈ p.topNames
  · simp [htop]
  · cases h : p.imports.lookup w with
    | none => simp [htop]
    | some i =>
      obtain ⟨name, m, symbol⟩ := i
      cases symbol <;> simp [htop]

/-- A member of a name that stands for no module carries no link. -/
theorem sightings_attr (env : Surroundings) (hlocal : w ∉ env.locals) (s n : Span) (a : Text) :
    exprSightings env (.attr s (.name n w .load) a) = match env.modulePath? w with
      | some path => [.identifier (startOf n) w none (some (env.resolver.url path [])),
          .identifier (memberPlace s a) a none (some (env.resolver.url path a))]
      | none => [.identifier (startOf n) w none (env.href w), seen (memberPlace s a) a] := by
  have hcontains : env.locals.contains w = false := by simpa using hlocal
  rw [exprSightings]
  cases env.modulePath? w with
  | some path => rfl
  | none =>
    dsimp only
    rw [exprSightings, hcontains]
    rfl

/-- **A name with a member is linked alike** except where a declaration hides a module: prose then
links both to the page of the module, and code does not. One link for the pair is not two, so that
no other case tells the two sides apart. -/
theorem linksPairAlike_surroundings (hp : Package.ofSource path source = .ok p) (hw : '.' ∉ w)
    (hlocal : w ∉ locals) (a : Text) :
    LinksPairAlike (surroundings p o receiver cls locals) w a ↔
      ¬(w ∈ p.topNames ∧ p.ImportsModule w) := by
  have hcode := sightings_attr (surroundings p o receiver cls locals) hlocal
  have hmodule := modulePath?_surroundings p o receiver cls hlocal
  have hprose := Resolver.html_pair (Renderer.resolver ⟨p, o⟩) hw a
  have hnamespaces : (Renderer.resolver ⟨p, o⟩).namespaces = p.namespaces := rfl
  rw [hnamespaces, Package.lookup_namespaces hp] at hprose
  have himports : p.ImportsModule w ↔ ((p.imports.lookup w).bind fun i =>
      if i.symbol.isNone then some i.path else none).isSome := by
    cases h : p.imports.lookup w with
    | none => simp [Package.ImportsModule, h]
    | some i => simp [Package.ImportsModule, h]
  rw [himports]
  cases hm : (p.imports.lookup w).bind fun i => if i.symbol.isNone then some i.path else none with
  | none =>
    rw [hm] at hprose hmodule
    refine iff_of_true (fun s n path => iff_of_false ?_ ?_) (by simp)
    · intro h
      have hrefs := congrArg Html.hrefs? (hprose.symm.trans h)
      rw [Resolver.hrefs?_plainHtml, Html.hrefs?_pair] at hrefs
      cases hword : (Renderer.resolver ⟨p, o⟩).wordHref? (w ++ '.' :: a) <;> simp [hword] at hrefs
    · rw [hcode, hmodule]
      simp [seen]
  | some m =>
    rw [hm] at hprose hmodule
    by_cases htop : w ∈ p.topNames
    · refine iff_of_false (fun h => ?_) (by simp [htop])
      have hlinked := (h default default m).mp hprose
      rw [hcode, hmodule] at hlinked
      simp [htop, seen] at hlinked
    · refine iff_of_true (fun s n path => ?_) (by simp [htop])
      rw [if_neg htop] at hmodule
      rw [hcode, hmodule]
      dsimp only
      rw [hprose, Html.pair_inj]
      simp

/-- **Prose and code agree on a name**, save where a module is imported under it. A module that
hides a predeclared name is linked as the predeclared name in prose and not at all in code; and a
module that a declaration hides is linked, before a member, in prose and not in code. -/
theorem linksAlike_iff (hp : Package.ofSource path source = .ok p) (o : Options)
    (receiver cls : Option Text) (locals : List Text) (w : Text) (hw : '.' ∉ w)
    (hlocal : w ∉ locals) :
    (LinksAlike (surroundings p o receiver cls locals) w ↔
      ¬(p.ImportsModule w ∧ w ∉ p.topNames ∧ isPredeclared w)) ∧
    ∀ a, LinksPairAlike (surroundings p o receiver cls locals) w a ↔
      ¬(w ∈ p.topNames ∧ p.ImportsModule w) :=
  ⟨linksAlike_surroundings hp hw hlocal, linksPairAlike_surroundings hp hw hlocal⟩

end Alike

/-- The surroundings of a name that is read on a page with plain options. -/
abbrev onPage (p : Package) : Surroundings := surroundings p plainOptions none none []

/-- A module with an import and a function. -/
def importingModule : Text := Text.of "import numpy as np\n\ndef f(): pass\n"

/-- A function of the page and an imported module are linked alike. -/
theorem linksAlike_iff_importingModule :
    ∃ p, Package.ofSource (Text.of "m") importingModule = .ok p ∧
      LinksAlike (onPage p) (Text.of "f") ∧ LinksAlike (onPage p) (Text.of "np") ∧
      ∀ a, LinksPairAlike (onPage p) (Text.of "np") a := by
  have hcheck : (Package.ofSource (Text.of "m") importingModule).toOption.any (fun p =>
      decide (p.topNames = [Text.of "f"])) = true := by
    decide +kernel
  obtain ⟨p, hp, hnames⟩ := (Option.any_eq_true _ _).mp hcheck
  replace hp := eq_ok_of_toOption hp
  replace hnames := of_decide_eq_true hnames
  have hf := linksAlike_iff hp plainOptions none none [] (Text.of "f") (by decide)
    List.not_mem_nil
  have hnp := linksAlike_iff hp plainOptions none none [] (Text.of "np") (by decide)
    List.not_mem_nil
  refine ⟨p, hp, hf.1.mpr ?_, hnp.1.mpr ?_, fun a => (hnp.2 a).mpr ?_⟩
  · rintro ⟨-, hnot, -⟩
    exact hnot (by rw [hnames]; exact List.mem_cons_self)
  · rintro ⟨-, -, hpredeclared⟩
    revert hpredeclared
    decide
  · rintro ⟨hmem, -⟩
    rw [hnames] at hmem
    revert hmem
    decide

/-- A module that hides a predeclared name by an import, and an import by a declaration. -/
def hidingModule : Text :=
  Text.of "import numpy as np\nimport types as type\n\nnp = 1\nx = type\ny = np.z\n"

/-- **Prose and code disagree**: prose links `type` and the two names of `np.z`, and code does not.
-/
theorem not_linksAlike_hidingModule :
    ∃ p, Package.ofSource (Text.of "m") hidingModule = .ok p ∧
      ¬LinksAlike (onPage p) (Text.of "type") ∧
      ¬LinksPairAlike (onPage p) (Text.of "np") (Text.of "z") := by
  have hcheck : (Package.ofSource (Text.of "m") hidingModule).toOption.any (fun p =>
      (onPage p).resolver.wordHref? (Text.of "type") != (onPage p).href (Text.of "type") &&
      (onPage p).resolver.html (Text.of "np" ++ '.' :: Text.of "z") ==
        Html.link ((onPage p).resolver.url (Text.of "numpy") []) (Text.of "np") ++ '.' ::
          Html.link ((onPage p).resolver.url (Text.of "numpy") (Text.of "z")) (Text.of "z") &&
      (onPage p).modulePath? (Text.of "np") == none) = true := by
    decide +kernel
  obtain ⟨p, hp, hcheck⟩ := (Option.any_eq_true _ _).mp hcheck
  simp only [Bool.and_eq_true, bne_iff_ne, beq_iff_eq] at hcheck
  obtain ⟨⟨hword, hpair⟩, hmodule⟩ := hcheck
  refine ⟨p, eq_ok_of_toOption hp, ?_, fun h => ?_⟩
  · rwa [linksAlike_iff_href (by decide) List.not_mem_nil]
  · have hcode := (h default default (Text.of "numpy")).mp hpair
    rw [sightings_attr _ List.not_mem_nil, hmodule] at hcode
    simp [seen] at hcode

end ApiPage
