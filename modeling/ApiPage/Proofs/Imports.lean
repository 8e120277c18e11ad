import ApiPage.Proofs.Identified
import ApiPage.Proofs.Loaded
import ApiPage.Proofs.Tables

/-!
# Imports

The imports of a package are those of its statements, set one after another, so that each stands
once and under the name that it binds. Hence looking for a module or for a symbol is looking among
the imports. The parser leaves no name out, so that every import has a path, and no class is without a
name, so that a target without a point is the name of a declaration.

## Main definitions

* `Package.importsOf`: the imports of a statement.
* `Package.InOrder`: imports that stand once and under their names.

## Main results

* `Package.imports_ofStmts`: the imports of a package.
* `Package.lookup_namespaces`, `Package.lookup_symbols`: looking among modules and symbols.
* `Package.path_ne_nil`: an import has a path.
* `Package.mem_anchorTargets_iff`: a target without a point.
-/

namespace ApiPage

open Syntax (Stmt Alias absent_notMem ne_nil_of_mention)

/-! ### Imports -/

namespace Package

/-- **The imports of a statement**. -/
def importsOf : Stmt → List Import
  | .importNames _ names => names.map importOf
  | .importFrom _ path names level =>
    names.filterMap (symbolOf? (List.replicate level '.' ++ path.getD []))
  | _ => []

/-- Imports set one after another. -/
def setImports (m : List (Text × Import)) (is : List Import) : List (Text × Import) :=
  is.foldl (fun m i => setField i.name i m) m

/-- Closing a group keeps the imports. -/
theorem imports_close (cs : Comments) (p : Progress) : (p.close cs).imports = p.imports := by
  unfold Progress.close
  split <;> rfl

/-- Imports are set one after another. -/
theorem imports_bind (cs : Comments) (is : List Import) (p : Progress) :
    (p.bind cs is).imports = setImports p.imports is := by
  unfold Progress.bind
  dsimp only
  rw [imports_close, setImports]

/-- A declaration keeps the imports. -/
theorem imports_declare (cs : Comments) (name : Text) (d : Declaration) (p : Progress) :
    (p.declare cs name d).imports = p.imports := by
  unfold Progress.declare
  dsimp only
  split <;> exact imports_close cs p

/-- A value keeps the imports. -/
theorem imports_addValue (cs : Comments) (s : Stmt) (p : Progress) :
    (p.addValue cs s).imports = p.imports := by
  unfold Progress.addValue
  split
  · exact imports_close cs p
  · dsimp only
    split
    · split
      · rfl
      · exact imports_close cs p
    · rfl

/-- **One statement** sets its imports. -/
theorem imports_step (cs : Comments) (p : Progress) (s : Stmt) :
    (p.step cs s).imports = setImports p.imports (importsOf s) := by
  unfold Progress.step
  split
  · exact imports_bind cs _ p
  · exact imports_bind cs _ p
  · exact imports_declare cs _ _ p
  · exact imports_declare cs _ _ p
  · next hnames hfrom _ _ =>
    have hnone : importsOf s = [] := by
      unfold importsOf
      split
      · exact (hnames _ _ rfl).elim
      · exact (hfrom _ _ _ _ rfl).elim
      · rfl
    rw [hnone]
    split
    · exact imports_addValue cs s p
    · split
      · rfl
      · exact imports_close cs p

/-- **A run** sets the imports of its statements, in order. -/
theorem imports_foldl_step (cs : Comments) (ss : List Stmt) (p : Progress) :
    (ss.foldl (Progress.step cs) p).imports = setImports p.imports (ss.flatMap importsOf) := by
  induction ss generalizing p with
  | nil => rfl
  | cons s ss ih =>
    rw [List.foldl_cons, ih, imports_step, List.flatMap_cons, setImports, setImports, setImports,
      List.foldl_append]

/-- **The imports of a package** are those of its statements, set one after another. -/
theorem imports_ofStmts (path : Text) (cs : Comments) (ss : List Stmt) :
    (ofStmts path cs ss).imports = setImports [] (ss.flatMap importsOf) := by
  rw [ofStmts, imports_close, imports_foldl_step]

/-- **Imports in order**: each stands under the name that it binds, and no name has two. -/
structure InOrder (m : List (Text × Import)) : Prop where
  named : ∀ e ∈ m, e.2.name = e.1
  nodup : (m.map Prod.fst).Nodup

/-- Setting imports keeps their order. -/
theorem inOrder_setImports {m : List (Text × Import)} (h : InOrder m) (is : List Import) :
    InOrder (setImports m is) := by
  refine List.foldlRecOn is _ h fun m hm i _ => ⟨fun e he => ?_, nodup_setField hm.nodup⟩
  rcases mem_setField he with rfl | he
  · rfl
  · exact hm.named e he

/-- An import that is set was there or is one of the new ones. -/
theorem mem_of_mem_setImports {m : List (Text × Import)} {is : List Import} {e : Text × Import}
    (h : e ∈ setImports m is) : e ∈ m ∨ e.2 ∈ is := by
  induction is generalizing m with
  | nil => exact .inl h
  | cons i is ih =>
    rcases ih h with h | h
    · rcases mem_setField h with rfl | h
      · exact .inr List.mem_cons_self
      · exact .inl h
    · exact .inr (List.mem_cons_of_mem _ h)

variable {path source : Text} {p : Package}

/-- The imports of a package are in order. -/
theorem inOrder_imports (hp : ofSource path source = .ok p) : InOrder p.imports := by
  obtain ⟨ss, cs, -, -, rfl⟩ := exists_of_ofSource hp
  rw [imports_ofStmts]
  exact inOrder_setImports ⟨List.forall_mem_nil _, List.nodup_nil⟩ _

/-- **Looking for an imported module** is looking among the imports. -/
theorem lookup_namespaces (hp : ofSource path source = .ok p) (w : Text) :
    p.namespaces.lookup w =
      (p.imports.lookup w).bind fun i => if i.symbol.isNone then some i.path else none := by
  have horder := inOrder_imports hp
  rw [← lookup_filterMap horder.nodup, namespaces]
  congr 1
  refine List.filterMap_congr fun e he => ?_
  rw [← horder.named e he]
  cases hsymbol : e.2.symbol <;> simp [hsymbol]

/-- **Looking for an imported symbol** is looking among the imports. -/
theorem lookup_symbols (hp : ofSource path source = .ok p) (w : Text) :
    p.symbols.lookup w = (p.imports.lookup w).bind fun i => i.symbol.map (i.path, ·) := by
  have horder := inOrder_imports hp
  rw [← lookup_filterMap horder.nodup, symbols]
  congr 1
  refine List.filterMap_congr fun e he => ?_
  rw [← horder.named e he, Option.map_map]
  rfl

/-! ### Paths of imports -/

/-- A path in which nothing is missing begins with a name. -/
theorem takeWhile_ne_nil_of_absentIn {q : Text} (h : absent ∉ absentIn q) :
    q.takeWhile (· != '.') ≠ [] := by
  intro hnil
  rw [absentIn, hnil] at h
  exact h List.mem_cons_self

/-- The path of an import has a name at its start. -/
theorem path_importOf_ne_nil {a : Alias} (h : absent ∉ absentIn a.name) :
    (importOf a).path ≠ [] := by
  have hhead := takeWhile_ne_nil_of_absentIn h
  unfold importOf
  split
  · intro hnil
    have hname : a.name = [] := hnil
    rw [hname] at hhead
    exact hhead rfl
  · exact hhead

/-- A symbol is imported from the module that is named. -/
theorem path_of_symbolOf? {q : Text} {a : Alias} {i : Import} (h : symbolOf? q a = some i) :
    i.path = q := by
  unfold symbolOf? at h
  split at h
  · cases h
  · obtain rfl := Option.some.inj h
    rfl

/-- **An import has a path** if no name is missing in its statement. -/
theorem path_ne_nil_of_mem_importsOf {s : Stmt} (hs : absent ∉ s.mentions) {i : Import}
    (hi : i ∈ importsOf s) : i.path ≠ [] := by
  cases s with
  | importNames sp names =>
    obtain ⟨a, ha, rfl⟩ := List.mem_map.mp hi
    exact path_importOf_ne_nil fun h => hs (List.mem_flatMap.mpr ⟨a, ha, h⟩)
  | importFrom sp q names level =>
    obtain ⟨a, -, ha⟩ := List.mem_filterMap.mp hi
    rw [path_of_symbolOf? ha]
    have hpath := fun h => hs (List.mem_append_left _ h)
    cases q with
    | some q =>
      have hq : q ≠ [] := by
        rintro rfl
        exact takeWhile_ne_nil_of_absentIn hpath rfl
      exact List.append_ne_nil_of_right_ne_nil _ hq
    | none =>
      have hlevel : level ≠ 0 := by
        rintro rfl
        exact hpath List.mem_cons_self
      refine List.append_ne_nil_of_left_ne_nil ?_ _
      simpa using hlevel
  | _ => cases hi

/-- **Every import of a package has a path**. -/
theorem path_ne_nil (hp : ofSource path source = .ok p) {e : Text × Import} (he : e ∈ p.imports) :
    e.2.path ≠ [] := by
  obtain ⟨ss, cs, hss, -, rfl⟩ := exists_of_ofSource hp
  rw [imports_ofStmts] at he
  rcases mem_of_mem_setImports he with he | he
  · cases he
  · obtain ⟨s, hs, hi⟩ := List.mem_flatMap.mp he
    refine path_ne_nil_of_mem_importsOf (fun habsent => ?_) hi
    have hmem := mentions_subset_of_mem hs habsent
    rw [blockMentions_eq] at hmem
    exact absent_notMem hss hmem

/-- The imports of a package have paths that are not empty. -/
theorem path_ne_nil_of_lookup (hp : ofSource path source = .ok p) {w : Text} {i : Import}
    (hi : p.imports.lookup w = some i) : i.path ≠ [] := by
  have hmem := mem_of_lookup hi
  exact path_ne_nil hp hmem

/-! ### Anchors without a point -/

/-- **A target without a point** is the name of a declaration: members and methods have the name of
their class before them, and no class is without a name. -/
theorem mem_anchorTargets_iff (hp : ofSource path source = .ok p) {w : Text} (hw : '.' ∉ w) :
    w ∈ p.anchorTargets ↔ w ∈ p.topNames := by
  refine ⟨fun h => ?_, List.mem_append_left _⟩
  rcases List.mem_append.mp h with h | h
  · exact h
  obtain ⟨d, hd, hmem⟩ := List.mem_flatMap.mp h
  exfalso
  apply hw
  rcases List.mem_append.mp hmem with hmem | hmem
  · obtain ⟨e, he, rfl⟩ := List.mem_map.mp hmem
    cases d with
    | values => cases he
    | function => cases he
    | type cls =>
      obtain ⟨m, -, rfl⟩ := List.mem_map.mp he
      exact List.mem_append_right _ List.mem_cons_self
  · obtain ⟨m, hm, rfl⟩ := List.mem_map.mp hmem
    obtain ⟨ss, cs, hss, -, rfl⟩ := exists_of_ofSource hp
    have hall : m ∈ (ofStmts path cs ss).allDeclarations :=
      List.mem_flatMap.mpr ⟨d, hd, List.mem_cons_of_mem _ hm⟩
    obtain ⟨r, hr⟩ : ∃ r, m.receiver = some r := by
      cases d with
      | values => cases hm
      | function => cases hm
      | type cls =>
        simp only [Declaration.methods] at hm
        split at hm
        · cases hm
        · obtain ⟨fn, -, rfl⟩ := List.mem_map.mp hm
          exact ⟨cls.definedName, rfl⟩
    obtain ⟨x, hx, rfl⟩ := (of_mem_allDeclarations hall).receiver r hr
    have hne : x.2 ≠ [] := ne_nil_of_mention hss (blockMentions_eq ss ▸ hx)
    rw [Declaration.name, hr]
    simp [hne]

end Package

end ApiPage
