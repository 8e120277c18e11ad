import Mathlib
import ApiPage.Datum.Basic

/-!
# Tables

Imports, members and the fields of a record are kept as lists of names with what stands under them.
Looking in such a list finds one of its entries, and setting a name replaces its entry if there is
one. So a name that is set stands once, and looking in a part of a table is looking in the table.

## Main results

* `mem_of_lookup`: what is found is an entry.
* `nodup_setField`: a name that is set stands once.
* `lookup_filterMap`: looking in a part of a table.
-/

namespace ApiPage

/-- What is found in a table is one of its entries. -/
theorem mem_of_lookup {κ α : Type} [BEq κ] [LawfulBEq κ] {k : κ} {v : α} {es : List (κ × α)}
    (h : es.lookup k = some v) : (k, v) ∈ es := by
  obtain ⟨before, after, hsplit, -⟩ := List.lookup_eq_some_iff.mp h
  rw [hsplit]
  exact List.mem_append_right before List.mem_cons_self

variable {α β : Type} {k : Text} {v : α} {fs : List (Text × α)} {e : Text × α}

/-- A field that is set was there or is the new one. -/
theorem mem_setField (h : e ∈ setField k v fs) : e = (k, v) ∨ e ∈ fs := by
  induction fs with
  | nil => exact .inl (List.mem_singleton.mp h)
  | cons f fs ih =>
    rw [setField] at h
    split at h
    · next hk =>
      rcases List.mem_cons.mp h with rfl | h
      · exact .inl (by rw [eq_of_beq hk])
      · exact .inr (List.mem_cons_of_mem _ h)
    · rcases List.mem_cons.mp h with rfl | h
      · exact .inr List.mem_cons_self
      · exact (ih h).imp_right (List.mem_cons_of_mem _)

/-- A field that is set stands once. -/
theorem nodup_setField (h : (fs.map Prod.fst).Nodup) : ((setField k v fs).map Prod.fst).Nodup := by
  induction fs with
  | nil => exact List.nodup_singleton k
  | cons f fs ih =>
    rw [List.map_cons, List.nodup_cons] at h
    obtain ⟨hf, hfs⟩ := h
    rw [setField]
    split
    · exact List.nodup_cons.mpr ⟨hf, hfs⟩
    · next hk =>
      refine List.nodup_cons.mpr ⟨fun hmem => ?_, ih hfs⟩
      obtain ⟨e, he, heq⟩ := List.mem_map.mp hmem
      rcases mem_setField he with rfl | he
      · exact hk (by rw [← heq]; exact beq_self_eq_true k)
      · exact hf (List.mem_map.mpr ⟨e, he, heq⟩)

/-- **Looking in a part of a table**, of which some entries are taken with other values, is looking
in the table. -/
theorem lookup_filterMap (h : (fs.map Prod.fst).Nodup) (f : α → Option β) (w : Text) :
    (fs.filterMap fun e => (f e.2).map (e.1, ·)).lookup w = (fs.lookup w).bind f := by
  induction fs with
  | nil => rfl
  | cons e fs ih =>
    rw [List.map_cons, List.nodup_cons] at h
    obtain ⟨he, hfs⟩ := h
    obtain ⟨k, a⟩ := e
    by_cases hk : w = k
    · subst hk
      have hnone : fs.lookup w = none := by
        rw [List.lookup_eq_none_iff]
        intro p hp
        have hne : w ≠ p.1 := fun heq => he (List.mem_map.mpr ⟨p, hp, heq.symm⟩)
        simpa using hne
      cases hf : f a with
      | none => simp [hf, ih hfs, hnone]
      | some b => simp [hf]
    · have hk' : (w == k) = false := by simpa using hk
      cases hf : f a with
      | none => simp [hf, ih hfs, List.lookup_cons, hk']
      | some b => simp [hf, ih hfs, List.lookup_cons, hk']

end ApiPage
