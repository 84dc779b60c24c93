import Mathlib.Data.List.Induction
import ServiceCharter.Table

/-!
# Entries of tables

The keys of a table ascend, so they are different. Among entries with different keys, the one that a
look-up finds is the only one with its key (`get?_eq_some_iff`), and it does not matter that adding
entries to a table prefers the last while a look-up finds the first (`get?_foldl_insert`). Among
entries of which some have the same key, the last one counts (`get?_foldl_insert_eq_getLast?`).
-/

namespace ServiceCharter.Table

variable {α : Type}

theorem Sorted.nodup {t : Table α} (h : t.Sorted) : t.keys.Nodup :=
  List.Pairwise.imp (fun {a b} (hlt : a < b) (heq : a = b) => String.lt_irrefl b (heq ▸ hlt)) h

theorem get?_eq_none {t : Table α} {k : String} (h : k ∉ t.keys) : t.get? k = none := by
  induction t with
  | nil => rfl
  | cons e t ih =>
    obtain ⟨hne, hrest⟩ := List.ne_and_not_mem_of_not_mem_cons h
    rw [get?_cons, if_neg hne, ih hrest]

theorem isSome_get?_iff {t : Table α} {k : String} : (t.get? k).isSome = true ↔ k ∈ t.keys := by
  refine ⟨fun h => ?_, fun h => ?_⟩
  · by_contra hnot
    rw [get?_eq_none hnot] at h
    cases h
  · induction t with
    | nil => cases h
    | cons e t ih =>
      rw [get?_cons]
      split
      · rfl
      · next hk => exact ih ((List.mem_cons.1 h).resolve_left hk)

theorem get?_eq_some_iff {t : Table α} (ht : t.keys.Nodup) {k : String} {v : α} :
    t.get? k = some v ↔ (k, v) ∈ t := by
  induction t with
  | nil => simp
  | cons e t ih =>
    obtain ⟨hnot, hrest⟩ := List.nodup_cons.1 ht
    rw [get?_cons, List.mem_cons]
    split
    · next hk =>
      subst hk
      have hother : (e.1, v) ∉ t := fun hmem => hnot (List.mem_map.2 ⟨_, hmem, rfl⟩)
      simp [hother, Prod.ext_iff, eq_comm]
    · next hk => simp [ih hrest, Prod.ext_iff, hk]

/-- What is found after entries with different keys were added: theirs, or else what was there. -/
theorem get?_foldl_insert {l : List (String × α)} (hl : (keys l).Nodup) (t : Table α)
    (k : String) :
    get? (l.foldl (fun t e => t.insert e.1 e.2) t) k = (get? l k).or (t.get? k) := by
  induction l generalizing t with
  | nil => rfl
  | cons e l ih =>
    obtain ⟨hnot, hrest⟩ := List.nodup_cons.1 hl
    rw [List.foldl_cons, ih hrest, get?_insert, get?_cons]
    by_cases hk : k = e.1
    · subst hk
      rw [get?_eq_none hnot, if_pos rfl, if_pos rfl]
      rfl
    · rw [if_neg hk, if_neg hk]

/-- The value in an entry, if it has the key. -/
def valueUnder? (k : String) (e : String × α) : Option α := if e.1 = k then some e.2 else none

/-- What is found after entries were added: the value in the last that has the key, or else what was
there. -/
theorem get?_foldl_insert_eq_getLast? (l : List (String × α)) (t : Table α) (k : String) :
    get? (l.foldl (fun t e => t.insert e.1 e.2) t) k =
      (l.filterMap (valueUnder? k)).getLast?.or (t.get? k) := by
  induction l using List.reverseRecOn with
  | nil => rfl
  | append_singleton l e ih =>
    rw [List.foldl_append, List.foldl_cons, List.foldl_nil, get?_insert, ih, List.filterMap_append]
    by_cases hk : e.1 = k
    · subst hk
      simp [valueUnder?]
    · simp [valueUnder?, hk, Ne.symm hk]

/-! ### Tables without entries -/

theorem insert_ne_nil (k : String) (v : α) (t : Table α) : t.insert k v ≠ [] := by
  cases t with
  | nil => exact List.cons_ne_nil _ _
  | cons e t =>
    unfold insert
    split
    · exact List.cons_ne_nil _ _
    · split <;> exact List.cons_ne_nil _ _

theorem foldl_insert_eq_nil_iff {l : List (String × α)} {t : Table α} :
    l.foldl (fun t e => t.insert e.1 e.2) t = [] ↔ l = [] ∧ t = [] := by
  induction l generalizing t with
  | nil => simp
  | cons e l ih => simp [ih, insert_ne_nil]

theorem eq_nil_iff_get? {t : Table α} : t = [] ↔ ∀ k, t.get? k = none := by
  constructor
  · rintro rfl k
    rfl
  · intro h
    cases t with
    | nil => rfl
    | cons e t =>
      have hhead := h e.1
      rw [get?_cons, if_pos rfl] at hhead
      cases hhead

end ServiceCharter.Table
