/-!
# Tables

A finite map with string keys, kept as the list of its entries in ascending order of the keys. The
order is that of code points, which is also the order in which a table is listed. A key that is
written again loses its old value.

`get?_insert` and `get?_erase` say what each operation does to a look-up, and `Sorted.insert` and
`Sorted.erase` that the order is kept.

JSON and TOML values hold lists and tables of values. That two of them are the same is decided by a
walk through both (`sameItems`).
-/

namespace ServiceCharter

/-- A finite map from strings, as the list of its entries in ascending order of the keys. -/
abbrev Table (α : Type) := List (String × α)

namespace Table

variable {α : Type}

/-- The value stored under `k`. -/
def get? (t : Table α) (k : String) : Option α := List.lookup k t

/-- The table with `v` stored under `k`. -/
def insert (k : String) (v : α) : Table α → Table α
  | [] => [(k, v)]
  | e :: t =>
    if k < e.1 then (k, v) :: e :: t
    else if k = e.1 then (k, v) :: t
    else e :: insert k v t

/-- The table without the key `k`. -/
def erase (k : String) (t : Table α) : Table α := t.filter fun e => e.1 != k

/-- The keys in ascending order. -/
def keys (t : Table α) : List String := t.map Prod.fst

/-- The table that results from storing the entries one after another. -/
def ofList (l : List (String × α)) : Table α := l.foldl (fun t e => insert e.1 e.2 t) []

/-- The keys ascend strictly, so no key occurs twice. -/
def Sorted (t : Table α) : Prop := t.keys.Pairwise (· < ·)

/-! ### Look-ups -/

@[simp] theorem get?_nil (k : String) : get? ([] : Table α) k = none := rfl

theorem get?_cons (e : String × α) (t : Table α) (k : String) :
    get? (e :: t) k = if k = e.1 then some e.2 else get? t k := by
  obtain ⟨k', v⟩ := e
  by_cases h : k = k'
  · subst h; simp [get?]
  · have hb : (k == k') = false := by simpa using h
    simp [get?, List.lookup_cons, hb, h]

/-- The value written is there, and the other keys keep theirs. -/
theorem get?_insert (k k' : String) (v : α) (t : Table α) :
    get? (insert k v t) k' = if k' = k then some v else get? t k' := by
  induction t with
  | nil => simp [insert, get?_cons]
  | cons e t ih =>
    unfold insert
    split
    · simp [get?_cons]
    · split
      · next h => subst h; simp only [get?_cons]; split <;> rfl
      · next h =>
        simp only [get?_cons, ih]
        split
        · next h' => subst h'; simp [Ne.symm h]
        · rfl

/-- The erased key is gone, and the other keys keep their values. -/
theorem get?_erase (k k' : String) (t : Table α) :
    get? (erase k t) k' = if k' = k then none else get? t k' := by
  induction t with
  | nil => simp [erase]
  | cons e t ih =>
    unfold erase at ih ⊢
    rw [List.filter_cons]
    by_cases h : e.1 = k
    · subst h
      simp only [bne_self_eq_false, Bool.false_eq_true, if_false, ih, get?_cons]
      split <;> rfl
    · have hb : (e.1 != k) = true := by simpa using h
      simp only [hb, if_true, get?_cons, ih]
      split
      · next h' => subst h'; simp [h]
      · rfl

/-! ### Order -/

theorem keys_insert_mem {k x : String} {v : α} {t : Table α} :
    x ∈ (insert k v t).keys ↔ x = k ∨ x ∈ t.keys := by
  induction t with
  | nil => simp [insert, keys]
  | cons e t ih =>
    unfold insert
    split
    · simp [keys]
    · split
      · next h => simp [keys, h]
      · simp only [keys, List.map_cons, List.mem_cons] at ih ⊢
        rw [ih]
        constructor
        · rintro (h | h | h) <;> simp [h]
        · rintro (h | h | h) <;> simp [h]

theorem Sorted.insert {t : Table α} (h : Sorted t) (k : String) (v : α) :
    Sorted (t.insert k v) := by
  induction t with
  | nil => simp [Sorted, Table.insert, keys]
  | cons e t ih =>
    have hcons : (∀ x ∈ keys t, e.1 < x) ∧ Sorted t := by
      simpa [Sorted, keys] using h
    unfold Table.insert
    split
    · next hk =>
      simp only [Sorted, keys, List.map_cons, List.pairwise_cons, List.mem_cons]
      refine ⟨?_, ?_⟩
      · rintro x (rfl | hx)
        · exact hk
        · exact String.lt_trans hk (hcons.1 x hx)
      · exact ⟨hcons.1, hcons.2⟩
    · next hk =>
      split
      · next he =>
        simp only [Sorted, keys, List.map_cons, List.pairwise_cons]
        exact ⟨fun x hx => he ▸ hcons.1 x hx, hcons.2⟩
      · next he =>
        simp only [Sorted, keys, List.map_cons, List.pairwise_cons]
        refine ⟨fun x hx => ?_, ih hcons.2⟩
        rcases keys_insert_mem.1 hx with rfl | hx
        · rcases String.le_total x e.1 with hle | hle
          · exact absurd (String.le_antisymm hle (String.not_lt.1 hk)) he
          · rcases Decidable.em (e.1 < x) with hlt | hlt
            · exact hlt
            · exact absurd (String.le_antisymm (String.not_lt.1 hlt) hle) he
        · exact hcons.1 x hx

theorem Sorted.erase {t : Table α} (h : Sorted t) (k : String) : Sorted (t.erase k) := by
  unfold Sorted keys Table.erase at *
  exact List.Pairwise.sublist (List.Sublist.map _ List.filter_sublist) h

theorem Sorted.ofList (l : List (String × α)) : Sorted (Table.ofList l) := by
  unfold Table.ofList
  suffices ∀ t : Table α, Sorted t → Sorted (l.foldl (fun t e => Table.insert e.1 e.2 t) t) from
    this [] (by simp [Sorted, keys])
  induction l with
  | nil => exact fun t ht => ht
  | cons e l ih => exact fun t ht => ih _ (ht.insert e.1 e.2)

/-! ### Nested values -/

theorem sizeOf_lt_of_mem [SizeOf α] {t : Table α} {k : String} {v : α} (h : (k, v) ∈ t) :
    sizeOf v < sizeOf t := by
  have hentry := List.sizeOf_lt_of_mem h
  simp only [Prod.mk.sizeOf_spec] at hentry
  omega

end Table

section Items

variable {α : Type} {as : List α} {same : (a : α) → a ∈ as → α → Bool}

/-- Whether two lists hold the same items. The test for an item of the first list may rely on its
being there, as a recursion through nested values does. -/
def sameItems : (as bs : List α) → ((a : α) → a ∈ as → α → Bool) → Bool
  | [], [], _ => true
  | a :: as, b :: bs, same =>
    same a List.mem_cons_self b && sameItems as bs fun a h => same a (List.mem_cons_of_mem _ h)
  | _, _, _ => false

theorem sameItems_iff (hsame : ∀ a (ha : a ∈ as) b, same a ha b = true ↔ a = b) {bs : List α} :
    sameItems as bs same = true ↔ as = bs := by
  induction as generalizing bs with
  | nil => cases bs <;> simp [sameItems]
  | cons a as ih => cases bs <;> simp [sameItems, hsame, ih]

end Items

end ServiceCharter
