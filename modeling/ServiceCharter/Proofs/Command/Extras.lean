import ServiceCharter.Command.Extra

/-!
# The extra parameters of a command line

A word that names an extra parameter begins with a hyphen, so it is never the value of another: it
names its parameter wherever it stands. What is taken out of the words of a command line can
therefore be said of each word on its own. A word that names no parameter and is not a value stays
(`splitExtras_cons`), and a parameter has the value of the last word that names it
(`get?_splitExtras`).
-/

namespace ServiceCharter.Command

/-- A word that names an extra parameter begins with two hyphens. -/
theorem extraKey?_eq_none {word : String} (h : ∀ rest, word.toList ≠ '-' :: '-' :: rest) :
    extraKey? word = none := by
  have hmark : ∀ mark : Text, Text.after? ('-' :: '-' :: mark) word.toList = none := by
    intro mark
    refine Option.eq_none_iff_forall_ne_some.2 fun rest hrest => ?_
    exact h _ (Text.after?_eq_some_iff.1 hrest)
  have hone : Text.after? "--extra-".toList word.toList = none := hmark "extra-".toList
  have hmany : Text.after? "--extras-".toList word.toList = none := hmark "extras-".toList
  simp only [extraKey?, hone, hmany, Option.map_none, Option.or_none]

private theorem extraKey?_of_not_isDashed {word : String} (h : isDashed word = false) :
    extraKey? word = none := by
  refine extraKey?_eq_none fun rest heq => ?_
  rw [isDashed, heq] at h
  cases h

/-! ### Words that stay -/

/-- A word that names no extra parameter stays, and what stands behind it is read as before. -/
theorem takeExtras_cons_of_none {w : String} (h : extraKey? w = none) (found : Table String)
    (words : List String) :
    takeExtras found (w :: words) =
      (w :: (takeExtras found words).1, (takeExtras found words).2) := by
  cases words with
  | nil => simp [takeExtras, h]
  | cons v words => simp [takeExtras, h]

theorem splitExtras_cons {w : String} (h : extraKey? w = none) (words : List String) :
    splitExtras (w :: words) = (w :: (splitExtras words).1, (splitExtras words).2) :=
  takeExtras_cons_of_none h [] words

/-- Words of which none names an extra parameter are left as they are. -/
theorem splitExtras_of_forall {words : List String} (h : ∀ w ∈ words, extraKey? w = none) :
    splitExtras words = (words, []) := by
  induction words with
  | nil => rfl
  | cons w words ih =>
    obtain ⟨hw, hwords⟩ := List.forall_mem_cons.1 h
    rw [splitExtras_cons hw, ih hwords]

/-! ### Values -/

/-- The value of an extra parameter whose name stands in front of the words. -/
def valueAhead : List String → String
  | v :: _ => if isDashed v then "true" else v
  | [] => "true"

/-- The value at the last word that names the extra parameter. -/
def lastExtra? (key : String) : List String → Option String
  | [] => none
  | w :: words =>
    (lastExtra? key words).or (if extraKey? w = some key then some (valueAhead words) else none)

private theorem lastExtra?_cons (key w : String) (words : List String) :
    lastExtra? key (w :: words) = (lastExtra? key words).or
      (if extraKey? w = some key then some (valueAhead words) else none) := rfl

private theorem get?_takeExtras (key : String) (found : Table String) (words : List String) :
    (takeExtras found words).2.get? key = (lastExtra? key words).or (found.get? key) := by
  -- A value that is found goes in front of all that were found before.
  have hinsert : ∀ (found : Table String) (k value : String),
      (found.insert k value).get? key =
        (if some k = some key then some value else none).or (found.get? key) := by
    intro found k value
    rw [Table.get?_insert]
    by_cases hk : key = k
    · simp [hk]
    · simp [hk, Ne.symm hk]
  fun_induction takeExtras found words with
  | case1 found => rfl
  | case2 found w hw => simp [lastExtra?, hw]
  | case3 found w k hw =>
    rw [hinsert]
    simp [lastExtra?, hw, valueAhead]
  | case4 found w v words hw rest found' heq ih =>
    simp only [heq] at ih
    simpa [lastExtra?, hw] using ih
  | case5 found w v words k hw hdash ih =>
    rw [ih, hinsert, lastExtra?_cons key w, hw, valueAhead, if_pos hdash, Option.or_assoc]
  | case6 found w v words k hw hdash ih =>
    -- The value names no parameter itself.
    have hv : extraKey? v = none := extraKey?_of_not_isDashed (by simpa using hdash)
    have hvalue : lastExtra? key (v :: words) = lastExtra? key words := by simp [lastExtra?, hv]
    rw [ih, hinsert, lastExtra?_cons key w, hvalue, hw, valueAhead, if_neg hdash, Option.or_assoc]

/-- **An extra parameter has the value at the last word that names it.** -/
theorem get?_splitExtras (key : String) (words : List String) :
    (splitExtras words).2.get? key = lastExtra? key words := by
  rw [splitExtras, get?_takeExtras, Table.get?_nil, Option.or_none]

/-! ### Order -/

private theorem sorted_takeExtras {found : Table String} (h : found.Sorted) (words : List String) :
    (takeExtras found words).2.Sorted := by
  fun_induction takeExtras found words with
  | case1 found => exact h
  | case2 found w hw => exact h
  | case3 found w key hw => exact h.insert key "true"
  | case4 found w v words hw rest found' heq ih =>
    have hsorted := ih h
    rwa [heq] at hsorted
  | case5 found w v words key hw hdash ih => exact ih (h.insert key "true")
  | case6 found w v words key hw hdash ih => exact ih (h.insert key v)

theorem sorted_splitExtras (words : List String) : (splitExtras words).2.Sorted := by
  have hnil : Table.Sorted ([] : Table String) := List.Pairwise.nil
  exact sorted_takeExtras hnil words

end ServiceCharter.Command
