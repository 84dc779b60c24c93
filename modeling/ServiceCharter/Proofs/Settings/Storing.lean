import Mathlib.Data.List.Find
import Mathlib.Data.String.Basic
import ServiceCharter.Settings.Load

/-!
# What is stored at a path

A value is stored key by key into a tree: a table is merged into what is there, with its own keys
one after another, and anything else replaces it. Seen from one path this is simple. What the tree
has there afterwards is the last value that is said for the path, and what it had before if none is
(`Tree.overlaid`), whatever is said about other paths. The proof is an induction on the path, since
what is stored under its first name is stored below that name.

A key path is stored like the tables that it stands for, which `KeyPath.spell` writes out. Its names
are in lower case already, as those of a tree are.
-/

namespace ServiceCharter

namespace Tree

/-! ### Values at a path -/

/-- The value to which names lead. -/
def valueAt? : List String → Tree → Option Tree
  | [], t => some t
  | name :: path, t => (t.members.get? name).bind (valueAt? path)

/-- All values to which keys lead that are the names in any case. -/
def valuesAt : List String → Tree → List Tree
  | [], t => [t]
  | name :: path, t =>
    (t.members.filter fun e => lowerCase e.1 == name).flatMap fun e => valuesAt path e.2

/-- Whether keys that are the names in any case lead through tables, to values that fit. -/
def admits (fits : Tree → Bool) : List String → Tree → Bool
  | [], t => fits t
  | name :: path, .table ms => ms.all fun e => lowerCase e.1 != name || admits fits path e.2
  | _ :: _, _ => false

/-- What is at a path when `t` is laid over something that has `old` there. -/
def overlaid (path : List String) (t : Tree) (old : Option Tree) : Option Tree :=
  (t.valuesAt path).getLast?.or old

private theorem valuesAt_table_cons (name : String) (path : List String) (e : String × Tree)
    (ms : List (String × Tree)) :
    valuesAt (name :: path) (.table (e :: ms)) =
      (if lowerCase e.1 = name then valuesAt path e.2 else []) ++
        valuesAt (name :: path) (.table ms) := by
  by_cases h : lowerCase e.1 = name <;> simp [valuesAt, members, h]

private theorem admits_table_cons {fits : Tree → Bool} {name : String} {path : List String}
    {e : String × Tree} {ms : List (String × Tree)} :
    admits fits (name :: path) (.table (e :: ms)) = true ↔
      (lowerCase e.1 = name → admits fits path e.2 = true) ∧
        admits fits (name :: path) (.table ms) = true := by
  by_cases h : lowerCase e.1 = name <;> simp [admits, h]

private theorem admits_of_mem {fits : Tree → Bool} {name : String} {path : List String}
    {ms : List (String × Tree)} {e : String × Tree}
    (h : admits fits (name :: path) (.table ms) = true) (he : e ∈ ms)
    (hname : lowerCase e.1 = name) : admits fits path e.2 = true := by
  have hall : ∀ e ∈ ms, (lowerCase e.1 != name || admits fits path e.2) = true :=
    List.all_eq_true.1 h
  simpa [hname] using hall e he

/-- What keys lead to fits. -/
theorem fits_of_mem_valuesAt {fits : Tree → Bool} {path : List String} {t v : Tree}
    (h : t.admits fits path = true) (hv : v ∈ t.valuesAt path) : fits v = true := by
  induction path generalizing t with
  | nil =>
    obtain rfl : v = t := by simpa [valuesAt] using hv
    exact h
  | cons name path ih =>
    simp only [valuesAt, List.mem_flatMap, List.mem_filter, beq_iff_eq] at hv
    obtain ⟨e, ⟨he, hname⟩, hv⟩ := hv
    cases t with
    | table ms => exact ih (admits_of_mem h he hname) hv
    | _ => cases he

/-! ### Storing keys -/

private theorem storeAll_eq_foldl (root : Tree) (ms : List (String × Tree)) :
    storeAll root ms = ms.foldl (fun root e => store root e.1 e.2) root := by
  induction ms generalizing root with
  | nil => rfl
  | cons e ms ih => rw [storeAll, ih, List.foldl_cons]

private theorem store_table (root : Tree) (key : String) (ms : List (String × Tree)) :
    root.store key (.table ms) = .table (root.members.insert (lowerCase key)
      (storeAll ((root.members.get? (lowerCase key)).getD (.table [])) ms)) := rfl

/-- A key changes what stands under its name only, and there puts a value that is no table. -/
theorem exists_store_eq (root : Tree) (key : String) (v : Tree) :
    ∃ stored, root.store key v = .table (root.members.insert (lowerCase key) stored) ∧
      (Settings.isGroup v = false → stored = v) := by
  cases v with
  | table ms => exact ⟨_, rfl, fun hv => absurd hv (by simp [Settings.isGroup])⟩
  | _ => exact ⟨_, rfl, fun _ => rfl⟩

private theorem valueAt?_insert (name key : String) (path : List String) (root v : Tree) :
    valueAt? (name :: path) (.table (root.members.insert key v)) =
      if name = key then valueAt? path v else valueAt? (name :: path) root := by
  simp only [valueAt?, members, Table.get?_insert]
  split <;> rfl

/-- What is below a name is below what stands under it, if anything does. -/
private theorem valueAt?_getD {name next : String} {path : List String} {root other : Tree}
    (hother : other.members = []) :
    valueAt? (next :: path) ((root.members.get? name).getD other) =
      valueAt? (name :: next :: path) root := by
  cases hget : root.members.get? name with
  | none => simp [valueAt?, hget, hother]
  | some child => simp [valueAt?, hget]

section Laying

variable {fits : Tree → Bool}

/-- If one entry after another is laid over a tree, all of them are. -/
theorem valueAt?_foldl {α : Type} {name : String} {path : List String} {put : Tree → α → Tree}
    (entry : α → String × Tree)
    (hput : ∀ root a, admits fits (name :: path) (.table [entry a]) = true →
      valueAt? (name :: path) (put root a) =
        overlaid (name :: path) (.table [entry a]) (valueAt? (name :: path) root))
    {as : List α} (h : admits fits (name :: path) (.table (as.map entry)) = true) (root : Tree) :
    valueAt? (name :: path) (as.foldl put root) =
      overlaid (name :: path) (.table (as.map entry)) (valueAt? (name :: path) root) := by
  induction as generalizing root with
  | nil => simp [overlaid, valuesAt, members]
  | cons a as ih =>
    obtain ⟨hhead, htail⟩ := admits_table_cons.1 h
    have hone : admits fits (name :: path) (.table [entry a]) = true :=
      admits_table_cons.2 ⟨hhead, rfl⟩
    rw [List.foldl_cons, ih htail, hput root a hone]
    simp only [overlaid, List.map_cons, valuesAt_table_cons name path (entry a),
      List.getLast?_append, Option.or_assoc]
    simp [valuesAt, members]

/-- An entry under another name is laid over nothing that is at the path. -/
private theorem overlaid_of_ne {name key : String} (h : lowerCase key ≠ name) (path : List String)
    (v : Tree) (old : Option Tree) : overlaid (name :: path) (.table [(key, v)]) old = old := by
  simp [overlaid, valuesAt, members, h]

private theorem overlaid_of_eq {name key : String} (h : lowerCase key = name) (path : List String)
    (v : Tree) (old : Option Tree) :
    overlaid (name :: path) (.table [(key, v)]) old = overlaid path v old := by
  simp [overlaid, valuesAt, members, h]

/-- **A key lays its value over the tree.** -/
theorem valueAt?_store (hfits : ∀ t, fits t = true → Settings.isGroup t = false) {name key : String}
    {path : List String} {v : Tree}
    (h : admits fits (name :: path) (.table [(key, v)]) = true) (root : Tree) :
    valueAt? (name :: path) (root.store key v) =
      overlaid (name :: path) (.table [(key, v)]) (valueAt? (name :: path) root) := by
  induction path generalizing name key v root with
  | nil =>
    obtain ⟨stored, hstore, hplain⟩ := exists_store_eq root key v
    rw [hstore, valueAt?_insert]
    by_cases hkey : lowerCase key = name
    · have hv : fits v = true := admits_of_mem h List.mem_cons_self hkey
      rw [if_pos hkey.symm, overlaid_of_eq hkey, hplain (hfits v hv)]
      rfl
    · rw [if_neg (Ne.symm hkey), overlaid_of_ne hkey]
  | cons next path ih =>
    by_cases hkey : lowerCase key = name
    · have hv : admits fits (next :: path) v = true := admits_of_mem h List.mem_cons_self hkey
      cases v with
      | table ms =>
        -- The members of the table are stored below the name one after another.
        have hmembers : ∀ target, valueAt? (next :: path) (storeAll target ms) =
            overlaid (next :: path) (.table ms) (valueAt? (next :: path) target) := by
          intro target
          rw [storeAll_eq_foldl]
          simpa using valueAt?_foldl id (fun root e hone => ih hone root)
            (by simpa using hv) target
        rw [store_table, valueAt?_insert, if_pos hkey.symm, overlaid_of_eq hkey, hkey, hmembers,
          valueAt?_getD rfl]
      | _ => cases hv
    · obtain ⟨stored, hstore, -⟩ := exists_store_eq root key v
      rw [hstore, valueAt?_insert, if_neg (Ne.symm hkey), overlaid_of_ne hkey]

end Laying

end Tree

/-! ### Storing key paths -/

namespace KeyPath

open ServiceCharter.Tree

/-- A value with the steps to it written out as tables and lists. -/
def spellSteps (v : Tree) : List KeyStep → Tree
  | [] => v
  | .member name :: steps => .table [(name, spellSteps v steps)]
  | .item _ :: steps => .array [spellSteps v steps]

/-- The entry of a table that a key path and a value are. -/
def spell (p : KeyPath) (v : Tree) : String × Tree := (p.root, spellSteps v p.steps)

/-- The names in the steps are in lower case. -/
private def Lowered (steps : List KeyStep) : Prop :=
  ∀ name, .member name ∈ steps → lowerCase name = name

private theorem valueAt?_storeSteps {fits : Tree → Bool}
    (hfits : ∀ t, fits t = true → Settings.isGroup t = false) {name key : String}
    {path : List String} {v : Tree} {steps : List KeyStep} (hkey : lowerCase key = key)
    (hsteps : Lowered steps)
    (h : admits fits (name :: path) (.table [(key, spellSteps v steps)]) = true) (root : Tree) :
    valueAt? (name :: path) (storeSteps v key steps root) =
      overlaid (name :: path) (.table [(key, spellSteps v steps)])
        (valueAt? (name :: path) root) := by
  induction steps generalizing name key path root with
  | nil => exact valueAt?_store hfits h root
  | cons step steps ih =>
    by_cases hname : lowerCase key = name
    · have hv := admits_of_mem h List.mem_cons_self hname
      obtain rfl : key = name := hkey.symm.trans hname
      cases step with
      | member next =>
        cases path with
        | nil => cases hfits _ hv
        | cons next' path =>
          have hnext : lowerCase next = next := hsteps next List.mem_cons_self
          have htail : Lowered steps := fun n hn => hsteps n (List.mem_cons_of_mem _ hn)
          rw [storeSteps, valueAt?_insert, if_pos rfl, overlaid_of_eq hkey, ih hnext htail hv,
            valueAt?_getD rfl]
          rfl
      | item index =>
        cases path with
        | nil => cases hfits _ hv
        | cons next' path => cases hv
    · -- Whatever the steps behind the name are, they change nothing under other names.
      have hne : name ≠ key := fun heq => hname (hkey.trans heq.symm)
      rw [overlaid_of_ne hname]
      cases step <;> rw [storeSteps, valueAt?_insert, if_neg hne]

/-! ### Names in key paths -/

theorem toNat_of_isAlpha {c : Char} (h : c.isAlpha = true) : 65 ≤ c.toNat ∧ c.toNat ≤ 122 := by
  obtain hcapital | hsmall := Bool.or_eq_true_iff.1 h
  · have hbounds : 65 ≤ c.toNat ∧ c.toNat ≤ 90 := of_decide_eq_true hcapital
    omega
  · obtain ⟨hge, hle⟩ := Bool.and_eq_true_iff.1 hsmall
    have hfirst : 97 ≤ c.toNat := of_decide_eq_true hge
    have hlast : c.toNat ≤ 122 := of_decide_eq_true hle
    omega

private theorem toNat_lt_of_isNameChar {c : Char} (h : isNameChar c = true) : c.toNat < 128 := by
  simp only [isNameChar, Char.isAlphanum, Bool.or_eq_true, beq_iff_eq] at h
  rcases h with (((h | h) | rfl) | rfl) | rfl
  · have hle := (toNat_of_isAlpha h).2
    omega
  · have hle : c.toNat ≤ 57 := (Char.isDigit_iff_toNat.1 h).2
    omega
  all_goals decide

/-- Of the runs of characters with another form in lower case, only that of the capitals `A` to `Z`
begins below 128. -/
private theorem shifts_below :
    ∀ run ∈ Text.LowerCase.shifts, run.1 < 128 → run.1 = 65 ∧ run.2.1 = 90 := by
  decide +kernel

private theorem simple_eq_self {c : Char} (h : c.toNat < 128) (hupper : c.isUpper = false) :
    Text.LowerCase.simple c = c := by
  simp only [Text.LowerCase.simple]
  split
  · next first last step shift hfind =>
    have hmem := List.mem_of_find?_eq_some hfind
    have hin := List.find?_some hfind
    simp only [Bool.and_eq_true, decide_eq_true_eq] at hin
    obtain ⟨⟨hfirst, hlast⟩, -⟩ := hin
    obtain ⟨rfl, rfl⟩ : first = 65 ∧ last = 90 := shifts_below _ hmem (hfirst.trans_lt h)
    have hcapital : c.isUpper = true := decide_eq_true ⟨hfirst, hlast⟩
    exact absurd (hcapital.symm.trans hupper) (by decide)
  · rfl

private theorem toLower_below : ∀ n < 128,
    (Char.ofNat n).toLower.toNat < 128 ∧ (Char.ofNat n).toLower.isUpper = false := by
  decide +kernel

private theorem inContext_toLower {c : Char} (h : isNameChar c = true) (before after : Text) :
    Text.LowerCase.inContext before c.toLower after = [c.toLower] := by
  obtain ⟨hlt, hupper⟩ := toLower_below c.toNat (toNat_lt_of_isNameChar h)
  rw [Char.ofNat_toNat] at hlt hupper
  have hdot : c.toLower ≠ 'İ' := fun heq => absurd hlt (by rw [heq]; decide)
  have hsigma : c.toLower ≠ 'Σ' := fun heq => absurd hlt (by rw [heq]; decide)
  rw [Text.LowerCase.inContext, if_neg hdot, if_neg hsigma, simple_eq_self hlt hupper]

private theorem after_map_toLower {t : Text} (h : ∀ c ∈ t, isNameChar c = true) (before : Text) :
    Text.LowerCase.after before (t.map Char.toLower) = t.map Char.toLower := by
  induction t generalizing before with
  | nil => rfl
  | cons c t ih =>
    obtain ⟨hc, ht⟩ := List.forall_mem_cons.1 h
    rw [List.map_cons, Text.LowerCase.after, inContext_toLower hc, ih ht, List.singleton_append]

private theorem lowerCase_of_readName? {t rest : Text} {name : String}
    (h : readName? t = some (name, rest)) : lowerCase name = name := by
  unfold readName? at h
  simp only [] at h
  split at h
  · cases h
  · have hname : String.ofList ((t.takeWhile isNameChar).map Char.toLower) = name :=
      congrArg Prod.fst (Option.some.inj h)
    have hchars : ∀ c ∈ t.takeWhile isNameChar, isNameChar c = true :=
      List.all_eq_true.1 List.all_takeWhile
    rw [← hname, lowerCase, Text.toLower, String.toList_ofList, after_map_toLower hchars]

private theorem lowerCase_of_readStep? {t rest : Text} {name : String}
    (h : readStep? t = some (.member name, rest)) : lowerCase name = name := by
  unfold readStep? at h
  split at h
  · obtain ⟨⟨name', rest'⟩, hname, heq⟩ := Option.map_eq_some_iff.1 h
    cases heq
    exact lowerCase_of_readName? hname
  · obtain ⟨⟨index, rest'⟩, -, hclose⟩ := Option.bind_eq_some_iff.1 h
    simp only [] at hclose
    split at hclose <;> cases hclose
  · cases h

private theorem lowered_of_readSteps? {fuel : Nat} {t : Text} {steps : List KeyStep}
    (h : readSteps? fuel t = some steps) : Lowered steps := by
  fun_induction readSteps? fuel t generalizing steps with
  | case1 fuel =>
    cases h
    simp [Lowered]
  | case2 t ht => cases h
  | case3 fuel t ht ih =>
    obtain ⟨⟨step, rest⟩, hstep, hrest⟩ := Option.bind_eq_some_iff.1 h
    obtain ⟨steps', hsteps, rfl⟩ := Option.map_eq_some_iff.1 hrest
    rintro name (_ | ⟨_, hmem⟩)
    · exact lowerCase_of_readStep? hstep
    · exact ih _ hsteps name hmem

/-- **A key path lays its value over the tree**, as the tables would that it stands for. -/
theorem valueAt?_store {fits : Tree → Bool}
    (hfits : ∀ t, fits t = true → Settings.isGroup t = false) {t : Text} {p : KeyPath}
    (hp : parse? t = some p) {name : String} {path : List String} {v : Tree}
    (h : admits fits (name :: path) (.table [p.spell v]) = true) (root : Tree) :
    valueAt? (name :: path) (p.store v root) =
      overlaid (name :: path) (.table [p.spell v]) (valueAt? (name :: path) root) := by
  obtain ⟨⟨key, rest⟩, hname, hrest⟩ := Option.bind_eq_some_iff.1 hp
  obtain ⟨steps, hsteps, rfl⟩ := Option.map_eq_some_iff.1 hrest
  exact valueAt?_storeSteps hfits (lowerCase_of_readName? hname) (lowered_of_readSteps? hsteps) h
    root

end KeyPath

end ServiceCharter
