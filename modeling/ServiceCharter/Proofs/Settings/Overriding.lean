import Mathlib.Data.List.TakeWhile
import ServiceCharter.Proofs.Settings.Layers

/-!
# Overrides

Overrides are laid over the settings that the files of a run make. Each is a value for the place to
which its key leads, and the case of the letters in a key does not matter
(`KeyPath.parse?_map_toLower`). Stored there, the value is what the setting of that place has
afterwards, and every other setting has what it had before. So the settings do not depend on each
other: for each of them the last override counts, or else the last file that says something, or else
the default (`load_overridden`). What says nothing may be left out, and overrides of different
settings may be given in any order.
-/

namespace ServiceCharter

/-! ### Values under names -/

namespace Tree

/-- The value below tables of one member each. -/
def chain : List String → Tree → Tree
  | [], v => v
  | name :: path, v => .table [(name, chain path v)]

section Chain

variable {path path' : List String} (v : Tree)

private theorem valuesAt_chain (hpath : ∀ name ∈ path, lowerCase name = name) :
    valuesAt path (chain path v) = [v] := by
  induction path with
  | nil => rfl
  | cons name path ih =>
    obtain ⟨hname, hpath⟩ := List.forall_mem_cons.1 hpath
    simp [chain, valuesAt, members, hname, ih hpath]

private theorem admits_chain (fits : Tree → Bool) (hpath : ∀ name ∈ path, lowerCase name = name) :
    admits fits path (chain path v) = fits v := by
  induction path with
  | nil => rfl
  | cons name path ih =>
    obtain ⟨hname, hpath⟩ := List.forall_mem_cons.1 hpath
    simp [chain, admits, hname, ih hpath]

/-- Away from its path there is nothing in a chain, and nothing in the way. -/
private theorem chain_elsewhere (fits : Tree → Bool) (hpath : ∀ name ∈ path, lowerCase name = name)
    (hle : ¬path <+: path') (hge : ¬path' <+: path) :
    valuesAt path' (chain path v) = [] ∧ admits fits path' (chain path v) = true := by
  induction path generalizing path' with
  | nil => exact absurd List.nil_prefix hle
  | cons name path ih =>
    obtain ⟨hname, hpath⟩ := List.forall_mem_cons.1 hpath
    cases path' with
    | nil => exact absurd List.nil_prefix hge
    | cons name' path' =>
      by_cases h : name = name'
      · obtain rfl := h
        obtain ⟨hvalues, hadmits⟩ := ih hpath
          (fun h => hle (List.cons_prefix_cons.2 ⟨rfl, h⟩))
          (fun h => hge (List.cons_prefix_cons.2 ⟨rfl, h⟩))
        simp [chain, valuesAt, admits, members, hname, hvalues, hadmits]
      · simp [chain, valuesAt, admits, members, hname, h]

end Chain

end Tree

/-! ### Key paths in any case -/

namespace KeyPath

private theorem isDigit_of_isAlpha {c : Char} (h : c.isAlpha = true) : c.isDigit = false := by
  refine Bool.eq_false_iff.2 fun hdigit => ?_
  have hle : c.toNat ≤ 57 := (Char.isDigit_iff_toNat.1 hdigit).2
  have hge := (toNat_of_isAlpha h).1
  omega

private theorem toLower_of_below : ∀ n < 128, (Char.ofNat n).isUpper = true →
    (Char.ofNat n).isAlpha = true ∧ (Char.ofNat n).toLower.isAlpha = true ∧
      (Char.ofNat n).toLower.toLower = (Char.ofNat n).toLower := by
  decide +kernel

/-- Only letters are changed, and they become letters that are not changed again. -/
theorem toLower_cases (c : Char) :
    c.toLower = c ∨
      c.isAlpha = true ∧ c.toLower.isAlpha = true ∧ c.toLower.toLower = c.toLower := by
  by_cases hc : c.val ≥ 'A'.val ∧ c.val ≤ 'Z'.val
  · have hlt : c.toNat < 128 := (UInt32.le_iff_toNat_le.1 hc.2).trans_lt (by decide)
    have hupper : c.isUpper = true := decide_eq_true hc
    have hbelow := toLower_of_below c.toNat hlt
    rw [Char.ofNat_toNat] at hbelow
    exact Or.inr (hbelow hupper)
  · exact Or.inl (dif_neg hc)

/-- What is the same for all letters does not tell capitals from small letters. -/
private theorem apply_toLower {f : Char → Bool} {b : Bool} (h : ∀ c, c.isAlpha = true → f c = b)
    (c : Char) : f c.toLower = f c := by
  obtain hc | ⟨hc, hlower, -⟩ := toLower_cases c
  · rw [hc]
  · rw [h c hc, h c.toLower hlower]

private theorem isNameChar_toLower (c : Char) : isNameChar c.toLower = isNameChar c :=
  apply_toLower (b := true) (fun c hc => by simp [isNameChar, Char.isAlphanum, hc]) c

private theorem isDigit_toLower (c : Char) : c.toLower.isDigit = c.isDigit :=
  apply_toLower (fun _ => isDigit_of_isAlpha) c

/-- A character that is no letter comes from itself only. -/
private theorem toLower_eq_iff {d : Char} (hd : d.isAlpha = false) (c : Char) :
    c.toLower = d ↔ c = d := by
  have hsame := apply_toLower (f := (· == d)) (b := false) (fun c hc => ?_) c
  · rw [← beq_iff_eq, hsame, beq_iff_eq]
  · refine beq_eq_false_iff_ne.2 ?_
    rintro rfl
    rw [hc] at hd
    cases hd

private theorem isTabOrSpace_toLower (c : Char) :
    Text.isTabOrSpace c.toLower = Text.isTabOrSpace c := by
  have hblank := toLower_eq_iff (d := ' ') rfl c
  have htab := toLower_eq_iff (d := '\t') rfl c
  rw [Bool.eq_iff_iff]
  simp [Text.isTabOrSpace, hblank, htab]

private theorem toLower_of_isDigit {c : Char} (h : c.isDigit = true) : c.toLower = c := by
  obtain hc | ⟨hc, -⟩ := toLower_cases c
  · exact hc
  · rw [isDigit_of_isAlpha hc] at h
    cases h

private theorem readName?_map_toLower (t : Text) : readName? (t.map Char.toLower) =
    (readName? t).map fun (name, rest) => (name, rest.map Char.toLower) := by
  have hchars : isNameChar ∘ Char.toLower = isNameChar := funext isNameChar_toLower
  simp only [readName?, List.takeWhile_map, List.dropWhile_map, hchars, List.isEmpty_map,
    List.map_map]
  have hlower : Char.toLower ∘ Char.toLower = Char.toLower := funext fun c => by
    obtain hc | ⟨-, -, hc⟩ := toLower_cases c
    · exact congrArg Char.toLower hc
    · exact hc
  rw [hlower]
  split <;> rfl

private theorem readIndex?_cons (c : Char) (t : Text) :
    readIndex? (c :: t) = if c = '-' then readDigits? true t else readDigits? false (c :: t) := by
  by_cases h : c = '-' <;> simp [readIndex?, readDigits?, h]

private theorem readDigits?_map_toLower (negative : Bool) (t : Text) :
    readDigits? negative (t.map Char.toLower) =
      (readDigits? negative t).map fun (i, rest) => (i, rest.map Char.toLower) := by
  have hdigits : Char.isDigit ∘ Char.toLower = Char.isDigit := funext isDigit_toLower
  have hsame : (t.takeWhile Char.isDigit).map Char.toLower = t.takeWhile Char.isDigit := by
    refine (List.map_congr_left fun c hc => ?_).trans (List.map_id _)
    exact toLower_of_isDigit (List.mem_takeWhile_imp hc)
  rw [readDigits?, readDigits?, List.takeWhile_map, List.dropWhile_map, hdigits, hsame,
    Option.map_map]
  rfl

private theorem readIndex?_map_toLower (t : Text) : readIndex? (t.map Char.toLower) =
    (readIndex? t).map fun (i, rest) => (i, rest.map Char.toLower) := by
  cases t with
  | nil => rfl
  | cons c t =>
    rw [List.map_cons, readIndex?_cons, readIndex?_cons, ← List.map_cons]
    simp only [toLower_eq_iff (d := '-') rfl, readDigits?_map_toLower]
    split <;> rfl

private theorem readStep?_map_toLower (t : Text) : readStep? (t.map Char.toLower) =
    (readStep? t).map fun (step, rest) => (step, rest.map Char.toLower) := by
  have hspaces : Text.isTabOrSpace ∘ Char.toLower = Text.isTabOrSpace :=
    funext isTabOrSpace_toLower
  cases t with
  | nil => rfl
  | cons c t =>
    have hpoint := toLower_eq_iff (d := '.') rfl c
    have hopen := toLower_eq_iff (d := '[') rfl c
    by_cases hc : c = '.'
    · rw [List.map_cons, hpoint.2 hc, hc, readStep?, readStep?, readName?_map_toLower,
        Option.map_map, Option.map_map]
      rfl
    by_cases hc' : c = '['
    · rw [List.map_cons, hopen.2 hc', hc', readStep?, readStep?, List.dropWhile_map, hspaces,
        readIndex?_map_toLower, Option.bind_map, Option.map_bind]
      congr 1
      funext ⟨i, rest⟩
      simp only [Function.comp_apply, List.dropWhile_map, hspaces]
      cases rest.dropWhile Text.isTabOrSpace with
      | nil => rfl
      | cons d rest =>
        have hclose := toLower_eq_iff (d := ']') rfl d
        by_cases hd : d = ']' <;> simp [hclose, hd]
    · simp [readStep?, hpoint, hopen, hc, hc']

private theorem readSteps?_map_toLower (fuel : Nat) (t : Text) :
    readSteps? fuel (t.map Char.toLower) = readSteps? fuel t := by
  induction fuel generalizing t with
  | zero => cases t <;> rfl
  | succ fuel ih =>
    cases t with
    | nil => rfl
    | cons c t =>
      simp only [List.map_cons, readSteps?]
      rw [← List.map_cons, readStep?_map_toLower]
      cases readStep? (c :: t) <;> simp [ih]

/-- **The case of the letters in a key path does not matter.** -/
theorem parse?_map_toLower (t : Text) : parse? (t.map Char.toLower) = parse? t := by
  rw [parse?, parse?, readName?_map_toLower, Option.bind_map]
  congr 1
  funext ⟨root, rest⟩
  simp [readSteps?_map_toLower]

end KeyPath

namespace Settings

/-! ### What overrides say -/

namespace Leaf

/-- The place of the setting as a key path. -/
def keyPath (leaf : Leaf) : KeyPath := ⟨leaf.path.headD "", leaf.path.tail.map .member⟩

/-- The key path as it is written. -/
def key (leaf : Leaf) : String := ".".intercalate leaf.path

theorem parse?_key (leaf : Leaf) : KeyPath.parse? leaf.key.toList = some leaf.keyPath := by
  cases leaf <;> decide +kernel

theorem key_injective : Function.Injective key := by
  have hall : ∀ leaf ∈ all, ∀ leaf' ∈ all, leaf.key = leaf'.key → leaf = leaf' := by decide
  exact fun leaf leaf' => hall leaf leaf.mem_all leaf' leaf'.mem_all

private theorem lowerCase_of_mem_path {leaf : Leaf} :
    ∀ name ∈ leaf.path, lowerCase name = name := by
  cases leaf <;> decide +kernel

private theorem not_prefix_of_ne {leaf leaf' : Leaf} (h : leaf ≠ leaf') :
    ¬leaf.path <+: leaf'.path := by
  have hall : ∀ leaf ∈ all, ∀ leaf' ∈ all, leaf ≠ leaf' → ¬leaf.path <+: leaf'.path := by decide
  exact hall leaf leaf.mem_all leaf' leaf'.mem_all h

private theorem spell_keyPath (leaf : Leaf) (v : Tree) :
    .table [leaf.keyPath.spell v] = Tree.chain leaf.path v := by
  cases leaf <;> rfl

/-- A value that is stored for a setting is there for this one only. -/
private theorem valueAt?_store_keyPath {leaf : Leaf} {v : Tree} (hv : leaf.fits v = true)
    (leaf' : Leaf) (root : Tree) : (leaf.keyPath.store v root).valueAt? leaf'.path =
      if leaf = leaf' then some v else root.valueAt? leaf'.path := by
  obtain ⟨name, path, hpath⟩ := leaf'.exists_path_eq_cons
  have hstore : (Tree.chain leaf.path v).admits leaf'.fits leaf'.path = true →
      (leaf.keyPath.store v root).valueAt? leaf'.path =
        (Tree.chain leaf.path v).overlaid leaf'.path (root.valueAt? leaf'.path) := by
    rw [← spell_keyPath, hpath]
    exact fun h => KeyPath.valueAt?_store (fun t ht => isGroup_of_fits ht) leaf.parse?_key h root
  split
  · next heq =>
    subst heq
    rw [hstore ((Tree.admits_chain v _ lowerCase_of_mem_path).trans hv), Tree.overlaid,
      Tree.valuesAt_chain v lowerCase_of_mem_path]
    rfl
  · next hne =>
    obtain ⟨hvalues, hadmits⟩ := Tree.chain_elsewhere v leaf'.fits lowerCase_of_mem_path
      (not_prefix_of_ne hne) (not_prefix_of_ne (Ne.symm hne))
    rw [hstore hadmits, Tree.overlaid, hvalues]
    rfl

end Leaf

namespace Override

/-- Whether the override is for the setting, with its key in any case. -/
def isFor (o : Override) (leaf : Leaf) : Bool := o.key.map Char.toLower == leaf.key.toList

/-- The override is for the setting, and its value can be converted. -/
structure Gives (o : Override) (leaf : Leaf) : Prop where
  isFor : o.isFor leaf = true
  fits : leaf.fits o.value = true

instance (o : Override) (leaf : Leaf) : Decidable (o.Gives leaf) :=
  decidable_of_iff (o.isFor leaf = true ∧ leaf.fits o.value = true)
    ⟨fun h => ⟨h.1, h.2⟩, fun h => ⟨h.1, h.2⟩⟩

/-- What the override says for a setting. -/
def given? (o : Override) (leaf : Leaf) : Option Tree :=
  if o.isFor leaf then some o.value else none

variable {o : Override} {leaf leaf' : Leaf}

theorem Gives.parse?_key (h : o.Gives leaf) : KeyPath.parse? o.key = some leaf.keyPath := by
  rw [← KeyPath.parse?_map_toLower, beq_iff_eq.1 h.isFor, leaf.parse?_key]

private theorem eq_of_isFor (h : o.isFor leaf = true) (h' : o.isFor leaf' = true) : leaf = leaf' :=
  Leaf.key_injective (String.toList_injective ((beq_iff_eq.1 h).symm.trans (beq_iff_eq.1 h')))

theorem Gives.given?_eq (h : o.Gives leaf) (leaf' : Leaf) :
    o.given? leaf' = if leaf = leaf' then some o.value else none := by
  have hfor : o.isFor leaf' = true ↔ leaf = leaf' :=
    ⟨fun h' => eq_of_isFor h.isFor h', fun heq => heq ▸ h.isFor⟩
  simp [given?, hfor]

end Override

/-- What the last of the overrides says that is for a setting. -/
def lastGiven? (leaf : Leaf) : List Override → Option Tree
  | [] => none
  | o :: os => (lastGiven? leaf os).or (o.given? leaf)

/-- What counts for a setting that is not left at the default: the last override, or the last file
that says something. -/
def counted? (leaf : Leaf) (files : List Tree) (overrides : List Override) : Option Tree :=
  (lastGiven? leaf overrides).or (lastSaid? leaf files)

private theorem lastGiven?_append (leaf : Leaf) (os os' : List Override) :
    lastGiven? leaf (os ++ os') = (lastGiven? leaf os').or (lastGiven? leaf os) := by
  induction os with
  | nil => simp [lastGiven?]
  | cons o os ih => rw [List.cons_append, lastGiven?, ih, lastGiven?, Option.or_assoc]

private theorem fits_of_lastGiven? {leaf : Leaf} {overrides : List Override} {v : Tree}
    (hgives : ∀ o ∈ overrides, ∃ leaf, o.Gives leaf) (h : lastGiven? leaf overrides = some v) :
    leaf.fits v = true := by
  induction overrides with
  | nil => cases h
  | cons o os ih =>
    obtain ⟨⟨leaf', ho⟩, hrest⟩ := List.forall_mem_cons.1 hgives
    rcases Option.or_eq_some_iff.1 h with hlast | ⟨-, hhead⟩
    · exact ih hrest hlast
    · rw [ho.given?_eq] at hhead
      split at hhead
      · next heq =>
        obtain rfl := Option.some.inj hhead
        exact heq ▸ ho.fits
      · cases hhead

/-! ### Laying overrides over a tree -/

/-- The keys of overrides can be read, and the last override that is for a setting decides what is
there. -/
private theorem exists_readOverrides_eq_ok {overrides : List Override}
    (hgives : ∀ o ∈ overrides, ∃ leaf, o.Gives leaf) :
    ∃ places, readOverrides overrides = .ok places ∧ ∀ (root : Tree) (leaf : Leaf),
      (applyOverrides root places).valueAt? leaf.path =
        (lastGiven? leaf overrides).or (root.valueAt? leaf.path) := by
  induction overrides with
  | nil => exact ⟨[], rfl, fun root leaf => rfl⟩
  | cons o os ih =>
    obtain ⟨⟨given, ho⟩, hrest⟩ := List.forall_mem_cons.1 hgives
    obtain ⟨places, hread, hplaces⟩ := ih hrest
    refine ⟨(given.keyPath, o.value) :: places, ?_, fun root leaf => ?_⟩
    · rw [readOverrides, ho.parse?_key, hread]
      rfl
    · -- The first override says what later ones do not say again.
      have hstep : (given.keyPath.store o.value root).valueAt? leaf.path =
          (o.given? leaf).or (root.valueAt? leaf.path) := by
        rw [Leaf.valueAt?_store_keyPath ho.fits, ho.given?_eq]
        split <;> rfl
      rw [lastGiven?, Option.or_assoc, ← hstep]
      exact hplaces _ leaf

variable {sources : List Source} {files : List Tree} {overrides : List Override}

private theorem exists_load_eq_ok (hfiles : List.Forall₂ Holds sources files)
    (hwell : ∀ file ∈ files, WellFormed file) (hgives : ∀ o ∈ overrides, ∃ leaf, o.Gives leaf) :
    ∃ s, load sources overrides = .ok s ∧ ∀ leaf : Leaf,
      leaf.converted? ((counted? leaf files overrides).getD (leaf.value defaults)) =
        some (leaf.value s) := by
  obtain ⟨places, hread, hplaces⟩ := exists_readOverrides_eq_ok hgives
  obtain ⟨root, hadd, hroot⟩ := addSources_eq_ok hfiles hwell defaults.toTree
  simp only [load, hread, hadd]
  refine exists_ofTree_eq_ok_of_said (fun leaf => ?_) fun leaf v hsaid => ?_
  · rw [hplaces, hroot, counted?, Option.or_assoc]
  · rcases Option.or_eq_some_iff.1 hsaid with hgiven | ⟨-, hfile⟩
    · exact fits_of_lastGiven? hgives hgiven
    · exact fits_of_lastSaid? hwell hfile

/-! ### What may be left out, and what may be exchanged -/

/-- Only what counts for the settings matters. -/
private theorem load_eq_of_counted? {sources' : List Source} {files' : List Tree}
    {overrides' : List Override} (hfiles : List.Forall₂ Holds sources files)
    (hwell : ∀ file ∈ files, WellFormed file) (hgives : ∀ o ∈ overrides, ∃ leaf, o.Gives leaf)
    (hfiles' : List.Forall₂ Holds sources' files') (hwell' : ∀ file ∈ files', WellFormed file)
    (hgives' : ∀ o ∈ overrides', ∃ leaf, o.Gives leaf)
    (h : ∀ leaf, counted? leaf files' overrides' = counted? leaf files overrides) :
    load sources' overrides' = load sources overrides := by
  obtain ⟨s, hs, hvalue⟩ := exists_load_eq_ok hfiles hwell hgives
  obtain ⟨s', hs', hvalue'⟩ := exists_load_eq_ok hfiles' hwell' hgives'
  obtain rfl : s' = s := Leaf.eq_of_value fun leaf => by
    have h' := hvalue' leaf
    rw [h, hvalue] at h'
    exact (Option.some.inj h').symm
  rw [hs, hs']

/-- The source can be read and says nothing for any setting. -/
def Source.Silent (source : Source) : Prop :=
  ∃ file, Holds source file ∧ ∀ leaf, said? leaf file = none

/-- A file that may be missing, and is, says nothing. -/
private theorem silent_missing : (Source.unreadable false).Silent :=
  ⟨_, .missing, fun leaf => by cases leaf <;> rfl⟩

theorem Holds.unique {source : Source} {file file' : Tree} (h : Holds source file)
    (h' : Holds source file') : file = file' := by
  cases h with
  | file hparse =>
    cases h' with
    | file hparse' => rw [Option.some.inj (hparse.symm.trans hparse')]
  | missing => cases h' with
    | missing => rfl

private theorem exists_files_without {before after : List Source} {source : Source}
    (hfiles : List.Forall₂ Holds (before ++ source :: after) files) (hsilent : source.Silent) :
    ∃ files', List.Forall₂ Holds (before ++ after) files' ∧ files' ⊆ files ∧
      ∀ leaf, lastSaid? leaf files' = lastSaid? leaf files := by
  induction before generalizing files with
  | nil =>
    obtain ⟨empty, hempty, hnone⟩ := hsilent
    cases hfiles with
    | @cons _ file _ rest hfile hrest =>
      obtain rfl := hfile.unique hempty
      exact ⟨rest, hrest, List.subset_cons_self _ _, fun leaf => by simp [lastSaid?, hnone]⟩
  | cons first before ih =>
    cases hfiles with
    | @cons _ file _ rest hfile hrest =>
      obtain ⟨files', hfiles', hsub, hsame⟩ := ih hrest
      exact ⟨file :: files', .cons hfile hfiles', List.cons_subset_cons _ hsub,
        fun leaf => by rw [lastSaid?, lastSaid?, hsame]⟩

private theorem lastGiven?_swap {before after : List Override} {o o' : Override} {leaf leaf' : Leaf}
    (ho : o.Gives leaf) (ho' : o'.Gives leaf') (hne : leaf ≠ leaf') (other : Leaf) :
    lastGiven? other (before ++ o' :: o :: after) =
      lastGiven? other (before ++ o :: o' :: after) := by
  -- For any setting one of the two says nothing.
  have hswap : (o.given? other).or (o'.given? other) = (o'.given? other).or (o.given? other) := by
    rw [ho.given?_eq, ho'.given?_eq]
    by_cases h : leaf = other
    · simp [h, show leaf' ≠ other from fun h' => hne (h.trans h'.symm)]
    · simp [h]
  simp only [lastGiven?_append, lastGiven?, Option.or_assoc, hswap]

/-- **The settings are independent of each other, and the last layer wins.** Files and overrides
that can be read make settings, and each of these is what counts for it, converted, or its default.
A source that says nothing may be left out, and neighbouring overrides of different settings may be
exchanged. -/
theorem load_overridden (hfiles : List.Forall₂ Holds sources files)
    (hwell : ∀ file ∈ files, WellFormed file) (hgives : ∀ o ∈ overrides, ∃ leaf, o.Gives leaf) :
    (∃ s, load sources overrides = .ok s ∧ ∀ leaf : Leaf,
      leaf.converted? ((counted? leaf files overrides).getD (leaf.value defaults)) =
        some (leaf.value s)) ∧
    (∀ (before : List Source) (source : Source) (after : List Source),
      sources = before ++ source :: after → source.Silent →
      load (before ++ after) overrides = load sources overrides) ∧
    ∀ (before : List Override) (o o' : Override) (after : List Override) (leaf leaf' : Leaf),
      overrides = before ++ o :: o' :: after → o.Gives leaf → o'.Gives leaf' → leaf ≠ leaf' →
      load sources (before ++ o' :: o :: after) = load sources overrides := by
  refine ⟨exists_load_eq_ok hfiles hwell hgives, ?_, ?_⟩
  · rintro before source after rfl hsilent
    obtain ⟨files', hfiles', hsub, hsame⟩ := exists_files_without hfiles hsilent
    have hwell' : ∀ file ∈ files', WellFormed file := fun file hfile => hwell file (hsub hfile)
    exact load_eq_of_counted? hfiles hwell hgives hfiles' hwell' hgives
      fun leaf => by rw [counted?, counted?, hsame]
  · rintro before o o' after leaf leaf' rfl ho ho' hne
    refine load_eq_of_counted? hfiles hwell hgives hfiles hwell (fun o'' ho'' => hgives o'' ?_)
      fun other => by rw [counted?, counted?, lastGiven?_swap ho ho' hne]
    simp only [List.mem_append, List.mem_cons] at ho'' ⊢
    tauto

/-- A file with a title. -/
def titledText : Text := "[convert.html]\nTITLE = 7".toList

/-- The members of the file. -/
def titledMembers : Table Toml.Value :=
  [("convert", .table [("html", .table [("TITLE", .integer 7)])])]

/-- Overrides of two settings. -/
def mixedOverrides : List Override :=
  [⟨"logging.filter".toList, .bool true⟩, ⟨"Convert.HTML.Standalone".toList, .string "on"⟩,
    ⟨"LOGGING.FILTER".toList, .integer 3⟩]

/-- The overrides, the first two of them exchanged. -/
def exchangedOverrides : List Override :=
  [⟨"Convert.HTML.Standalone".toList, .string "on"⟩, ⟨"logging.filter".toList, .bool true⟩,
    ⟨"LOGGING.FILTER".toList, .integer 3⟩]

/-- The settings that the file and the overrides make. -/
def titledSettings : Settings :=
  ⟨⟨"descricao_servico.md", "descricao_servico.txt"⟩, ⟨true, "7"⟩, "3"⟩

/-- A missing file changes nothing, and neither does the order of the overrides. -/
theorem load_overridden_titled :
    (List.Forall₂ Holds [.file titledText, .unreadable false]
        [spelled titledMembers, .table []] ∧
      (∀ file ∈ [spelled titledMembers, .table []], WellFormed file) ∧
      ∀ o ∈ mixedOverrides, ∃ leaf, o.Gives leaf) ∧
    load [.file titledText, .unreadable false] mixedOverrides = .ok titledSettings ∧
    load [.file titledText] mixedOverrides = .ok titledSettings ∧
    load [.file titledText, .unreadable false] exchangedOverrides = .ok titledSettings := by
  have hparse : Toml.parse? titledText = some titledMembers := by decide +kernel
  have hfiles : List.Forall₂ Holds [.file titledText, .unreadable false]
      [spelled titledMembers, .table []] := .cons (.file hparse) (.cons .missing .nil)
  have hwell : ∀ file ∈ [spelled titledMembers, .table []], WellFormed file := by decide +kernel
  have hfilter : Override.Gives ⟨"logging.filter".toList, .bool true⟩ .logFilter := by decide
  have hstandalone : Override.Gives ⟨"Convert.HTML.Standalone".toList, .string "on"⟩
      .standalone := by
    decide +kernel
  have hcapitals : Override.Gives ⟨"LOGGING.FILTER".toList, .integer 3⟩ .logFilter := by decide
  have hgives : ∀ o ∈ mixedOverrides, ∃ leaf, o.Gives leaf := by
    simp only [mixedOverrides, List.forall_mem_cons]
    exact ⟨⟨_, hfilter⟩, ⟨_, hstandalone⟩, ⟨_, hcapitals⟩, by simp⟩
  obtain ⟨⟨s, hload, hvalue⟩, hwithout, hexchanged⟩ := load_overridden hfiles hwell hgives
  have hvalues : ∀ leaf : Leaf, leaf.converted? ((counted? leaf
      [spelled titledMembers, .table []] mixedOverrides).getD (leaf.value defaults)) =
        some (leaf.value titledSettings) := by
    intro leaf
    cases leaf <;> rfl
  obtain rfl : s = titledSettings := Leaf.eq_of_value fun leaf =>
    Option.some.inj ((hvalue leaf).symm.trans (hvalues leaf))
  refine ⟨⟨hfiles, hwell, hgives⟩, hload, ?_, ?_⟩
  · exact (hwithout [.file titledText] _ [] rfl silent_missing).trans hload
  · exact (hexchanged [] _ _ _ _ _ rfl hfilter hstandalone (by decide)).trans hload

/-! ### Key paths in files -/

/-- A file with a key that is no setting and is a key path. -/
def indexedText : Text := "\"export[0]\" = 1".toList

/-- The member of the file. -/
def indexedMembers : Table Toml.Value := [("export[0]", .integer 1)]

/-- If the keys at the top of this file were names, it would have tables wherever settings are and
would say nothing for any. But its key leads into the group of the downloads, and there is no such
group any more. -/
theorem load_of_indexedText :
    Toml.parse? indexedText = some indexedMembers ∧
      WellFormed (.ofToml (.table indexedMembers)) ∧
      (∀ leaf, said? leaf (.ofToml (.table indexedMembers)) = none) ∧
      load [.file indexedText] [] = .error .wrongShape := by
  have hparse : Toml.parse? indexedText = some indexedMembers := by decide +kernel
  refine ⟨hparse, by decide +kernel, fun leaf => by cases leaf <;> rfl, ?_⟩
  simp only [load, readOverrides, addSources, addSource, hparse]
  rfl

end Settings

end ServiceCharter
