import ServiceCharter.Proofs.Settings.Storing

/-!
# Layers of settings

The settings files of a run are laid over the defaults one after another. Each of the five settings
has a path of its own in the tree that they make, and there only what the files say for it counts:
the last file that says something decides, or else the default (`load_eq_ok`). A file may leave out
any of the settings and may say anything beside them. It has to say what is of use
(`WellFormed`): tables where the paths lead through, values that can be converted, and no setting
twice in keys that differ in their case only.
-/

namespace ServiceCharter.Settings

/-! ### What a file says -/

/-- A setting of the program, which is a leaf of the settings tree. -/
inductive Leaf where
  | markdownFileName
  | textFileName
  | standalone
  | title
  | logFilter
deriving DecidableEq, Repr

namespace Leaf

/-- The settings of the program. -/
def all : List Leaf := [markdownFileName, textFileName, standalone, title, logFilter]

theorem mem_all (leaf : Leaf) : leaf ∈ all := by cases leaf <;> decide

/-- The names that lead to the setting. -/
def path : Leaf → List String
  | markdownFileName => ["export", "markdown_file_name"]
  | textFileName => ["export", "text_file_name"]
  | standalone => ["convert", "html", "standalone"]
  | title => ["convert", "html", "title"]
  | logFilter => ["logging", "filter"]

theorem exists_path_eq_cons (leaf : Leaf) : ∃ name path, leaf.path = name :: path := by
  cases leaf <;> exact ⟨_, _, rfl⟩

/-- Whether a value can be converted to the type of the setting. -/
def fits : Leaf → Tree → Bool
  | standalone, v => v.toBool?.isSome
  | _, v => v.toString?.isSome

theorem isGroup_of_fits {leaf : Leaf} {v : Tree} (h : leaf.fits v = true) : isGroup v = false := by
  cases leaf <;> cases v <;> first | rfl | cases h

/-- The value converted to the type of the setting. -/
def converted? (leaf : Leaf) (v : Tree) : Option Tree :=
  match leaf with
  | standalone => v.toBool?.map .bool
  | _ => v.toString?.map .string

/-- The setting, as the value that it is in a tree. -/
def value (leaf : Leaf) (s : Settings) : Tree :=
  match leaf with
  | markdownFileName => .string s.downloads.markdownFileName
  | textFileName => .string s.downloads.textFileName
  | standalone => .bool s.page.standalone
  | title => .string s.page.title
  | logFilter => .string s.logFilter

private theorem fits_value (leaf : Leaf) (s : Settings) : leaf.fits (leaf.value s) = true := by
  cases leaf <;> rfl

private theorem valueAt?_toTree (leaf : Leaf) (s : Settings) :
    s.toTree.valueAt? leaf.path = some (leaf.value s) := by
  cases leaf <;> rfl

/-- The values of all settings make up the settings. -/
theorem eq_of_value {s s' : Settings} (h : ∀ leaf : Leaf, leaf.value s = leaf.value s') :
    s = s' := by
  obtain ⟨⟨m, t⟩, ⟨standalone, title⟩, filter⟩ := s
  obtain ⟨⟨m', t'⟩, ⟨standalone', title'⟩, filter'⟩ := s'
  obtain rfl : m = m' := Tree.string.inj (h .markdownFileName)
  obtain rfl : t = t' := Tree.string.inj (h .textFileName)
  obtain rfl : standalone = standalone' := Tree.bool.inj (h .standalone)
  obtain rfl : title = title' := Tree.string.inj (h .title)
  obtain rfl : filter = filter' := Tree.string.inj (h .logFilter)
  rfl

end Leaf

/-- The entry of a table that a key at the top of a file and its value are. -/
def spellTop (e : String × Toml.Value) : String × Tree :=
  match KeyPath.parse? e.1.toList with
  | some p => p.spell (.ofToml e.2)
  | none => (e.1, .ofToml e.2)

/-- The tree that the members of a file are, with the key paths at its top written out. -/
def spelled (members : Table Toml.Value) : Tree := .table (members.map spellTop)

/-- A source can be read and is this tree. A file that may be missing is an empty one if it is. -/
inductive Holds : Source → Tree → Prop
  | file {text : Text} {members : Table Toml.Value} (h : Toml.parse? text = some members) :
    Holds (.file text) (spelled members)
  | missing : Holds (.unreadable false) (.table [])

/-- The file has tables where settings are looked for, gives them values that can be converted, and
gives none of them twice. -/
structure WellFormed (file : Tree) : Prop where
  fits : ∀ leaf : Leaf, file.admits leaf.fits leaf.path = true
  once : ∀ leaf : Leaf, (file.valuesAt leaf.path).length ≤ 1

theorem wellFormed_iff {file : Tree} : WellFormed file ↔ ∀ leaf ∈ Leaf.all,
    file.admits leaf.fits leaf.path = true ∧ (file.valuesAt leaf.path).length ≤ 1 :=
  ⟨fun h leaf _ => ⟨h.fits leaf, h.once leaf⟩,
    fun h => ⟨fun leaf => (h leaf leaf.mem_all).1, fun leaf => (h leaf leaf.mem_all).2⟩⟩

instance (file : Tree) : Decidable (WellFormed file) := decidable_of_iff' _ wellFormed_iff

/-- What the file says for a setting. -/
def said? (leaf : Leaf) (file : Tree) : Option Tree := (file.valuesAt leaf.path).head?

/-- What the last of the files says that says something for a setting. -/
def lastSaid? (leaf : Leaf) : List Tree → Option Tree
  | [] => none
  | file :: files => (lastSaid? leaf files).or (said? leaf file)

private theorem fits_of_said? {leaf : Leaf} {file v : Tree} (hfile : WellFormed file)
    (h : said? leaf file = some v) : leaf.fits v = true :=
  Tree.fits_of_mem_valuesAt (hfile.fits leaf) (List.mem_of_mem_head? h)

theorem fits_of_lastSaid? {leaf : Leaf} {files : List Tree} {v : Tree}
    (hfiles : ∀ file ∈ files, WellFormed file) (h : lastSaid? leaf files = some v) :
    leaf.fits v = true := by
  induction files with
  | nil => cases h
  | cons file files ih =>
    obtain ⟨hfile, hrest⟩ := List.forall_mem_cons.1 hfiles
    rcases Option.or_eq_some_iff.1 h with hlast | ⟨-, hhead⟩
    · exact ih hrest hlast
    · exact fits_of_said? hfile hhead

/-! ### Laying files over a tree -/

private theorem valueAt?_storeTop {fits : Tree → Bool}
    (hfits : ∀ t, fits t = true → isGroup t = false)
    {name : String} {path : List String} {e : String × Toml.Value}
    (h : (Tree.table [spellTop e]).admits fits (name :: path) = true) (root : Tree) :
    (storeTop root e.1 (.ofToml e.2)).valueAt? (name :: path) =
      (Tree.table [spellTop e]).overlaid (name :: path) (root.valueAt? (name :: path)) := by
  unfold storeTop
  unfold spellTop at h ⊢
  cases hkey : KeyPath.parse? e.1.toList with
  | none =>
    simp only [hkey] at h ⊢
    exact Tree.valueAt?_store hfits h root
  | some p =>
    simp only [hkey] at h ⊢
    exact KeyPath.valueAt?_store hfits hkey h root

private theorem valueAt?_layer {leaf : Leaf} {members : Table Toml.Value}
    (h : WellFormed (spelled members)) (root : Tree) :
    (layer root members).valueAt? leaf.path =
      (said? leaf (spelled members)).or (root.valueAt? leaf.path) := by
  -- What is said once is said last.
  have hlast : ((spelled members).valuesAt leaf.path).getLast? = said? leaf (spelled members) := by
    have hlength := h.once leaf
    unfold said?
    match (spelled members).valuesAt leaf.path, hlength with
    | [], _ => rfl
    | [v], _ => rfl
    | _ :: _ :: _, hlength => simp at hlength
  rw [← hlast]
  have hfits := h.fits leaf
  obtain ⟨name, path, hpath⟩ := leaf.exists_path_eq_cons
  rw [hpath] at hfits ⊢
  exact Tree.valueAt?_foldl spellTop
    (fun root e he => valueAt?_storeTop (fun t ht => Leaf.isGroup_of_fits ht) he root) hfits root

/-- Readable files can be laid over a tree, and the last that says something for a setting decides
what is there. -/
theorem addSources_eq_ok {sources : List Source} {files : List Tree}
    (hfiles : List.Forall₂ Holds sources files) (hwell : ∀ file ∈ files, WellFormed file)
    (root : Tree) :
    ∃ root', addSources root sources = .ok root' ∧
      ∀ leaf : Leaf, root'.valueAt? leaf.path =
        (lastSaid? leaf files).or (root.valueAt? leaf.path) := by
  induction hfiles generalizing root with
  | nil => exact ⟨root, rfl, fun leaf => rfl⟩
  | @cons source file sources files hholds _ ih =>
    obtain ⟨hfile, hrest⟩ := List.forall_mem_cons.1 hwell
    obtain ⟨next, hadd, hnext⟩ : ∃ next, addSource root source = .ok next ∧
        ∀ leaf : Leaf, next.valueAt? leaf.path =
          (said? leaf file).or (root.valueAt? leaf.path) := by
      cases hholds with
      | file hparse =>
        rw [addSource, hparse]
        exact ⟨_, rfl, fun leaf => valueAt?_layer hfile root⟩
      | missing => exact ⟨root, rfl, fun leaf => by cases leaf <;> rfl⟩
    obtain ⟨root', hadds, hroot'⟩ := ih hrest next
    refine ⟨root', ?_, fun leaf => ?_⟩
    · rw [addSources, hadd]
      exact hadds
    · rw [hroot' leaf, hnext leaf, lastSaid?, Option.or_assoc]

/-! ### Reading the settings -/

section Reading

variable {α β : Type} {f : Tree → Option α} {g : Tree → Option β} {group : Tree} {name : String}
  {a : α} {b : β}

/-- What is found below a name is found in what stands under it. -/
private theorem exists_of_valueAt?_cons {path : List String}
    (h : (group.valueAt? (name :: path)).bind f = some a) :
    ∃ v, group.members.get? name = some v ∧ (v.valueAt? path).bind f = some a := by
  obtain ⟨w, hw, ha⟩ := Option.bind_eq_some_iff.1 h
  obtain ⟨v, hv, hpath⟩ := Option.bind_eq_some_iff.1 hw
  exact ⟨v, hv, Option.bind_eq_some_iff.2 ⟨w, hpath, ha⟩⟩

private theorem exists_of_valueAt?_cons_and {path path' : List String}
    (h : (group.valueAt? (name :: path)).bind f = some a)
    (h' : (group.valueAt? (name :: path')).bind g = some b) :
    ∃ v, group.members.get? name = some v ∧ (v.valueAt? path).bind f = some a ∧
      (v.valueAt? path').bind g = some b := by
  obtain ⟨v, hv, ha⟩ := exists_of_valueAt?_cons h
  obtain ⟨v', hv', hb⟩ := exists_of_valueAt?_cons h'
  obtain rfl : v = v' := Option.some.inj (hv.symm.trans hv')
  exact ⟨v, hv, ha, hb⟩

private theorem asGroup_of_get? {read : Tree → Except Fault α} {v : Tree}
    (h : group.members.get? name = some v) : asGroup read group = read group := by
  cases group with
  | table ms => rfl
  | _ => cases h

private theorem convert?_of_get? {convert : Tree → Except Fault α} {v : Tree}
    (h : group.members.get? name = some v) (hv : convert v = .ok a) (place : Nat) :
    convert? convert group name place = .ok (some a) := by
  cases group with
  | table ms =>
    have hget : Table.get? ms name = some v := h
    simp [convert?, setting?, hget, hv, Except.map]
  | _ => cases h

private theorem asString_of_toString? {v : Tree} {s : String} (h : v.toString? = some s) :
    asString v = .ok s := by
  simp [asString, h]

private theorem asBool_of_toBool? {v : Tree} {b : Bool} (h : v.toBool? = some b) :
    asBool v = .ok b := by
  simp [asBool, h]

private theorem readDownloads_eq_ok {m t : String}
    (hm : (group.valueAt? ["markdown_file_name"]).bind Tree.toString? = some m)
    (ht : (group.valueAt? ["text_file_name"]).bind Tree.toString? = some t) :
    readDownloads group = .ok ⟨m, t⟩ := by
  obtain ⟨v, hv, hm⟩ := exists_of_valueAt?_cons hm
  obtain ⟨w, hw, ht⟩ := exists_of_valueAt?_cons ht
  rw [readDownloads, asGroup_of_get? hv, convert?_of_get? hv (asString_of_toString? hm),
    convert?_of_get? hw (asString_of_toString? ht)]
  rfl

private theorem readPage_eq_ok {standalone : Bool} {title : String}
    (hstandalone : (group.valueAt? ["standalone"]).bind Tree.toBool? = some standalone)
    (htitle : (group.valueAt? ["title"]).bind Tree.toString? = some title) :
    readPage group = .ok ⟨standalone, title⟩ := by
  obtain ⟨v, hv, hstandalone⟩ := exists_of_valueAt?_cons hstandalone
  obtain ⟨w, hw, htitle⟩ := exists_of_valueAt?_cons htitle
  rw [readPage, asGroup_of_get? hv, convert?_of_get? hv (asBool_of_toBool? hstandalone),
    convert?_of_get? hw (asString_of_toString? htitle)]
  rfl

private theorem readConversions_eq_ok {standalone : Bool} {title : String}
    (hstandalone : (group.valueAt? ["html", "standalone"]).bind Tree.toBool? = some standalone)
    (htitle : (group.valueAt? ["html", "title"]).bind Tree.toString? = some title) :
    readConversions group = .ok ⟨standalone, title⟩ := by
  obtain ⟨page, hpage, hstandalone, htitle⟩ := exists_of_valueAt?_cons_and hstandalone htitle
  rw [readConversions, asGroup_of_get? hpage,
    convert?_of_get? hpage (readPage_eq_ok hstandalone htitle)]
  rfl

private theorem readLogging_eq_ok {filter : String}
    (h : (group.valueAt? ["filter"]).bind Tree.toString? = some filter) :
    readLogging group = .ok filter := by
  obtain ⟨v, hv, hfilter⟩ := exists_of_valueAt?_cons h
  rw [readLogging, asGroup_of_get? hv, convert?_of_get? hv (asString_of_toString? hfilter)]
  rfl

/-- A tree holds the settings that stand at their paths. -/
theorem ofTree_eq_ok {root : Tree} {m t title filter : String} {standalone : Bool}
    (hm : (root.valueAt? (Leaf.path .markdownFileName)).bind Tree.toString? = some m)
    (ht : (root.valueAt? (Leaf.path .textFileName)).bind Tree.toString? = some t)
    (hstandalone :
      (root.valueAt? (Leaf.path .standalone)).bind Tree.toBool? = some standalone)
    (htitle : (root.valueAt? (Leaf.path .title)).bind Tree.toString? = some title)
    (hfilter : (root.valueAt? (Leaf.path .logFilter)).bind Tree.toString? = some filter) :
    ofTree root = .ok ⟨⟨m, t⟩, ⟨standalone, title⟩, filter⟩ := by
  obtain ⟨downloads, hdownloads, hm, ht⟩ := exists_of_valueAt?_cons_and hm ht
  obtain ⟨conversions, hconversions, hstandalone, htitle⟩ :=
    exists_of_valueAt?_cons_and hstandalone htitle
  obtain ⟨logging, hlogging, hfilter⟩ := exists_of_valueAt?_cons hfilter
  rw [ofTree, asGroup_of_get? hdownloads,
    convert?_of_get? hdownloads (readDownloads_eq_ok hm ht),
    convert?_of_get? hconversions (readConversions_eq_ok hstandalone htitle),
    convert?_of_get? hlogging (readLogging_eq_ok hfilter)]
  rfl

/-- A tree makes settings if what it has for each of them can be converted. -/
private theorem exists_ofTree_eq_ok {root : Tree} {v : Leaf → Tree}
    (hv : ∀ leaf : Leaf, root.valueAt? leaf.path = some (v leaf))
    (hfits : ∀ leaf : Leaf, leaf.fits (v leaf) = true) :
    ∃ s, ofTree root = .ok s ∧ ∀ leaf : Leaf, leaf.converted? (v leaf) = some (leaf.value s) := by
  obtain ⟨m, hm⟩ := Option.isSome_iff_exists.1 (hfits .markdownFileName)
  obtain ⟨t, ht⟩ := Option.isSome_iff_exists.1 (hfits .textFileName)
  obtain ⟨standalone, hstandalone⟩ := Option.isSome_iff_exists.1 (hfits .standalone)
  obtain ⟨title, htitle⟩ := Option.isSome_iff_exists.1 (hfits .title)
  obtain ⟨filter, hfilter⟩ := Option.isSome_iff_exists.1 (hfits .logFilter)
  refine ⟨⟨⟨m, t⟩, ⟨standalone, title⟩, filter⟩, ?_, fun leaf => ?_⟩
  · apply ofTree_eq_ok <;> simpa [hv]
  · cases leaf <;> simp [Leaf.converted?, Leaf.value, *]

/-- What is said over the defaults makes settings if it can be converted. -/
theorem exists_ofTree_eq_ok_of_said {root : Tree} {said : Leaf → Option Tree}
    (hroot : ∀ leaf : Leaf, root.valueAt? leaf.path =
      (said leaf).or (defaults.toTree.valueAt? leaf.path))
    (hsaid : ∀ (leaf : Leaf) (v : Tree), said leaf = some v → leaf.fits v = true) :
    ∃ s, ofTree root = .ok s ∧ ∀ leaf : Leaf,
      leaf.converted? ((said leaf).getD (leaf.value defaults)) = some (leaf.value s) := by
  refine exists_ofTree_eq_ok (fun leaf => ?_) fun leaf => ?_
  · rw [hroot, leaf.valueAt?_toTree, Option.or_some]
  · cases h : said leaf with
    | none => exact leaf.fits_value defaults
    | some v => exact hsaid leaf v h

end Reading

/-! ### Loading files -/

/-- The text that the files say for a setting, or `other`. -/
def textOf (leaf : Leaf) (files : List Tree) (other : String) : String :=
  ((lastSaid? leaf files).bind Tree.toString?).getD other

/-- The settings that files say, with the defaults for what they do not. -/
def layered (files : List Tree) : Settings where
  downloads :=
    ⟨textOf .markdownFileName files defaults.downloads.markdownFileName,
      textOf .textFileName files defaults.downloads.textFileName⟩
  page :=
    ⟨((lastSaid? .standalone files).bind Tree.toBool?).getD defaults.page.standalone,
      textOf .title files defaults.page.title⟩
  logFilter := textOf .logFilter files defaults.logFilter

private theorem converted?_layered {files : List Tree} (hwell : ∀ file ∈ files, WellFormed file)
    (leaf : Leaf) : leaf.converted? ((lastSaid? leaf files).getD (leaf.value defaults)) =
      some (leaf.value (layered files)) := by
  cases hsaid : lastSaid? leaf files with
  | none =>
    cases leaf <;>
      simp [Leaf.converted?, Leaf.value, layered, textOf, hsaid, Tree.toString?, Tree.toBool?]
  | some v =>
    have hfits := fits_of_lastSaid? hwell hsaid
    cases leaf <;>
      (obtain ⟨a, ha⟩ := Option.isSome_iff_exists.1 hfits
       simp [Leaf.converted?, Leaf.value, layered, textOf, hsaid, ha])

/-- **The last file that gives a setting decides.** -/
theorem load_eq_ok {sources : List Source} {files : List Tree}
    (hfiles : List.Forall₂ Holds sources files) (hwell : ∀ file ∈ files, WellFormed file) :
    load sources [] = .ok (layered files) := by
  obtain ⟨root, hadd, hroot⟩ := addSources_eq_ok hfiles hwell defaults.toTree
  obtain ⟨s, hs, hvalue⟩ :=
    exists_ofTree_eq_ok_of_said hroot fun leaf v hsaid => fits_of_lastSaid? hwell hsaid
  obtain rfl : s = layered files := Leaf.eq_of_value fun leaf =>
    Option.some.inj ((hvalue leaf).symm.trans (converted?_layered hwell leaf))
  simp only [load, readOverrides, hadd, applyOverrides, List.foldl_nil]
  exact hs

end ServiceCharter.Settings
