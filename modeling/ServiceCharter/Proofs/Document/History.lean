import Mathlib.Data.List.Induction
import ServiceCharter.Proofs.Document.Decoding

/-!
# Documents after a history of writes

Field values come about by writes: all of them are replaced, or a text is stored for one field. The
last write that concerns a field decides alone which value the field has (`get?_afterWrites`).
So the document after any history is known. It is made of one section for each field whose last
value tells something, that is, for a number or for a string that is not all white space, and the
final trimming has nothing to take off (`compile_after_writes`).

It follows that texts stored for different fields may change places: all that counts is the order of
those for the same field (`lastWritten?_of_reordered`).
-/

namespace ServiceCharter

open Text

/-! ### Values that tell something -/

namespace Decimal.Layout

private theorem positional_ne_nil (l : Layout) {ds : Text} (hds : ds ≠ []) (x : Int) :
    l.positional ds x ≠ [] := by
  unfold positional
  split
  · simp
  · simp only []
    split <;> simp [hds]

/-- Every number is written. -/
theorem toList_write_ne_nil (l : Layout) (bits : UInt64) : (l.write bits).toList ≠ [] := by
  have hmagnitude : l.magnitude bits ≠ [] := by
    unfold magnitude
    simp only []
    split
    · exact l.positional_ne_nil Nat.toDigits_ne_nil _
    · simp [scientific]
  unfold write
  simp only []
  split
  · simp [hmagnitude]
  · split <;> simp

end Decimal.Layout

theorem Json.Number.toText_ne_nil (n : Json.Number) : n.toText ≠ [] := by
  cases n with
  | double bits => exact Json.numberLayout.toList_write_ne_nil bits
  | integer n =>
    rw [toText, Int.toString_eq_repr, Int.repr_eq_if]
    split <;> simp

namespace FieldValues

/-- Whether a value tells something: it is a number, or a string in which a character is not white
space. -/
def tells : Json.Value → Bool
  | .number _ => true
  | .string s => s.toList.any fun c => !isBlank c
  | _ => false

/-- The values that contribute a text are those that tell something. -/
theorem contribution_ne_nil_iff {v : Json.Value} : contribution v ≠ [] ↔ tells v = true := by
  cases v with
  | number n => simp [contribution, tells, n.toText_ne_nil]
  | string s => simp [contribution, tells, trim_eq_nil_iff, allBlank]
  | _ => simp [contribution, tells]

/-- The text of a field is what its value contributes, if that tells something. -/
theorem text?_eq (values : FieldValues) (f : Field) :
    values.text? f = ((values.members.get? f.key).filter tells).map contribution := by
  unfold text?
  cases values.members.get? f.key with
  | none => rfl
  | some v =>
    have hv : (!(contribution v).isEmpty) = tells v := by
      rw [Bool.eq_iff_iff, ← contribution_ne_nil_iff]
      simp
    simp only [Option.map_some, Option.filter, hv]
    split <;> rfl

/-! ### Histories -/

/-- A write to field values. -/
inductive Write where
  /-- Begins again without values. -/
  | new
  /-- Replaces all values by the members of a value. -/
  | ofValue (v : Json.Value)
  /-- Stores a text for a field. That the values are changed in place or handed on in a chain of
  calls is the same here. -/
  | insert (f : Field) (text : String)

/-- The values after a write. -/
def Write.perform (values : FieldValues) : Write → FieldValues
  | new => .empty
  | ofValue v => .ofValue v
  | insert f text => values.insert f text

/-- The values after a history of writes, the first of them first. -/
def afterWrites (history : List Write) : FieldValues := history.foldl Write.perform .empty

/-- What a write leaves for a field: a value or none, if the write concerns the field. -/
def Write.leaves? (f : Field) : Write → Option (Option Json.Value)
  | new => some none
  | ofValue v => some (v.members.get? f.key)
  | insert g text => if g = f then some (some (.string text)) else none

/-- What the last write that concerns a field has left for it. -/
def lastWritten? (f : Field) (history : List Write) : Option Json.Value :=
  (history.filterMap (Write.leaves? f)).getLast?.join

/-- A write that concerns a field decides alone which value the field has. -/
theorem get?_perform (values : FieldValues) (w : Write) (f : Field) :
    (w.perform values).members.get? f.key =
      (w.leaves? f).getD (values.members.get? f.key) := by
  cases w with
  | new => rfl
  | ofValue v => rfl
  | insert g text =>
    have hkey : f.key = g.key ↔ g = f :=
      ⟨fun h => (Field.key_injective h).symm, fun h => congrArg Field.key h.symm⟩
    simp only [Write.perform, FieldValues.insert, Table.get?_insert, Write.leaves?, hkey]
    split <;> rfl

/-- **A field has the value that the last write concerning it has left.** -/
theorem get?_afterWrites (history : List Write) (f : Field) :
    (afterWrites history).members.get? f.key = lastWritten? f history := by
  induction history using List.reverseRecOn with
  | nil => rfl
  | append_singleton history w ih =>
    have hlast : afterWrites (history ++ [w]) = w.perform (afterWrites history) := by
      simp [afterWrites]
    rw [hlast, get?_perform, ih, lastWritten?, lastWritten?, List.filterMap_append]
    cases hw : w.leaves? f <;> simp [hw]

/-! ### Sections -/

/-- The section of a field: its heading, an empty line and a text. The complete description goes
without the heading. -/
def chunk (f : Field) (t : Text) : Text :=
  if f.key = "descricao_completa" then t
  else "## ".toList ++ f.title.toList ++ "\n\n".toList ++ t

private theorem section_eq_chunk (f : Field) (t : Text) : f.section t = chunk f t := by
  have hverbatim : f.key = "descricao_completa" ↔ f.isVerbatim = true := by
    cases f <;> decide
  simp only [Field.section, chunk, hverbatim]
  rfl

/-- The sections that a history makes, in the order of the catalogue: one for each field whose last
value tells something. -/
def chunks (history : List Write) : List Text :=
  Field.all.filterMap fun f =>
    ((lastWritten? f history).filter tells).map fun v => chunk f (contribution v)

private theorem sectionsOf_afterWrites (history : List Write) :
    (afterWrites history).sectionsOf Field.all = chunks history := by
  refine List.filterMap_congr fun f _ => ?_
  rw [text?_eq, get?_afterWrites, Option.map_map]
  exact congrArg (Option.map · _) (funext fun v => section_eq_chunk f (contribution v))

private theorem chunks_eq_nil_iff {history : List Write} :
    chunks history = [] ↔ ∀ f, ∀ v ∈ lastWritten? f history, tells v = false := by
  simp [chunks, List.filterMap_eq_nil_iff, Field.mem_all, Option.filter_eq_none_iff]

/-! ### Order -/

/-- The same texts are stored, and those for each field in the same order. -/
def Reordered (stored stored' : List (Field × String)) : Prop :=
  ∀ f, stored.filter (·.1 = f) = stored'.filter (·.1 = f)

/-- Texts that are stored for different fields may be stored in any order. -/
private theorem reordered_of_perm {stored stored' : List (Field × String)} (h : stored.Perm stored')
    (hdiff : (stored.map Prod.fst).Nodup) : Reordered stored stored' := by
  intro f
  -- Each field has one text at most, so there is no order to keep.
  have hone : ∀ l : List (Field × String), (l.map Prod.fst).Nodup →
      (l.filter (·.1 = f)).Pairwise fun _ _ => False := by
    intro l hl
    rw [List.pairwise_filter]
    refine (List.pairwise_map.1 hl).imp fun hne ha hb => ?_
    exact hne ((of_decide_eq_true ha).trans (of_decide_eq_true hb).symm)
  have hdiff' : (stored'.map Prod.fst).Nodup := (h.map Prod.fst).nodup_iff.1 hdiff
  exact (h.filter _).eq_of_pairwise (fun _ _ _ _ hfalse _ => hfalse.elim) (hone stored hdiff)
    (hone stored' hdiff')

/-- The writes that store the texts. -/
def insertions (stored : List (Field × String)) : List Write :=
  stored.map fun e => .insert e.1 e.2

private theorem filterMap_leaves?_insertions (f : Field) (stored : List (Field × String)) :
    (insertions stored).filterMap (Write.leaves? f) =
      (stored.filter (·.1 = f)).map fun e => some (.string e.2) := by
  induction stored with
  | nil => rfl
  | cons e stored ih =>
    have hcons : insertions (e :: stored) = .insert e.1 e.2 :: insertions stored := rfl
    rw [hcons]
    by_cases hf : e.1 = f
    · simp [Write.leaves?, hf, ih]
    · simp [Write.leaves?, hf, ih]

/-- **The order in which texts for different fields are stored does not count.** -/
theorem lastWritten?_of_reordered {stored stored' : List (Field × String)}
    (h : Reordered stored stored') (before behind : List Write) (f : Field) :
    lastWritten? f (before ++ insertions stored ++ behind) =
      lastWritten? f (before ++ insertions stored' ++ behind) := by
  simp only [lastWritten?, List.filterMap_append, filterMap_leaves?_insertions, h f]

/-! ### Documents -/

private theorem solid_of_mem_chunks {history : List Write} {c : Text} (h : c ∈ chunks history) :
    Solid c := by
  rw [← sectionsOf_afterWrites] at h
  exact solid_of_mem_sectionsOf h

private theorem source_afterWrites (history : List Write) :
    (afterWrites history).compile.source = ['\n', '\n'].intercalate (chunks history) := by
  rw [compile_source, sectionsOf_afterWrites]

private theorem source_afterWrites_eq_nil_iff {history : List Write} :
    (afterWrites history).compile.source = [] ↔ chunks history = [] := by
  rw [source_afterWrites]
  constructor
  · intro hsource
    by_contra hne
    exact (solid_intercalate _ hne fun _ => solid_of_mem_chunks).ne_nil hsource
  · intro hnil
    rw [hnil, List.intercalate_nil]

/-- **The document after any history of writes.** It is made of the sections of the fields whose
last value tells something, with two line feeds between neighbours. No section begins or ends with
white space, so trimming takes nothing off the document, and in its lines exactly one empty line
stands between two sections. It is empty if no last value tells anything, and only then.

Within a history, texts may be stored in another order if those for each field keep theirs. Texts
for different fields may be stored in any order. -/
theorem compile_after_writes (history : List Write) :
    (afterWrites history).compile.source = ['\n', '\n'].intercalate (chunks history) ∧
    (∀ c ∈ chunks history, Solid c) ∧
    trim (['\n', '\n'].intercalate (afterWrites history).sections) =
      ['\n', '\n'].intercalate (afterWrites history).sections ∧
    (chunks history ≠ [] → lines (afterWrites history).compile.source ++ [[]] =
      (chunks history).flatMap fun c => lines c ++ [[]]) ∧
    ((afterWrites history).compile.isEmpty = true ↔
      ∀ f, ∀ v ∈ lastWritten? f history, tells v = false) ∧
    (∀ before stored stored' behind, Reordered stored stored' →
      (afterWrites (before ++ insertions stored ++ behind)).compile =
        (afterWrites (before ++ insertions stored' ++ behind)).compile) ∧
    ∀ stored stored', stored.Perm stored' → (stored.map Prod.fst).Nodup →
      Reordered stored stored' := by
  refine ⟨source_afterWrites history, fun c => solid_of_mem_chunks, ?_, fun hne => ?_, ?_, ?_, ?_⟩
  · have hsource := compile_source (afterWrites history)
    rwa [sectionsOf_all] at hsource
  · rw [source_afterWrites, lines_intercalate_empty_line hne]
  · rw [Document.isEmpty, List.isEmpty_iff, source_afterWrites_eq_nil_iff, chunks_eq_nil_iff]
  · intro before stored stored' behind h
    refine compile_congr fun f => ?_
    rw [text?_eq, text?_eq, get?_afterWrites, get?_afterWrites, lastWritten?_of_reordered h]
  · exact fun stored stored' => reordered_of_perm

end FieldValues

end ServiceCharter
