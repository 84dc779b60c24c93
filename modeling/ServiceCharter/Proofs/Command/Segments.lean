import Mathlib.Data.List.Basic
import ServiceCharter.Proofs.Command.Extras
import ServiceCharter.Proofs.Table

/-!
# The segments of a command line

Words are read one segment at a time: a plain word, an extra parameter with its value, or an extra
parameter without one. Whether a word is a value depends on the word in front of it, and whether a
parameter has one on the word behind it; still, words fall into segments in one way only, because
the first two words tell the first segment (`firstSegment?_flatMap_words`).

Taking out the extra parameters reads the segments back (`splitExtras_of_segmentsOf`): the plain
words stay in their order, and a parameter has the value in the last segment that names it. What
stays holds no extra parameter, so there is nothing to take out of it a second time
(`splitExtras_reads_segments`).
-/

namespace ServiceCharter.Command

/-! ### Words that name a parameter -/

/-- The word names the extra parameter with the key, under one of the two marks. -/
inductive Names : String → String → Prop
  | extra (key : String) : Names ("--extra-" ++ key) key
  | extras (key : String) : Names ("--extras-" ++ key) key

/-- The word begins with the mark of an extra parameter. -/
def IsExtra (word : String) : Prop := ∃ key, Names word key

/-- No word begins with both marks. -/
private theorem extra_append_ne (key key' : String) : "--extras-" ++ key ≠ "--extra-" ++ key' := by
  intro h
  have hlist := congrArg String.toList h
  simp at hlist

theorem extraKey?_eq_some_iff {word key : String} : extraKey? word = some key ↔ Names word key := by
  have hkey : ∀ mark : String, (Text.after? mark.toList word.toList).map String.ofList = some key ↔
      word = mark ++ key := by
    intro mark
    simp only [Option.map_eq_some_iff, Text.after?_eq_some_iff, ← String.toList_inj,
      String.toList_append]
    exact ⟨fun ⟨rest, hword, hrest⟩ => by rw [hword, ← hrest, String.toList_ofList],
      fun hword => ⟨key.toList, hword, by simp⟩⟩
  have hone : Names word key ↔ word = "--extra-" ++ key ∨ word = "--extras-" ++ key :=
    ⟨fun | .extra _ => Or.inl rfl | .extras _ => Or.inr rfl,
      fun | .inl h => h ▸ .extra key | .inr h => h ▸ .extras key⟩
  rw [hone, extraKey?, Option.or_eq_some_iff, hkey, hkey]
  refine or_congr_right (and_iff_right_of_imp ?_)
  rintro rfl
  refine Option.map_eq_none_iff.2 (Option.eq_none_iff_forall_ne_some.2 fun rest hrest => ?_)
  refine extra_append_ne key (String.ofList rest) (String.toList_inj.1 ?_)
  rw [Text.after?_eq_some_iff.1 hrest]
  simp

theorem not_isExtra_iff {word : String} : ¬IsExtra word ↔ extraKey? word = none := by
  simp only [IsExtra, ← extraKey?_eq_some_iff, ← Option.isSome_iff_exists,
    Option.not_isSome_iff_eq_none]

/-! ### Segments -/

/-- A segment of the words of a command line. -/
inductive Segment where
  /-- A word that names no extra parameter. -/
  | plain (word : String)
  /-- A word that names an extra parameter, and its value. -/
  | valued (word key value : String)
  /-- A word that names an extra parameter without a value. -/
  | bare (word key : String)
deriving DecidableEq, Repr

namespace Segment

/-- The words of a segment. -/
def words : Segment → List String
  | plain word => [word]
  | valued word _ value => [word, value]
  | bare word _ => [word]

/-- The first word of a segment. -/
def firstWord : Segment → String
  | plain word => word
  | valued word _ _ => word
  | bare word _ => word

/-- The word of a plain segment. -/
def plainWord? : Segment → Option String
  | plain word => some word
  | _ => none

/-- The parameter that a segment names, with its value; without one it is `true`. -/
def entry? : Segment → Option (String × String)
  | plain _ => none
  | valued _ key value => some (key, value)
  | bare _ key => some (key, "true")

/-- The value that a segment gives the parameter with the key. -/
def valueOf? (key : String) (s : Segment) : Option String :=
  s.entry?.bind (Table.valueUnder? key)

end Segment

/-- Segments that can stand one after another: a plain word names no parameter, a value does not
begin with a hyphen, and a parameter without a value is not followed by a word that could be one. -/
inductive Segmented : List Segment → Prop
  | nil : Segmented []
  | plain {word : String} {segments : List Segment} (hword : ¬IsExtra word)
    (h : Segmented segments) : Segmented (.plain word :: segments)
  | valued {word key value : String} {segments : List Segment} (hword : Names word key)
    (hvalue : isDashed value = false) (h : Segmented segments) :
    Segmented (.valued word key value :: segments)
  | bare {word key : String} {segments : List Segment} (hword : Names word key)
    (hnext : ∀ next ∈ segments.head?, isDashed next.firstWord = true) (h : Segmented segments) :
    Segmented (.bare word key :: segments)

/-- The words fall into the segments. -/
structure SegmentsOf (words : List String) (segments : List Segment) : Prop where
  segmented : Segmented segments
  flatMap_eq : segments.flatMap Segment.words = words

private theorem head?_flatMap_words (segments : List Segment) :
    (segments.flatMap Segment.words).head? = segments.head?.map Segment.firstWord := by
  cases segments with
  | nil => rfl
  | cons s segments => cases s <;> rfl

/-! ### There is one way to cut words into segments -/

/-- The first segment of words: whether a parameter has a value is told by the word behind it. -/
def firstSegment? : List String → Option Segment
  | [] => none
  | word :: words =>
    match extraKey? word, words.head? with
    | none, _ => some (.plain word)
    | some key, none => some (.bare word key)
    | some key, some next => some (if isDashed next then .bare word key else .valued word key next)

theorem Segmented.tail {s : Segment} {segments : List Segment} (h : Segmented (s :: segments)) :
    Segmented segments := by
  cases h with
  | plain _ h => exact h
  | valued _ _ h => exact h
  | bare _ _ h => exact h

/-- **Words tell the first of their segments.** -/
theorem firstSegment?_flatMap_words {segments : List Segment} (h : Segmented segments) :
    firstSegment? (segments.flatMap Segment.words) = segments.head? := by
  cases h with
  | nil => rfl
  | plain hword h =>
    simp [firstSegment?, Segment.words, not_isExtra_iff.1 hword]
  | valued hword hvalue h =>
    simp [firstSegment?, Segment.words, extraKey?_eq_some_iff.2 hword, hvalue]
  | @bare word key segments hword hnext h =>
    have hhead := head?_flatMap_words segments
    simp only [List.flatMap_cons, Segment.words, List.cons_append, List.nil_append, firstSegment?,
      extraKey?_eq_some_iff.2 hword, hhead, List.head?_cons]
    cases hs : segments.head? with
    | none => rfl
    | some next => simp [hnext next hs]

theorem Segmented.eq_of_flatMap_eq {segments segments' : List Segment} (h : Segmented segments)
    (h' : Segmented segments')
    (heq : segments.flatMap Segment.words = segments'.flatMap Segment.words) :
    segments = segments' := by
  induction segments generalizing segments' with
  | nil =>
    have hhead := firstSegment?_flatMap_words h'
    rw [← heq, firstSegment?_flatMap_words h] at hhead
    exact (List.head?_eq_none_iff.1 hhead.symm).symm
  | cons s segments ih =>
    have hhead := firstSegment?_flatMap_words h'
    rw [← heq, firstSegment?_flatMap_words h, List.head?_cons] at hhead
    obtain ⟨rest, rfl⟩ := List.head?_eq_some_iff.1 hhead.symm
    rw [List.flatMap_cons, List.flatMap_cons] at heq
    rw [ih h.tail h'.tail (List.append_cancel_left heq)]

/-- Words can be cut into segments, as they are read. -/
theorem exists_segmentsOf : ∀ words : List String, ∃ segments, SegmentsOf words segments
  | [] => ⟨[], .nil, rfl⟩
  | [w] => by
    cases hw : extraKey? w with
    | none => exact ⟨[.plain w], .plain (not_isExtra_iff.2 hw) .nil, rfl⟩
    | some key => exact ⟨[.bare w key], .bare (extraKey?_eq_some_iff.1 hw) (by simp) .nil, rfl⟩
  | w :: v :: words => by
    obtain ⟨behind, hbehind, hwords⟩ := exists_segmentsOf (v :: words)
    cases hw : extraKey? w with
    | none =>
      refine ⟨.plain w :: behind, .plain (not_isExtra_iff.2 hw) hbehind, ?_⟩
      rw [List.flatMap_cons, hwords]
      rfl
    | some key =>
      have hname := extraKey?_eq_some_iff.1 hw
      cases hv : isDashed v with
      | false =>
        obtain ⟨rest, hrest, rfl⟩ := exists_segmentsOf words
        exact ⟨.valued w key v :: rest, .valued hname hv hrest, rfl⟩
      | true =>
        have hhead := head?_flatMap_words behind
        rw [hwords, List.head?_cons] at hhead
        refine ⟨.bare w key :: behind, .bare hname (fun next hnext => ?_) hbehind, ?_⟩
        · rw [hnext, Option.map_some, Option.some.injEq] at hhead
          rw [← hhead, hv]
        · rw [List.flatMap_cons, hwords]
          rfl

/-- **Words fall into segments in exactly one way.** -/
theorem existsUnique_segmentsOf (words : List String) : ∃! segments, SegmentsOf words segments := by
  obtain ⟨segments, h⟩ := exists_segmentsOf words
  refine ⟨segments, h, fun segments' h' => ?_⟩
  exact h'.segmented.eq_of_flatMap_eq h.segmented (h'.flatMap_eq.trans h.flatMap_eq.symm)

/-! ### Reading the segments back -/

/-- The value of a parameter is the next word, if that can be a value. -/
private theorem takeExtras_cons_of_some {w key : String} (hw : extraKey? w = some key)
    (found : Table String) {v : String} (hv : isDashed v = false) (words : List String) :
    takeExtras found (w :: v :: words) = takeExtras (found.insert key v) words := by
  simp [takeExtras, hw, hv]

/-- A parameter is `true` if the next word cannot be its value. -/
private theorem takeExtras_cons_of_dashed {w key : String} (hw : extraKey? w = some key)
    (found : Table String) {words : List String}
    (hnext : ∀ v ∈ words.head?, isDashed v = true) :
    takeExtras found (w :: words) = takeExtras (found.insert key "true") words := by
  cases words with
  | nil => simp [takeExtras, hw]
  | cons v words => simp [takeExtras, hw, hnext v rfl]

/-- What is taken out of segments: the entries are added one after another. -/
private theorem takeExtras_flatMap_words {segments : List Segment} (h : Segmented segments)
    (found : Table String) :
    takeExtras found (segments.flatMap Segment.words) =
      (segments.filterMap Segment.plainWord?,
        (segments.filterMap Segment.entry?).foldl (fun t e => t.insert e.1 e.2) found) := by
  induction h generalizing found with
  | nil => rfl
  | plain hword h ih =>
    simp only [List.flatMap_cons, Segment.words, List.cons_append, List.nil_append]
    rw [takeExtras_cons_of_none (not_isExtra_iff.1 hword), ih]
    rfl
  | valued hword hvalue h ih =>
    simp only [List.flatMap_cons, Segment.words, List.cons_append, List.nil_append]
    rw [takeExtras_cons_of_some (extraKey?_eq_some_iff.2 hword) found hvalue, ih]
    rfl
  | @bare word key segments hword hnext h ih =>
    have hdash : ∀ v ∈ (segments.flatMap Segment.words).head?, isDashed v = true := by
      intro v hv
      rw [head?_flatMap_words] at hv
      obtain ⟨next, hhead, rfl⟩ := Option.map_eq_some_iff.1 hv
      exact hnext next hhead
    simp only [List.flatMap_cons, Segment.words, List.cons_append, List.nil_append]
    rw [takeExtras_cons_of_dashed (extraKey?_eq_some_iff.2 hword) found hdash, ih]
    rfl

/-- The words that stay name no parameter. -/
theorem Segmented.not_isExtra {segments : List Segment} (h : Segmented segments) :
    ∀ word ∈ segments.filterMap Segment.plainWord?, ¬IsExtra word := by
  induction h with
  | nil => simp
  | plain hword h ih => exact List.forall_mem_cons.2 ⟨hword, ih⟩
  | valued hword hvalue h ih => exact ih
  | bare hword hnext h ih => exact ih

/-- **Taking out the extra parameters reads the segments back.** -/
theorem splitExtras_of_segmentsOf {words : List String} {segments : List Segment}
    (h : SegmentsOf words segments) :
    (splitExtras words).1 = segments.filterMap Segment.plainWord? ∧
      ∀ key, (splitExtras words).2.get? key =
        (segments.filterMap (Segment.valueOf? key)).getLast? := by
  rw [← h.flatMap_eq, splitExtras, takeExtras_flatMap_words h.segmented]
  refine ⟨rfl, fun key => ?_⟩
  rw [Table.get?_foldl_insert_eq_getLast?, List.filterMap_filterMap, Table.get?_nil, Option.or_none]
  rfl

/-- **Every command line is read back from its segments.** Words fall into segments in exactly one
way. Of these, the plain words stay in their order, and the parameters are those that are named in
some segment, each with the value in the last one that names it, whichever mark is used. No word
that stays names a parameter, so taking out the parameters again changes nothing and finds none. -/
theorem splitExtras_reads_segments (words : List String) :
    (∃! segments, SegmentsOf words segments) ∧
    (∀ segments, SegmentsOf words segments →
      (splitExtras words).1 = segments.filterMap Segment.plainWord? ∧
      (splitExtras words).2.Sorted ∧
      ∀ key, (splitExtras words).2.get? key =
        (segments.filterMap (Segment.valueOf? key)).getLast?) ∧
    (∀ word ∈ (splitExtras words).1, ¬IsExtra word) ∧
    splitExtras (splitExtras words).1 = ((splitExtras words).1, []) := by
  obtain ⟨segments, h⟩ := exists_segmentsOf words
  have hplain : ∀ word ∈ (splitExtras words).1, ¬IsExtra word := by
    rw [(splitExtras_of_segmentsOf h).1]
    exact h.segmented.not_isExtra
  refine ⟨existsUnique_segmentsOf words, fun segments' h' => ?_, hplain, ?_⟩
  · obtain ⟨hwords, hget⟩ := splitExtras_of_segmentsOf h'
    exact ⟨hwords, sorted_splitExtras words, hget⟩
  · exact splitExtras_of_forall fun word hword => not_isExtra_iff.1 (hplain word hword)

/-- A parameter under both marks, with a bare one between. -/
example : splitExtras ["--extra-a", "1", "x", "--extra-b", "--to", "--extras-a", "2"] =
    (["x", "--to"], [("a", "2"), ("b", "true")]) := by
  decide

end ServiceCharter.Command
