import Mathlib.Data.List.Basic
import ServiceCharter.Proofs.Json.Objects
import ServiceCharter.Proofs.Text.Edges
import ServiceCharter.Reply.Envelope

/-!
# What a reply that is JSON is taken for

A reply is searched for a fenced object first, and only a reply without one is read from its first
opening brace to its last closing one. `HoldsFencedObject` says by the characters of a text whether
there is a fenced object in it (`firstInFence?_eq_none_iff`).

The search does not know the strings of JSON, so it may find an object inside one of them. That is
the only way in which a reply that is an object as a whole is not read as itself
(`payload_eq_trim_iff`).
-/

namespace ServiceCharter.Reply

open Text

/-! ### Fenced objects -/

/-- The word that may stand behind an opening fence. -/
def jsonTag : Text := ['j', 's', 'o', 'n']

/-- A fenced block with the given object stands at the head of the text. -/
def Fenced (object t : Text) : Prop :=
  ∃ tag space body space' after,
    t = fence ++ (tag ++ (space ++ (object ++ (space' ++ (fence ++ after))))) ∧
      object = '\x7b' :: body ++ ['\x7d'] ∧ (tag = [] ∨ tag = jsonTag) ∧
      allBlank space = true ∧ allBlank space' = true

/-- The text holds a fenced block with an object. -/
def HoldsFencedObject (raw : Text) : Prop :=
  ∃ before object block, raw = before ++ block ∧ Fenced object block

theorem closesFence_eq_true_iff {t : Text} :
    closesFence t = true ↔
      ∃ space after, t = space ++ (fence ++ after) ∧ allBlank space = true := by
  have hfence : ∀ after, trimStart (fence ++ after) = fence ++ after := fun after =>
    trimStart_cons_of_not_isBlank (by decide) _
  unfold closesFence
  rw [Option.isSome_iff_exists]
  constructor
  · rintro ⟨after, hafter⟩
    obtain ⟨w, ht, hw⟩ := exists_trimStart_eq t
    exact ⟨w, after, by rw [ht, after?_eq_some_iff.1 hafter], hw⟩
  · rintro ⟨space, after, rfl, hspace⟩
    exact ⟨after, by rw [trimStart_append_of_allBlank hspace, hfence, after?_eq_some_iff]⟩

/-- What is found ends with a brace that a fence follows. -/
theorem of_untilClosingFence? {t x : Text} (h : untilClosingFence? t = some x) :
    ∃ body rest, t = x ++ rest ∧ x = body ++ ['\x7d'] ∧ closesFence rest = true := by
  induction t generalizing x with
  | nil => cases h
  | cons c t ih =>
    unfold untilClosingFence? at h
    split at h
    · next hclose =>
      obtain ⟨rfl, hfence⟩ := by simpa using hclose
      cases h
      exact ⟨[], t, rfl, rfl, hfence⟩
    · obtain ⟨y, hy, rfl⟩ := Option.map_eq_some_iff.1 h
      obtain ⟨body, rest, rfl, rfl, hfence⟩ := ih hy
      exact ⟨c :: body, rest, rfl, rfl, hfence⟩

theorem isSome_untilClosingFence? {rest : Text} (h : closesFence rest = true)
    (body : Text) : (untilClosingFence? (body ++ '\x7d' :: rest)).isSome = true := by
  induction body with
  | nil => simp [untilClosingFence?, h]
  | cons c body ih =>
    rw [List.cons_append, untilClosingFence?]
    split
    · rfl
    · rwa [Option.isSome_map]

private theorem fenced_of_objectInFence? {t object : Text} (h : objectInFence? t = some object) :
    Fenced object t := by
  unfold objectInFence? at h
  obtain ⟨rest, hrest, h⟩ := Option.bind_eq_some_iff.1 h
  simp only [show (['j', 's', 'o', 'n'] : Text) = jsonTag from rfl] at h
  -- The tag is whatever was passed over behind the opening fence.
  obtain ⟨tag, htag, hsplit⟩ : ∃ tag, (tag = [] ∨ tag = jsonTag) ∧
      rest = tag ++ (after? jsonTag rest).getD rest := by
    cases hafter : after? jsonTag rest with
    | none => exact ⟨[], Or.inl rfl, rfl⟩
    | some r => exact ⟨jsonTag, Or.inr rfl, after?_eq_some_iff.1 hafter⟩
  obtain ⟨space, hspace, hblank⟩ := exists_trimStart_eq ((after? jsonTag rest).getD rest)
  split at h
  · next body hbody =>
    obtain ⟨x, hx, rfl⟩ := Option.map_eq_some_iff.1 h
    obtain ⟨body', after, rfl, rfl, hclose⟩ := of_untilClosingFence? hx
    obtain ⟨space', after', rfl, hblank'⟩ := closesFence_eq_true_iff.1 hclose
    refine ⟨tag, space, body', space', after', ?_, rfl, htag, hblank, hblank'⟩
    rw [hbody] at hspace
    rw [hspace] at hsplit
    rw [after?_eq_some_iff.1 hrest, hsplit]
    simp
  · cases h

/-- Behind an opening fence, the tag and white space, an object is read up to the first brace that
closes it. -/
theorem objectInFence?_opening {tag space : Text} (htag : tag = [] ∨ tag = jsonTag)
    (hspace : allBlank space = true) (t : Text) :
    objectInFence? (fence ++ (tag ++ (space ++ '\x7b' :: t))) =
      (untilClosingFence? t).map ('\x7b' :: ·) := by
  -- White space and a brace do not look like a tag.
  have htagless : after? jsonTag (space ++ '\x7b' :: t) = none := by
    cases space with
    | nil => rfl
    | cons c space =>
      have hc : c ≠ 'j' := by
        rintro rfl
        simp [allBlank, show isBlank 'j' = false by decide] at hspace
      simp [jsonTag, after?, Ne.symm hc]
  have hrest : (after? jsonTag (tag ++ (space ++ '\x7b' :: t))).getD
      (tag ++ (space ++ '\x7b' :: t)) = space ++ '\x7b' :: t := by
    rcases htag with rfl | rfl
    · rw [List.nil_append, htagless]
      rfl
    · rw [after?_eq_some_iff.2 rfl]
      rfl
  have hobject : trimStart (space ++ '\x7b' :: t) = '\x7b' :: t := by
    rw [trimStart_append_of_allBlank hspace, trimStart_cons_of_not_isBlank (by decide)]
  rw [objectInFence?, after?_eq_some_iff.2 rfl]
  simp only [Option.bind_some, show (['j', 's', 'o', 'n'] : Text) = jsonTag from rfl, hrest,
    hobject]

private theorem isSome_objectInFence? {object t : Text} (h : Fenced object t) :
    (objectInFence? t).isSome = true := by
  obtain ⟨tag, space, body, space', after, rfl, rfl, htag, hblank, hblank'⟩ := h
  have hclose : closesFence (space' ++ (fence ++ after)) = true :=
    closesFence_eq_true_iff.2 ⟨space', after, rfl, hblank'⟩
  have hshape : '\x7b' :: body ++ ['\x7d'] ++ (space' ++ (fence ++ after)) =
      '\x7b' :: (body ++ '\x7d' :: (space' ++ (fence ++ after))) := by simp
  rw [hshape, objectInFence?_opening htag hblank, Option.isSome_map]
  exact isSome_untilClosingFence? hclose body

private theorem exists_of_firstInFence? {raw object : Text} (h : firstInFence? raw = some object) :
    ∃ before block, raw = before ++ block ∧ Fenced object block := by
  induction raw with
  | nil => cases h
  | cons c t ih =>
    unfold firstInFence? at h
    cases hhere : objectInFence? (c :: t) with
    | some x =>
      rw [hhere] at h
      cases h
      exact ⟨[], c :: t, rfl, fenced_of_objectInFence? hhere⟩
    | none =>
      rw [hhere] at h
      obtain ⟨before, block, rfl, hblock⟩ := ih h
      exact ⟨c :: before, block, rfl, hblock⟩

/-- **A fenced object is found if and only if there is one.** -/
theorem firstInFence?_eq_none_iff {raw : Text} :
    firstInFence? raw = none ↔ ¬HoldsFencedObject raw := by
  constructor
  · rintro h ⟨before, object, block, rfl, hblock⟩
    -- The search answers where the block begins, if it has not answered before.
    induction before with
    | nil =>
      have hsome := isSome_objectInFence? hblock
      cases block with
      | nil => cases hsome
      | cons c t =>
        obtain ⟨x, hx⟩ := Option.isSome_iff_exists.1 hsome
        rw [List.nil_append, firstInFence?, hx] at h
        cases h
    | cons c before ih =>
      rw [List.cons_append, firstInFence?] at h
      cases hx : objectInFence? (c :: (before ++ block)) with
      | some x => rw [hx] at h; cases h
      | none => rw [hx] at h; exact ih h
  · intro h
    cases hfirst : firstInFence? raw with
    | none => rfl
    | some object =>
      obtain ⟨before, block, hraw, hblock⟩ := exists_of_firstInFence? hfirst
      exact absurd ⟨before, object, block, hraw, hblock⟩ h

/-! ### The span between braces -/

private theorem untilLastBrace?_eq_none {t : Text} (h : '\x7d' ∉ t) : untilLastBrace? t = none := by
  induction t with
  | nil => rfl
  | cons c t ih =>
    simp only [List.mem_cons, not_or] at h
    rw [untilLastBrace?, ih h.2]
    simp [Ne.symm h.1]

private theorem untilLastBrace?_append_cons {u : Text} (h : '\x7d' ∉ u) (t : Text) :
    untilLastBrace? (t ++ '\x7d' :: u) = some (t ++ ['\x7d']) := by
  induction t with
  | nil => simp [untilLastBrace?, untilLastBrace?_eq_none h]
  | cons c t ih => rw [List.cons_append, untilLastBrace?, ih, List.cons_append]

/-- What stands between an outermost pair of braces, these included, is the span. -/
theorem braceSpan?_append {before after : Text} (hbefore : '\x7b' ∉ before)
    (hafter : '\x7d' ∉ after) (body : Text) :
    braceSpan? (before ++ ('\x7b' :: body ++ ['\x7d']) ++ after) =
      some ('\x7b' :: body ++ ['\x7d']) := by
  have hdrop : (before ++ ('\x7b' :: body ++ ['\x7d']) ++ after).dropWhile (· != '\x7b') =
      ('\x7b' :: body) ++ '\x7d' :: after := by
    rw [List.append_assoc, List.dropWhile_append_of_pos]
    · simp
    · intro c hc
      have hne : c ≠ '\x7b' := fun heq => hbefore (heq ▸ hc)
      simpa using hne
  rw [braceSpan?, hdrop, untilLastBrace?_append_cons hafter]

/-! ### Replies that are objects -/

private theorem isBlank_of_isSpace {c : Char} (h : Json.isSpace c = true) : isBlank c = true := by
  simp only [Json.isSpace, Bool.or_eq_true, beq_iff_eq] at h
  rcases h with ((rfl | rfl) | rfl) | rfl <;> decide

private theorem allBlank_of_all_isSpace {t : Text} (h : t.all Json.isSpace = true) :
    allBlank t = true :=
  allBlank_eq_true_iff.2 fun c hc => isBlank_of_isSpace (List.all_eq_true.1 h c hc)

private theorem notMem_of_all_isSpace {c : Char} (hc : Json.isSpace c = false) {t : Text}
    (h : t.all Json.isSpace = true) : c ∉ t := by
  intro hmem
  rw [List.all_eq_true.1 h c hmem] at hc
  cases hc

/-- A reply that is an object spans from its first brace to its last, and trimming leaves nothing
but the object. -/
private theorem braceSpan?_of_parse_object {raw : Text} {ms : List (String × Json.Value)}
    (h : Json.parse raw = .ok (.object ms)) :
    braceSpan? raw = some (trim raw) ∧ Json.parse (trim raw) = .ok (.object ms) := by
  obtain ⟨lead, body, trail, rfl, hlead, htrail, hparse⟩ := Json.exists_of_parse_object h
  have hsolid : Solid ('\x7b' :: body ++ ['\x7d']) :=
    ⟨⟨'\x7b', body ++ ['\x7d'], rfl, by decide⟩, ⟨'\x7b' :: body, '\x7d', rfl, by decide⟩⟩
  rw [trim_eq_of_solid (allBlank_of_all_isSpace hlead) hsolid (allBlank_of_all_isSpace htrail)]
  exact ⟨braceSpan?_append (notMem_of_all_isSpace (by decide) hlead)
    (notMem_of_all_isSpace (by decide) htrail) body, hparse⟩

/-- A fenced object is never the whole text: its fences are missing. -/
private theorem ne_trim_of_fenced (before : Text) {object block : Text} (h : Fenced object block) :
    object ≠ trim (before ++ block) := by
  obtain ⟨tag, space, body, space', after, rfl, -⟩ := h
  intro heq
  -- Trimming keeps the backticks, and the block has six more of them than its object.
  have hcount := congrArg (List.count '\x60') heq
  rw [← count_bare (by decide) (trim _), bare_trim, count_bare (by decide)] at hcount
  have hfence : fence.count '\x60' = 3 := by decide
  simp only [List.count_append, hfence] at hcount
  omega

/-- **A reply that is an object is read as itself, unless it holds a fenced object.** The object is
the reply without the white space around it; the payload is this object exactly if there is no
fenced object in the reply, and then the reply is decoded from the value of the object. -/
theorem payload_eq_trim_iff {raw : Text} {ms : List (String × Json.Value)}
    (h : Json.parse raw = .ok (.object ms)) :
    Json.parse (trim raw) = .ok (.object ms) ∧
    (payload raw = trim raw ↔ ¬HoldsFencedObject raw) ∧
    (¬HoldsFencedObject raw → parse raw = (ofValue (.object ms)).mapError fun f =>
      .serviceFailure s!"Resposta em formato inesperado: {f.message}") := by
  obtain ⟨hspan, htrim⟩ := braceSpan?_of_parse_object h
  have hunfenced : ¬HoldsFencedObject raw → payload raw = trim raw := by
    intro hnone
    rw [payload, firstInFence?_eq_none_iff.2 hnone, hspan]
    rfl
  refine ⟨htrim, ⟨fun hpayload hholds => ?_, hunfenced⟩, fun hnone => ?_⟩
  · cases hfirst : firstInFence? raw with
    | none => exact firstInFence?_eq_none_iff.1 hfirst hholds
    | some object =>
      obtain ⟨before, block, rfl, hblock⟩ := exists_of_firstInFence? hfirst
      refine ne_trim_of_fenced before hblock ?_
      rw [← hpayload, payload, hfirst]
      rfl
  · rw [parse, hunfenced hnone, htrim]
    cases hvalue : ofValue (.object ms) <;> simp [hvalue, Except.mapError]

/-- A reply without fences, with white space around it. -/
theorem payload_of_clean_reply :
    Json.parse "\n\x7b\"custo\": \"R$ 5\"\x7d\n".toList =
      .ok (.object [("custo", .string "R$ 5")]) ∧
    payload "\n\x7b\"custo\": \"R$ 5\"\x7d\n".toList =
      trim "\n\x7b\"custo\": \"R$ 5\"\x7d\n".toList := by
  have hparse : Json.parse "\n\x7b\"custo\": \"R$ 5\"\x7d\n".toList =
      .ok (.object [("custo", .string "R$ 5")]) := by decide +kernel
  have hnone : ¬HoldsFencedObject "\n\x7b\"custo\": \"R$ 5\"\x7d\n".toList :=
    firstInFence?_eq_none_iff.1 (by decide)
  exact ⟨hparse, (payload_eq_trim_iff hparse).2.1.2 hnone⟩

/-- A reply that is an object, and of which only a part is read: the object that is fenced inside a
string. -/
theorem payload_of_fenced_string :
    Json.parse "\x7b\"custo\":\"```\x7b\x7d```\"\x7d".toList =
      .ok (.object [("custo", .string "```\x7b\x7d```")]) ∧
    payload "\x7b\"custo\":\"```\x7b\x7d```\"\x7d".toList = ['\x7b', '\x7d'] ∧
    payload "\x7b\"custo\":\"```\x7b\x7d```\"\x7d".toList ≠
      trim "\x7b\"custo\":\"```\x7b\x7d```\"\x7d".toList ∧
    parse "\x7b\"custo\":\"```\x7b\x7d```\"\x7d".toList = .ok (succeeded (.object [])) := by
  refine ⟨?_, by decide, by decide, ?_⟩
  · decide +kernel
  · decide +kernel

end ServiceCharter.Reply
