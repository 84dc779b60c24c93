import Mathlib.Data.List.Infix
import ServiceCharter.Proofs.Reply.Fence

/-!
# Objects in prose and in fences

A service that is asked for an object may wrap it: put prose around it, or a fenced block. The
wrapping makes no difference to what is read (`decodesAs_wrapped`), as long as it can be told where
the object begins and ends: prose in front of a bare object has no opening brace and prose behind it
no closing one, and a fenced object has no brace inside that a fence follows (`ClosesEarly`).

What stands in front of a fence may end with a backtick or two, and then three backticks begin
before the fence does. Nothing is lost by that, because no object follows them directly
(`objectInFence?_append_eq_none`).
-/

namespace ServiceCharter.Reply

open Text

/-- The text begins with an opening brace and ends with a closing one. -/
def Braced (object : Text) : Prop := ∃ body, object = '\x7b' :: body ++ ['\x7d']

/-- Some closing brace of the text is followed by a fence, up to white space. -/
def ClosesEarly (object : Text) : Prop :=
  ∃ before space after, object = before ++ '\x7d' :: (space ++ (fence ++ after)) ∧
    allBlank space = true

/-- The reply is read as the object, whatever the object is. -/
structure DecodesAs (raw object : Text) : Prop where
  payload_eq : payload raw = object
  /-- The reply means what the object alone means as a reply. -/
  parse_eq : parse raw = parse object
  /-- If the object is JSON, the reply is decoded from its value. -/
  parse_of_value : ∀ v, Json.parse object = .ok v →
    parse raw = (ofValue v).mapError fun f =>
      .serviceFailure s!"Resposta em formato inesperado: {f.message}"

/-! ### Where a fenced object ends -/

private theorem untilClosingFence?_eq_none_iff {t : Text} :
    untilClosingFence? t = none ↔ ¬ClosesEarly t := by
  constructor
  · rintro hnone ⟨before, space, after, rfl, hspace⟩
    have hclose : closesFence (space ++ (fence ++ after)) = true :=
      closesFence_eq_true_iff.2 ⟨space, after, rfl, hspace⟩
    have hsome := isSome_untilClosingFence? hclose before
    rw [hnone] at hsome
    cases hsome
  · intro hopen
    cases hfound : untilClosingFence? t with
    | none => rfl
    | some x =>
      obtain ⟨body, rest, rfl, rfl, hclose⟩ := of_untilClosingFence? hfound
      obtain ⟨space, after, rfl, hspace⟩ := closesFence_eq_true_iff.1 hclose
      exact absurd ⟨body, space, after, by simp, hspace⟩ hopen

/-- A fence that follows the text from some place on, and does not begin behind the last brace of
the text, lies in front of that brace. -/
private theorem exists_of_closesFence_append {body rest : Text}
    (h : closesFence (body ++ '\x7d' :: rest) = true) :
    ∃ space after, body ++ ['\x7d'] = space ++ (fence ++ after) ∧ allBlank space = true := by
  obtain ⟨space, after, heq, hspace⟩ := closesFence_eq_true_iff.1 h
  rw [← List.append_assoc, List.append_eq_append_iff] at heq
  rcases heq with ⟨mid, hmid, hrest⟩ | ⟨mid, rfl, -⟩
  · cases mid with
    | nil => exact ⟨space, ['\x7d'], by rw [← List.append_assoc, hmid, List.append_nil], hspace⟩
    | cons c mid =>
      -- The brace would be white space or part of the fence.
      obtain ⟨rfl, -⟩ := List.cons.inj hrest
      have hmem : '\x7d' ∈ space ++ fence := by
        rw [hmid]
        simp
      rcases List.mem_append.1 hmem with hin | hin
      · exact absurd hin (notMem_of_allBlank (by decide) hspace)
      · exact absurd hin (by decide)
  · exact ⟨space, mid ++ ['\x7d'], by simp, hspace⟩

/-- An object ends at its last brace if no earlier one is followed by a fence. -/
private theorem untilClosingFence?_append {body rest : Text} (hrest : closesFence rest = true)
    (hopen : ¬ClosesEarly (body ++ ['\x7d'])) :
    untilClosingFence? (body ++ '\x7d' :: rest) = some (body ++ ['\x7d']) := by
  induction body with
  | nil => simp [untilClosingFence?, hrest]
  | cons c body ih =>
    have hlater : ¬ClosesEarly (body ++ ['\x7d']) := by
      rintro ⟨before, space, after, heq, hspace⟩
      exact hopen ⟨c :: before, space, after, by rw [List.cons_append, heq]; rfl, hspace⟩
    have hhere : (c = '\x7d' && closesFence (body ++ '\x7d' :: rest)) = false := by
      by_contra hclose
      obtain ⟨rfl, hfence⟩ := by simpa using hclose
      obtain ⟨space, after, heq, hspace⟩ := exists_of_closesFence_append hfence
      exact hopen ⟨[], space, after, by rw [List.cons_append, heq]; rfl, hspace⟩
    rw [List.cons_append, untilClosingFence?, hhere, ih hlater]
    rfl

/-! ### Where a fenced block begins -/

/-- No block begins in a text without a fence, although backticks at its end may join those of the
fence behind it. -/
theorem objectInFence?_append_eq_none {before : Text} (hne : before ≠ [])
    (hbefore : ¬fence <:+: before) (t : Text) : objectInFence? (before ++ (fence ++ t)) = none := by
  -- A fence followed by one more backtick opens no object.
  have hbacktick : ∀ u, (after? jsonTag ('\x60' :: u)).getD ('\x60' :: u) = '\x60' :: u :=
    fun u => rfl
  have hblank : ∀ u, trimStart ('\x60' :: u) = '\x60' :: u := fun u =>
    trimStart_cons_of_not_isBlank (by decide) u
  have hmore : ∀ u, objectInFence? (fence ++ '\x60' :: u) = none := fun u => by
    rw [objectInFence?, after?_eq_some_iff.2 rfl]
    simp only [Option.bind_some, show (['j', 's', 'o', 'n'] : Text) = jsonTag from rfl, hbacktick,
      hblank]
    rfl
  by_cases hfence : fence <+: before ++ (fence ++ t)
  · obtain ⟨rest, hrest⟩ := hfence
    have hshort : before.length < 3 := by
      by_contra hlong
      have hprefix : fence <+: before :=
        List.prefix_of_prefix_length_le ⟨rest, hrest⟩ (List.prefix_append _ _)
          (by simpa [fence] using hlong)
      exact hbefore hprefix.isInfix
    rcases before with _ | ⟨a, _ | ⟨b, _ | ⟨c, rest'⟩⟩⟩
    · exact absurd rfl hne
    · obtain ⟨rfl, -⟩ := List.cons.inj hrest
      exact hmore t
    · obtain ⟨rfl, hnext⟩ := List.cons.inj hrest
      obtain ⟨rfl, -⟩ := List.cons.inj hnext
      exact hmore _
    · exact absurd hshort (by simp)
  · have hnone : after? fence (before ++ (fence ++ t)) = none := by
      cases hafter : after? fence (before ++ (fence ++ t)) with
      | none => rfl
      | some rest => exact absurd ⟨rest, (after?_eq_some_iff.1 hafter).symm⟩ hfence
    rw [objectInFence?, hnone, Option.bind_none]

private theorem firstInFence?_append {before : Text} (hbefore : ¬fence <:+: before) (t : Text) :
    firstInFence? (before ++ (fence ++ t)) = firstInFence? (fence ++ t) := by
  induction before with
  | nil => rfl
  | cons c before ih =>
    have hnone := objectInFence?_append_eq_none (List.cons_ne_nil c before) hbefore t
    rw [List.cons_append] at hnone
    rw [List.cons_append, firstInFence?, hnone]
    exact ih fun hinfix => hbefore (List.infix_cons hinfix)

/-! ### Reading what is wrapped -/

private theorem not_holdsFencedObject {t : Text} (hfence : ¬fence <:+: t) :
    ¬HoldsFencedObject t := by
  rintro ⟨lead, inner, block, heq, tag, space, inside, space', rest, rfl, -⟩
  exact hfence ⟨lead, _, by rw [heq, List.append_assoc]⟩

/-- Without a fenced object, prose around an object is left out if it has no braces that could be
taken for those of the object. -/
theorem payload_of_prose {before object after : Text} (hobject : Braced object)
    (hbefore : '\x7b' ∉ before) (hafter : '\x7d' ∉ after)
    (hnone : ¬HoldsFencedObject (before ++ object ++ after)) :
    payload (before ++ object ++ after) = object := by
  obtain ⟨body, rfl⟩ := hobject
  rw [payload, firstInFence?_eq_none_iff.2 hnone, braceSpan?_append hbefore hafter]
  rfl

/-- An object in which no fence follows a closing brace is taken for itself. -/
theorem payload_of_braced {object : Text} (hobject : Braced object) (hopen : ¬ClosesEarly object) :
    payload object = object := by
  have hnone : ¬HoldsFencedObject ([] ++ object ++ []) := by
    rintro ⟨before, inner, block, heq, tag, space, inside, space', after, rfl, rfl, -, -, hspace'⟩
    refine hopen ⟨before ++ fence ++ tag ++ space ++ '\x7b' :: inside, space', after, ?_, hspace'⟩
    rw [List.nil_append, List.append_nil] at heq
    rw [heq]
    simp
  have hpayload := payload_of_prose hobject List.not_mem_nil List.not_mem_nil hnone
  rwa [List.nil_append, List.append_nil] at hpayload

/-- The object in the first fenced block is taken, and what stands behind it makes no difference. -/
theorem payload_of_fenced {before tag space object space' : Text} (hobject : Braced object)
    (hopen : ¬ClosesEarly object) (hbefore : ¬fence <:+: before) (htag : tag = [] ∨ tag = jsonTag)
    (hspace : allBlank space = true) (hspace' : allBlank space' = true) (after : Text) :
    payload (before ++ (fence ++ (tag ++ (space ++ (object ++ (space' ++ (fence ++ after))))))) =
      object := by
  obtain ⟨body, rfl⟩ := hobject
  have hclose : closesFence (space' ++ (fence ++ after)) = true :=
    closesFence_eq_true_iff.2 ⟨space', after, rfl, hspace'⟩
  have hinner : ¬ClosesEarly (body ++ ['\x7d']) := by
    rintro ⟨lead, inside, rest, heq, hinside⟩
    exact hopen ⟨'\x7b' :: lead, inside, rest, by rw [List.cons_append, heq]; rfl, hinside⟩
  have hshape : '\x7b' :: body ++ ['\x7d'] ++ (space' ++ (fence ++ after)) =
      '\x7b' :: (body ++ '\x7d' :: (space' ++ (fence ++ after))) := by simp
  have hobject : objectInFence? (fence ++ (tag ++ (space ++
      ('\x7b' :: body ++ ['\x7d'] ++ (space' ++ (fence ++ after)))))) =
        some ('\x7b' :: body ++ ['\x7d']) := by
    rw [hshape, objectInFence?_opening htag hspace, untilClosingFence?_append hclose hinner]
    rfl
  have hfirst : ∀ t object, objectInFence? (fence ++ t) = some object →
      firstInFence? (fence ++ t) = some object := fun t object h => by
    change (objectInFence? (fence ++ t)).orElse _ = _
    rw [h]
    rfl
  rw [payload, firstInFence?_append hbefore, hfirst _ _ hobject]
  rfl

private theorem decodesAs_of_payload_eq {raw object : Text} (hraw : payload raw = object)
    (hobject : payload object = object) : DecodesAs raw object where
  payload_eq := hraw
  parse_eq := by rw [parse, parse, hraw, hobject]
  parse_of_value v hv := by
    rw [parse, hraw, hv]
    cases hvalue : ofValue v <;> simp [hvalue, Except.mapError]

/-- **Neither prose nor a fence around an object changes what is read.** Prose may hold no fence
together with the object, no opening brace in front of it and no closing one behind it. In front of
a fenced block there may be anything without a fence, and behind it anything at all; the object ends
at the first of its closing braces that a fence follows, so this has to be the last one. -/
theorem decodesAs_wrapped {object : Text} (hobject : Braced object) :
    (∀ before after, '\x7b' ∉ before → '\x7d' ∉ after → ¬fence <:+: before ++ object ++ after →
      DecodesAs (before ++ object ++ after) object) ∧
    ∀ before tag space space' after, ¬fence <:+: before → (tag = [] ∨ tag = jsonTag) →
      allBlank space = true → allBlank space' = true → ¬ClosesEarly object →
      DecodesAs
        (before ++ (fence ++ (tag ++ (space ++ (object ++ (space' ++ (fence ++ after)))))))
        object := by
  refine ⟨fun before after hbefore hafter hfence => ?_,
    fun before tag space space' after hbefore htag hspace hspace' hopen => ?_⟩
  · have hopen : ¬ClosesEarly object := by
      rintro ⟨lead, space, rest, rfl, -⟩
      exact hfence ⟨before ++ (lead ++ '\x7d' :: space), rest ++ after, by simp⟩
    exact decodesAs_of_payload_eq (payload_of_prose hobject hbefore hafter
      (not_holdsFencedObject hfence)) (payload_of_braced hobject hopen)
  · exact decodesAs_of_payload_eq
      (payload_of_fenced hobject hopen hbefore htag hspace hspace' after)
      (payload_of_braced hobject hopen)

/-- Prose with braces the other way round, and a fenced object with a fence inside a string, behind
two backticks and before another block. -/
theorem decodesAs_prose_and_fence :
    DecodesAs ("Segue ``\x7d``: ".toList ++ "\x7b\"a\":\x7b\"b\":\"\x7d\"\x7d\x7d".toList ++
      " \x7b fim".toList) "\x7b\"a\":\x7b\"b\":\"\x7d\"\x7d\x7d".toList ∧
    DecodesAs ("Use \x7b ``".toList ++ (fence ++ (jsonTag ++ ("\n".toList ++
      ("\x7b\"a\":\"``` \x7d \x7b\"\x7d".toList ++ ("\n".toList ++
        (fence ++ "```\x7b\x7d```".toList)))))))
      "\x7b\"a\":\"``` \x7d \x7b\"\x7d".toList := by
  have hbare : Braced "\x7b\"a\":\x7b\"b\":\"\x7d\"\x7d\x7d".toList :=
    ⟨"\"a\":\x7b\"b\":\"\x7d\"\x7d".toList, rfl⟩
  have hfenced : Braced "\x7b\"a\":\"``` \x7d \x7b\"\x7d".toList :=
    ⟨"\"a\":\"``` \x7d \x7b\"".toList, rfl⟩
  have hopen : ¬ClosesEarly "\x7b\"a\":\"``` \x7d \x7b\"\x7d".toList :=
    untilClosingFence?_eq_none_iff.1 (by decide)
  exact ⟨(decodesAs_wrapped hbare).1 _ _ (by decide) (by decide) (by decide),
    (decodesAs_wrapped hfenced).2 _ _ _ _ _ (by decide) (Or.inr rfl) (by decide) (by decide) hopen⟩

end ServiceCharter.Reply
