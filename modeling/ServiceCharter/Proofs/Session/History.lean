import Mathlib.Data.List.Basic
import ServiceCharter.Session

/-!
# What a session shows after a sequence of steps

A step of a session either leaves it as it was or decides alone what is stored: whatever was there
before makes no difference (`perform_snd_of_writes`). So only the last step that writes matters, and
the document that is shown is the one which this step stored, unless that has no content
(`visible_after_run`).

Whether a document is shown decides about all downloads and copies in the same way: either all of
them are made from this document, or all of them are refused.
-/

namespace ServiceCharter.Session

/-! ### Steps that write -/

/-- The step brings a reply: as it is, or as a raw text that can be decoded. -/
inductive Brings : Step → Reply → Prop
  | decoded (reply : Reply) : Brings (.receive reply) reply
  | raw {raw : Text} {reply : Reply} (h : Reply.parse raw = .ok reply) :
    Brings (.receiveRaw raw) reply

/-- The step writes the state, and this is what it leaves stored. -/
inductive Writes : Step → Option Document → Prop
  | set (d : Document) : Writes (.set d) (some d)
  | clear : Writes .clear none
  | submit (input : Text) : Writes (.submit input) none
  | success {step : Step} {reply : Reply} (h : Brings step reply) (hreply : reply.success = true) :
    Writes step (some reply.fields.compile)
  | failure {step : Step} {reply : Reply} (h : Brings step reply) (hreply : reply.success = false) :
    Writes step none

/-- The step writes nothing. -/
def ReadOnly (step : Step) : Prop := ∀ stored, ¬Writes step stored

/-- The step is the submission of an input or brings the reply that the service failed. -/
inductive Empties : Step → Prop
  | submit (input : Text) : Empties (.submit input)
  | failure {step : Step} {reply : Reply} (h : Brings step reply) (hreply : reply.success = false) :
    Empties step

theorem Empties.writes {step : Step} (h : Empties step) : Writes step none := by
  cases h with
  | submit input => exact .submit input
  | failure h hreply => exact .failure h hreply

/-! ### One step -/

private theorem receive_snd (s : Session) (reply : Reply) :
    (s.receive reply).2 = ⟨if reply.success then some reply.fields.compile else none⟩ := by
  cases hreply : reply.success <;> simp [receive, Reply.fields?, hreply, set, clear]

private theorem perform_snd_of_brings {step : Step} {reply : Reply} (h : Brings step reply)
    (s : Session) : (s.perform step).2 = (s.receive reply).2 := by
  cases h with
  | decoded => rfl
  | raw h => simp [perform, receiveRaw, h]

/-- A text that is no reply changes nothing, and the reason is reported. -/
theorem perform_receiveRaw_of_error {raw : Text} {e : ServiceError} (h : Reply.parse raw = .error e)
    (s : Session) : s.perform (.receiveRaw raw) = (.refused e, s) := by
  simp [perform, receiveRaw, h, Answer.ofExcept]

/-- **A step that writes decides alone what is stored.** -/
theorem perform_snd_of_writes {step : Step} {stored : Option Document} (h : Writes step stored)
    (s : Session) : (s.perform step).2 = ⟨stored⟩ := by
  cases h with
  | set d => rfl
  | clear => rfl
  | submit input =>
    simp only [perform, submit]
    split <;> rfl
  | success h hreply => rw [perform_snd_of_brings h, receive_snd, hreply, if_pos rfl]
  | failure h hreply => rw [perform_snd_of_brings h, receive_snd, hreply, if_neg Bool.false_ne_true]

/-- A step that writes nothing leaves the session as it was. -/
theorem perform_snd_of_readOnly {step : Step} (h : ReadOnly step) (s : Session) :
    (s.perform step).2 = s := by
  have hbrings : ∀ reply, ¬Brings step reply := by
    intro reply hstep
    cases hreply : reply.success with
    | true => exact h _ (.success hstep hreply)
    | false => exact h _ (.failure hstep hreply)
  cases step with
  | set d => exact absurd (.set d) (h _)
  | clear => exact absurd .clear (h _)
  | submit input => exact absurd (.submit input) (h _)
  | receive reply => exact absurd (.decoded reply) (hbrings _)
  | receiveRaw raw =>
    cases hparse : Reply.parse raw with
    | ok reply => exact absurd (.raw hparse) (hbrings _)
    | error e => rw [perform_receiveRaw_of_error hparse]
  | documentOr message => rfl
  | markdown fileName => rfl
  | plain fileName => rfl
  | copy => rfl

/-! ### Sequences of steps -/

@[simp] theorem run_nil (s : Session) : s.run [] = s := rfl

@[simp] theorem run_cons (s : Session) (step : Step) (steps : List Step) :
    s.run (step :: steps) = (s.perform step).2.run steps := rfl

theorem run_append (s : Session) (before after : List Step) :
    s.run (before ++ after) = (s.run before).run after :=
  List.foldl_append

private theorem run_of_readOnly {steps : List Step} (h : ∀ step ∈ steps, ReadOnly step)
    (s : Session) : s.run steps = s := by
  induction steps generalizing s with
  | nil => rfl
  | cons step steps ih =>
    obtain ⟨hstep, hsteps⟩ := List.forall_mem_cons.1 h
    rw [run_cons, perform_snd_of_readOnly hstep, ih hsteps]

/-- The last step that writes decides what is stored. -/
theorem run_of_last_write {step : Step} {stored : Option Document} (hstep : Writes step stored)
    {after : List Step} (hafter : ∀ later ∈ after, ReadOnly later) (s : Session)
    (before : List Step) : s.run (before ++ step :: after) = ⟨stored⟩ := by
  rw [run_append, run_cons, perform_snd_of_writes hstep, run_of_readOnly hafter]

/-- Some step is the last one that writes, unless none does. -/
theorem readOnly_or_exists_last_write (steps : List Step) :
    (∀ step ∈ steps, ReadOnly step) ∨ ∃ before step after stored,
      steps = before ++ step :: after ∧ Writes step stored ∧ ∀ later ∈ after, ReadOnly later := by
  induction steps with
  | nil => exact Or.inl fun step hstep => absurd hstep List.not_mem_nil
  | cons first steps ih =>
    rcases ih with hsteps | ⟨before, step, after, stored, rfl, hstep, hafter⟩
    · by_cases hfirst : ReadOnly first
      · exact Or.inl (List.forall_mem_cons.2 ⟨hfirst, hsteps⟩)
      · obtain ⟨stored, hstored⟩ := not_forall_not.1 hfirst
        exact Or.inr ⟨[], first, steps, stored, rfl, hstored, hsteps⟩
    · exact Or.inr ⟨first :: before, step, after, stored, rfl, hstep, hafter⟩

/-! ### What is shown -/

theorem get?_eq_some_iff {s : Session} {d : Document} :
    s.get? = some d ↔ s.stored = some d ∧ d.isEmpty = false := by
  rw [get?, Option.filter_eq_some_iff]
  simp

/-- The download has the given name, and its content is the text in UTF-8. -/
def Delivers (answer : Except ServiceError Download) (fileName : String) (t : Text) : Prop :=
  ∃ a, answer = .ok a ∧ a.fileName = fileName ∧ a.bytes = (String.ofList t).toUTF8

/-- Downloads and copies are made from the document, whatever the names of the files. -/
structure Offers (s : Session) (d : Document) : Prop where
  markdown : ∀ fileName, Delivers (s.markdown fileName) fileName d.source
  plain : ∀ fileName, Delivers (s.plain fileName) fileName d.plainText
  copy : s.copy = .ok d.plainText

/-- Downloads and copies are refused because there is no document. -/
structure OffersNothing (s : Session) : Prop where
  markdown : ∀ fileName, s.markdown fileName = .error (.noDocument noDownload)
  plain : ∀ fileName, s.plain fileName = .error (.noDocument noDownload)
  copy : s.copy = .error (.noDocument noCopy)

theorem offers_of_get? {s : Session} {d : Document} (h : s.get? = some d) : s.Offers d := by
  have hdocument : ∀ message, s.documentOr message = .ok d := fun message => by
    rw [documentOr, h]
  refine ⟨fun fileName => ⟨.markdown fileName d, ?_, rfl, rfl⟩,
    fun fileName => ⟨.plain fileName d, ?_, rfl, rfl⟩, ?_⟩
  · rw [markdown, hdocument, Except.map]
  · rw [plain, hdocument, Except.map]
  · rw [copy, hdocument, Except.map]

private theorem offersNothing_of_get? {s : Session} (h : s.get? = none) : s.OffersNothing := by
  have hdocument : ∀ message, s.documentOr message = .error (.noDocument message) := fun message =>
    by rw [documentOr, h]
  refine ⟨fun fileName => ?_, fun fileName => ?_, ?_⟩
  · rw [markdown, hdocument, Except.map]
  · rw [plain, hdocument, Except.map]
  · rw [copy, hdocument, Except.map]

/-- Nothing is shown behind a step that leaves nothing stored, until a later one stores a
document. -/
private theorem get?_run_eq_none {step : Step} (hstep : Writes step none) {after : List Step}
    (hafter : ∀ later ∈ after, ∀ d, ¬Writes later (some d)) (s : Session) (before : List Step) :
    (s.run (before ++ step :: after)).get? = none := by
  rcases readOnly_or_exists_last_write after with
    hread | ⟨before', last, rest, stored, rfl, hlast, hrest⟩
  · rw [run_of_last_write hstep hread]
    rfl
  · have hnone : stored = none := by
      refine Option.eq_none_iff_forall_ne_some.2 fun d hd => ?_
      exact hafter last (by simp) d (hd ▸ hlast)
    have hsplit : before ++ step :: (before' ++ last :: rest) =
        (before ++ step :: before') ++ last :: rest := by simp
    rw [hsplit, run_of_last_write hlast hrest, hnone]
    rfl

/-- **What a session shows is what its last write stored.** From a new session and through any
sequence of steps, a document is shown exactly if it has content and the last step that wrote has
stored it: it was set, or is that of a successful reply. A submission and a failed reply leave
nothing to show until a document is stored later, and a text that is no reply might as well not have
been there. In every state the downloads and the copy are all made from the document that is shown,
or all refused. -/
theorem visible_after_run (steps : List Step) :
    (∀ d, (new.run steps).get? = some d ↔ d.isEmpty = false ∧ ∃ before step after,
      steps = before ++ step :: after ∧ Writes step (some d) ∧ ∀ later ∈ after, ReadOnly later) ∧
    (∀ before step after, steps = before ++ step :: after → Empties step →
      (∀ later ∈ after, ∀ d, ¬Writes later (some d)) → (new.run steps).get? = none) ∧
    (∀ before raw after e, steps = before ++ .receiveRaw raw :: after → Reply.parse raw = .error e →
      new.run steps = new.run (before ++ after)) ∧
    ((∃ d, (new.run steps).get? = some d ∧ (new.run steps).Offers d) ∨
      (new.run steps).get? = none ∧ (new.run steps).OffersNothing) := by
  refine ⟨fun d => ⟨fun hget => ?_, ?_⟩, ?_, ?_, ?_⟩
  · obtain ⟨hstored, hne⟩ := get?_eq_some_iff.1 hget
    refine ⟨hne, ?_⟩
    rcases readOnly_or_exists_last_write steps with
      hread | ⟨before, step, after, stored, rfl, hstep, hafter⟩
    · rw [run_of_readOnly hread] at hstored
      cases hstored
    · rw [run_of_last_write hstep hafter] at hstored
      obtain rfl : stored = some d := hstored
      exact ⟨before, step, after, rfl, hstep, hafter⟩
  · rintro ⟨hne, before, step, after, rfl, hstep, hafter⟩
    rw [run_of_last_write hstep hafter]
    exact get?_eq_some_iff.2 ⟨rfl, hne⟩
  · rintro before step after rfl hstep hafter
    exact get?_run_eq_none hstep.writes hafter new before
  · rintro before raw after e rfl hparse
    rw [run_append, run_append, run_cons, perform_receiveRaw_of_error hparse]
  · cases hget : (new.run steps).get? with
    | some d => exact Or.inl ⟨d, rfl, offers_of_get? hget⟩
    | none => exact Or.inr ⟨rfl, offersNothing_of_get? hget⟩

/-- A document is set, given up with a new input, and replaced by that of a reply; a text that is no
reply and the downloads behind it change nothing. -/
theorem visible_after_sample_run :
    (new.run [.set ⟨['x']⟩, .submit ['y'],
        .receive (.succeeded (.object [("custo", .string "R$ 5")])), .markdown "a.md",
        .receiveRaw "nada".toList, .copy]).get? =
      some ⟨"## Custo\n\nR$ 5".toList⟩ ∧
    (new.run [.set ⟨['x']⟩, .submit [' '], .receiveRaw "nada".toList]).get? = none := by
  have hparse : Reply.parse "nada".toList =
      .error (.serviceFailure
        "Erro ao fazer parse do JSON: expected ident at line 1 column 2") := by decide +kernel
  have hraw : ReadOnly (.receiveRaw "nada".toList) := by
    rintro stored (- | - | - | ⟨⟨⟩, -⟩ | ⟨⟨⟩, -⟩) <;> simp_all
  have hdownload : ReadOnly (.markdown "a.md") := by
    rintro stored (- | - | - | ⟨⟨⟩, -⟩ | ⟨⟨⟩, -⟩)
  have hcopy : ReadOnly .copy := by
    rintro stored (- | - | - | ⟨⟨⟩, -⟩ | ⟨⟨⟩, -⟩)
  refine ⟨?_, ?_⟩
  · refine ((visible_after_run _).1 _).2 ⟨by decide, [.set ⟨['x']⟩, .submit ['y']], _,
      [.markdown "a.md", .receiveRaw "nada".toList, .copy], rfl, ?_, ?_⟩
    · exact .success (.decoded (.succeeded (.object [("custo", .string "R$ 5")]))) rfl
    · simpa using ⟨hdownload, hraw, hcopy⟩
  · refine (visible_after_run _).2.1 [.set ⟨['x']⟩] _ [.receiveRaw "nada".toList] rfl
      (.submit [' ']) ?_
    simpa using fun d => hraw (some d)

end ServiceCharter.Session
