import ServiceCharter.Proofs.Session.History
import ServiceCharter.Proofs.Text.Utf8

/-!
# The text of a download

The text of a download is what its bytes encode, and empty if they encode nothing. Whether it is
empty for this reason can be seen from the bytes (`text_reads_back`): they are ill-formed exactly
if there is no text that they encode, and otherwise there is one only.

What a session offers is made of a text, so its bytes encode one, and this is what is read.
-/

namespace ServiceCharter.Download

/-- The bytes of the download encode the text, and the text is read without falling back. -/
structure Carries (a : Download) (t : Text) : Prop where
  encode_eq : Utf8.encode t = a.bytes.data.toList
  decoded : String.fromUTF8? a.bytes = some (String.ofList t)
  text_eq : a.text = String.ofList t

variable {a : Download}

/-- A download carries the text that its bytes encode. -/
theorem carries_of_encode_eq {t : Text} (h : Utf8.encode t = a.bytes.data.toList) :
    a.Carries t := by
  have hdecoded : String.fromUTF8? a.bytes = some (String.ofList t) := by
    rw [Utf8.fromUTF8?_eq_some_iff, String.toList_ofList, h]
  exact ⟨h, hdecoded, by rw [text, hdecoded, Option.getD_some]⟩

/-- A download whose bytes encode no text is read as the empty text. -/
theorem text_eq_empty (h : ∀ t, Utf8.encode t ≠ a.bytes.data.toList) : a.text = "" := by
  have hnone : String.fromUTF8? a.bytes = none :=
    Option.eq_none_iff_forall_ne_some.2 fun s hs => h s.toList (Utf8.fromUTF8?_eq_some_iff.1 hs)
  rw [text, hnone, Option.getD_none]

private theorem exists_carries_of_delivers {answer : Except ServiceError Download}
    {fileName : String} {t : Text} (h : Session.Delivers answer fileName t) :
    ∃ a, answer = .ok a ∧ a.fileName = fileName ∧ a.Carries t := by
  obtain ⟨a, hanswer, hname, hbytes⟩ := h
  have hencoded : Utf8.encode t = a.bytes.data.toList := by
    rw [hbytes, ← Utf8.toList_data_utf8Encode]
    rfl
  exact ⟨a, hanswer, hname, carries_of_encode_eq hencoded⟩

/-- **A download is read as the text that its bytes encode.** Whatever document a session shows and
whatever the names of the files, both downloads are made and carry the document and its plain text;
neither is read as empty for want of a text. Of any bytes, one of two things holds: they are not
ill-formed, and there is one text, and only one, that they encode and as which they are read; or
they are ill-formed, with a stray byte, a form that breaks off, a form that is too long, a surrogate
or a number that is too large behind what can be read, and there is no text that they encode, and
the empty text is read. -/
theorem text_reads_back :
    (∀ (s : Session) (d : Document), s.get? = some d → ∀ fileName,
      (∃ a, s.markdown fileName = .ok a ∧ a.fileName = fileName ∧ a.Carries d.source) ∧
        ∃ a, s.plain fileName = .ok a ∧ a.fileName = fileName ∧ a.Carries d.plainText) ∧
    ∀ a : Download,
      (∃ t, a.Carries t ∧ (∀ u, Utf8.encode u = a.bytes.data.toList ↔ u = t) ∧
        ¬Utf8.IllFormed a.bytes.data.toList) ∨
      a.text = "" ∧ (∀ u, Utf8.encode u ≠ a.bytes.data.toList) ∧
        Utf8.IllFormed a.bytes.data.toList := by
  refine ⟨fun s d hs fileName => ?_, fun a => ?_⟩
  · have hoffers := Session.offers_of_get? hs
    exact ⟨exists_carries_of_delivers (hoffers.markdown fileName),
      exists_carries_of_delivers (hoffers.plain fileName)⟩
  · rcases Utf8.encode_or_illFormed a.bytes.data.toList with ⟨t, ht⟩ | hill
    · refine Or.inl ⟨t, carries_of_encode_eq ht, fun u => ?_, fun hill => hill.encode_ne t ht⟩
      rw [← ht, Utf8.encode_injective.eq_iff]
    · exact Or.inr ⟨text_eq_empty hill.encode_ne, hill.encode_ne, hill⟩

/-- A session with a document in which some characters take more than one byte. -/
def accentedSession : Session := ⟨some ⟨"## Custo\n\n**3 €** à vista".toList⟩⟩

/-- Both downloads of the session are read as what they were made of. -/
theorem text_of_accentedSession :
    (∃ a, accentedSession.markdown "custo.md" = .ok a ∧ a.text = "## Custo\n\n**3 €** à vista") ∧
      ∃ a, accentedSession.plain "custo.txt" = .ok a ∧ a.text = "Custo\n\n3 € à vista" := by
  have hshown : accentedSession.get? = some ⟨"## Custo\n\n**3 €** à vista".toList⟩ := by decide
  obtain ⟨⟨a, hmarkdown, -, ha⟩, -⟩ := text_reads_back.1 accentedSession _ hshown "custo.md"
  obtain ⟨-, b, hplain, -, hb⟩ := text_reads_back.1 accentedSession _ hshown "custo.txt"
  have hreduced : (Document.mk "## Custo\n\n**3 €** à vista".toList).plainText =
      "Custo\n\n3 € à vista".toList := by decide +kernel
  refine ⟨⟨a, hmarkdown, ?_⟩, b, hplain, ?_⟩
  · rw [ha.text_eq, String.ofList_toList]
  · rw [hb.text_eq, hreduced, String.ofList_toList]

end ServiceCharter.Download
