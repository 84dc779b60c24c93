import ServiceCharter.Proofs.Table
import ServiceCharter.Proofs.Text.Edges
import ServiceCharter.Registry

/-!
# Conversions through markup

Markup is the one format that goes both ways, but reading it trims what writing it leaves alone, and
trimming is no matter of white space only: an indented first line becomes a heading or an item. So a
document is read back from its markup if and only if it is trimmed already
(`read_markdown_eq_ok_iff`). Every document that is read from anything is (`trimmed_of_read`):
compiling a reply ends with trimming.

A conversion may therefore stop at markup any number of times on its way, whatever its target and
parameters (`convert_through_markup`).
-/

namespace ServiceCharter

open Text

/-- There is no white space around the document. -/
def Document.Trimmed (d : Document) : Prop := trim d.source = d.source

/-! ### Reading -/

/-- A reply is read as the document that its values make, if it reports success. -/
theorem Format.json_read_eq_ok_iff {raw : Text} {d : Document} :
    Format.json.read raw = .ok d ↔ ∃ reply, Reply.parse raw = .ok reply ∧
      reply.success = true ∧ d = reply.fields.compile := by
  simp only [Format.json]
  cases Reply.parse raw with
  | error e => simp [Except.bind]
  | ok reply =>
    cases hreply : reply.success with
    | false => simp [Except.bind, Except.map, Reply.fields?, hreply]
    | true =>
      simp only [Except.bind, Except.map, Reply.fields?, hreply, if_true, Except.ok.injEq,
        exists_eq_left', true_and]
      exact eq_comm

theorem FieldValues.trimmed_compile (values : FieldValues) : values.compile.Trimmed := trim_trim _

namespace Registry

theorem read_eq_ok_iff {r : Registry} {t : Text} {name : String} {d : Document} :
    r.read t name = .ok d ↔ ∃ f, r.get name = .ok f ∧ f.reads = true ∧ f.read t = .ok d := by
  unfold read
  cases r.get name with
  | error e => simp
  | ok f => cases hreads : f.reads <;> simp [hreads]

theorem writeWith_eq_ok_iff {r : Registry} {d : Document} {name : String}
    {parameters : Table String} {t : Text} :
    r.writeWith d name parameters = .ok t ↔
      ∃ f, r.get name = .ok f ∧ f.writes = true ∧ f.writeWith d parameters = .ok t := by
  unfold writeWith
  cases r.get name with
  | error e => simp
  | ok f => cases hwrites : f.writes <;> simp [hwrites]

private theorem formats_builtin : builtin.formats = [("html", .html .default), ("json", .json),
    ("markdown", .markdown), ("text", .plain)] := rfl

private theorem mem_formats_of_get {name : String} {f : Format} (h : builtin.get name = .ok f) :
    (name, f) ∈ builtin.formats := by
  have hkeys : builtin.formats.keys.Nodup := by decide
  unfold get at h
  split at h
  · next hget =>
    cases h
    exact (Table.get?_eq_some_iff hkeys).1 hget
  · cases h

/-- **Every document that is read is trimmed.** -/
theorem trimmed_of_read {t : Text} {name : String} {d : Document}
    (h : builtin.read t name = .ok d) : d.Trimmed := by
  obtain ⟨f, hget, hreads, hread⟩ := read_eq_ok_iff.1 h
  have hmem := mem_formats_of_get hget
  simp only [formats_builtin, List.mem_cons, List.not_mem_nil, or_false, Prod.mk.injEq] at hmem
  obtain ⟨-, rfl⟩ | ⟨-, rfl⟩ | ⟨-, rfl⟩ | ⟨-, rfl⟩ := hmem
  · cases hreads
  · obtain ⟨reply, -, -, rfl⟩ := Format.json_read_eq_ok_iff.1 hread
    exact reply.fields.trimmed_compile
  · cases hread
    exact trim_trim t
  · cases hreads

/-- Markup that was written is read as the document again if there is no white space around that. -/
theorem read_markdown_eq_ok_iff {d : Document} :
    builtin.read d.source "markdown" = .ok d ↔ d.Trimmed := by
  have hread : builtin.read d.source "markdown" = .ok ⟨trim d.source⟩ := rfl
  rw [hread, Except.ok.injEq]
  exact ⟨congrArg Document.source, fun h => congrArg Document.mk h⟩

/-! ### Converting -/

/-- A text in one format, written in another. -/
def convert (r : Registry) (source target : String) (parameters : Table String) (t : Text) :
    Except ServiceError Text :=
  (r.read t source).bind fun d => r.writeWith d target parameters

/-- A text in some format, written as markup, which is then `n` times written as markup again. -/
def toMarkup (r : Registry) (source : String) (t : Text) : Nat → Except ServiceError Text
  | 0 => r.convert source "markdown" [] t
  | n + 1 => (r.toMarkup source t n).bind (r.convert "markdown" "markdown" [])

variable {t : Text} {source : String} {d : Document}

private theorem convert_of_read {r : Registry} (h : r.read t source = .ok d) (target : String)
    (parameters : Table String) :
    r.convert source target parameters t = r.writeWith d target parameters := by
  rw [convert, h]
  rfl

private theorem convert_markdown (h : builtin.read t source = .ok d) :
    builtin.convert source "markdown" [] t = .ok d.source := by
  rw [convert_of_read h]
  rfl

private theorem toMarkup_eq (h : builtin.read t source = .ok d) (n : Nat) :
    builtin.toMarkup source t n = .ok d.source := by
  induction n with
  | zero => exact convert_markdown h
  | succ n ih =>
    rw [toMarkup, ih]
    exact convert_markdown (read_markdown_eq_ok_iff.2 (trimmed_of_read h))

/-- **A conversion may go through markup.** The markup that is written for a document is read as
this document. It stays the same however often it is converted to markup, and what any target makes
of it, with any parameters, is what the target makes of the text that the document was read from. -/
theorem convert_through_markup (h : builtin.read t source = .ok d) :
    (builtin.write d "markdown").bind (builtin.read · "markdown") = .ok d ∧
      ∀ n, builtin.toMarkup source t n = builtin.write d "markdown" ∧
        ∀ target parameters,
          (builtin.toMarkup source t n).bind (builtin.convert "markdown" target parameters) =
            builtin.convert source target parameters t := by
  have hback : builtin.read d.source "markdown" = .ok d :=
    read_markdown_eq_ok_iff.2 (trimmed_of_read h)
  refine ⟨hback, fun n => ⟨toMarkup_eq h n, fun target parameters => ?_⟩⟩
  rw [toMarkup_eq h n, convert_of_read h]
  exact convert_of_read hback target parameters

/-- A reply with an item among white space. -/
def itemReply : Text := "\x7b\"custo\":\" - **5** \"\x7d".toList

/-- The item goes through markup three times, and is then taken for plain text. -/
theorem convert_itemReply_through_markup :
    builtin.read itemReply "json" = .ok ⟨"## Custo\n\n- **5**".toList⟩ ∧
      builtin.toMarkup "json" itemReply 2 = .ok "## Custo\n\n- **5**".toList ∧
      (builtin.toMarkup "json" itemReply 2).bind (builtin.convert "markdown" "text" []) =
        builtin.convert "json" "text" [] itemReply ∧
      builtin.convert "json" "text" [] itemReply = .ok "Custo\n\n5".toList := by
  have hread : builtin.read itemReply "json" = .ok ⟨"## Custo\n\n- **5**".toList⟩ := by
    decide +kernel
  obtain ⟨hmarkup, hconvert⟩ := (convert_through_markup hread).2 2
  refine ⟨hread, hmarkup, hconvert "text" [], ?_⟩
  rw [convert_of_read hread]
  decide +kernel

end Registry

end ServiceCharter
