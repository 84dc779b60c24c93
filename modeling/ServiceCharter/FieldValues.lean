import ServiceCharter.Field
import ServiceCharter.Json.Printer
import ServiceCharter.Text.Blank

/-!
# Field values

The values that the text service sends for the fields of a charter: the members of a JSON object,
of which only those under a field's key matter. A string is trimmed, a number is written out, and
any other value counts as absent, like a string of white space.
-/

namespace ServiceCharter

/-- The values sent for the fields of a charter, by key. -/
structure FieldValues where
  members : Table Json.Value
deriving Repr

namespace FieldValues

/-- No value for any field. -/
def empty : FieldValues := ⟨[]⟩

/-- The members of an object; any other value holds no field. -/
def ofValue (v : Json.Value) : FieldValues := ⟨v.members⟩

/-- The values with a string stored for a field. -/
def insert (values : FieldValues) (f : Field) (text : String) : FieldValues :=
  ⟨values.members.insert f.key (.string text)⟩

/-- What a value contributes to a section: the trimmed string or the numeral. -/
def contribution : Json.Value → Text
  | .string s => Text.trim s.toList
  | .number n => n.toText
  | _ => []

/-- The text of a field's section, or nothing if the section is omitted. It is never empty. -/
def text? (values : FieldValues) (f : Field) : Option Text :=
  (values.members.get? f.key).map contribution |>.filter fun t => !t.isEmpty

theorem ne_nil_of_text? {values : FieldValues} {f : Field} {t : Text}
    (h : values.text? f = some t) : t ≠ [] := by
  unfold text? at h
  obtain ⟨-, hne⟩ := Option.filter_eq_some_iff.1 h
  intro ht
  simp [ht] at hne

end FieldValues

end ServiceCharter
