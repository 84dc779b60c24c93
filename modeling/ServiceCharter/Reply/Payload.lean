import ServiceCharter.Text.Blank

/-!
# The payload of a reply

A reply of the text service holds a JSON object, perhaps in a fenced code block and perhaps with
prose around it. `payload` finds it: the first fenced block with an object, else the span from the
first opening brace to the last closing brace, else the trimmed reply.

A fence is three backticks, with or without `json` behind the opening one. The object of a fenced
block starts directly behind the opening fence, and it ends at the first closing brace that the
closing fence follows, in both cases up to white space. Strings inside the object are not looked
at.
-/

namespace ServiceCharter.Reply

/-- Three backticks. -/
def fence : Text := List.replicate 3 '\x60'

/-- Whether a closing fence follows, up to white space. -/
def closesFence (t : Text) : Bool := (Text.after? fence (Text.trimStart t)).isSome

/-- The text up to the first closing brace that a closing fence follows. -/
def untilClosingFence? : Text → Option Text
  | [] => none
  | c :: t =>
    if c = '\x7d' && closesFence t then some [c] else (untilClosingFence? t).map (c :: ·)

/-- The object of a fenced block that starts at the head of the text. -/
def objectInFence? (t : Text) : Option Text :=
  (Text.after? fence t).bind fun rest =>
    let rest := (Text.after? ['j', 's', 'o', 'n'] rest).getD rest
    match Text.trimStart rest with
    | '\x7b' :: body => (untilClosingFence? body).map ('\x7b' :: ·)
    | _ => none

/-- The object of the first fenced block that holds one. -/
def firstInFence? : Text → Option Text
  | [] => none
  | c :: t => (objectInFence? (c :: t)).orElse fun _ => firstInFence? t

/-- The text up to its last closing brace, if it has one. -/
def untilLastBrace? : Text → Option Text
  | [] => none
  | c :: t =>
    match untilLastBrace? t with
    | some rest => some (c :: rest)
    | none => if c = '\x7d' then some [c] else none

/-- The span from the first opening brace to the last closing brace behind it. -/
def braceSpan? (t : Text) : Option Text := untilLastBrace? (t.dropWhile (· != '\x7b'))

/-- The part of a reply that is read as JSON. -/
def payload (raw : Text) : Text :=
  ((firstInFence? raw).orElse fun _ => braceSpan? raw).getD (Text.trim raw)

end ServiceCharter.Reply
