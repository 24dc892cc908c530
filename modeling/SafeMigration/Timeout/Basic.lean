/-!
Spans of time, and timeouts, which are spans of time or switched off.
-/

namespace SafeMigration

/-- A span of time in whole nanoseconds. -/
structure Duration where
  nanoseconds : Nat
  deriving DecidableEq, Repr

namespace Duration

/-- A span of whole seconds. -/
def ofSeconds (n : Nat) : Duration := ⟨n * 1000000000⟩

/-- The whole seconds of a span. -/
def seconds (d : Duration) : Nat := d.nanoseconds / 1000000000

/-- The whole milliseconds of a span. -/
def milliseconds (d : Duration) : Nat := d.nanoseconds / 1000000

/-- The text of a span: in seconds, or in milliseconds if there are some beyond the seconds. What is less than a
millisecond is not written. -/
def text (d : Duration) : String :=
  if d.milliseconds % 1000 = 0 then toString d.seconds ++ "s" else toString d.milliseconds ++ "ms"

end Duration

/-- A limit on how long the database waits or works. -/
inductive Timeout where
  /-- No limit. -/
  | disabled
  | limit (duration : Duration)
  deriving DecidableEq, Repr

namespace Timeout

/-- The timeout of a span of time; no time at all switches it off. -/
def ofDuration (d : Duration) : Timeout := if d.nanoseconds = 0 then disabled else limit d

/-- The timeout of so many seconds. -/
def ofSeconds (n : Nat) : Timeout := ofDuration (.ofSeconds n)

/-- The span of time of a timeout that is not switched off. -/
def duration? : Timeout → Option Duration
  | disabled => none
  | limit d => some d

/-- The whole seconds of a timeout; zero when it is switched off. -/
def seconds (t : Timeout) : Nat :=
  match t with
  | disabled => 0
  | limit d => d.seconds

/-- Whether a timeout is switched off. -/
def isDisabled : Timeout → Bool
  | disabled => true
  | limit _ => false

/-- The text of a timeout in messages. -/
def text : Timeout → String
  | disabled => "disabled"
  | limit d => d.text

end Timeout

end SafeMigration
