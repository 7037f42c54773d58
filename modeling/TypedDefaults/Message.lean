/-!
# Messages to the user

A message has a level and a text. The text may name paths between the marks
`[path]` and `[/path]`, which a console shows in a style of their own.
-/

namespace TypedDefaults

/-- How much a message matters. Success stands between information and warning. -/
inductive Level where
  | info
  | success
  | warning
  | error
  deriving DecidableEq, Repr, Inhabited

namespace Level

/-- The word for a level. -/
def word : Level → String
  | info => "INFO"
  | success => "SUCCESS"
  | warning => "WARNING"
  | error => "ERROR"

/-- The picture in front of a message of a level. -/
def icon : Level → String
  | info => "ℹ️  "
  | success => "✅ "
  | warning => "⚠️  "
  | error => "❌ "

end Level

/-- A message to the user. -/
structure Message where
  level : Level
  text : String
  deriving DecidableEq, Repr, Inhabited

namespace Message

/-- The message with its picture. -/
def line (message : Message) : String := message.level.icon ++ message.text

/-- A path inside a message. -/
def path (path : String) : String := "[path]" ++ path ++ "[/path]"

end Message

end TypedDefaults
