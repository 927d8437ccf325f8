import InkWorkspace.Text.Column

/- Tokens: pieces of a line together with their place in it. -/
namespace InkWorkspace

open Text

/-- A piece of a line and its byte span, from `start` up to but not including `stop`. -/
structure Token where
  text : String
  start : Nat
  stop : Nat
  deriving Repr, DecidableEq

namespace Token

/-- The token that `text` makes when `before` stands in front of it on the line. -/
def after (before text : List Char) : Token where
  text := String.ofList text
  start := utf8Length before
  stop := utf8Length before + utf8Length text

end Token

end InkWorkspace
