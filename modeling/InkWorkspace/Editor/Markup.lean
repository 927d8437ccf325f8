import InkWorkspace.Settings.Basic

/- Documentation as an editor shows it. -/
namespace InkWorkspace

/-- A text and the markup it is written in. -/
structure MarkupText where
  markup : Markup
  text : String
  deriving Repr, DecidableEq

namespace MarkupText

/-- A signature with its documentation below it. In Markdown the signature is a block of ink. -/
def ofSignature (markup : Markup) (signature : String) (documentation : Option String) :
    MarkupText where
  markup := markup
  text :=
    (match markup with
      | .markdown => "```ink\n" ++ signature ++ "\n```"
      | .plain => signature) ++
    documentation.elim "" ("\n\n" ++ ·)

end MarkupText

end InkWorkspace
