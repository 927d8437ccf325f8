import InkWorkspace.Project.Report
import InkWorkspace.Wire.Editor

/- JSON forms of what a run over a project produces. -/
namespace InkWorkspace.Wire

/-- A compiled story with its tags, the members in the order of their names. -/
def bundle (b : Bundle) : Json :=
  .obj [("engine", .str b.engine.name), ("markup", .str b.markup.name),
    ("patches", patches b.patches), ("story", b.story)]

/-- The outline of a project. -/
def outline (story : Story) : Json :=
  list fileOutline story.outline

end InkWorkspace.Wire
