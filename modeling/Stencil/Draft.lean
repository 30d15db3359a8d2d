import Stencil.Context
/-!
# Drafts

A draft is a page in the making: the context that rendering has reached, the text written and the
problems noted so far. Text and problems are only ever added to at their end.
-/
namespace Stencil

structure Draft where
  context : Context
  output : Text := []
  problems : List Problem := []

namespace Draft

def write (draft : Draft) (text : Text) : Draft := { draft with output := draft.output ++ text }

def report (draft : Draft) (problem : Problem) : Draft :=
  { draft with problems := draft.problems ++ [problem] }

/-- Writes the text, or notes why there is none. -/
def writeOrReport (draft : Draft) : Except Problem Text → Draft
  | .ok text => draft.write text
  | .error problem => draft.report problem

@[simp] theorem write_nil (draft : Draft) : draft.write [] = draft := by
  simp [write]

theorem write_append (draft : Draft) (s t : Text) :
    draft.write (s ++ t) = (draft.write s).write t := by
  simp [write]

@[simp] theorem writeOrReport_context (draft : Draft) (result : Except Problem Text) :
    (draft.writeOrReport result).context = draft.context := by cases result <;> rfl

def mapContext (draft : Draft) (change : Context → Context) : Draft :=
  { draft with context := change draft.context }

/-- The text that a rendering writes, kept out of the output. -/
def capture (draft : Draft) (rendering : Draft → Draft) : Text × Draft :=
  let rendered := rendering { draft with output := [] }
  (rendered.output, { rendered with output := draft.output })

/-- Runs a rendering inside a template, or gives the problem of entering it. -/
def inTemplate (draft : Draft) (refusesCycles : Bool) (path : Path) (rendering : Draft → Draft) :
    Except Problem Draft :=
  let run (context : Context) : Draft × Context :=
    let rendered := rendering { draft with context }
    (rendered, rendered.context)
  (draft.context.inTemplate refusesCycles path run).map fun (rendered, context) =>
    { rendered with context }

end Draft
end Stencil
