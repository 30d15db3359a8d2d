import Stencil.Tag.Call
/-!
# Layouts and inheritance

Content is rendered first and then passed to its layout, which places it once. Content that no
layout takes is written as it is.

A slot holds content for the block of its name. The first content of a name stays, which is the one
of the most derived template. A child that extends a parent fills the blocks of the parent from its
slots, and the rest of it is passed to the parent as content. Its body is cut into its slots and the
text outside of them, and no part of it is lost.
-/
namespace Stencil

namespace Layout

/-- Renders a layout with passed content, and restores what was passed before. A layout that cannot
be entered leaves the content as it is. -/
def enter (scene : Scene) (path : Path) (layout inner : Text) (draft : Draft) : Draft :=
  let inside := draft.mapContext fun context => { context with passed := some inner }
  let rendered := match inside.inTemplate scene.refusesCycles path (scene.render layout) with
    | .ok rendered => rendered
    | .error problem => (inside.write inner).report problem
  rendered.mapContext fun context => { context with passed := draft.context.passed }

/-- Puts content into the named layout, or writes it alone. -/
def wrap (scene : Scene) (name inner : Text) (draft : Draft) : Draft :=
  match Template.load scene.config scene.files draft.context.site .layout name with
  | .ok (path, layout) => enter scene path layout inner draft
  | .error problem => (draft.write inner).report problem

def run : TagAction := .ofBlockOrRest fun scene call body draft =>
  match call.firstName? with
  | none => scene.render body (draft.report (call.misuse (.missing .layoutName)))
  | some name =>
    if draft.context.bypassesLayouts scene.config.bypassHeader then scene.render body draft
    else
      let (inner, draft) := draft.capture (scene.render body)
      wrap scene name inner draft

/-- Places the passed content, once. -/
def place : TagAction := .leaf fun _ _ draft =>
  (draft.write (draft.context.passed.getD [])).mapContext fun context =>
    { context with passed := none }

end Layout

namespace Slot

/-- A piece of a child body. What is written in an opening tag stands between its marker and the
delimiter that ends it. -/
inductive Piece where
  | kept (text : Text)
  /-- A slot with its content. -/
  | filled (written content : Text)
  /-- The opening tag of a slot that is not closed. -/
  | dropped (written : Text)

def openMarker (delimiters : Delimiters) : Text := delimiters.openMarker "slot"

def closeMarker (delimiters : Delimiters) : Text := delimiters.closeMarker "slot"

/-- The pieces of a child body in order. An opening tag without an end is kept with all that
follows it. -/
def pieces (delimiters : Delimiters) (body : Text) : List Piece :=
  match _ho : Text.breakOn? (openMarker delimiters) body with
  | none => [.kept body]
  | some (before, inside) =>
    match _hs : Text.breakOn? delimiters.stop inside with
    | none => [.kept body]
    | some (written, following) =>
      match _hc : Balance.closing (openMarker delimiters) (closeMarker delimiters) 0 0
        following with
      | some (content, rest) => .kept before :: .filled written content :: pieces delimiters rest
      | none => .kept before :: .dropped written :: pieces delimiters following
termination_by body.length
decreasing_by
  all_goals
    have hopen := congrArg List.length (Text.eq_append_of_breakOn? _ho)
    have hstop := congrArg List.length (Text.eq_append_of_breakOn? _hs)
    have hpos := List.length_pos_iff.mpr delimiters.stop_ne_nil
    simp at hopen hstop
  · have hclose := congrArg List.length (Balance.eq_append_of_closing _hc)
    simp at hclose
    omega
  · omega

def keptText (pieces : List Piece) : Text := pieces.flatMap fun
  | .kept text => text
  | _ => []

/-- Stores the content of a slot, or notes that the slot has no end. -/
def takePiece (delimiters : Delimiters) (draft : Draft) : Piece → Draft
  | .kept _ => draft
  | .filled written content =>
    draft.mapContext (·.storeBlock (Arguments.unquote (Text.trim written)) content)
  | .dropped _ => draft.report (.unclosedBlock "slot" (closeMarker delimiters))

/-- Stores the slots of a child body and gives the text outside of them. -/
def collect (delimiters : Delimiters) (body : Text) (draft : Draft) : Text × Draft :=
  let pieces := pieces delimiters body
  (keptText pieces, pieces.foldl (takePiece delimiters) draft)

/-- A slot met outside of a child body, or a definition: content for a later block. -/
def store : TagAction := .ofBlock fun _ call body draft =>
  match call.firstName? with
  | some name => draft.mapContext (·.storeBlock name body)
  | none => draft.report (call.misuse (.missing .name))

/-- Renders the content stored for the block, or its own. -/
def fill : TagAction := .ofBlock fun scene call body draft =>
  match call.firstName? with
  | some name => scene.render ((draft.context.blocks.get? name).getD body) draft
  | none => draft.report (call.misuse (.missing .blockName))

end Slot

namespace Inheritance

def run : TagAction := .ofBlockOrRest fun scene call body draft =>
  match call.firstName? with
  | none => draft.report (call.misuse (.missing .parentName))
  | some name =>
    let (rest, draft) := Slot.collect scene.delimiters body draft
    let (inner, draft) := draft.capture (scene.render (Text.trim rest))
    Layout.wrap scene name inner draft

end Inheritance
end Stencil
