import Stencil.Value
/-!
# Head elements

The elements that a page puts into the document head, in the order they were first added. Name and
attributes tell two elements apart; the body does not.
-/
namespace Stencil

structure HeadElement where
  name : Text
  /-- Each as it is written: a flag, or a name with its quoted value. -/
  attributes : List Text := []
  body : Option Text := none

namespace HeadElement

def withFlag (element : HeadElement) (flag : Text) : HeadElement :=
  { element with attributes := element.attributes ++ [flag] }

def withValue (element : HeadElement) (name value : Text) : HeadElement :=
  element.withFlag (Html.valueAttribute name value)

def key (element : HeadElement) : Text := element.name ++ ":" ++ Text.join ":" element.attributes

/-- Elements that have no closing tag. -/
def voidNames : List Text := ["meta", "link", "base"]

def html (element : HeadElement) : Text :=
  let attributes : Text := element.attributes.flatMap fun text => " " ++ text
  if voidNames.contains element.name then "<" ++ element.name ++ attributes ++ ">"
  else if element.name = "title" then
    "<title" ++ attributes ++ ">" ++ Html.escape (element.body.getD []) ++ "</title>"
  else "<!-- unsupported head tag: " ++ Html.escape element.name ++ " -->"

end HeadElement

structure HeadRegistry where
  elements : List HeadElement := []

namespace HeadRegistry

/-- Adds an element unless one of its key is there, and says whether it did. -/
def add (registry : HeadRegistry) (element : HeadElement) : Bool × HeadRegistry :=
  if registry.elements.any fun old => old.key == element.key then (false, registry)
  else (true, ⟨registry.elements ++ [element]⟩)

def html (registry : HeadRegistry) : Text := Text.join "\n" (registry.elements.map HeadElement.html)

end HeadRegistry
end Stencil
