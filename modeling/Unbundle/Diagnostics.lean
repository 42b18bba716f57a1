/-
Events: odd things met while a bundle is read that do not end the reading.

A sink keeps the events in the order in which they were recorded.
-/
namespace Unbundle

/-- the kinds of events -/
inductive EventKind where
  | missingManifest
  | unknownElement
  | missingOffset
  deriving DecidableEq, Repr

/-- the word for a kind -/
def EventKind.label : EventKind → String
  | .missingManifest => "missing_manifest"
  | .unknownElement => "unknown_element"
  | .missingOffset => "missing_offset"

/-- an event: its kind, its wording, and the element and attribute it is about -/
structure Event where
  kind : EventKind
  message : String
  element : Option String
  attributeName : Option String
  deriving DecidableEq, Repr

namespace Event

/-- the root element is not a manifest -/
def missingManifest (element : String) : Event :=
  ⟨.missingManifest, "Could not find Manifest element", some element, none⟩

/-- an entry is not an assembly -/
def unknownElement (element : String) : Event :=
  ⟨.unknownElement, "Unknown element: " ++ element, some element, none⟩

/-- an assembly entry has no usable offset -/
def missingOffset (element : String) : Event :=
  ⟨.missingOffset, "Could not find offset attribute", some element, some "offset"⟩

end Event

/-- recorded events, the earliest first -/
structure Diagnostics where
  events : List Event
  deriving DecidableEq, Repr

namespace Diagnostics

/-- no events -/
def empty : Diagnostics := ⟨[]⟩

/-- one more event at the end -/
def record (d : Diagnostics) (e : Event) : Diagnostics := ⟨d.events ++ [e]⟩

/-- further events at the end -/
def append (d : Diagnostics) (es : List Event) : Diagnostics := ⟨d.events ++ es⟩

/-- the events of one kind, in order -/
def ofKind (d : Diagnostics) (kind : EventKind) : List Event := d.events.filter (·.kind = kind)

/-- the number of events -/
def size (d : Diagnostics) : Nat := d.events.length

end Diagnostics

end Unbundle
