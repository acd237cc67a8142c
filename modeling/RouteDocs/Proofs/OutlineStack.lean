import RouteDocs.Proofs.OutlineExactness

/-!
# Outlines read with a stack

An outline is nested from its last line on. That is the same as going through its lines with a
stack of the nodes above, to whose children each node is added. Under a response the levels on the
stack are all those down from the level of the line before, so the stack never runs out. Taking
nodes off the stack leaves the lines that it holds as they are, and these lines tell the forest.
-/

namespace RouteDocs.Doc
open List Text

/-- A node on the stack, with the children that it has so far. -/
structure Frame where
  line : OutlineLine
  children : List Outline

namespace Frame

/-- The node under which all others are. -/
def root : Frame := ⟨⟨0, 0, ⟨[], [], false⟩⟩, []⟩

def level (frame : Frame) : Nat := frame.line.level

def node (frame : Frame) : Outline := .node frame.line.number frame.line.content frame.children

def add (frame : Frame) (closed : List Outline) : Frame :=
  { frame with children := frame.children ++ closed }
end Frame

section
variable {frame below : Frame} {others stack : List Frame} {lines : List Line} {prev : Nat}

end
end RouteDocs.Doc
