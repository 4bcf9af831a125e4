import MessageFlow.Graph.Derived

/-!
# Palettes

The modules of a graph are numbered in ascending order and take the colours of the palette in turn.
The number of a module is found by bisection.
-/

namespace MessageFlow

structure ModulePalette where
  /-- the coloured modules, in ascending order -/
  modules : List String
  colors : List String
  /-- the colour of everything else -/
  unknown : String

namespace ModulePalette

/-- colours for the modules of a graph -/
def ofGraph (g : Graph) (colors : List String) (unknown : String) : ModulePalette :=
  ⟨g.modules, colors, unknown⟩

/-- halves the range of `size` positions from `first`, until it is the only one at which `key` may
stand in an ascending list -/
def bisect (keys : List String) (key : String) (first size : Nat) : Nat :=
  if size ≤ 1 then first
  else
    let half := size / 2
    let middle := first + half
    bisect keys key (if key < keys[middle]?.getD "" then first else middle) (size - half)
termination_by size

/-- position of a text in an ascending list -/
def search? (keys : List String) (key : String) : Option Nat :=
  let i := bisect keys key 0 keys.length
  if keys[i]? = some key then some i else none

/-- the colour of a module: its number modulo the size of the palette counts -/
def color (p : ModulePalette) (key : String) : String :=
  match search? p.modules key with
  | none => p.unknown
  | some i => (p.colors[i % p.colors.length]?).getD p.unknown

end ModulePalette

end MessageFlow
