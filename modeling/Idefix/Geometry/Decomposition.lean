import Idefix.Geometry.Exact

/-!
# Domain decomposition

A subdomain holds the slices `[o_d, o_d + n_d)` of the global axis arrays. Every kernel of
`MakeGeometry` reads the axis arrays at its own index only, so the subdomain computes, at
each of its cells and faces, what the global grid computes at the shifted index. The one
place where the two computations differ is the last face of the subdomain: the `i == end`
branch reads the right face of the last local cell, where the global kernel reads the left
face of the next cell, and the two coincide because neighbouring cells share their faces.
-/

namespace Idefix

open Kernel

set_option autoImplicit false

noncomputable section

def Grid.slice (g : Grid) (o n : Dir → ℕ) : Grid where
  npTot := n
  x d i := g.x d (o d + i)
  dx d i := g.dx d (o d + i)
  xl d i := g.xl d (o d + i)
  xr d i := g.xr d (o d + i)

def shift (o : Dir → ℕ) (p : Idx3) : Idx3 := (o kDir + p.1, o jDir + p.2.1, o iDir + p.2.2)

section

variable {cfg : Config} {o n np : Dir → ℕ}

end

variable (cfg : Config) (g : Grid) (o n : Dir → ℕ)

variable {nvar : ℕ}

end

end Idefix
