import Idefix.Kernel
import Idefix.DataBlock
import Idefix.MakeGeometry
import Idefix.Geometry.Pointwise
import Idefix.Geometry.Exact
import Idefix.Geometry.Centroid
import Idefix.Geometry.Safety
import Idefix.Geometry.Decomposition
import Idefix.Geometry.Volume
import Idefix.Hydro.Tvdlf
import Idefix.Schedule
import Idefix.Input
import Idefix.Input.CommandLine
import Idefix.Input.Abort
import Idefix.Output.Vtk
import Idefix.Bounds
import Idefix.Output.VtkFile
import Idefix.Input.Parameters
import Idefix.Output.VtkParallel
import Idefix.Setup.AxisFluxTube
import Idefix.Input.Listing
