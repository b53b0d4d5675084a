import Jtag.Cable.AnyPod
import Jtag.Chain.Detect
import Jtag.Chain.Scan
import Jtag.Config.Yaml
import Jtag.Part.Yaml
import Jtag.Register.Count
import Jtag.Proofs.Cable.Steady
import Jtag.Proofs.Queue.Calls
import Jtag.Proofs.Cable.Carries
import Jtag.Proofs.Cable.Combine
import Jtag.Proofs.Cable.Stands
import Jtag.Proofs.Cable.Strategies
import Jtag.Proofs.Chain.Drives
import Jtag.Proofs.Chain.Shift
import Jtag.Proofs.Chain.Lanes
import Jtag.Proofs.Sim.Path
import Jtag.Proofs.Sim.Scan
import Jtag.Proofs.Chain.Faces
import Jtag.Proofs.Chain.InstructionScan
import Jtag.Proofs.Chain.DataScan
import Jtag.Proofs.Cable.Handed
import Jtag.Proofs.Chain.Identify
import Jtag.Proofs.Chain.Tracking
import Jtag.Proofs.Chain.Recovery
import Jtag.Proofs.Detect.Measure
import Jtag.Proofs.Cable.Logged
import Jtag.Proofs.Chain.OneStream
import Jtag.Proofs.Chain.ShiftClocks
import Jtag.Proofs.Chain.Database
import Jtag.Proofs.Chain.ResetLine
import Jtag.Proofs.BitBang.Faithful
import Jtag.Proofs.BitBang.Fitful
import Jtag.Proofs.Chain.Deferral
import Jtag.Proofs.Chain.Discovery
import Jtag.Proofs.Scan.DataPath
import Jtag.Proofs.Chain.OneRegister
import Jtag.Proofs.Part.Failure
import Jtag.Proofs.Part.Drive
import Jtag.Proofs.Part.Accepted
import Jtag.Proofs.Register.Arithmetic
import Jtag.Proofs.Tap.Knowledge
import Jtag.Proofs.Register.Cached
import Jtag.Proofs.Chain.ResetBytes
