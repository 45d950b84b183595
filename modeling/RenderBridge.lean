import RenderBridge.Context.Session
import RenderBridge.Device.Faulty
import RenderBridge.Gpu.Opening
import RenderBridge.Log.Setup
import RenderBridge.Ui.Queue
import RenderBridge.Ui.Handoff
import RenderBridge.Report.Basic
import RenderBridge.Report.Gpu
import RenderBridge.Proofs.Buffer.Contents
import RenderBridge.Proofs.Buffer.Isolation
import RenderBridge.Proofs.Buffer.Failure
import RenderBridge.Proofs.Draw.Faithful
import RenderBridge.Proofs.Gpu.Faithful
import RenderBridge.Proofs.Context.Submission
import RenderBridge.Proofs.Context.Failure
import RenderBridge.Proofs.Gpu.Surface
import RenderBridge.Proofs.Gpu.Lifecycle
import RenderBridge.Proofs.Vertex.Layout
import RenderBridge.Proofs.Gpu.WellFormed
import RenderBridge.Proofs.Context.Exclusive
import RenderBridge.Proofs.State.Aspect
import RenderBridge.Proofs.Context.Handles
import RenderBridge.Proofs.Gpu.Ready
import RenderBridge.Proofs.Draw.Independence
import RenderBridge.Proofs.Draw.Fragment
import RenderBridge.Proofs.Gpu.Size
import RenderBridge.Proofs.Number.Checked
import RenderBridge.Proofs.Buffer.Reservation
import RenderBridge.Proofs.Buffer.Checked
import RenderBridge.Proofs.Buffer.Safety
import RenderBridge.Proofs.Draw.Statistics
import RenderBridge.Proofs.Device.Arrays
import RenderBridge.Proofs.Gpu.Scissor
import RenderBridge.Proofs.Gpu.Label
import RenderBridge.Proofs.Buffer.Owned
import RenderBridge.Proofs.Key
import RenderBridge.Proofs.Ui.Answer
import RenderBridge.Proofs.Ui.Queue
