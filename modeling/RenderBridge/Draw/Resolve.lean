import RenderBridge.Cache
/-!
Resolving the render state for a draw: it is checked, both compiled objects are looked up, and what
is dynamic is taken over.

* `Snapshot.check`: whether viewport and scissor can be drawn with.
* `DrawConfig.resolve`: the resolved state; it asks the device only for what the cache lacks.
-/

set_option autoImplicit false

namespace RenderBridge

/-- Refuses a viewport or an enabled scissor without area, and a reversed depth range. -/
def Snapshot.check (s : Snapshot) : Except Fault Unit :=
  if s.viewport.width ≤ 0 ∨ s.viewport.height ≤ 0 then
    .error (.invalidArgument (.viewportEmpty s.viewport.width s.viewport.height))
  else if s.viewport.maxDepth.lt s.viewport.minDepth then
    .error (.invalidArgument .viewportReversed)
  else if s.scissor.enabled ∧ (s.scissor.width ≤ 0 ∨ s.scissor.height ≤ 0) then
    .error (.invalidArgument (.scissorEmpty s.scissor.width s.scissor.height))
  else .ok ()

namespace Snapshot

/-- The scissor rectangle, where the test is enabled. -/
def scissorRect (s : Snapshot) : Option ScissorRect :=
  if s.scissor.enabled then
    some ⟨s.scissor.x, s.scissor.y, s.scissor.width.toNat, s.scissor.height.toNat⟩
  else none

/-- The viewport in single precision. -/
def viewportRect (s : Snapshot) : ViewportRect where
  x := .ofInt s.viewport.x
  y := .ofInt s.viewport.y
  width := .ofInt s.viewport.width
  height := .ofInt s.viewport.height
  minDepth := s.viewport.minDepth
  maxDepth := s.viewport.maxDepth

/-- The stencil reference brought into eight bits, where the test is enabled. -/
def stencilReference (s : Snapshot) : Option Nat :=
  if s.stencil.enabled then some (min s.stencil.reference.toNat 0xFF) else none

end Snapshot

namespace DrawConfig

/-- The state resolved with compiled objects at hand. -/
def of {P D : Type} (s : Snapshot) (target : DrawTarget) (pipeline : P) (depthStencil : D) :
    DrawConfig P D where
  pipelineKey := PipelineKey.of s target
  depthStencilKey := DepthStencilKey.of s
  pipeline := pipeline
  depthStencil := depthStencil
  cull := Token.cullMode s.raster.cullEnabled s.raster.cullFace
  scissor := s.scissorRect
  viewport := s.viewportRect
  stencilReference := s.stencilReference

variable {δ P D : Type} [Device δ P D]

/-- Resolves the state for a draw: first the checks, then the pipeline, then the depth-stencil
object. The first failure is the answer. -/
def resolve (s : Snapshot) (target : DrawTarget) (layout : Option VertexLayout) (cache : Cache P D)
    (device : δ) : Except Fault (DrawConfig P D) × Cache P D × δ :=
  match s.check with
  | .error fault => (.error fault, cache, device)
  | .ok () =>
    match cache.pipeline (PipelineKey.of s target) layout device with
    | (.error fault, cache, device) => (.error fault, cache, device)
    | (.ok pipeline, cache, device) =>
      match cache.depthStencil (DepthStencilKey.of s) device with
      | (.error fault, cache, device) => (.error fault, cache, device)
      | (.ok depthStencil, cache, device) =>
        (.ok (DrawConfig.of s target pipeline depthStencil), cache, device)

end DrawConfig

end RenderBridge
