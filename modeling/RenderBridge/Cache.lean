import RenderBridge.Device.Basic
import RenderBridge.Table
/-!
Compiled objects, remembered by key. An object is compiled on the first request for its key and kept
from then on; a failed compilation is not remembered, so the next request compiles again.

* `Cache.pipeline`, `Cache.depthStencil`: the object for a key.
* `Cache.stats`: how many objects are kept, and how requests were met.
-/

set_option autoImplicit false

namespace RenderBridge

/-- The objects compiled so far and the counts of requests. A host keeps the counts in 64 bits; as
numbers they go on where that would overflow. -/
structure Cache (P D : Type) where
  pipelines : Table PipelineKey P := {}
  depthStencils : Table DepthStencilKey D := {}
  hits : Nat := 0
  misses : Nat := 0
  failures : Nat := 0

/-- The counts of a cache. -/
structure CacheStats where
  pipelines : Nat
  depthStencils : Nat
  hits : Nat
  misses : Nat
  failures : Nat
deriving DecidableEq

namespace Cache

variable {δ P D : Type} [Device δ P D]

/-- The pipeline for a key, compiled where it is not kept yet. -/
def pipeline (c : Cache P D) (key : PipelineKey) (layout : Option VertexLayout) (device : δ) :
    Except Fault P × Cache P D × δ :=
  match c.pipelines.get? key with
  | some pipeline => (.ok pipeline, { c with hits := c.hits + 1 }, device)
  | none =>
    match Device.compilePipeline key layout device with
    | (.ok pipeline, device) =>
      (.ok pipeline,
        { c with pipelines := c.pipelines.insert key pipeline, misses := c.misses + 1 }, device)
    | (.error fault, device) =>
      (.error (.compilation .pipeline key.digest fault.cause),
        { c with misses := c.misses + 1, failures := c.failures + 1 }, device)

/-- The depth-stencil object for a key, compiled where it is not kept yet. -/
def depthStencil (c : Cache P D) (key : DepthStencilKey) (device : δ) :
    Except Fault D × Cache P D × δ :=
  match c.depthStencils.get? key with
  | some depthStencil => (.ok depthStencil, { c with hits := c.hits + 1 }, device)
  | none =>
    match Device.compileDepthStencil key device with
    | (.ok depthStencil, device) =>
      (.ok depthStencil,
        { c with
          depthStencils := c.depthStencils.insert key depthStencil, misses := c.misses + 1 },
        device)
    | (.error fault, device) =>
      (.error (.compilation .depthStencil key.digest fault.cause),
        { c with misses := c.misses + 1, failures := c.failures + 1 }, device)

omit [Device δ P D] in
/-- The counts of the cache. -/
def stats (c : Cache P D) : CacheStats :=
  ⟨c.pipelines.size, c.depthStencils.size, c.hits, c.misses, c.failures⟩

end Cache

end RenderBridge
