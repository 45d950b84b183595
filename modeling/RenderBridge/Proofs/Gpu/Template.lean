import RenderBridge.Config
import RenderBridge.Gpu.Template
import RenderBridge.Proofs.Device.Request
/-!
The pipeline of a draw, written down from the render state.

* `Snapshot.pipeline`: the whole description, from state, configuration, mode and layout.
* `PipelineTemplate.describe_of`: **the two keys determine it**, given the layout under the handle.
-/

set_option autoImplicit false

namespace RenderBridge

/-! ### What a draw should be made with -/

namespace Snapshot

/-- The depth-stencil part of the pipeline of a draw. -/
def depthStencilTest (s : Snapshot) : DepthStencilTest where
  format := .depth24PlusStencil8
  depthWriteEnabled := s.depth.testEnabled && s.depth.writeEnabled
  depthCompare := if s.depth.testEnabled then Token.compareFunction s.depth.compare else .always
  stencil :=
    let face : StencilFace :=
      { compare := Token.compareFunction s.stencil.func
        failOp := Token.stencilOperation s.stencil.failOp
        depthFailOp := Token.stencilOperation s.stencil.depthFailOp
        passOp := Token.stencilOperation s.stencil.passOp }
    if s.stencil.enabled then
      ⟨face, face, s.stencil.readMask &&& 0xFF, s.stencil.writeMask &&& 0xFF⟩
    else .ignore

/-- The pipeline of a draw. Without a layout a triangle over the whole target is generated. -/
def pipeline (s : Snapshot) (config : Config) (topology : Topology)
    (layout : Option VertexLayout) : PipelineDescription where
  vertexEntry := if layout.isSome then "vs_main" else "vs_generated"
  buffers := (layout.map fun l => ⟨l.stride, l.attributes⟩).toList
  fragmentEntry := "fs_main"
  target :=
    { format := config.colorFormat
      blend :=
        if s.blend.enabled then
          some ⟨Token.blendComponent s.blend.srcRgb s.blend.dstRgb s.blend.equationRgb,
            Token.blendComponent s.blend.srcAlpha s.blend.dstAlpha s.blend.equationAlpha⟩
        else none }
  primitive :=
    { topology := topology
      frontFace := .ccw
      cullMode := if s.raster.cullEnabled then some (Token.cullFace s.raster.cullFace) else none }
  depthStencil := s.depthStencilTest
  multisample := { count := max config.sampleCount 1 }

end Snapshot

/-! ### Templates -/

/-- A sample count of at least one stays as it is. -/
lemma max_max_one (n : UInt32) : max (max n 1) 1 = max n 1 := by
  have hmax : ∀ x y : UInt32, max x y = if x ≤ y then y else x := fun _ _ => rfl
  rw [hmax n 1]
  by_cases h : n ≤ 1
  · rw [if_pos h]
    rfl
  · rw [if_neg h, hmax, if_neg h]

namespace PipelineTemplate

/-- A template is the one that its key builds. -/
lemma of_ok {key : PipelineKey} {layout : Option VertexLayout} {template : PipelineTemplate}
    (h : PipelineTemplate.of key layout = .ok template) :
    (layout = none ∧ template = build key 0 []) ∨
      ∃ l, layout = some l ∧ l.elements ≠ [] ∧ template = build key l.stride l.attributes := by
  cases layout with
  | none =>
    cases h
    exact .inl ⟨rfl, rfl⟩
  | some l =>
    right
    rw [PipelineTemplate.of] at h
    cases hcheck : checkPosition l with
    | error fault =>
      rw [hcheck] at h
      cases h
    | ok _ =>
      rw [hcheck] at h
      cases h
      refine ⟨l, rfl, ?_, rfl⟩
      rintro hnone
      rw [checkPosition, hnone] at hcheck
      cases hcheck

/-- Vertices are only read where there is a layout. -/
lemma isSome_of_hasVertexInput {key : PipelineKey} {layout : Option VertexLayout}
    {template : PipelineTemplate} (h : PipelineTemplate.of key layout = .ok template)
    (hinput : template.hasVertexInput) : layout.isSome := by
  rcases of_ok h with ⟨rfl, rfl⟩ | ⟨l, rfl, -, -⟩
  · cases hinput
  · rfl

/-- The keys of a draw, and the layout, determine the pipeline: it is the one written down from the
render state. -/
theorem describe_of {s : Snapshot} {config : Config} {topology : Topology}
    {handle : Option LayoutHandle} {layout : Option VertexLayout} {template : PipelineTemplate}
    (h : PipelineTemplate.of
      (.of s ⟨config.colorFormat, config.effectiveSamples, topology, handle⟩) layout =
        .ok template) :
    template.describe (DepthStencilTest.of (DepthStencilKey.of s)) =
      s.pipeline config topology layout := by
  have hdepth : DepthStencilTest.of (DepthStencilKey.of s) = s.depthStencilTest := rfl
  have hcount : max config.effectiveSamples 1 = max config.sampleCount 1 :=
    max_max_one config.sampleCount
  rcases of_ok h with ⟨rfl, rfl⟩ | ⟨l, rfl, helements, rfl⟩
  · rw [hdepth, describe, Snapshot.pipeline, ← hcount]
    rfl
  · have hinput : (build (.of s ⟨config.colorFormat, config.effectiveSamples, topology, handle⟩)
        l.stride l.attributes).hasVertexInput = true := by
      rw [hasVertexInput, build, VertexLayout.attributes]
      cases helems : l.elements with
      | nil => exact absurd helems helements
      | cons e es => rfl
    rw [hdepth, describe, buffers, if_pos hinput, if_pos hinput, Snapshot.pipeline, ← hcount]
    rfl

end PipelineTemplate

end RenderBridge
