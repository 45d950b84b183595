import RenderBridge.Device.Memory
import RenderBridge.Proofs.Device.Request
/-!
What each kind of call may change of a device in host memory.

* `MemoryDevice.Changes`, `MemoryDevice.changes_perform`: the parts that a call may change.
* `MemoryDevice.keeps_of_changes`: a property that those changes keep is kept by the calls.
-/

set_option autoImplicit false

namespace RenderBridge

/-- A call to a device in host memory. -/
abbrev HostRequest := Request CompiledPipeline CompiledDepthStencil

namespace MemoryDevice

/-- What a call of a kind may change. Attempts to compile are not taken back. -/
inductive Changes (d : MemoryDevice) : CallKind → MemoryDevice → Prop
  | compiling (pipelineCompilations depthStencilCompilations failPipelines
      failDepthStencils : ℕ) (pipelines_le : d.pipelineCompilations ≤ pipelineCompilations)
      (depthStencils_le : d.depthStencilCompilations ≤ depthStencilCompilations) :
      Changes d .compiling { d with
        pipelineCompilations, depthStencilCompilations, failPipelines, failDepthStencils }
  | layouts : Changes d .layouts d
  | memory (created : ℕ) (buffers : Table BufferId Bytes) (copies : ℕ) :
      Changes d .memory { d with created, buffers, copies }
  | surface (surface : SurfaceLog) : Changes d .surface { d with surface }
  | targets (targetWidth targetHeight : ℕ) :
      Changes d .targets { d with targetWidth, targetHeight }
  | clearing (pending : List RecordedWork) : Changes d .clearing { d with pending }
  | drawing (pending : List RecordedWork) (failEncodes : ℕ) :
      Changes d .drawing { d with pending, failEncodes }
  | submitting (pending : List RecordedWork) (submitted : List (List RecordedWork)) :
      Changes d .submitting { d with pending, submitted }
  | presenting (presents : ℕ) : Changes d .presenting { d with presents }

lemma changes_writeBuffer (id : BufferId) (offset : ℕ) (bytes : Bytes) (d : MemoryDevice) :
    ∃ buffers, (writeBuffer id offset bytes d).2 = { d with buffers } := by
  rw [writeBuffer]
  split
  · exact ⟨d.buffers, rfl⟩
  · split
    · exact ⟨d.buffers, rfl⟩
    · exact ⟨_, rfl⟩

lemma changes_copyBuffer (source : BufferId) (sourceOffset : ℕ) (target : BufferId)
    (targetOffset length : ℕ) (d : MemoryDevice) :
    ∃ buffers copies, (copyBuffer source sourceOffset target targetOffset length d).2 =
      { d with buffers, copies } := by
  rw [copyBuffer]
  split
  · exact ⟨d.buffers, d.copies, rfl⟩
  · split
    · exact ⟨d.buffers, d.copies, rfl⟩
    · split
      · exact ⟨d.buffers, d.copies, rfl⟩
      · obtain ⟨buffers, hwrite⟩ := changes_writeBuffer target targetOffset
          ((d.contents source).slice sourceOffset length) d
        split
        · rename_i hcall
          rw [hcall] at hwrite
          exact ⟨buffers, d.copies, hwrite⟩
        · rename_i hcall
          rw [hcall] at hwrite
          obtain rfl := hwrite
          exact ⟨buffers, d.copies + 1, rfl⟩

/-- What a call changes. -/
theorem changes_perform (request : HostRequest) (d : MemoryDevice) :
    Changes d request.kind (request.perform d).2 := by
  cases request with
  | compilePipeline key layout =>
    change Changes d .compiling (compilePipeline key d).2
    rw [compilePipeline]
    split
    · exact .compiling _ d.depthStencilCompilations d.failPipelines d.failDepthStencils
        (Nat.le_succ _) le_rfl
    · exact .compiling _ d.depthStencilCompilations _ d.failDepthStencils (Nat.le_succ _) le_rfl
  | compileDepthStencil key =>
    change Changes d .compiling (compileDepthStencil key d).2
    rw [compileDepthStencil]
    split
    · exact .compiling d.pipelineCompilations _ d.failPipelines d.failDepthStencils le_rfl
        (Nat.le_succ _)
    · exact .compiling d.pipelineCompilations _ d.failPipelines _ le_rfl (Nat.le_succ _)
  | createLayout layout => exact .layouts
  | createBuffer size label =>
    change Changes d .memory (createBuffer size d).2
    rw [createBuffer]
    split
    · exact .memory d.created d.buffers d.copies
    · exact .memory d.created d.buffers d.copies
    · exact .memory _ _ d.copies
  | releaseBuffer id => exact .memory d.created _ d.copies
  | writeBuffer id offset bytes =>
    obtain ⟨buffers, hwrite⟩ := changes_writeBuffer id offset bytes d
    change Changes d .memory (writeBuffer id offset bytes d).2
    rw [hwrite]
    exact .memory d.created buffers d.copies
  | copyBuffer source sourceOffset target targetOffset length =>
    obtain ⟨buffers, copies, hcopy⟩ :=
      changes_copyBuffer source sourceOffset target targetOffset length d
    change Changes d .memory (copyBuffer source sourceOffset target targetOffset length d).2
    rw [hcopy]
    exact .memory d.created buffers copies
  | applyGeometry geometry thread => exact .surface _
  | detachSurface thread => exact .surface _
  | resizeTargets width height => exact .targets width height
  | clear color => exact .clearing _
  | encodeDraw config call =>
    change Changes d .drawing (encodeDraw config call d).2
    rw [encodeDraw]
    split
    · exact .drawing d.pending d.failEncodes
    · split
      · exact .drawing _ d.failEncodes
      · exact .drawing _ _
  | submit => exact .submitting _ _
  | present => exact .presenting _

/-- A property that the changes of some kinds of calls keep is kept by the calls. -/
lemma keeps_of_changes {I : MemoryDevice → Prop} {kinds : List CallKind}
    (h : ∀ kind ∈ kinds, ∀ d d', Changes d kind d' → I d → I d') : Keeps I kinds :=
  fun request hkind d hd => h request.kind hkind d _ (changes_perform request d) hd

end MemoryDevice

end RenderBridge
