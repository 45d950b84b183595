import Mathlib.Tactic
import RenderBridge.Device.Basic
/-!
The calls of the engine to a device as data, and what it means for two devices to answer them alike.

* `Request`, `Request.perform`: a call, and its answer with the device after it.
* `Simulates S kinds`: calls of these kinds, made to devices in the relation `S`, give the same
  answer and leave devices in the relation.
* `Keeps I kinds`: calls of these kinds keep a property of one device; a simulation of the device
  with itself (`Keeps.simulates`).
-/

set_option autoImplicit false

namespace RenderBridge

/-- The broad kinds of calls to a device. -/
inductive CallKind
  | compiling
  | layouts
  | memory
  | surface
  | targets
  | clearing
  | drawing
  | submitting
  | presenting
deriving DecidableEq

/-- A call to a device with pipelines `P` and depth-stencil objects `D`. -/
inductive Request (P D : Type)
  | compilePipeline (key : PipelineKey) (layout : Option VertexLayout)
  | compileDepthStencil (key : DepthStencilKey)
  | createLayout (layout : VertexLayout)
  | createBuffer (size : ℕ) (label : Option String)
  | releaseBuffer (id : BufferId)
  | writeBuffer (id : BufferId) (offset : ℕ) (bytes : Bytes)
  | copyBuffer (source : BufferId) (sourceOffset : ℕ) (target : BufferId) (targetOffset : ℕ)
      (length : ℕ)
  | applyGeometry (geometry : SurfaceGeometry) (thread : String)
  | detachSurface (thread : String)
  | resizeTargets (width height : ℕ)
  | clear (color : Color)
  | encodeDraw (config : DrawConfig P D) (call : DrawCall)
  | submit
  | present

namespace Request

variable {δ δ' P D : Type}

def kind : Request P D → CallKind
  | compilePipeline .. | compileDepthStencil _ => .compiling
  | createLayout _ => .layouts
  | createBuffer .. | releaseBuffer _ | writeBuffer .. | copyBuffer .. => .memory
  | applyGeometry .. | detachSurface _ => .surface
  | resizeTargets .. => .targets
  | clear _ => .clearing
  | encodeDraw .. => .drawing
  | submit => .submitting
  | present => .presenting

/-- What a device answers where it does what it is asked for. -/
@[reducible]
def Answer : Request P D → Type
  | compilePipeline .. => P
  | compileDepthStencil _ => D
  | createLayout _ => VertexLayout
  | createBuffer .. => BufferId
  | _ => Unit

variable [Device δ P D] [Device δ' P D]

/-- Makes a call. Calls that cannot fail are answered well. -/
def perform (request : Request P D) (d : δ) : Except DeviceFault request.Answer × δ :=
  match request with
  | compilePipeline key layout => Device.compilePipeline key layout d
  | compileDepthStencil key => Device.compileDepthStencil key d
  | createLayout layout => Device.createLayout layout d
  | createBuffer size label => Device.createBuffer size label d
  | releaseBuffer id => (.ok (), Device.releaseBuffer id d)
  | writeBuffer id offset bytes => Device.writeBuffer id offset bytes d
  | copyBuffer source sourceOffset target targetOffset length =>
      Device.copyBuffer source sourceOffset target targetOffset length d
  | applyGeometry geometry thread => (.ok (), Device.applyGeometry geometry thread d)
  | detachSurface thread => (.ok (), Device.detachSurface thread d)
  | resizeTargets width height => Device.resizeTargets width height d
  | clear color => Device.clear color d
  | encodeDraw config call => Device.encodeDraw config call d
  | submit => Device.submit d
  | present => Device.present d

end Request

/-! ### Answering alike -/

variable {δ δ' α β γ P D : Type}

/-- The same answer, and states in the relation. -/
def Agree (S : δ → δ' → Prop) (out : α × δ) (out' : α × δ') : Prop :=
  out.1 = out'.1 ∧ S out.2 out'.2

namespace Agree

variable {S : δ → δ' → Prop}

/-- Two outcomes that agree, opened up. -/
lemma cases {out : α × δ} {out' : α × δ'} (h : Agree S out out') :
    ∃ a d d', out = (a, d) ∧ out' = (a, d') ∧ S d d' := by
  obtain ⟨a, d⟩ := out
  obtain ⟨a', d'⟩ := out'
  obtain ⟨rfl, hS⟩ := h
  exact ⟨a, d, d', rfl, rfl, hS⟩

end Agree

/-- Outcomes with a value between the answer and the state, equal but for states in the
relation. -/
def AgreeWith (S : δ → δ' → Prop) (out : α × β × δ) (out' : α × β × δ') : Prop :=
  out.1 = out'.1 ∧ Agree S out.2 out'.2

namespace AgreeWith

variable {S : δ → δ' → Prop}

/-- Two outcomes that agree, opened up. -/
lemma cases {out : α × β × δ} {out' : α × β × δ'} (h : AgreeWith S out out') :
    ∃ a b d d', out = (a, b, d) ∧ out' = (a, b, d') ∧ S d d' := by
  obtain ⟨a, rest⟩ := out
  obtain ⟨a', rest'⟩ := out'
  obtain ⟨rfl, hrest⟩ := h
  obtain ⟨b, d, d', rfl, rfl, hS⟩ := hrest.cases
  exact ⟨a, b, d, d', rfl, rfl, hS⟩

end AgreeWith

variable [Device δ P D] [Device δ' P D]

/-- Devices in the relation have one granule, and answer calls of these kinds alike. -/
structure Simulates (S : δ → δ' → Prop) (kinds : List CallKind) : Prop where
  granule : ∀ {d d'}, S d d' →
    Device.copyAlignment (P := P) (D := D) d = Device.copyAlignment (P := P) (D := D) d'
  call : ∀ request : Request P D, request.kind ∈ kinds → ∀ {d d'}, S d d' →
    Agree S (request.perform d) (request.perform d')

/-- Calls of these kinds keep a property of the device. -/
def Keeps (I : δ → Prop) (kinds : List CallKind) : Prop :=
  ∀ request : Request P D, request.kind ∈ kinds → ∀ d, I d → I (request.perform d).2

/-- A property that calls keep makes the device simulate itself. -/
lemma Keeps.simulates {I : δ → Prop} {kinds : List CallKind} (h : Keeps I kinds) :
    Simulates (fun d d' => d = d' ∧ I d) kinds where
  granule := by
    rintro d _ ⟨rfl, -⟩
    rfl
  call := by
    rintro request hkind d _ ⟨rfl, hd⟩
    exact ⟨rfl, rfl, h request hkind d hd⟩

end RenderBridge
