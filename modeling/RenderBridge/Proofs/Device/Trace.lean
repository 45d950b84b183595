import RenderBridge.Proofs.Device.Request
/-!
A device that keeps a trace of the calls made to it, with its states around each call.

* `Exchange`, `Exchange.Genuine`: a call with what came of it, as the device really answers.
* `Traced`: a device with its trace; it answers as the device itself does (`Traced.simulates`), and
  its answers do not depend on the trace (`Traced.simulates_prepend`).
* `Traced.created`: the buffers that the calls made, each after its size.
* `Linked`: calls made one after the other, from one state of the device to another.
-/

set_option autoImplicit false

namespace RenderBridge

variable {δ P D : Type}

/-- A call to a device, whether the device did it, and the states before and after. -/
structure Exchange (δ P D : Type) where
  request : Request P D
  accepted : Bool
  before : δ
  after : δ

/-- A device with the calls made to it so far. -/
structure Traced (δ P D : Type) where
  device : δ
  exchanges : List (Exchange δ P D) := []

variable [Device δ P D]

/-- The call of a device in a state. -/
def Exchange.of (request : Request P D) (d : δ) : Exchange δ P D where
  request := request
  accepted := (request.perform d).1.isOk
  before := d
  after := (request.perform d).2

/-- The buffer that a call makes, after its size. -/
def Exchange.created (e : Exchange δ P D) : Option (ℕ × BufferId) :=
  match e.request with
  | .createBuffer size label =>
    match (Device.createBuffer size label e.before).1 with
    | .ok buffer => some (size, buffer)
    | .error _ => none
  | _ => none

/-- The device does answer so. -/
def Exchange.Genuine (e : Exchange δ P D) : Prop := e = .of e.request e.before

/-! ### The device with its trace -/

namespace Traced

/-- Makes a call and notes it. -/
def call (request : Request P D) (t : Traced δ P D) :
    Except DeviceFault request.Answer × Traced δ P D :=
  let (answer, device) := request.perform t.device
  (answer, ⟨device, t.exchanges ++ [.of request t.device]⟩)

instance : Device (Traced δ P D) P D where
  compilePipeline key layout := call (.compilePipeline key layout)
  compileDepthStencil key := call (.compileDepthStencil key)
  createLayout layout := call (.createLayout layout)
  createBuffer size label := call (.createBuffer size label)
  releaseBuffer id t := (t.call (.releaseBuffer id)).2
  copyAlignment t := Device.copyAlignment (P := P) (D := D) t.device
  writeBuffer id offset bytes := call (.writeBuffer id offset bytes)
  copyBuffer source sourceOffset target targetOffset length :=
    call (.copyBuffer source sourceOffset target targetOffset length)
  applyGeometry geometry thread t := (t.call (.applyGeometry geometry thread)).2
  detachSurface thread t := (t.call (.detachSurface thread)).2
  resizeTargets width height := call (.resizeTargets width height)
  clear color := call (.clear color)
  encodeDraw config drawCall := call (.encodeDraw config drawCall)
  submit := call .submit
  present := call .present

lemma perform_eq_call (request : Request P D) (t : Traced δ P D) :
    request.perform t = t.call request := by
  cases request <;> rfl

/-- What a call makes of the trace. -/
lemma call_eq {request : Request P D} {t : Traced δ P D} {d : δ}
    {answer : Except DeviceFault request.Answer} (h : request.perform t.device = (answer, d)) :
    t.call request =
      (answer, ⟨d, t.exchanges ++ [⟨request, answer.isOk, t.device, d⟩]⟩) := by
  rw [call, Exchange.of, h]

/-- The buffers made so far, each after its size. -/
def created (t : Traced δ P D) : List (ℕ × BufferId) := t.exchanges.filterMap Exchange.created

/-- What making a buffer notes. -/
lemma created_of_createBuffer {size : ℕ} {label : Option String} {t t' : Traced δ P D}
    {buffer : BufferId} (h : Device.createBuffer size label t = (.ok buffer, t')) :
    t'.created = t.created ++ [(size, buffer)] := by
  have hanswer : (Device.createBuffer size label t.device).1 = .ok buffer := congrArg Prod.fst h
  have htrace : t'.exchanges = t.exchanges ++ [.of (.createBuffer size label) t.device] :=
    congrArg (fun out => out.2.exchanges) h.symm
  have hcreated : Exchange.created (.of (.createBuffer size label) t.device) =
      some (size, buffer) := by
    simp [Exchange.created, Exchange.of, hanswer]
  simp [created, htrace, hcreated]

/-- What was made stays noted. -/
lemma keeps_mem_created (made : ℕ × BufferId) (kinds : List CallKind) :
    Keeps (fun t : Traced δ P D => made ∈ t.created) kinds := by
  rintro request - t hmade
  rw [perform_eq_call]
  simp only [created, call, List.filterMap_append, List.mem_append]
  exact .inl hmade

/-- The trace does not change the answers. -/
theorem simulates (kinds : List CallKind) :
    Simulates (fun (t : Traced δ P D) (d : δ) => d = t.device) kinds where
  granule := by
    rintro t _ rfl
    rfl
  call := by
    rintro request - t _ rfl
    rw [perform_eq_call]
    exact ⟨rfl, rfl⟩

/-- Nothing depends on what the trace was before. -/
theorem simulates_prepend (earlier : List (Exchange δ P D)) (kinds : List CallKind) :
    Simulates (fun t t' : Traced δ P D => t' = ⟨t.device, earlier ++ t.exchanges⟩) kinds where
  granule := by
    rintro t _ rfl
    rfl
  call := by
    rintro request - t _ rfl
    rw [perform_eq_call, perform_eq_call, call, call]
    exact ⟨rfl, by rw [List.append_assoc]⟩

/-- What the calls of a device keep, they keep of the device under the trace. -/
lemma keeps {I : δ → Prop} {kinds : List CallKind} (h : Keeps I kinds) :
    Keeps (fun t : Traced δ P D => I t.device) kinds := by
  intro request hkind t ht
  rw [perform_eq_call]
  exact h request hkind t.device ht

end Traced

/-! ### One call after the other -/

/-- The calls lead from one state of the device to another, each as the device answers it. -/
def Linked : δ → List (Exchange δ P D) → δ → Prop
  | d, [], d' => d = d'
  | d, e :: es, d' => e = .of e.request d ∧ Linked e.after es d'

namespace Linked

variable {d d' d'' : δ} {es es' : List (Exchange δ P D)}

lemma append (h : Linked d es d') (h' : Linked d' es' d'') : Linked d (es ++ es') d'' := by
  induction es generalizing d with
  | nil =>
    obtain rfl : d = d' := h
    exact h'
  | cons e es ih => exact ⟨h.1, ih h.2⟩

/-- Calls in two parts, with the state between them. -/
lemma of_append (h : Linked d (es ++ es') d'') : ∃ d', Linked d es d' ∧ Linked d' es' d'' := by
  induction es generalizing d with
  | nil => exact ⟨d, rfl, h⟩
  | cons e es ih =>
    obtain ⟨d', hes, hes'⟩ := ih h.2
    exact ⟨d', ⟨h.1, hes⟩, hes'⟩

lemma single (request : Request P D) (d : δ) :
    Linked d [.of request d] (request.perform d).2 := ⟨rfl, rfl⟩

/-- What calls keep holds before and after each, from the first state on. -/
lemma keeps {I : δ → Prop} {kinds : List CallKind} (hI : Keeps I kinds) (h : Linked d es d')
    (hkinds : ∀ e ∈ es, e.request.kind ∈ kinds) (hd : I d) :
    (∀ e ∈ es, e.Genuine ∧ I e.before ∧ I e.after) ∧ I d' := by
  induction es generalizing d with
  | nil =>
    obtain rfl : d = d' := h
    exact ⟨by simp, hd⟩
  | cons e es ih =>
    obtain ⟨he, hrest⟩ := h
    have hafter : I e.after := by
      rw [he]
      exact hI e.request (hkinds e (by simp)) d hd
    obtain ⟨hes, hd'⟩ := ih hrest (fun e he => hkinds e (List.mem_cons_of_mem _ he)) hafter
    refine ⟨?_, hd'⟩
    intro f hf
    rcases List.mem_cons.mp hf with rfl | hf
    · have hbefore : f.before = d := by rw [he]; rfl
      exact ⟨by rw [Exchange.Genuine, hbefore]; exact he, by rw [hbefore]; exact hd, hafter⟩
    · exact hes f hf

end Linked

end RenderBridge
