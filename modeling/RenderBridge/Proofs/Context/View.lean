import RenderBridge.Proofs.Buffer.Determined
import RenderBridge.Proofs.Context.Handles
/-!
What can be seen of runs, and what decides how their handles and bindings go on.

* `Op.notes`, `Op.Unwinds`: what an observer notes of a run, and views that change with that only.
* `Op.Unwinds.run_eq`: **runs of which an observer notes the same leave it the same view**, however
  many other operations there are in between.
* `HandleView`, `Op.handleView_congr`: which buffers there are, what is registered and what is bound
  follows from the operations; not from what buffers hold or what was drawn.
-/

set_option autoImplicit false

namespace RenderBridge

/-! ### Observers -/

namespace Op

variable {δ P D M V : Type} [Device δ P D]

/-- What an observer notes of a run. -/
def notes (note : Op → Context δ P D → Option M) : List Op → Context δ P D → List M
  | [], _ => []
  | op :: ops, c => (note op c).toList ++ notes note ops (op.apply c).2

/-- An observer that looks at operations alone. -/
lemma notes_eq_filterMap (f : Op → Option M) (ops : List Op) (c : Context δ P D) :
    notes (fun op _ => f op) ops c = ops.filterMap f := by
  induction ops generalizing c with
  | nil => rfl
  | cons op ops ih =>
    rw [notes, ih]
    cases hop : f op with
    | none => rw [List.filterMap_cons_none hop, Option.toList_none, List.nil_append]
    | some m => rw [List.filterMap_cons_some hop, Option.toList_some, List.singleton_append]

/-- The view of an observer changes with what it notes only: with nothing it stays, and the same
makes the same of equal views. -/
structure Unwinds (sound : Context δ P D → Prop) (view : Context δ P D → V)
    (note : Op → Context δ P D → Option M) : Prop where
  keeps : ∀ (op : Op) (c : Context δ P D), sound c → sound (op.apply c).2
  silent : ∀ (op : Op) (c : Context δ P D), sound c → note op c = none →
    view (op.apply c).2 = view c
  noted : ∀ (op op' : Op) (c c' : Context δ P D) (m : M), sound c → sound c' → view c = view c' →
    note op c = some m → note op' c' = some m → view (op.apply c).2 = view (op'.apply c').2

namespace Unwinds

variable {sound : Context δ P D → Prop} {view : Context δ P D → V}
  {note : Op → Context δ P D → Option M} {ops : List Op} {c : Context δ P D}

/-- Where nothing is noted, the view stays. -/
lemma run_of_nil (h : Unwinds sound view note) (hc : sound c) (hnotes : notes note ops c = []) :
    view (run ops c) = view c := by
  induction ops generalizing c with
  | nil => rfl
  | cons op ops ih =>
    obtain ⟨hop, hops⟩ := List.append_eq_nil_iff.mp hnotes
    have hsilent : note op c = none := Option.toList_eq_nil_iff.mp hop
    exact (ih (h.keeps op c hc) hops).trans (h.silent op c hc hsilent)

/-- A run goes on from the operation that is noted first, which still finds the view of the
start. -/
lemma exists_of_cons (h : Unwinds sound view note) (hc : sound c) {m : M} {ms : List M}
    (hnotes : notes note ops c = m :: ms) :
    ∃ op rest c₁, sound c₁ ∧ view c₁ = view c ∧ note op c₁ = some m ∧
      notes note rest (op.apply c₁).2 = ms ∧ run ops c = run rest (op.apply c₁).2 := by
  induction ops generalizing c with
  | nil => cases hnotes
  | cons op ops ih =>
    rw [notes] at hnotes
    cases hop : note op c with
    | some m' =>
      rw [hop] at hnotes
      obtain ⟨rfl, hrest⟩ := List.cons.inj hnotes
      exact ⟨op, ops, c, hc, rfl, hop, hrest, rfl⟩
    | none =>
      rw [hop, Option.toList_none, List.nil_append] at hnotes
      obtain ⟨op₁, rest, c₁, hc₁, hview, hnoted, hrest, hrun⟩ := ih (h.keeps op c hc) hnotes
      exact ⟨op₁, rest, c₁, hc₁, hview.trans (h.silent op c hc hop), hnoted, hrest, hrun⟩

/-- Runs of which the same is noted leave the same view. -/
theorem run_eq (h : Unwinds sound view note) {ops' : List Op} {c' : Context δ P D} (hc : sound c)
    (hc' : sound c') (hview : view c = view c') (hnotes : notes note ops c = notes note ops' c') :
    view (run ops c) = view (run ops' c') := by
  -- the induction is on what is noted: the runs need not have the same length
  generalize hms : notes note ops c = ms at hnotes
  induction ms generalizing ops ops' c c' with
  | nil => rw [h.run_of_nil hc hms, h.run_of_nil hc' hnotes.symm, hview]
  | cons m ms ih =>
    obtain ⟨op, rest, c₁, hc₁, hview₁, hop, hrest, hrun⟩ := h.exists_of_cons hc hms
    obtain ⟨op', rest', c₁', hc₁', hview₁', hop', hrest', hrun'⟩ :=
      h.exists_of_cons hc' hnotes.symm
    have hviews : view c₁ = view c₁' := by rw [hview₁, hview₁', hview]
    rw [hrun, hrun']
    exact ih (h.keeps op c₁ hc₁) (h.keeps op' c₁' hc₁')
      (h.noted op op' c₁ c₁' m hc₁ hc₁' hviews hop hop') hrest hrest'.symm

end Unwinds

end Op

/-! ### Handles and bindings -/

/-- What decides how handles and bindings go on. Of the buffers it is which ones there are, the
number of the next one, and what host memory has left for it. -/
@[ext]
structure HandleView where
  host : HostMemory
  live : BufferHandle → Bool
  nextBuffer : ℕ
  layouts : LayoutRegistry
  bindings : DrawBindings

namespace HandleView

/-- The view after a buffer is destroyed. -/
def destroy (buffer : BufferHandle) (v : HandleView) : HandleView :=
  { v with
    live := fun handle => decide (handle ≠ buffer) && v.live handle
    bindings := if v.live buffer then v.bindings.without buffer else v.bindings }

/-- The view after a buffer is bound with a layout. -/
def bindVertex (buffer : BufferHandle) (layout : LayoutHandle) (v : HandleView) : HandleView :=
  { v with
    bindings := if v.live buffer && v.layouts.records.contains layout then
      { v.bindings with vertex := some (buffer, layout) } else v.bindings }

/-- The view after a buffer is bound for indices. -/
def bindIndex (buffer : BufferHandle) (v : HandleView) : HandleView :=
  { v with
    bindings := if v.live buffer then { v.bindings with index := some buffer } else v.bindings }

end HandleView

variable {c c' : HostContext MemoryDevice}

namespace Context

/-- The view of handles and bindings of a context. -/
def handleView (c : HostContext MemoryDevice) : HandleView :=
  ⟨c.host, c.buffers.records.contains, c.buffers.nextNumber, c.layouts, c.bindings⟩

/-- A creation makes the same of equal views. -/
lemma createBuffer_handleView (h : c.handleView = c'.handleView)
    (halignment : c.device.alignment = c'.device.alignment) (usage size : ℤ)
    (data : Option Bytes) :
    (c.createBuffer usage size data).2.handleView =
      (c'.createBuffer usage size data).2.handleView := by
  obtain ⟨hhost, hlive, hnext, hlayouts, hbindings⟩ := HandleView.ext_iff.mp h
  change c.host = c'.host at hhost
  change c.buffers.nextNumber = c'.buffers.nextNumber at hnext
  rw [createBuffer, createBuffer]
  cases BufferUsage.ofToken usage with
  | error fault => exact h
  | ok use =>
    dsimp only
    rw [← hhost]
    have hanswer :=
      BufferAllocator.create_determined hnext.symm halignment.symm use size data c.host
    obtain ⟨hmade, hkept⟩ := c.buffers.create_answers use size data c.device c.host
    obtain ⟨hmade', hkept'⟩ := c'.buffers.create_answers use size data c'.device c.host
    -- both creations are answered alike, so one `cases` does for the two
    cases hcall : (c.buffers.create use size data c.device c.host).1 with
    | error fault =>
      rw [hkept fault hcall, hkept' fault (hanswer.trans hcall)]
      exact HandleView.ext rfl hlive hnext hlayouts hbindings
    | ok handle =>
      obtain ⟨r, hnew⟩ := hmade handle hcall
      obtain ⟨r', hnew'⟩ := hmade' handle (hanswer.trans hcall)
      rw [hnew, hnew']
      refine HandleView.ext rfl ?_ (congrArg (· + 1) hnext) hlayouts hbindings
      change (c.buffers.records.insert handle r).contains =
        (c'.buffers.records.insert handle r').contains
      rw [Table.contains_insert, Table.contains_insert]
      exact congrArg (fun live handle' => decide (handle' = handle) || live handle') hlive

/-- An update leaves the view. -/
lemma updateBuffer_handleView (c : HostContext MemoryDevice) (buffer : BufferHandle) (offset : ℤ)
    (data : Option Bytes) (length : ℤ) :
    (c.updateBuffer buffer offset data length).2.handleView = c.handleView := by
  rw [updateBuffer]
  dsimp only
  rcases c.buffers.update_replaces buffer offset data length c.serial c.device with
    hsame | ⟨r, r', ring, hlive, -, hnew⟩
  · rw [hsame]
    rfl
  · rw [hnew]
    refine HandleView.ext rfl ?_ rfl rfl rfl
    have hthere := Table.contains_of_some hlive
    change (c.buffers.records.insert buffer r').contains = c.buffers.records.contains
    rw [Table.contains_insert]
    funext handle
    by_cases hhandle : handle = buffer
    · simp [hhandle, hthere]
    · simp [hhandle]

lemma destroyBuffer_handleView (c : HostContext MemoryDevice) (buffer : BufferHandle) :
    (c.destroyBuffer buffer).2.handleView = c.handleView.destroy buffer := by
  rw [destroyBuffer, BufferAllocator.destroy, HandleView.destroy]
  rcases c.buffers.find_cases buffer with ⟨r, hlive, hfind⟩ | ⟨hgone, hfind⟩
  · have hthere : c.handleView.live buffer = true := Table.contains_of_some hlive
    rw [hfind, hthere]
    exact HandleView.ext rfl (Table.contains_erase _ _) rfl rfl rfl
  · have hgone : c.handleView.live buffer = false := Table.contains_of_none hgone
    rw [hfind, hgone]
    refine HandleView.ext rfl (funext fun handle => ?_) rfl rfl rfl
    change c.handleView.live handle = (decide (handle ≠ buffer) && c.handleView.live handle)
    by_cases hhandle : handle = buffer
    · rw [hhandle, hgone, Bool.and_false]
    · rw [decide_eq_true hhandle, Bool.true_and]

lemma bindVertex_handleView (c : HostContext MemoryDevice) (buffer : BufferHandle)
    (layout : LayoutHandle) :
    (c.bindVertex buffer layout).2.handleView = c.handleView.bindVertex buffer layout := by
  rw [bindVertex, BufferAllocator.find, LayoutRegistry.find, HandleView.bindVertex]
  cases hbuffer : c.buffers.records.get? buffer with
  | none =>
    have hgone : c.handleView.live buffer = false := Table.contains_of_none hbuffer
    rw [hgone]
    rfl
  | some r =>
    have hthere : c.handleView.live buffer = true := Table.contains_of_some hbuffer
    rw [hthere]
    cases hlayout : c.layouts.records.get? layout with
    | none =>
      have hgone : c.handleView.layouts.records.contains layout = false :=
        Table.contains_of_none hlayout
      rw [hgone]
      rfl
    | some record =>
      have hregistered : c.handleView.layouts.records.contains layout = true :=
        Table.contains_of_some hlayout
      rw [hregistered]
      rfl

lemma bindIndex_handleView (c : HostContext MemoryDevice) (buffer : BufferHandle) :
    (c.bindIndex buffer).2.handleView = c.handleView.bindIndex buffer := by
  rw [bindIndex, HandleView.bindIndex]
  rcases c.buffers.find_cases buffer with ⟨r, hlive, hfind⟩ | ⟨hgone, hfind⟩
  · have hthere : c.handleView.live buffer = true := Table.contains_of_some hlive
    rw [hfind, hthere]
    rfl
  · have hgone : c.handleView.live buffer = false := Table.contains_of_none hgone
    rw [hfind, hgone]
    rfl

/-- A registration makes the same of equal views: the device refuses no layout. -/
lemma registerLayout_handleView (h : c.handleView = c'.handleView) (stride count : ℤ)
    (packed : Bytes) :
    (c.registerLayout stride count packed).2.handleView =
      (c'.registerLayout stride count packed).2.handleView := by
  obtain ⟨hhost, hlive, hnext, hlayouts, hbindings⟩ := HandleView.ext_iff.mp h
  change c.layouts = c'.layouts at hlayouts
  rw [registerLayout, registerLayout, LayoutRegistry.register, LayoutRegistry.register, hlayouts]
  cases VertexLayout.parse stride count packed with
  | error fault => exact HandleView.ext hhost hlive hnext rfl hbindings
  | ok layout => exact HandleView.ext hhost hlive hnext rfl hbindings

end Context

namespace Op

/-- The view stays with all other operations. -/
lemma handleView_eq {op : Op} (hcalls : op.calls ≠ []) (hmemory : .memory ∉ op.calls)
    (hlayouts : .layouts ∉ op.calls) (c : HostContext MemoryDevice) :
    (op.apply c).2.handleView = c.handleView := by
  have hchanges := op.changes_apply c
  rw [Context.handleView, hchanges.host_eq, hchanges.buffers_eq hmemory,
    hchanges.layouts_eq hlayouts, hchanges.bindings_eq hcalls hmemory]
  rfl

/-- An operation makes the same of equal handles and bindings. -/
theorem handleView_congr (op : Op) (h : c.handleView = c'.handleView)
    (halignment : c.device.alignment = c'.device.alignment) :
    (op.apply c).2.handleView = (op.apply c').2.handleView := by
  cases op with
  | set setting =>
    rw [apply, apply, replyWith_snd, replyWith_snd]
    exact h
  | createBuffer usage size data =>
    rw [apply, apply, replyWith_snd, replyWith_snd]
    exact Context.createBuffer_handleView h halignment usage size data
  | updateBuffer buffer offset data length =>
    rw [apply, apply, replyWith_snd, replyWith_snd, Context.updateBuffer_handleView,
      Context.updateBuffer_handleView, h]
  | destroyBuffer buffer =>
    rw [apply, apply, replyWith_snd, replyWith_snd, Context.destroyBuffer_handleView,
      Context.destroyBuffer_handleView, h]
  | registerLayout stride count packed =>
    rw [apply, apply, replyWith_snd, replyWith_snd]
    exact Context.registerLayout_handleView h stride count packed
  | bindVertex buffer layout =>
    rw [apply, apply, replyWith_snd, replyWith_snd, Context.bindVertex_handleView,
      Context.bindVertex_handleView, h]
  | bindIndex buffer =>
    rw [apply, apply, replyWith_snd, replyWith_snd, Context.bindIndex_handleView,
      Context.bindIndex_handleView, h]
  | _ =>
    rw [handleView_eq (by simp [calls]) (by simp [calls]) (by simp [calls]),
      handleView_eq (by simp [calls]) (by simp [calls]) (by simp [calls]), h]

end Op

end RenderBridge
