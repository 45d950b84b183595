import RenderBridge.Proofs.Context.Draw
import RenderBridge.Proofs.Trace
/-!
Units of work: the calls that encode and submit one, and what the operation answers.

* `Traced.Compiles`: the calls of a look-up of compiled objects, and when it succeeds.
* `Op.Forms`: the units of work. Every clear is one; a draw is one as soon as its state is resolved.
* `Op.Submits`, `Op.submits_of_forms`: **a unit is encoded and then submitted**, whatever comes of
  encoding it; the operation answers the failure to encode, or else the failure to submit.
* `Op.kind_of_not_forms`: nothing else is encoded or submitted.
-/

set_option autoImplicit false

namespace RenderBridge

variable {δ P D : Type} [Device δ P D]

/-! ### Look-ups -/

/-- From one state of a traced device to another only compile calls are made; all of them are done
exactly where `done` says so. -/
def Traced.Compiles (t t' : Traced δ P D) (done : Bool) : Prop :=
  ∃ compiled, t'.exchanges = t.exchanges ++ compiled ∧
    (∀ e ∈ compiled, e.request.kind = .compiling) ∧
    (done = true ↔ ∀ e ∈ compiled, e.accepted = true)

namespace Traced.Compiles

variable {t t' t'' : Traced δ P D} {done : Bool}

omit [Device δ P D] in
lemma refl (t : Traced δ P D) : Compiles t t true := ⟨[], by simp, by simp, by simp⟩

lemma call (request : Request P D) (hkind : request.kind = .compiling) (t : Traced δ P D) :
    Compiles t (t.call request).2 (t.call request).1.isOk := by
  refine ⟨[.of request t.device], rfl, fun e he => ?_, ?_⟩
  · rw [List.mem_singleton.mp he]
    exact hkind
  · rw [List.forall_mem_singleton]
    exact Iff.rfl

omit [Device δ P D] in
lemma trans (h : Compiles t t' true) (h' : Compiles t' t'' done) : Compiles t t'' done := by
  obtain ⟨compiled, hexchanges, hkinds, hdone⟩ := h
  obtain ⟨compiled', hexchanges', hkinds', hdone'⟩ := h'
  refine ⟨compiled ++ compiled', by rw [hexchanges', hexchanges, List.append_assoc],
    List.forall_mem_append.mpr ⟨hkinds, hkinds'⟩, ?_⟩
  rw [hdone', List.forall_mem_append]
  exact ⟨fun h => ⟨hdone.mp rfl, h⟩, fun h => h.2⟩

end Traced.Compiles

lemma Cache.pipeline_compiles (cache : Cache P D) (key : PipelineKey)
    (layout : Option VertexLayout) (t : Traced δ P D) :
    t.Compiles (cache.pipeline key layout t).2.2 (cache.pipeline key layout t).1.isOk := by
  have hcall := Traced.Compiles.call (.compilePipeline key layout) rfl t
  rcases cache.pipeline_cases key layout t with ⟨p, cache', -, heq, -, -⟩ |
      ⟨p, cache', t', -, hcompile, heq, -, -⟩ | ⟨reason, fault, cache', t', -, hcompile, heq, -, -⟩
  · rw [heq]
    exact .refl t
  · rw [heq]
    rw [← Traced.perform_eq_call, Request.perform, hcompile] at hcall
    exact hcall
  · rw [heq]
    rw [← Traced.perform_eq_call, Request.perform, hcompile] at hcall
    exact hcall

lemma Cache.depthStencil_compiles (cache : Cache P D) (key : DepthStencilKey)
    (t : Traced δ P D) :
    t.Compiles (cache.depthStencil key t).2.2 (cache.depthStencil key t).1.isOk := by
  have hcall := Traced.Compiles.call (.compileDepthStencil key) rfl t
  rcases cache.depthStencil_cases key t with ⟨p, cache', -, heq, -, -⟩ |
      ⟨p, cache', t', -, hcompile, heq, -, -⟩ | ⟨reason, fault, cache', t', -, hcompile, heq, -, -⟩
  · rw [heq]
    exact .refl t
  · rw [heq]
    rw [← Traced.perform_eq_call, Request.perform, hcompile] at hcall
    exact hcall
  · rw [heq]
    rw [← Traced.perform_eq_call, Request.perform, hcompile] at hcall
    exact hcall

/-- A state that passes the checks is resolved exactly where the device compiles all it is asked
for. -/
lemma DrawConfig.resolve_compiles {s : Snapshot} (hcheck : s.check = .ok ()) (target : DrawTarget)
    (layout : Option VertexLayout) (cache : Cache P D) (t : Traced δ P D) :
    t.Compiles (resolve s target layout cache t).2.2 (resolve s target layout cache t).1.isOk := by
  have hpipeline := cache.pipeline_compiles (.of s target) layout t
  rcases resolve_cases s target layout cache t with
    ⟨fault, herror, -⟩ | ⟨fault, cache₁, t₁, hp, heq⟩ |
      ⟨p, fault, cache₁, t₁, cache₂, t₂, hp, hq, heq⟩ |
        ⟨p, q, cache₁, t₁, cache₂, t₂, hp, hq, heq⟩
  · cases hcheck.symm.trans herror
  · rw [hp] at hpipeline
    rw [heq]
    exact hpipeline
  · have hdepthStencil := cache₁.depthStencil_compiles (.of s) t₁
    rw [hp] at hpipeline
    rw [hq] at hdepthStencil
    rw [heq]
    exact hpipeline.trans hdepthStencil
  · have hdepthStencil := cache₁.depthStencil_compiles (.of s) t₁
    rw [hp] at hpipeline
    rw [hq] at hdepthStencil
    rw [heq]
    exact hpipeline.trans hdepthStencil

/-- A state that does not pass the checks is not resolved, and nothing is asked of the device. -/
lemma DrawConfig.resolve_of_check {s : Snapshot} {fault : Fault} (hcheck : s.check = .error fault)
    (target : DrawTarget) (layout : Option VertexLayout) (cache : Cache P D) (d : δ) :
    resolve s target layout cache d = (.error fault, cache, d) := by
  rw [resolve, hcheck]

/-- Resolving on a traced device does what it does on the device. It only compiles, and a state that
passes the checks is resolved exactly where all of that is done. -/
lemma Context.resolveDraw_traced (c : Context δ P D) (topology : Topology) (inputs : DrawInputs) :
    ∃ compiled, (c.traced []).resolveDraw topology inputs =
        ((c.resolveDraw topology inputs).1, (c.resolveDraw topology inputs).2.1,
          ⟨(c.resolveDraw topology inputs).2.2, compiled⟩) ∧
      (∀ e ∈ compiled, e.request.kind = .compiling) ∧
      (c.tracker.snapshot.check = .ok () →
        ((c.resolveDraw topology inputs).1.isOk = true ↔ ∀ e ∈ compiled, e.accepted = true)) := by
  obtain ⟨answer, cache, t, d, ht, hd, rfl⟩ := (DrawConfig.resolve_agree
    (Traced.simulates [.compiling]) (List.mem_singleton.mpr rfl)
    (rfl : (c.traced []).device.device = (c.traced []).device.device) c.tracker.snapshot
    (c.drawTarget topology (inputs.layout.map (·.1))) (inputs.layout.map (·.2)) c.cache).cases
  have hplain : c.resolveDraw topology inputs = (answer, cache, t.device) := hd
  have htraced : (c.traced []).resolveDraw topology inputs = (answer, cache, t) := ht
  rw [hplain, htraced]
  refine ⟨t.exchanges, rfl, ?_⟩
  cases hcheck : c.tracker.snapshot.check with
  | error fault =>
    cases ht.symm.trans (DrawConfig.resolve_of_check hcheck _ _ _ _)
    exact ⟨List.forall_mem_nil _, nofun⟩
  | ok _ =>
    obtain ⟨compiled, hexchanges, hkinds, hdone⟩ := DrawConfig.resolve_compiles hcheck
      (c.drawTarget topology (inputs.layout.map (·.1))) (inputs.layout.map (·.2)) c.cache
      (c.traced []).device
    rw [ht] at hexchanges hdone
    obtain rfl : t.exchanges = compiled := hexchanges
    exact ⟨hkinds, fun _ => hdone⟩

namespace Context

variable {c : Context δ P D} {kind : DrawKind}

/-- A draw without its inputs ends with their failure. -/
lemma drawUnit_of_refused {fault : Fault} (hinputs : c.drawInputs kind = .error fault)
    (topology : Topology) : c.drawUnit topology kind = (.error fault, c) := by
  rw [drawUnit, hinputs]

/-- A draw with its inputs depends on whether its state is resolved. -/
lemma drawUnit_eq {inputs : DrawInputs} (hinputs : c.drawInputs kind = .ok inputs)
    (topology : Topology) :
    c.drawUnit topology kind =
      match c.resolveDraw topology inputs with
      | (.error fault, cache, d) => (.error fault, { c with cache := cache, device := d })
      | (.ok config, cache, d) =>
        { c with
          cache := cache
          device := (Device.encodeDraw config ⟨kind, inputs.vertex, inputs.index⟩ d).2
          }.submitUnit (Device.encodeDraw config ⟨kind, inputs.vertex, inputs.index⟩ d).1 := by
  rw [drawUnit, hinputs]
  rfl

end Context

/-! ### Submitting -/

/-- The failure in the answer of a device, if there is one. -/
def failureOf {α : Type} : Except DeviceFault α → Option DeviceFault
  | .ok _ => none
  | .error fault => some fault

/-- Why a call fails, where it does. -/
def Request.failure (request : Request P D) (d : δ) : Option DeviceFault :=
  failureOf (request.perform d).1

lemma Exchange.accepted_of_iff (request : Request P D) (d : δ) :
    (of request d).accepted = true ↔ request.failure d = none := by
  rw [of, Request.failure]
  cases (request.perform d).1 with
  | ok answer => exact iff_of_true rfl rfl
  | error fault =>
    refine iff_of_false (fun h => ?_) fun h => ?_
    · cases h
    · cases h

/-- The answer to a unit: the failure to encode it, or else the failure to submit it. -/
def Fault.orDone {α : Type} (encoding submission : Option DeviceFault) (done : α) :
    Except Fault α :=
  match encoding <|> submission with
  | none => .ok done
  | some fault => .error (.ofDevice fault)

/-- A unit is submitted in one call. -/
lemma Context.submitUnit_traced (c : Context δ P D) (encoded : Except DeviceFault Unit)
    (es : List (Exchange δ P D)) :
    ((c.traced es).submitUnit encoded).1 =
        Fault.orDone (failureOf encoded) (Request.failure (.submit : Request P D) c.device) () ∧
      ((c.traced es).submitUnit encoded).2.device.exchanges = es ++ [.of .submit c.device] := by
  have hcall : (Device.submit (c.traced es).device : Except DeviceFault Unit × Traced δ P D) =
      ((Device.submit c.device).1,
        ⟨(Device.submit c.device).2, es ++ [.of .submit c.device]⟩) := rfl
  rw [submitUnit, FrameSerial.submit, hcall, Request.failure, Request.perform]
  rcases Device.submit c.device with ⟨submitted, d⟩
  cases encoded <;> cases submitted <;> exact ⟨rfl, rfl⟩

/-! ### Units -/

/-- A color with every component brought into `[0, 1]`. -/
def Context.clampColor (color : Color) : Color :=
  ⟨clampComponent color.red, clampComponent color.green, clampComponent color.blue,
    clampComponent color.alpha⟩

namespace Op

/-- The unit of work of an operation: the call that encodes it, and the device that the call is made
to. Every clear is one, with its color brought into `[0, 1]`; a draw is one as soon as its state is
resolved. -/
inductive Forms (c : Context δ P D) : Op → Request P D → δ → Prop
  | clear (color : Color) :
      Forms c (.clear color)
        (.clear (Context.clampColor color)) c.device
  | draw {op : Op} {topology : Topology} {kind : DrawKind} {inputs : DrawInputs}
      {config : DrawConfig P D} {cache : Cache P D} {d : δ} (draws : op.Draws topology kind)
      (inputs_eq : c.drawInputs kind = .ok inputs)
      (resolved : c.resolveDraw topology inputs = (.ok config, cache, d)) :
      Forms c op (.encodeDraw config ⟨kind, inputs.vertex, inputs.index⟩) d

/-- What an operation with a unit does: it may compile, then encodes and submits, and answers the
first failure of these two. -/
def Submits (op : Op) (c : Context δ P D) (request : Request P D) (d : δ) : Prop :=
  ∃ compiled, (∀ e ∈ compiled, e.request.kind = .compiling ∧ e.accepted = true) ∧
    op.exchanges c = compiled ++ [.of request d, .of .submit (request.perform d).2] ∧
    (op.apply c).1 = Fault.orDone (request.failure d)
      (Request.failure (.submit : Request P D) (request.perform d).2) .done


/-- An operation is done with what its unit gives. -/
lemma submits_of_apply {op : Op} {c : Context δ P D} {request : Request P D} {d : δ}
    {compiled : List (Exchange δ P D)} {out : Except Fault Unit × Context (Traced δ P D) P D}
    (happly : op.apply (c.traced []) = replyWith (fun _ => .done) out)
    (hcompiled : ∀ e ∈ compiled, e.request.kind = .compiling ∧ e.accepted = true)
    (hanswer : out.1 = Fault.orDone (request.failure d)
      (Request.failure (.submit : Request P D) (request.perform d).2) ())
    (hexchanges : out.2.device.exchanges =
      compiled ++ [.of request d, .of .submit (request.perform d).2]) :
    op.Submits c request d := by
  refine ⟨compiled, hcompiled, ?_, ?_⟩
  · rw [exchanges, happly, replyWith_snd, hexchanges]
  · have htraced := congrArg Prod.fst (op.apply_traced c [])
    obtain ⟨answer, c'⟩ := out
    obtain rfl := hanswer
    rw [← htraced, happly, Fault.orDone, Fault.orDone]
    cases request.failure d <|>
      Request.failure (.submit : Request P D) (request.perform d).2 <;> rfl

/-- A clear is encoded and submitted. -/
lemma submits_of_clear (c : Context δ P D) (color : Color) :
    Submits (.clear color) c (.clear (Context.clampColor color)) c.device := by
  obtain ⟨hanswer, hexchanges⟩ := Context.submitUnit_traced
    { c with device := (Device.clear (Context.clampColor color) c.device).2 }
    (Device.clear (Context.clampColor color) c.device).1
    [.of (.clear (Context.clampColor color)) c.device]
  exact submits_of_apply rfl (List.forall_mem_nil _) hanswer hexchanges

/-- An operation that draws is its draw unit. -/
lemma Draws.apply_eq {op : Op} {topology : Topology} {kind : DrawKind}
    (h : op.Draws topology kind) (c : Context δ P D) :
    op.apply c = replyWith (fun _ => .done) (c.drawUnit topology kind) := by
  cases h with
  | vertices mode_eq first_nonneg count_pos =>
    rw [apply, Context.draw, mode_eq]
    dsimp only
    rw [if_neg (by omega), if_neg (by omega)]
  | indexed mode_eq format_eq count_pos =>
    rw [apply, Context.drawIndexed, mode_eq, format_eq]
    dsimp only
    rw [if_neg (by omega), if_neg (by omega)]

/-- A draw whose state is resolved is encoded and submitted. -/
lemma submits_of_draws {op : Op} {c : Context δ P D} {topology : Topology} {kind : DrawKind}
    {inputs : DrawInputs} {config : DrawConfig P D} {cache : Cache P D} {d : δ}
    (hdraws : op.Draws topology kind) (hinputs : c.drawInputs kind = .ok inputs)
    (hresolved : c.resolveDraw topology inputs = (.ok config, cache, d)) :
    op.Submits c (.encodeDraw config ⟨kind, inputs.vertex, inputs.index⟩) d := by
  have hcheck : c.tracker.snapshot.check = .ok () := by
    cases hcheck : c.tracker.snapshot.check with
    | ok _ => rfl
    | error fault => cases hresolved.symm.trans (DrawConfig.resolve_of_check hcheck _ _ _ _)
  obtain ⟨compiled, htraced, hkinds, hdone⟩ := c.resolveDraw_traced topology inputs
  rw [hresolved] at htraced hdone
  obtain ⟨hanswer, hexchanges⟩ := Context.submitUnit_traced
    { c with
      cache := cache
      device := (Device.encodeDraw config ⟨kind, inputs.vertex, inputs.index⟩ d).2 }
    (Device.encodeDraw config ⟨kind, inputs.vertex, inputs.index⟩ d).1
    (compiled ++ [.of (.encodeDraw config ⟨kind, inputs.vertex, inputs.index⟩) d])
  have happly := hdraws.apply_eq (c.traced [])
  rw [Context.drawUnit_eq (c := c.traced []) hinputs, htraced] at happly
  refine submits_of_apply happly (fun e he => ⟨hkinds e he, (hdone hcheck).mp rfl e he⟩) hanswer
    (hexchanges.trans ?_)
  rw [List.append_assoc]
  rfl

/-- A draw whose state cannot be resolved only compiles. Where the state passes the checks, some of
that was refused. -/
lemma exchanges_of_unresolved {op : Op} {c : Context δ P D} {topology : Topology} {kind : DrawKind}
    {inputs : DrawInputs} {fault : Fault} {cache : Cache P D} {d : δ}
    (hdraws : op.Draws topology kind) (hinputs : c.drawInputs kind = .ok inputs)
    (hresolved : c.resolveDraw topology inputs = (.error fault, cache, d)) :
    op.apply c = (.error fault, { c with cache := cache, device := d }) ∧
      (∀ e ∈ op.exchanges c, e.request.kind = .compiling) ∧
      (c.tracker.snapshot.check = .ok () → ∃ e ∈ op.exchanges c, e.accepted = false) := by
  obtain ⟨compiled, htraced, hkinds, hdone⟩ := c.resolveDraw_traced topology inputs
  rw [hresolved] at htraced hdone
  have hexchanges : op.exchanges c = compiled := by
    rw [exchanges, hdraws.apply_eq, replyWith_snd, Context.drawUnit_eq (c := c.traced []) hinputs,
      htraced]
  rw [hexchanges]
  refine ⟨?_, hkinds, fun hcheck => ?_⟩
  · rw [hdraws.apply_eq, Context.drawUnit_eq hinputs, hresolved]
    rfl
  · by_contra hnone
    push Not at hnone
    cases (hdone hcheck).mpr fun e he => Bool.eq_true_of_not_eq_false (hnone e he)

/-- A unit is encoded and submitted, whatever comes of its encoding. -/
theorem submits_of_forms {op : Op} {c : Context δ P D} {request : Request P D} {d : δ}
    (h : op.Forms c request d) : op.Submits c request d := by
  cases h with
  | clear color => exact submits_of_clear c color
  | draw draws inputs_eq resolved => exact submits_of_draws draws inputs_eq resolved

/-- The device is led through compiling to the encoding of the unit, and on to its submission. -/
lemma linked_of_forms {op : Op} {c : Context δ P D} {request : Request P D} {d : δ}
    (h : op.Forms c request d) :
    ∃ compiled, (∀ e ∈ compiled, e.request.kind = .compiling) ∧
      op.exchanges c = compiled ++ [.of request d, .of .submit (request.perform d).2] ∧
      Linked c.device compiled d ∧
      (Request.perform (.submit : Request P D) (request.perform d).2).2 =
        (op.apply c).2.device := by
  obtain ⟨compiled, hcompiled, hexchanges, -⟩ := submits_of_forms h
  obtain ⟨hlinked, -⟩ := op.linked_exchanges c
  rw [hexchanges] at hlinked
  obtain ⟨d₁, hbefore, hunit⟩ := hlinked.of_append
  obtain rfl : d = d₁ := congrArg Exchange.before hunit.1
  exact ⟨compiled, fun e he => (hcompiled e he).1, hexchanges, hbefore, hunit.2.2⟩

/-- A unit is submitted in exactly one call. -/
lemma Submits.countP_submitting {op : Op} {c : Context δ P D} {request : Request P D} {d : δ}
    (h : op.Submits c request d) (hkind : request.kind ≠ .submitting) :
    (op.exchanges c).countP (·.request.kind = .submitting) = 1 := by
  obtain ⟨compiled, hcompiled, hexchanges, -⟩ := h
  have hnone : compiled.countP (·.request.kind = .submitting) = 0 := by
    rw [List.countP_eq_zero]
    intro e he
    rw [(hcompiled e he).1]
    decide
  have hencoding : ¬ (Exchange.of request d).request.kind = .submitting := hkind
  rw [hexchanges, List.countP_append, hnone, Nat.zero_add, List.countP_cons_of_neg (by simpa)]
  rfl

lemma Forms.kind_ne {op : Op} {c : Context δ P D} {request : Request P D} {d : δ}
    (h : op.Forms c request d) : request.kind ≠ .submitting := by
  cases h <;> exact nofun

/-- Where there is no unit, nothing is encoded and nothing is submitted. -/
theorem kind_of_not_forms {op : Op} {c : Context δ P D} (h : ∀ request d, ¬ op.Forms c request d) :
    ∀ e ∈ op.exchanges c, e.request.kind ∉ [CallKind.clearing, .drawing, .submitting] := by
  intro e he
  by_cases hdraw : .drawing ∈ op.calls
  · rcases op.draw_cases (c.traced []) hdraw with ⟨topology, kind, hdraws, -⟩ | ⟨-, hsame⟩
    · rcases c.drawUnit_cases topology kind with ⟨fault, hinputs, -⟩ |
          ⟨inputs, fault, cache, d, hinputs, hresolved, -⟩ |
            ⟨inputs, config, cache, d, hinputs, hresolved, -⟩
      · rw [exchanges, hdraws.apply_eq,
          Context.drawUnit_of_refused (c := c.traced []) hinputs] at he
        cases he
      · rw [(exchanges_of_unresolved hdraws hinputs hresolved).2.1 e he]
        decide
      · exact absurd (.draw hdraws hinputs hresolved) (h _ _)
    · rw [exchanges, hsame] at he
      cases he
  · have hkind := (op.linked_exchanges c).2 e he
    cases op with
    | clear color => exact absurd (.clear color) (h _ _)
    | draw => simp [calls] at hdraw
    | drawIndexed => simp [calls] at hdraw
    | _ => grind [calls]

/-- Where there is no unit, nothing is submitted. -/
theorem not_submitting_of_not_forms {op : Op} {c : Context δ P D}
    (h : ∀ request d, ¬ op.Forms c request d) :
    ∀ e ∈ op.exchanges c, e.request.kind ≠ .submitting := fun e he heq =>
  kind_of_not_forms h e he (by rw [heq]; decide)

end Op

end RenderBridge
