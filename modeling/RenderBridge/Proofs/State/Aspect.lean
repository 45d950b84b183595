import RenderBridge.Proofs.State.Drawable
/-!
The aspects of the render state. Each setting replaces one of them as a whole, and the last setting
of an aspect that is not refused is the one that counts.

* `Aspect`, `Snapshot.get`, `Snapshot.put`: the state taken apart and put together by aspects.
* `Setting.outcome`, `Tracker.apply_eq`: **a setting sees and changes its own aspect only**.
* `Setting.writes`, `Snapshot.lastWritten`: what calls leave behind, said without any tracker.
* `Tracker.run_same`, `run_revision`: runs from the first state leave that, and count their changes.
* `Tracker.apply_comm`: settings of different aspects commute.
-/

set_option autoImplicit false

namespace RenderBridge

/-- A part of the render state that one kind of setting replaces as a whole. -/
inductive Aspect
  | blendEnabled
  | blendFactors
  | blendEquations
  | depth
  | stencil
  | cull
  | scissor
  | viewport
deriving DecidableEq

namespace Aspect

/-- What an aspect holds. Factors are those of source and target, first for colors and then for
alpha. -/
@[reducible]
def Value : Aspect → Type
  | blendEnabled => Bool
  | blendFactors => UInt32 × UInt32 × UInt32 × UInt32
  | blendEquations => UInt32 × UInt32
  | depth => DepthState
  | stencil => StencilState
  | cull => RasterState
  | scissor => ScissorState
  | viewport => ViewportState

/-- Agreement of two values. Depths of viewports are compared as numbers. -/
def same : (x : Aspect) → x.Value → x.Value → Bool
  | blendEnabled, v, w => v == w
  | blendFactors, v, w => v == w
  | blendEquations, v, w => v == w
  | depth, v, w => v == w
  | stencil, v, w => v == w
  | cull, v, w => v == w
  | scissor, v, w => v == w
  | viewport, v, w => v.same w

end Aspect

/-! ### Agreement -/

lemma Single.eq_iff {x y : Single} :
    x.eq y = true ↔ x.isNaN = false ∧ y.isNaN = false ∧ x.rank = y.rank := by
  simp [Single.eq, and_assoc]

namespace ViewportState

variable {v w : ViewportState}

lemma same_iff : v.same w = true ↔ (v.x = w.x ∧ v.y = w.y ∧ v.width = w.width ∧
    v.height = w.height) ∧ v.minDepth.eq w.minDepth = true ∧ v.maxDepth.eq w.maxDepth = true := by
  simp [same, and_assoc]

/-- A viewport whose depths are numbers agrees with itself. -/
lemma Drawable.same_self (h : v.Drawable) : v.same v = true :=
  same_iff.mpr ⟨⟨rfl, rfl, rfl, rfl⟩, Single.eq_iff.mpr ⟨h.minDepth, h.minDepth, rfl⟩,
    Single.eq_iff.mpr ⟨h.maxDepth, h.maxDepth, rfl⟩⟩

lemma same_symm (h : v.same w = true) : w.same v = true := by
  obtain ⟨⟨hx, hy, hwidth, hheight⟩, hmin, hmax⟩ := same_iff.mp h
  obtain ⟨hv, hw, hlow⟩ := Single.eq_iff.mp hmin
  obtain ⟨hv', hw', hhigh⟩ := Single.eq_iff.mp hmax
  exact same_iff.mpr ⟨⟨hx.symm, hy.symm, hwidth.symm, hheight.symm⟩,
    Single.eq_iff.mpr ⟨hw, hv, hlow.symm⟩, Single.eq_iff.mpr ⟨hw', hv', hhigh.symm⟩⟩

end ViewportState

lemma Aspect.same_symm {x : Aspect} {v w : x.Value} (h : x.same v w = true) :
    x.same w v = true := by
  cases x with
  | viewport => exact ViewportState.same_symm h
  | _ =>
    rw [Aspect.same] at h ⊢
    rw [beq_iff_eq] at h ⊢
    exact h.symm

/-! ### The state by aspects -/

namespace Snapshot

/-- What the state holds of an aspect. -/
def get (s : Snapshot) : (x : Aspect) → x.Value
  | .blendEnabled => s.blend.enabled
  | .blendFactors => (s.blend.srcRgb, s.blend.dstRgb, s.blend.srcAlpha, s.blend.dstAlpha)
  | .blendEquations => (s.blend.equationRgb, s.blend.equationAlpha)
  | .depth => s.depth
  | .stencil => s.stencil
  | .cull => s.raster
  | .scissor => s.scissor
  | .viewport => s.viewport

/-- The state with an aspect replaced. -/
def put (s : Snapshot) : (x : Aspect) → x.Value → Snapshot
  | .blendEnabled, enabled => { s with blend.enabled := enabled }
  | .blendFactors, (srcRgb, dstRgb, srcAlpha, dstAlpha) =>
      { s with blend := { s.blend with srcRgb, dstRgb, srcAlpha, dstAlpha } }
  | .blendEquations, (rgb, alpha) =>
      { s with blend := { s.blend with equationRgb := rgb, equationAlpha := alpha } }
  | .depth, depth => { s with depth }
  | .stencil, stencil => { s with stencil }
  | .cull, raster => { s with raster }
  | .scissor, scissor => { s with scissor }
  | .viewport, viewport => { s with viewport }

/-- The state that holds these values. -/
def ofAspects (value : (x : Aspect) → x.Value) : Snapshot where
  blend :=
    { enabled := value .blendEnabled
      srcRgb := (value .blendFactors).1
      dstRgb := (value .blendFactors).2.1
      srcAlpha := (value .blendFactors).2.2.1
      dstAlpha := (value .blendFactors).2.2.2
      equationRgb := (value .blendEquations).1
      equationAlpha := (value .blendEquations).2 }
  depth := value .depth
  stencil := value .stencil
  raster := value .cull
  scissor := value .scissor
  viewport := value .viewport

variable {s s' : Snapshot} {x y : Aspect}

@[simp]
lemma get_put_self (v : x.Value) : (s.put x v).get x = v := by
  cases x <;> rfl

lemma get_put_of_ne (h : y ≠ x) (v : x.Value) : (s.put x v).get y = s.get y := by
  cases x <;> cases y <;> first | rfl | exact absurd rfl h

@[simp]
lemma put_get_self : s.put x (s.get x) = s := by
  cases x <;> rfl

@[simp]
lemma put_put (v w : x.Value) : (s.put x v).put x w = s.put x w := by
  cases x <;> rfl

@[simp]
lemma get_ofAspects (value : (x : Aspect) → x.Value) : (ofAspects value).get x = value x := by
  cases x <;> rfl

@[simp]
lemma ofAspects_get : ofAspects s.get = s := rfl

/-- The aspects are the whole state. -/
lemma ext_get (h : ∀ x, s.get x = s'.get x) : s = s' := by
  rw [← ofAspects_get (s := s), ← ofAspects_get (s := s'), funext h]

/-- Blending is what three of the aspects hold. -/
lemma blend_eq_iff : s.blend = s'.blend ↔ s.get .blendEnabled = s'.get .blendEnabled ∧
    s.get .blendFactors = s'.get .blendFactors ∧
    s.get .blendEquations = s'.get .blendEquations := by
  obtain ⟨⟨_, _, _, _, _, _, _⟩, _, _, _, _, _⟩ := s
  obtain ⟨⟨_, _, _, _, _, _, _⟩, _, _, _, _, _⟩ := s'
  simp [get, and_assoc]

/-- States agree field by field where they agree aspect by aspect. -/
lemma same_iff : s.same s' = true ↔ ∀ x : Aspect, x.same (s.get x) (s'.get x) = true := by
  rw [same]
  simp only [Bool.and_eq_true, beq_iff_eq, blend_eq_iff]
  constructor
  · rintro ⟨⟨⟨⟨⟨⟨henabled, hfactors, hequations⟩, hdepth⟩, hstencil⟩, hcull⟩, hscissor⟩, hviewport⟩
      x
    cases x with
    | viewport => exact hviewport
    | _ => exact beq_iff_eq.mpr ‹_›
  · intro h
    exact ⟨⟨⟨⟨⟨⟨beq_iff_eq.mp (h .blendEnabled), beq_iff_eq.mp (h .blendFactors),
      beq_iff_eq.mp (h .blendEquations)⟩, beq_iff_eq.mp (h .depth)⟩, beq_iff_eq.mp (h .stencil)⟩,
      beq_iff_eq.mp (h .cull)⟩, beq_iff_eq.mp (h .scissor)⟩, h .viewport⟩

/-- What a drawable state holds agrees with itself. -/
lemma Drawable.same_get (h : s.Drawable) (x : Aspect) : x.same (s.get x) (s.get x) = true := by
  cases x with
  | viewport => exact h.viewport.same_self
  | _ => exact beq_iff_eq.mpr rfl

lemma Drawable.same_self (h : s.Drawable) : s.same s = true := same_iff.mpr h.same_get

/-- A drawable state with an aspect replaced agrees with it where the aspect does. -/
lemma Drawable.same_put (h : s.Drawable) (v : x.Value) :
    (s.put x v).same s = x.same v (s.get x) := by
  rw [Bool.eq_iff_iff, same_iff]
  constructor
  · intro hsame
    have hx := hsame x
    rwa [get_put_self] at hx
  · intro hv y
    by_cases hy : y = x
    · subst hy
      rwa [get_put_self]
    · rw [get_put_of_ne hy]
      exact h.same_get y

end Snapshot

/-! ### One setting -/

namespace Setting

/-- The aspect that a setting replaces. -/
def aspect : Setting → Aspect
  | blendEnabled _ => .blendEnabled
  | blendFactors .. => .blendFactors
  | blendEquations .. => .blendEquations
  | depth _ => .depth
  | stencil _ => .stencil
  | cull .. => .cull
  | scissor .. => .scissor
  | viewport .. => .viewport

/-- The value that a setting brings for its aspect, or why it is refused. -/
def value : (setting : Setting) → Except Fault setting.aspect.Value
  | blendEnabled enabled => .ok enabled
  | blendFactors srcRgb dstRgb srcAlpha dstAlpha => .ok (srcRgb, dstRgb, srcAlpha, dstAlpha)
  | blendEquations rgb alpha => .ok (rgb, alpha)
  | depth state => .ok state
  | stencil state => .ok state
  | cull enabled face => .ok ⟨enabled, face⟩
  | scissor enabled x y width height => .ok ⟨enabled, x, y, max width 1, max height 1⟩
  | viewport x y width height minDepth maxDepth =>
      (depthRange minDepth maxDepth).map fun range =>
        ⟨x, y, max width 1, max height 1, range.1, range.2⟩

/-- A setting replaces its aspect, or is refused whatever the state is. -/
lemma edit_eq (setting : Setting) (s : Snapshot) :
    setting.edit s = setting.value.map (s.put setting.aspect) := by
  cases setting with
  | viewport x y width height minDepth maxDepth =>
    rw [edit, value]
    cases depthRange minDepth maxDepth <;> rfl
  | _ => rfl

/-- What a setting makes of its aspect, and what it answers. -/
def outcome (setting : Setting) (v : setting.aspect.Value) :
    Except Fault Bool × setting.aspect.Value :=
  match setting.value with
  | .error fault => (.error fault, v)
  | .ok w => if setting.aspect.same w v then (.ok false, v) else (.ok true, w)

end Setting

namespace Tracker

/-- A setting sees and changes its own aspect only. -/
theorem apply_eq {t : Tracker} (h : t.snapshot.Drawable) (setting : Setting) :
    let outcome := setting.outcome (t.snapshot.get setting.aspect)
    t.apply setting = (outcome.1, ⟨t.snapshot.put setting.aspect outcome.2,
      t.revision + if outcome.1 = .ok true then 1 else 0⟩) := by
  intro outcome
  rw [apply, setting.edit_eq]
  cases hvalue : setting.value with
  | error fault =>
    have houtcome : outcome = (.error fault, t.snapshot.get setting.aspect) := by
      simp only [outcome, Setting.outcome, hvalue]
    rw [houtcome]
    simp [Except.map]
  | ok w =>
    simp only [Except.map, update, h.same_put, outcome, Setting.outcome, hvalue]
    split <;> simp

variable {t : Tracker}

lemma get_apply_of_ne (h : t.snapshot.Drawable) {setting : Setting} {x : Aspect}
    (hx : x ≠ setting.aspect) : (t.apply setting).2.snapshot.get x = t.snapshot.get x := by
  rw [apply_eq h]
  exact Snapshot.get_put_of_ne hx _

lemma get_apply_self (h : t.snapshot.Drawable) (setting : Setting) :
    (t.apply setting).2.snapshot.get setting.aspect =
      (setting.outcome (t.snapshot.get setting.aspect)).2 := by
  rw [apply_eq h]
  exact Snapshot.get_put_self _

/-- A setting leaves its value where only equal values agree with that. -/
lemma get_apply_of_value (h : t.snapshot.Drawable) (setting : Setting) {w : setting.aspect.Value}
    (hvalue : setting.value = .ok w) (hsame : ∀ v, setting.aspect.same w v = true → v = w) :
    (t.apply setting).2.snapshot.get setting.aspect = w := by
  rw [get_apply_self h, Setting.outcome, hvalue]
  dsimp only
  split
  · rename_i hagree
    exact hsame _ hagree
  · rfl

/-- What a setting leaves in an aspect follows from what that aspect held. -/
lemma get_apply_congr {t' : Tracker} (h : t.snapshot.Drawable) (h' : t'.snapshot.Drawable)
    (setting : Setting) {x : Aspect} (hx : t.snapshot.get x = t'.snapshot.get x) :
    (t.apply setting).2.snapshot.get x = (t'.apply setting).2.snapshot.get x := by
  by_cases hown : x = setting.aspect
  · subst hown
    rw [get_apply_self h, get_apply_self h', hx]
  · rw [get_apply_of_ne h hown, get_apply_of_ne h' hown, hx]

lemma answer_apply (h : t.snapshot.Drawable) (setting : Setting) :
    (t.apply setting).1 = (setting.outcome (t.snapshot.get setting.aspect)).1 := by
  rw [apply_eq h]

lemma revision_apply (h : t.snapshot.Drawable) (setting : Setting) :
    (t.apply setting).2.revision =
      t.revision + if (t.apply setting).1 = .ok true then 1 else 0 := by
  rw [apply_eq h]

/-- **Settings of different aspects commute**, in what they answer and in what they leave. -/
theorem apply_comm (h : t.snapshot.Drawable) {a b : Setting} (hne : a.aspect ≠ b.aspect) :
    ((t.apply a).2.apply b).1 = (t.apply b).1 ∧
      ((t.apply a).2.apply b).2 = ((t.apply b).2.apply a).2 := by
  have ha := t.apply_drawable a h
  have hb := t.apply_drawable b h
  -- what `b` finds of its own aspect is not what `a` changes, and the other way round
  have hanswer : ((t.apply a).2.apply b).1 = (t.apply b).1 := by
    rw [answer_apply ha, answer_apply h, get_apply_of_ne h hne.symm]
  have hanswer' : ((t.apply b).2.apply a).1 = (t.apply a).1 := by
    rw [answer_apply hb, answer_apply h, get_apply_of_ne h hne]
  refine ⟨hanswer, ?_⟩
  have hsnapshot : ((t.apply a).2.apply b).2.snapshot = ((t.apply b).2.apply a).2.snapshot := by
    refine Snapshot.ext_get fun x => ?_
    by_cases hxb : x = b.aspect
    · subst hxb
      rw [get_apply_self ha, get_apply_of_ne h hne.symm, get_apply_of_ne hb hne.symm,
        get_apply_self h]
    · rw [get_apply_of_ne ha hxb]
      by_cases hxa : x = a.aspect
      · subst hxa
        rw [get_apply_self hb, get_apply_of_ne h hne, get_apply_self h]
      · rw [get_apply_of_ne hb hxa, get_apply_of_ne h hxb, get_apply_of_ne h hxa]
  have hrevision : ((t.apply a).2.apply b).2.revision = ((t.apply b).2.apply a).2.revision := by
    rw [revision_apply ha, revision_apply hb, revision_apply h, revision_apply h, hanswer, hanswer',
      Nat.add_right_comm]
  calc ((t.apply a).2.apply b).2
      = ⟨((t.apply a).2.apply b).2.snapshot, ((t.apply a).2.apply b).2.revision⟩ := rfl
    _ = ⟨((t.apply b).2.apply a).2.snapshot, ((t.apply b).2.apply a).2.revision⟩ := by
        rw [hsnapshot, hrevision]
    _ = ((t.apply b).2.apply a).2 := rfl

end Tracker

/-! ### Refusals and changes -/

namespace Setting

/-- Settings that are refused: viewports with a depth that is no number, or whose depths are
reversed once they are brought into `[0, 1]`. -/
def refused : Setting → Bool
  | viewport _ _ _ _ minDepth maxDepth =>
      minDepth.isNaN || maxDepth.isNaN || (maxDepth.clamp .zero .one).lt (minDepth.clamp .zero .one)
  | _ => false

/-- What a setting that is not refused writes into an aspect: nothing into those of others. -/
def writes (setting : Setting) (x : Aspect) : Option x.Value :=
  if setting.refused then none
  else
    match x, setting with
    | .blendEnabled, blendEnabled enabled => some enabled
    | .blendFactors, blendFactors srcRgb dstRgb srcAlpha dstAlpha =>
        some (srcRgb, dstRgb, srcAlpha, dstAlpha)
    | .blendEquations, blendEquations rgb alpha => some (rgb, alpha)
    | .depth, depth state => some state
    | .stencil, stencil state => some state
    | .cull, cull enabled face => some ⟨enabled, face⟩
    | .scissor, scissor enabled x y width height => some ⟨enabled, x, y, max width 1, max height 1⟩
    | .viewport, viewport x y width height minDepth maxDepth =>
        some ⟨x, y, max width 1, max height 1, minDepth.clamp .zero .one, maxDepth.clamp .zero .one⟩
    | _, _ => none

lemma writes_of_ne {setting : Setting} {x : Aspect} (h : x ≠ setting.aspect) :
    setting.writes x = none := by
  unfold writes
  split
  · rfl
  · cases setting <;> cases x <;> first | rfl | exact absurd rfl h

/-- A setting that is refused brings no value, and any other brings what it writes. -/
lemma value_cases (setting : Setting) :
    (setting.refused = true ∧ (∃ cause, setting.value = .error (.invalidArgument cause)) ∧
        setting.writes setting.aspect = none) ∨
      (setting.refused = false ∧ ∃ v, setting.value = .ok v ∧
        setting.writes setting.aspect = some v) := by
  cases setting with
  | viewport x y width height minDepth maxDepth =>
    cases hrefused : (viewport x y width height minDepth maxDepth).refused with
    | true =>
      refine .inl ⟨rfl, ?_, if_pos hrefused⟩
      rw [refused, Bool.or_eq_true] at hrefused
      rw [value, depthRange]
      split
      · exact ⟨_, rfl⟩
      · rename_i hnumbers
        dsimp only
        rw [if_pos (hrefused.resolve_left hnumbers)]
        exact ⟨_, rfl⟩
    | false =>
      refine .inr ⟨rfl, _, ?_, if_neg (Bool.not_eq_true _ ▸ hrefused)⟩
      rw [refused, Bool.or_eq_false_iff] at hrefused
      rw [value, depthRange, hrefused.1]
      dsimp only
      rw [hrefused.2]
      rfl
  | _ => exact .inr ⟨rfl, _, rfl, rfl⟩

/-- A value that is brought agrees with itself: its depths are numbers. -/
lemma same_of_value {setting : Setting} {v : setting.aspect.Value} (h : setting.value = .ok v) :
    setting.aspect.same v v = true := by
  have hedit : setting.edit {} = .ok (({} : Snapshot).put setting.aspect v) := by
    rw [edit_eq, h]
    rfl
  have hself := (setting.edit_drawable Snapshot.drawable_initial hedit).same_get setting.aspect
  rwa [Snapshot.get_put_self] at hself

end Setting

namespace Tracker

/-- What a setting answers. It is refused and changes nothing, or it says whether the state after it
differs from the state before it; the same setting again changes nothing. -/
theorem apply_answers {t : Tracker} (h : t.snapshot.Drawable) (setting : Setting) :
    (setting.refused = true ∧ ∃ cause, t.apply setting = (.error (.invalidArgument cause), t)) ∨
      (setting.refused = false ∧ ∃ changed, (t.apply setting).1 = .ok changed ∧
        (changed = true ↔ (t.apply setting).2.snapshot.same t.snapshot = false) ∧
        (t.apply setting).2.apply setting = (.ok false, (t.apply setting).2)) := by
  have hafter := t.apply_drawable setting h
  rcases setting.value_cases with ⟨hrefused, ⟨cause, hvalue⟩, -⟩ | ⟨haccepted, w, hvalue, -⟩
  · refine .inl ⟨hrefused, cause, ?_⟩
    rw [apply, setting.edit_eq, hvalue]
    rfl
  · refine .inr ⟨haccepted, ?_⟩
    have houtcome : ∀ v, setting.outcome v =
        if setting.aspect.same w v then (.ok false, v) else (.ok true, w) := by
      intro v
      simp only [Setting.outcome, hvalue]
    have hself := h.same_self
    cases hsame : setting.aspect.same w (t.snapshot.get setting.aspect) with
    | true =>
      have hcall : t.apply setting = (.ok false, t) := by
        rw [apply_eq h, houtcome, hsame]
        simp
      rw [hcall]
      exact ⟨false, rfl, by simp [hself], hcall⟩
    | false =>
      have hcall : t.apply setting =
          (.ok true, ⟨t.snapshot.put setting.aspect w, t.revision + 1⟩) := by
        rw [apply_eq h, houtcome, hsame]
        simp
      rw [hcall] at hafter ⊢
      refine ⟨true, rfl, by simp [h.same_put, hsame], ?_⟩
      rw [apply_eq hafter, Snapshot.get_put_self, houtcome, Setting.same_of_value hvalue]
      simp

end Tracker

/-! ### Runs -/

/-- What calls leave in an aspect: what the last of them wrote, or what it held at first. -/
def Aspect.lastWritten (x : Aspect) (calls : List Setting) : x.Value :=
  (calls.filterMap (·.writes x)).getLastD (({} : Snapshot).get x)

/-- The state that calls leave behind: of every aspect, what was written last. -/
def Snapshot.lastWritten (calls : List Setting) : Snapshot :=
  .ofAspects fun x => x.lastWritten calls

lemma Aspect.lastWritten_concat (x : Aspect) (calls : List Setting) (setting : Setting) :
    x.lastWritten (calls ++ [setting]) = (setting.writes x).getD (x.lastWritten calls) := by
  rw [lastWritten, List.filterMap_append]
  cases hwrites : setting.writes x with
  | none => simp [hwrites, lastWritten]
  | some v => simp [hwrites]

namespace Tracker

/-- The tracker after calls. -/
def run (calls : List Setting) (t : Tracker) : Tracker :=
  calls.foldl (fun t setting => (t.apply setting).2) t

/-- What calls answer, one after the other. -/
def answers : List Setting → Tracker → List (Except Fault Bool)
  | [], _ => []
  | setting :: calls, t => (t.apply setting).1 :: answers calls (t.apply setting).2

variable {t : Tracker}

lemma run_concat (calls : List Setting) (setting : Setting) (t : Tracker) :
    run (calls ++ [setting]) t = ((run calls t).apply setting).2 := by
  rw [run, List.foldl_append]
  rfl

lemma run_drawable (calls : List Setting) (h : t.snapshot.Drawable) :
    (run calls t).snapshot.Drawable := by
  induction calls generalizing t with
  | nil => exact h
  | cons setting calls ih => exact ih (t.apply_drawable setting h)

/-- The revision counts the calls that changed the state. -/
theorem run_revision (calls : List Setting) (h : t.snapshot.Drawable) :
    (run calls t).revision = t.revision + (answers calls t).count (.ok true) := by
  induction calls generalizing t with
  | nil => rfl
  | cons setting calls ih =>
    have hrun : run (setting :: calls) t = run calls (t.apply setting).2 := rfl
    rw [hrun, ih (t.apply_drawable setting h), revision_apply h, answers, List.count_cons,
      Nat.add_right_comm, Nat.add_assoc, beq_eq_decide]
    simp

/-- **The last writer of each aspect wins.** -/
theorem run_same (calls : List Setting) :
    (run calls {}).snapshot.same (.lastWritten calls) = true := by
  rw [Snapshot.same_iff]
  intro x
  rw [Snapshot.lastWritten, Snapshot.get_ofAspects]
  induction calls using List.reverseRecOn with
  | nil => exact Snapshot.drawable_initial.same_get x
  | append_singleton calls setting ih =>
    have hdrawable := run_drawable calls (t := {}) Snapshot.drawable_initial
    rw [run_concat, x.lastWritten_concat]
    by_cases hx : x = setting.aspect
    · subst hx
      rw [get_apply_self hdrawable, Setting.outcome]
      rcases setting.value_cases with ⟨-, ⟨cause, hvalue⟩, hwrites⟩ | ⟨-, w, hvalue, hwrites⟩
      · rw [hvalue, hwrites]
        exact ih
      · rw [hvalue, hwrites, Option.getD_some]
        dsimp only
        split
        · rename_i hsame
          exact Aspect.same_symm hsame
        · exact Setting.same_of_value hvalue
    · rw [get_apply_of_ne hdrawable hx, Setting.writes_of_ne hx]
      exact ih

end Tracker

/-- **The last writer of each aspect wins, and changes are reported exactly.** After any calls the
state agrees field by field with what was written last into each aspect, and the revision is the
number of calls that answered a change. In such a state a setting is refused exactly where a depth
is no number or the depths are reversed once they are in `[0, 1]`, and then nothing changes; any
other answers whether the state after it differs from the state before it, and answers no if it is
made again. Settings of different aspects commute. -/
theorem settings_last_writer_wins (calls : List Setting) :
    let t := Tracker.run calls {}
    t.snapshot.same (.lastWritten calls) = true ∧
    t.revision = (Tracker.answers calls {}).count (.ok true) ∧
    (∀ setting : Setting, setting.refused = true →
      ∃ cause, t.apply setting = (.error (.invalidArgument cause), t)) ∧
    (∀ setting : Setting, setting.refused = false →
      ∃ changed, (t.apply setting).1 = .ok changed ∧
        (changed = true ↔ (t.apply setting).2.snapshot.same t.snapshot = false) ∧
        (t.apply setting).2.apply setting = (.ok false, (t.apply setting).2)) ∧
    ∀ a b : Setting, a.aspect ≠ b.aspect →
      ((t.apply a).2.apply b).1 = (t.apply b).1 ∧
        ((t.apply a).2.apply b).2 = ((t.apply b).2.apply a).2 := by
  intro t
  have hdrawable : t.snapshot.Drawable := Tracker.run_drawable calls Snapshot.drawable_initial
  refine ⟨Tracker.run_same calls, ?_, fun setting hrefused => ?_, fun setting haccepted => ?_,
    fun a b hne => Tracker.apply_comm hdrawable hne⟩
  · exact (Tracker.run_revision calls (t := {}) Snapshot.drawable_initial).trans (Nat.zero_add _)
  · rcases t.apply_answers hdrawable setting with ⟨-, h⟩ | ⟨haccepted, -⟩
    · exact h
    · cases hrefused.symm.trans haccepted
  · rcases t.apply_answers hdrawable setting with ⟨hrefused, -⟩ | ⟨-, h⟩
    · cases hrefused.symm.trans haccepted
    · exact h

/-- A viewport of negative width from `-0` to infinity, the same one from `0`, one with a depth that
is no number, one that is reversed, and a scissor rectangle. -/
def signedZeroRun : List Setting := [
  .viewport 0 0 (-5) 600 ⟨0x80000000⟩ ⟨0x7f800000⟩, .viewport 0 0 (-5) 600 .zero .one,
  .viewport 1 1 2 2 .nan .one, .viewport 1 1 2 2 .one .zero, .scissor true 1 2 0 (-7)]

/-- The viewport that is kept holds `-0` where the one that was written last has `0`. -/
theorem settings_last_writer_wins_signedZeroRun :
    let t := Tracker.run signedZeroRun {}
    t.snapshot.viewport = ⟨0, 0, 1, 600, ⟨0x80000000⟩, .one⟩ ∧
      (Snapshot.lastWritten signedZeroRun).viewport = ⟨0, 0, 1, 600, .zero, .one⟩ ∧
      t.snapshot.same (.lastWritten signedZeroRun) = true ∧ t.revision = 2 ∧
      (Setting.viewport 0 0 1 1 .one .nan).refused = true ∧
      (∃ cause, t.apply (.viewport 0 0 1 1 .one .nan) = (.error (.invalidArgument cause), t)) ∧
      (Setting.blendEnabled true).aspect ≠ (Setting.blendEquations 1 1).aspect ∧
      ((t.apply (.blendEnabled true)).2.apply (.blendEquations 1 1)).2 =
        ((t.apply (.blendEquations 1 1)).2.apply (.blendEnabled true)).2 := by
  obtain ⟨hsame, -, hrefused, -, hcomm⟩ := settings_last_writer_wins signedZeroRun
  exact ⟨by decide +kernel, by decide +kernel, hsame, by decide +kernel, by decide,
    hrefused _ (by decide), by decide, (hcomm _ _ (by decide)).2⟩

end RenderBridge
