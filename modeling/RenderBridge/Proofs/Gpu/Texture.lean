import Mathlib.Tactic
import RenderBridge.Gpu.Event
/-!
The life of the textures of a surface, read off the calls on the machine.

* `unreturned`: the textures that were acquired and neither shown nor given up.
* `TextureCalls`: calls that ask for a texture only while none is held, that give back only the
  texture that is held, and that number every new texture one above the last.
* `TextureCalls.unreturned_eq`, `length_unreturned_le`: so **at most one texture is out**, and it
  is the one that is held.
* `TextureCalls.held_or_returned`: what is held stays held until it is shown or given up.
* `TextureCalls.count_acquire_le`, `returns_le`: every number is acquired at most once, and **shown
  or given up at most once**.
-/

set_option autoImplicit false

namespace RenderBridge

namespace GpuEvent

/-- A call that asks the surface for a texture, whether one comes or not. -/
def AsksForTexture : GpuEvent → Bool
  | acquire _ | acquireFailed _ => true
  | _ => false

/-- A call that gives a texture back, shown or not. -/
def ReturnsTexture : GpuEvent → Bool
  | present _ | discard _ => true
  | _ => false

/-- A call that has to do with a texture of the surface. -/
def MovesTexture (e : GpuEvent) : Bool := e.AsksForTexture || e.ReturnsTexture

/-- The textures that are out after a call. -/
def outAfter (out : List ℕ) : GpuEvent → List ℕ
  | acquire number => number :: out
  | present number | discard number => out.erase number
  | _ => out

lemma outAfter_of_not_movesTexture {e : GpuEvent} (h : e.MovesTexture = false) (out : List ℕ) :
    e.outAfter out = out := by
  cases e with
  | acquire => cases h
  | present => cases h
  | discard => cases h
  | _ => rfl

end GpuEvent

/-- The textures that were acquired and neither shown nor given up, after some calls. -/
def unreturned (out : List ℕ) (events : List GpuEvent) : List ℕ :=
  events.foldl GpuEvent.outAfter out

/-- The texture that is held, and the number of textures acquired so far. -/
structure TextureState where
  held : Option ℕ
  count : ℕ

/-- Calls that treat the textures of the surface as they must. -/
inductive TextureCalls : TextureState → List GpuEvent → TextureState → Prop
  | nil (s : TextureState) : TextureCalls s [] s
  | acquire {count : ℕ} {events : List GpuEvent} {s : TextureState}
      (rest : TextureCalls ⟨some (count + 1), count + 1⟩ events s) :
      TextureCalls ⟨none, count⟩ (.acquire (count + 1) :: events) s
  | refused {count : ℕ} {status : SurfaceStatus} {events : List GpuEvent} {s : TextureState}
      (rest : TextureCalls ⟨none, count⟩ events s) :
      TextureCalls ⟨none, count⟩ (.acquireFailed status :: events) s
  | present {number count : ℕ} {events : List GpuEvent} {s : TextureState}
      (rest : TextureCalls ⟨none, count⟩ events s) :
      TextureCalls ⟨some number, count⟩ (.present number :: events) s
  | discard {number count : ℕ} {events : List GpuEvent} {s : TextureState}
      (rest : TextureCalls ⟨none, count⟩ events s) :
      TextureCalls ⟨some number, count⟩ (.discard number :: events) s
  | other {s s' : TextureState} {event : GpuEvent} {events : List GpuEvent}
      (other : event.MovesTexture = false) (rest : TextureCalls s events s') :
      TextureCalls s (event :: events) s'

namespace TextureCalls

variable {s s' s'' : TextureState} {events events' before after : List GpuEvent} {number : ℕ}

lemma of_other (h : ∀ e ∈ events, e.MovesTexture = false) : TextureCalls s events s := by
  induction events with
  | nil => exact .nil s
  | cons e events ih =>
    exact .other (h e List.mem_cons_self) (ih fun e he => h e (List.mem_cons_of_mem _ he))

lemma append (h : TextureCalls s events s') (h' : TextureCalls s' events' s'') :
    TextureCalls s (events ++ events') s'' := by
  induction h with
  | nil => exact h'
  | acquire _ ih => exact .acquire (ih h')
  | refused _ ih => exact .refused (ih h')
  | present _ ih => exact .present (ih h')
  | discard _ ih => exact .discard (ih h')
  | other hother _ ih => exact .other hother (ih h')

/-- Calls in two parts, with the state between them. -/
lemma of_append (h : TextureCalls s (events ++ events') s'') :
    ∃ s', TextureCalls s events s' ∧ TextureCalls s' events' s'' := by
  induction events generalizing s with
  | nil => exact ⟨s, .nil s, h⟩
  | cons e events ih =>
    cases h with
    | acquire rest => exact (ih rest).imp fun _ h => ⟨.acquire h.1, h.2⟩
    | refused rest => exact (ih rest).imp fun _ h => ⟨.refused h.1, h.2⟩
    | present rest => exact (ih rest).imp fun _ h => ⟨.present h.1, h.2⟩
    | discard rest => exact (ih rest).imp fun _ h => ⟨.discard h.1, h.2⟩
    | other hother rest => exact (ih rest).imp fun _ h => ⟨.other hother h.1, h.2⟩

/-! ### At most one texture -/

/-- The texture that is out is the one that is held. -/
lemma unreturned_eq (h : TextureCalls s events s') :
    unreturned s.held.toList events = s'.held.toList := by
  induction h with
  | nil => rfl
  | acquire _ ih => exact ih
  | refused _ ih => exact ih
  | @present number _ _ _ _ ih =>
    rw [unreturned, List.foldl_cons]
    change unreturned ([number].erase number) _ = _
    rw [List.erase_cons_head]
    exact ih
  | @discard number _ _ _ _ ih =>
    rw [unreturned, List.foldl_cons]
    change unreturned ([number].erase number) _ = _
    rw [List.erase_cons_head]
    exact ih
  | other hother _ ih =>
    rw [unreturned, List.foldl_cons, GpuEvent.outAfter_of_not_movesTexture hother]
    exact ih

/-- At no time is more than one texture out. -/
lemma length_unreturned_le (h : TextureCalls s (before ++ after) s') :
    (unreturned s.held.toList before).length ≤ 1 := by
  obtain ⟨middle, hbefore, -⟩ := h.of_append
  rw [hbefore.unreturned_eq]
  cases middle.held <;> simp

/-- A texture is asked for only while none is out. -/
lemma unreturned_of_asks {e : GpuEvent} (h : TextureCalls s (before ++ e :: after) s')
    (hasks : e.AsksForTexture) : unreturned s.held.toList before = [] := by
  obtain ⟨middle, hbefore, hrest⟩ := h.of_append
  rw [hbefore.unreturned_eq]
  cases hrest with
  | acquire => rfl
  | refused => rfl
  | present => cases hasks
  | discard => cases hasks
  | other hother =>
    rw [GpuEvent.MovesTexture, hasks, Bool.true_or] at hother
    cases hother

/-! ### The texture that is held -/

/-- A texture that is held stays held until it is shown or given up. -/
lemma held_or_returned (h : TextureCalls s events s') (hheld : s.held = some number) :
    s'.held = some number ∨ .present number ∈ events ∨ .discard number ∈ events := by
  induction h with
  | nil => exact .inl hheld
  | acquire => cases hheld
  | refused => cases hheld
  | present =>
    cases hheld
    exact .inr (.inl List.mem_cons_self)
  | discard =>
    cases hheld
    exact .inr (.inr List.mem_cons_self)
  | other _ _ ih =>
    exact (ih hheld).imp id (.imp (List.mem_cons_of_mem _) (List.mem_cons_of_mem _))

/-- A texture that is acquired stays held where none is returned. -/
lemma held_of_acquire (h : TextureCalls s events s') (hmem : .acquire number ∈ events)
    (hkept : ∀ e ∈ events, e.ReturnsTexture = false) : s'.held = some number := by
  obtain ⟨before, after, rfl⟩ := List.append_of_mem hmem
  obtain ⟨middle, -, hrest⟩ := h.of_append
  cases hrest with
  | acquire rest =>
    have hkept : ∀ e ∈ after, e.ReturnsTexture = false := fun e he =>
      hkept e (List.mem_append_right _ (List.mem_cons_of_mem _ he))
    refine (rest.held_or_returned rfl).resolve_right ?_
    rintro (hshown | hdiscarded)
    · cases hkept _ hshown
    · cases hkept _ hdiscarded
  | other hother => cases hother

/-! ### Numbers -/

/-- A texture that is acquired has a new number. -/
lemma lt_of_acquire (h : TextureCalls s events s') (hmem : .acquire number ∈ events) :
    s.count < number := by
  induction h with
  | nil => cases hmem
  | acquire _ ih =>
    rcases List.mem_cons.mp hmem with heq | hmem
    · cases heq
      exact Nat.lt_succ_self _
    · exact (Nat.lt_succ_self _).trans (ih hmem)
  | refused _ ih => exact ih (by simpa using hmem)
  | present _ ih => exact ih (by simpa using hmem)
  | discard _ ih => exact ih (by simpa using hmem)
  | other hother _ ih =>
    rcases List.mem_cons.mp hmem with rfl | hmem
    · cases hother
    · exact ih hmem

/-- No number is acquired twice. -/
lemma count_acquire_le (h : TextureCalls s events s') : events.count (.acquire number) ≤ 1 := by
  induction h with
  | nil => exact Nat.zero_le 1
  | @acquire count _ _ rest ih =>
    by_cases heq : count + 1 = number
    · -- What is acquired later is numbered above.
      have hfresh : GpuEvent.acquire number ∉ _ := fun hmem =>
        absurd (rest.lt_of_acquire hmem) (by simp [heq])
      rw [heq, List.count_cons_self, List.count_eq_zero_of_not_mem hfresh]
    · rw [List.count_cons_of_ne (by simpa using heq)]
      exact ih
  | refused _ ih => simpa using ih
  | present _ ih => simpa using ih
  | discard _ ih => simpa using ih
  | @other _ _ event _ hother _ ih =>
    have hne : event ≠ .acquire number := by
      rintro rfl
      cases hother
    rw [List.count_cons_of_ne hne]
    exact ih

/-- What is shown or given up is held, or acquired before that. -/
lemma held_or_lt_of_returned (h : TextureCalls s events s')
    (hmem : .present number ∈ events ∨ .discard number ∈ events) :
    s.held = some number ∨ s.count < number := by
  induction h with
  | nil => simp at hmem
  | @acquire count _ _ _ ih =>
    right
    rcases ih (by simpa using hmem) with hheld | hlt
    · cases hheld
      exact Nat.lt_succ_self _
    · exact (Nat.lt_succ_self _).trans hlt
  | refused _ ih => exact ih (by simpa using hmem)
  | @present held _ _ _ _ ih =>
    by_cases heq : held = number
    · exact .inl (congrArg some heq)
    · exact (ih (by simpa [Ne.symm heq] using hmem)).imp nofun id
  | @discard held _ _ _ _ ih =>
    by_cases heq : held = number
    · exact .inl (congrArg some heq)
    · exact (ih (by simpa [Ne.symm heq] using hmem)).imp nofun id
  | other hother _ ih =>
    refine ih (hmem.imp (List.mem_of_ne_of_mem ?_) (List.mem_of_ne_of_mem ?_))
    · rintro rfl
      cases hother
    · rintro rfl
      cases hother

/-- How often a texture is shown or given up. -/
def returns (events : List GpuEvent) (number : ℕ) : ℕ :=
  events.count (.present number) + events.count (.discard number)

lemma returns_eq_zero (h : ¬ (.present number ∈ events ∨ .discard number ∈ events)) :
    returns events number = 0 := by
  obtain ⟨hpresent, hdiscard⟩ := not_or.mp h
  rw [returns, List.count_eq_zero_of_not_mem hpresent, List.count_eq_zero_of_not_mem hdiscard]

/-- A texture that is given back is held no more, and what is acquired later has other numbers. -/
lemma returns_of_returned {count : ℕ} (h : TextureCalls ⟨none, count⟩ events s')
    (hle : number ≤ count) : returns events number = 0 :=
  returns_eq_zero fun hmem => (h.held_or_lt_of_returned hmem).elim nofun (by dsimp only; omega)

/-- No texture is shown twice, or shown and given up. -/
lemma returns_le (h : TextureCalls s events s')
    (hheld : ∀ held, s.held = some held → held ≤ s.count) : returns events number ≤ 1 := by
  induction h with
  | nil => exact Nat.zero_le 1
  | acquire _ ih =>
    have := ih fun held hheld => (Option.some.inj hheld).symm.le
    simpa [returns] using this
  | refused _ ih => simpa [returns] using ih hheld
  | @present held count events _ rest ih =>
    by_cases heq : held = number
    · have hrest := rest.returns_of_returned (heq ▸ hheld held rfl)
      have hne : GpuEvent.present number ≠ .discard number := nofun
      rw [returns] at hrest
      rw [returns, heq, List.count_cons_self, List.count_cons_of_ne hne]
      omega
    · simpa [returns, heq] using ih nofun
  | @discard held count events _ rest ih =>
    by_cases heq : held = number
    · have hrest := rest.returns_of_returned (heq ▸ hheld held rfl)
      have hne : GpuEvent.discard number ≠ .present number := nofun
      rw [returns] at hrest
      rw [returns, heq, List.count_cons_self, List.count_cons_of_ne hne]
      omega
    · simpa [returns, heq] using ih nofun
  | @other _ _ event _ hother _ ih =>
    have hpresent : event ≠ .present number := by
      rintro rfl
      cases hother
    have hdiscard : event ≠ .discard number := by
      rintro rfl
      cases hother
    rw [returns, List.count_cons_of_ne hpresent, List.count_cons_of_ne hdiscard]
    exact ih hheld

end TextureCalls

end RenderBridge
