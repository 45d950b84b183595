import RenderBridge.Device.Faulty
import RenderBridge.Proofs.Buffer.Course
import RenderBridge.Proofs.Device.Trace
import RenderBridge.Proofs.Number.Checked
/-!
Runs of reservations in a staging ring, over a device that may refuse any buffer.

* `StagingRing.reserve?`: a reservation whose arithmetic fails where it overflows.
* `StagingRing.Level`: a ring of whole granules with the cursor inside.
* `StagingRing.settle_eq_or`: a reservation makes the ring grow, continues behind the last one, or
  starts over.
* `RingRun.nextOffset`, `RingRun.Sound.settle_offset`: where a reservation belongs, and that it goes
  there.
* `RingRun.Sound`, `RingRun.Sound.reserve`, `RingRun.Sound.reserveAll`: what the ring knows of the
  reservations made so far, kept by one reservation, and so by any number of them.
* `reservations_sound`: **every reservation** lies where the one before it says, inside a buffer
  of the ring's capacity, and no step of it overflows.
-/

set_option autoImplicit false

namespace RenderBridge

namespace StagingRing

variable {δ P D : Type} [Device δ P D] {r : StagingRing} {length : ℕ}

/-! ### Reservations whose arithmetic may fail -/

/-- The new ring, step by step. -/
def ofCapacity? (capacity : ℕ) : Option StagingRing := do
  let rounded ← Word.alignUp? (max capacity alignment) alignment
  return { buffer := none, capacity := rounded, cursor := 0, lastSerial := none }

/-- The ring large enough for `length` bytes, step by step. -/
def grow? (r : StagingRing) (length : ℕ) : Option StagingRing :=
  if r.capacity < length then do
    let rounded ← Word.alignUp? (Word.grownCapacity length) alignment
    return { r with capacity := rounded, buffer := none, cursor := 0 }
  else
    return r

/-- Where `length` bytes go, step by step. -/
def place? (r : StagingRing) (length : ℕ) : Option ℕ := do
  let offset ← Word.alignUp? r.cursor alignment
  return if r.capacity < Word.saturatingAdd offset length then 0 else offset

/-- The ring with a reservation placed, step by step. -/
def settle? (r : StagingRing) (length : ℕ) (serial : FrameSerial) : Option (ℕ × StagingRing) := do
  let grown ← (r.rewind serial).grow? length
  let offset ← grown.place? length
  let stop ← Word.add? offset length
  return (offset, { grown with cursor := stop })

/-- A reservation, step by step. -/
def reserve? (r : StagingRing) (length : ℕ) (serial : FrameSerial) (device : δ) :
    Option (Except Fault (BufferId × ℕ) × StagingRing × δ) := do
  let (offset, settled) ← r.settle? length serial
  let device := releaseOutgrown r settled device
  match settled.ensureBuffer device with
  | (.ok buffer, ring, device) => return (.ok (buffer, offset), ring, device)
  | (.error fault, ring, device) => return (.error fault, ring, device)

/-! ### Whole granules -/

/-- A ring of whole granules, with the cursor inside. -/
structure Level (r : StagingRing) : Prop where
  capacity_pos : 0 < r.capacity
  capacity_dvd : alignment ∣ r.capacity
  capacity_lt : r.capacity < Word.range
  cursor_le : r.cursor ≤ r.capacity

/-- The first granule behind a byte. -/
def granuleFrom (n : ℕ) : ℕ := (n + 255) / 256 * 256

lemma dvd_granuleFrom (n : ℕ) : 256 ∣ granuleFrom n := Nat.dvd_mul_left _ _

lemma le_granuleFrom (n : ℕ) : n ≤ granuleFrom n := by
  rw [granuleFrom]
  omega

namespace Level

/-- The largest words are no multiples of 256. -/
lemma capacity_add_lt (hr : r.Level) : r.capacity + 255 < Word.range := by
  obtain ⟨q, hq⟩ := hr.capacity_dvd
  have hlt := hr.capacity_lt
  rw [Word.range] at hlt ⊢
  rw [alignment] at hq
  omega

/-- Rounding up the cursor stays away from the top of the range. -/
lemma alignUp_cursor (hr : r.Level) :
    Word.alignUp r.cursor alignment = granuleFrom r.cursor := by
  refine Word.alignUp_of_lt (lt_of_le_of_lt ?_ hr.capacity_add_lt)
  exact Nat.add_le_add_right hr.cursor_le 255

lemma ofCapacity (capacity : ℕ) : (ofCapacity capacity).Level where
  capacity_pos := by
    have hle : alignment ≤ max capacity alignment := le_max_right _ _
    by_cases h : max capacity alignment + (alignment - 1) < Word.range
    · exact lt_of_lt_of_le (by decide) (hle.trans (Word.le_alignUp (by decide) h))
    · have htop := Word.two_pow_le_alignUp_top (k := 8) (by decide) (not_lt.mp h)
      exact lt_of_lt_of_le (by decide) htop
  capacity_dvd := Word.dvd_alignUp _ _
  capacity_lt := Word.alignUp_lt_range _ _
  cursor_le := Nat.zero_le _

end Level

/-! ### Where a reservation lies -/

lemma rewind_eq (r : StagingRing) (serial : FrameSerial) :
    r.rewind serial = ⟨r.buffer, r.capacity,
      if r.lastSerial = some serial then r.cursor else 0, some serial⟩ := by
  rw [rewind]
  split
  · rename_i hsame
    rw [← hsame]
  · rfl

lemma grow_of_le (hle : length ≤ r.capacity) : r.grow length = r := by
  rw [grow, if_neg (by omega)]

/-- The ring grows to a power of two, which is whole granules already. -/
lemma grow_of_lt (hr : r.Level) (hlength : length ≤ 2 ^ 63) (hlt : r.capacity < length) :
    r.grow length = ⟨none, Word.powerOfTwoFrom length, 0, r.lastSerial⟩ := by
  have hlarge : 2 ^ 8 ≤ length :=
    calc 2 ^ 8 ≤ r.capacity := Nat.le_of_dvd hr.capacity_pos hr.capacity_dvd
      _ ≤ length := hlt.le
  have hround : Word.powerOfTwoFrom length + (alignment - 1) < Word.range :=
    calc Word.powerOfTwoFrom length + (alignment - 1)
      _ ≤ 2 ^ 63 + (alignment - 1) := Nat.add_le_add_right (Word.powerOfTwoFrom_le hlength) _
      _ < Word.range := by decide
  rw [grow, if_pos hlt, Word.grownCapacity_eq hlength (by decide),
    Word.alignUp_of_dvd (by decide) hround (Word.two_pow_dvd_powerOfTwoFrom hlarge)]

namespace Level

lemma rewind (hr : r.Level) (serial : FrameSerial) : (r.rewind serial).Level := by
  rw [rewind_eq]
  refine ⟨hr.capacity_pos, hr.capacity_dvd, hr.capacity_lt, ?_⟩
  dsimp only
  split
  · exact hr.cursor_le
  · exact Nat.zero_le _

lemma grow (hr : r.Level) (hlength : length ≤ 2 ^ 63) :
    (r.grow length).Level ∧ length ≤ (r.grow length).capacity := by
  rcases Nat.lt_or_ge r.capacity length with hlt | hle
  · have hgrown := Word.le_powerOfTwoFrom length
    have hlarge : 2 ^ 8 ≤ length := (Nat.le_of_dvd hr.capacity_pos hr.capacity_dvd).trans hlt.le
    rw [grow_of_lt hr hlength hlt]
    refine ⟨⟨?_, Word.two_pow_dvd_powerOfTwoFrom hlarge, ?_, Nat.zero_le _⟩, hgrown⟩
    · exact lt_of_lt_of_le (by omega) hgrown
    · exact lt_of_le_of_lt (Word.powerOfTwoFrom_le hlength) (by decide)
  · rw [grow_of_le hle]
    exact ⟨hr, hle⟩

lemma place_eq (hr : r.Level) (length : ℕ) : r.place length =
    if granuleFrom r.cursor + length ≤ r.capacity then granuleFrom r.cursor else 0 := by
  rw [place, hr.alignUp_cursor]

lemma place_add_le (hr : r.Level) (hle : length ≤ r.capacity) :
    r.place length + length ≤ r.capacity := by
  rw [hr.place_eq]
  split
  · assumption
  · omega

end Level

/-- What a reservation does to a ring: it grows; or the reservation continues behind the last one;
or it starts over, in a new frame or for want of room. -/
lemma settle_eq_or (hr : r.Level) (hlength : length ≤ 2 ^ 63) (serial : FrameSerial) :
    (r.capacity < length ∧ r.settle length serial =
      (0, ⟨none, Word.powerOfTwoFrom length, length, some serial⟩)) ∨
    (length ≤ r.capacity ∧ r.lastSerial = some serial ∧
      granuleFrom r.cursor + length ≤ r.capacity ∧ r.settle length serial =
      (granuleFrom r.cursor,
        ⟨r.buffer, r.capacity, granuleFrom r.cursor + length, some serial⟩)) ∨
    (length ≤ r.capacity ∧
      (r.lastSerial = some serial → r.capacity < granuleFrom r.cursor + length) ∧
      r.settle length serial = (0, ⟨r.buffer, r.capacity, length, some serial⟩)) := by
  have hrewound := hr.rewind serial
  rcases Nat.lt_or_ge r.capacity length with hlt | hle
  · refine .inl ⟨hlt, ?_⟩
    have hgrown := (hrewound.grow hlength).1
    have hgrow := grow_of_lt hrewound hlength (by rw [rewind_eq]; exact hlt)
    rw [hgrow, rewind_eq] at hgrown
    rw [settle, hgrow, rewind_eq]
    dsimp only
    rw [hgrown.place_eq]
    simp [granuleFrom]
  · refine .inr ?_
    have hgrow : (r.rewind serial).grow length = r.rewind serial :=
      grow_of_le (by rw [rewind_eq]; exact hle)
    rw [rewind_eq] at hrewound
    rw [settle, hgrow, rewind_eq]
    dsimp only
    rw [hrewound.place_eq]
    dsimp only
    by_cases hsame : r.lastSerial = some serial
    · rw [if_pos hsame]
      by_cases hfits : granuleFrom r.cursor + length ≤ r.capacity
      · rw [if_pos hfits]
        exact .inl ⟨hle, hsame, hfits, rfl⟩
      · rw [if_neg hfits, Nat.zero_add]
        exact .inr ⟨hle, fun _ => not_le.mp hfits, rfl⟩
    · refine .inr ⟨hle, fun h => absurd h hsame, ?_⟩
      simp [hsame, granuleFrom]

/-- A reservation leaves whole granules, and lies inside. -/
lemma Level.settle (hr : r.Level) (hlength : length ≤ 2 ^ 63) (serial : FrameSerial) :
    (r.settle length serial).2.Level ∧
      (r.settle length serial).1 + length ≤ (r.settle length serial).2.capacity := by
  obtain ⟨hgrown, hle⟩ := (hr.rewind serial).grow hlength
  have hfits := hgrown.place_add_le hle
  exact ⟨⟨hgrown.capacity_pos, hgrown.capacity_dvd, hgrown.capacity_lt, hfits⟩, hfits⟩

/-! ### No step overflows -/

lemma ofCapacity?_eq (capacity : ℕ) : ofCapacity? capacity = some (ofCapacity capacity) := by
  rw [ofCapacity?, Word.alignUp?_eq (by decide)]
  rfl

lemma grow?_eq (r : StagingRing) (length : ℕ) : r.grow? length = some (r.grow length) := by
  rw [grow?, grow]
  split
  · rw [Word.alignUp?_eq (by decide)]
    rfl
  · rfl

/-- The comparison with the saturated sum is the comparison with the sum. -/
lemma place?_eq (hr : r.Level) (length : ℕ) : r.place? length = some (r.place length) := by
  have htop : r.capacity < Word.range - 1 := by
    have hlt := hr.capacity_add_lt
    omega
  rw [place?, Word.alignUp?_eq (by decide), place]
  by_cases hfits : Word.alignUp r.cursor alignment + length ≤ r.capacity
  · simp [Word.lt_saturatingAdd htop, hfits]
  · simp [Word.lt_saturatingAdd htop, hfits, not_le.mp hfits]

lemma settle?_eq (hr : r.Level) (hlength : length ≤ 2 ^ 63) (serial : FrameSerial) :
    r.settle? length serial = some (r.settle length serial) := by
  obtain ⟨hgrown, hle⟩ := (hr.rewind serial).grow hlength
  have hsum : ((r.rewind serial).grow length).place length + length < Word.range :=
    lt_of_le_of_lt (hgrown.place_add_le hle) hgrown.capacity_lt
  rw [settle?, grow?_eq]
  simp only [Option.bind_eq_bind, Option.bind_some, place?_eq hgrown, Word.add?_eq hsum]
  rfl

lemma reserve?_eq (hr : r.Level) (hlength : length ≤ 2 ^ 63) (serial : FrameSerial) (device : δ) :
    r.reserve? length serial device = some (r.reserve length serial device) := by
  rw [reserve?, settle?_eq hr hlength, reserve]
  simp only [Option.bind_eq_bind, Option.bind_some]
  rcases r.settle length serial with ⟨offset, settled⟩
  dsimp only
  rcases settled.ensureBuffer (releaseOutgrown r settled device) with ⟨fault | buffer, ring, d⟩
  · rfl
  · rfl

/-! ### Reservations on a device -/

/-- The ring keeps its capacity, or grows to the next power of two. -/
lemma settle_capacity (hr : r.Level) (hlength : length ≤ 2 ^ 63) (serial : FrameSerial) :
    (r.settle length serial).2.capacity =
      if r.capacity < length then Word.powerOfTwoFrom length else r.capacity := by
  rcases settle_eq_or hr hlength serial with ⟨hlt, hcase⟩ | ⟨hle, -, -, hcase⟩ | ⟨hle, -, hcase⟩
  · rw [hcase, if_pos hlt]
  · rw [hcase, if_neg (not_lt.mpr hle)]
  · rw [hcase, if_neg (not_lt.mpr hle)]

/-- The buffer that a reservation leaves in place still has the ring's capacity. -/
lemma settle_buffer (hr : r.Level) (hlength : length ≤ 2 ^ 63) {serial : FrameSerial}
    {offset : ℕ} {settled : StagingRing} (hsettle : r.settle length serial = (offset, settled))
    {buffer : BufferId} (h : settled.buffer = some buffer) :
    r.buffer = some buffer ∧ settled.capacity = r.capacity := by
  rcases settle_eq_or hr hlength serial with ⟨-, hcase⟩ | ⟨-, -, -, hcase⟩ | ⟨-, -, hcase⟩
  · cases hsettle.symm.trans hcase
    cases h
  · cases hsettle.symm.trans hcase
    exact ⟨h, rfl⟩
  · cases hsettle.symm.trans hcase
    exact ⟨h, rfl⟩

/-- The buffer that a ring holds, if any, is the one made last, of the ring's capacity. -/
def Made (r : StagingRing) (t : Traced δ P D) : Prop :=
  ∀ buffer, r.buffer = some buffer → t.created.getLast? = some (r.capacity, buffer)

/-- A ring without a buffer has one made, of its capacity. -/
lemma ensureBuffer_made {t : Traced δ P D} (hmade : r.Made t) :
    ∃ answer held t', r.ensureBuffer t = (answer, { r with buffer := held }, t') ∧
      { r with buffer := held }.Made t' ∧ ∀ buffer, answer = .ok buffer → held = some buffer := by
  have hcourse := r.ensureBuffer_course t
  generalize r.ensureBuffer t = out at hcourse ⊢
  cases hcourse with
  | held hheld =>
    refine ⟨_, r.buffer, t, rfl, hmade, ?_⟩
    rintro _ ⟨⟩
    exact hheld
  | refused hnone =>
    refine ⟨_, r.buffer, _, rfl, fun buffer hsome => ?_, ?_⟩
    · cases hnone.symm.trans hsome
    · rintro _ ⟨⟩
  | made _ hcall =>
    refine ⟨_, _, _, rfl, ?_, ?_⟩
    · rintro _ ⟨⟩
      rw [Traced.created_of_createBuffer hcall]
      exact List.getLast?_concat
    · rintro _ ⟨⟩
      rfl

/-- Having the ring's buffer made moves nothing. -/
lemma Level.ensureBuffer {ring : StagingRing} {answer : Except Fault BufferId} {d d' : δ}
    (hr : r.Level) (h : r.ensureBuffer d = (answer, ring, d')) : ring.Level := by
  have hcourse := r.ensureBuffer_course d
  rw [h] at hcourse
  cases hcourse with
  | held | refused => exact hr
  | made => exact ⟨hr.capacity_pos, hr.capacity_dvd, hr.capacity_lt, hr.cursor_le⟩

/-- A reservation leaves whole granules on any device. -/
lemma Level.reserve (hr : r.Level) (hlength : length ≤ 2 ^ 63) (serial : FrameSerial) (d : δ) :
    (r.reserve length serial d).2.1.Level := by
  have hlevel := (hr.settle hlength serial).1
  have hcourse := r.reserve_course length serial d
  generalize r.reserve length serial d = out at hcourse ⊢
  cases hcourse with
  | refused hsettle hensure | reserved hsettle hensure =>
    rw [hsettle] at hlevel
    exact hlevel.ensureBuffer hensure

/-- A reservation keeps the buffer that it has room in, or has one made of the new capacity. -/
lemma reserve_made {t : Traced δ P D} (hr : r.Level) (hlength : length ≤ 2 ^ 63)
    {serial : FrameSerial} (hmade : r.Made t) {offset : ℕ} {settled : StagingRing}
    (hsettle : r.settle length serial = (offset, settled)) :
    ∃ answer held t', r.reserve length serial t = (answer, { settled with buffer := held }, t') ∧
      { settled with buffer := held }.Made t' ∧
      ∀ buffer start, answer = .ok (buffer, start) → held = some buffer ∧ start = offset := by
  have hsettled : settled.Made (releaseOutgrown r settled t) := by
    intro buffer hbuffer
    obtain ⟨hold, hcapacity⟩ := settle_buffer hr hlength hsettle hbuffer
    rw [releaseOutgrown, hold, hbuffer, hcapacity]
    exact hmade buffer hold
  obtain ⟨answer, held, t', hensure, hheld, hanswer⟩ := ensureBuffer_made hsettled
  rw [reserve, hsettle]
  dsimp only
  rw [hensure]
  cases answer with
  | ok buffer =>
    refine ⟨_, held, t', rfl, hheld, ?_⟩
    rintro _ _ ⟨⟩
    exact ⟨hanswer buffer rfl, rfl⟩
  | error fault =>
    refine ⟨_, held, t', rfl, hheld, ?_⟩
    rintro _ _ ⟨⟩

end StagingRing

/-! ### Runs -/

/-- What is asked of a ring: so many bytes, for the frame with this serial. -/
structure Ask where
  length : ℕ
  serial : FrameSerial

/-- Where a ring placed what it was asked for. -/
structure Placement extends Ask where
  offset : ℕ

namespace Placement

/-- The end of the range. -/
def stop (p : Placement) : ℕ := p.offset + p.length

/-- One frame's reservations, one behind the other. -/
def Before (p q : Placement) : Prop := p.serial = q.serial ∧ p.stop ≤ q.offset

/-- A reservation starts over, or lies behind the one made just before it. -/
def Next (p q : Placement) : Prop := q.offset = 0 ∨ p.Before q

instance : IsTrans Placement Before where
  trans p q s hpq hqs := by
    have hq : q.offset ≤ q.stop := Nat.le_add_right _ _
    refine ⟨hpq.1.trans hqs.1, ?_⟩
    calc p.stop ≤ q.offset := hpq.2
      _ ≤ q.stop := hq
      _ ≤ s.offset := hqs.2

/-- Where none of them starts over, reservations lie one behind the other. -/
lemma pairwise_before {ps : List Placement} (h : ps.IsChain Next)
    (hbehind : ∀ p ∈ ps.tail, p.offset ≠ 0) : ps.Pairwise Before := by
  rw [← List.isChain_iff_pairwise]
  induction ps with
  | nil => exact .nil
  | cons p ps ih =>
    cases ps with
    | nil => exact .singleton p
    | cons q ps =>
      obtain ⟨hnext, hrest⟩ := List.isChain_cons_cons.mp h
      have hq : p.Before q := hnext.resolve_left (hbehind q (by simp))
      have htail := ih hrest fun s hs => hbehind s (List.mem_cons_of_mem q hs)
      exact .cons_cons hq htail

end Placement

/-- A ring at work on a device, with its reservations so far, also those whose buffer the device
refused. -/
structure RingRun (δ P D : Type) where
  ring : StagingRing
  device : Traced δ P D
  placed : List Placement := []

namespace RingRun

variable {δ P D : Type} [Device δ P D]

/-- A new ring on a device. -/
def start (capacity : ℕ) (d : δ) : RingRun δ P D where
  ring := .ofCapacity capacity
  device := ⟨d, []⟩

/-- Makes one reservation. -/
def reserve (run : RingRun δ P D) (ask : Ask) : RingRun δ P D where
  ring := (run.ring.reserve ask.length ask.serial run.device).2.1
  device := (run.ring.reserve ask.length ask.serial run.device).2.2
  placed := run.placed ++ [⟨ask, (run.ring.settle ask.length ask.serial).1⟩]

/-- Makes reservations one after the other. -/
def reserveAll (run : RingRun δ P D) (asks : List Ask) : RingRun δ P D := asks.foldl reserve run

/-- Where a reservation belongs: at the start of a ring that is new, in a new frame or grown, and
else behind the last one if it fits there. -/
def nextOffset (run : RingRun δ P D) (ask : Ask) : ℕ :=
  match run.placed.getLast? with
  | none => 0
  | some last =>
    if last.serial = ask.serial ∧ (run.reserve ask).ring.capacity = run.ring.capacity then
      let offset := StagingRing.granuleFrom last.stop
      if offset + ask.length ≤ run.ring.capacity then offset else 0
    else 0

/-- What a ring knows of its reservations so far. -/
structure Sound (run : RingRun δ P D) : Prop where
  level : run.ring.Level
  lastSerial : run.ring.lastSerial = run.placed.getLast?.map (fun p => p.serial)
  cursor : run.ring.cursor = (run.placed.getLast?.map Placement.stop).getD 0
  made : run.ring.Made run.device
  chained : run.placed.IsChain Placement.Next

lemma sound_start (capacity : ℕ) (d : δ) : (start capacity d : RingRun δ P D).Sound where
  level := .ofCapacity capacity
  lastSerial := rfl
  cursor := rfl
  made _ hbuffer := by cases hbuffer
  chained := .nil

variable {run : RingRun δ P D} {ask : Ask}

/-- A reservation starts over, or lies behind the last one. -/
lemma next_nextOffset (ask : Ask) {last : Placement} (hlast : run.placed.getLast? = some last) :
    last.Next ⟨ask, run.nextOffset ask⟩ := by
  rw [nextOffset, hlast]
  dsimp only
  split
  · rename_i hsame
    split
    · exact .inr ⟨hsame.1, StagingRing.le_granuleFrom _⟩
    · exact .inl rfl
  · exact .inl rfl

lemma dvd_nextOffset (run : RingRun δ P D) (ask : Ask) : 256 ∣ run.nextOffset ask := by
  rw [nextOffset]
  split
  · exact dvd_zero _
  · split
    · dsimp only
      split
      · exact StagingRing.dvd_granuleFrom _
      · exact dvd_zero _
    · exact dvd_zero _

/-- A reservation of a sound run: the ring after it, but for the buffer, is the settled one. -/
lemma Sound.reserve_eq (h : run.Sound) (hlength : ask.length ≤ 2 ^ 63) {offset : ℕ}
    {settled : StagingRing} (hsettle : run.ring.settle ask.length ask.serial = (offset, settled)) :
    ∃ answer held t',
      run.ring.reserve ask.length ask.serial run.device =
        (answer, { settled with buffer := held }, t') ∧
      run.reserve ask = ⟨{ settled with buffer := held }, t', run.placed ++ [⟨ask, offset⟩]⟩ ∧
      { settled with buffer := held }.Made t' ∧
      ∀ buffer start, answer = .ok (buffer, start) → held = some buffer ∧ start = offset := by
  obtain ⟨answer, held, t', hreserve, hmade, hanswer⟩ :=
    StagingRing.reserve_made h.level hlength h.made hsettle
  refine ⟨answer, held, t', hreserve, ?_, hmade, hanswer⟩
  rw [RingRun.reserve, hreserve, hsettle]

/-- The ring keeps its capacity, or grows to the next power of two. -/
lemma Sound.reserve_capacity (h : run.Sound) (hlength : ask.length ≤ 2 ^ 63) :
    (run.reserve ask).ring.capacity =
      if run.ring.capacity < ask.length then Word.powerOfTwoFrom ask.length
      else run.ring.capacity := by
  rcases hsettle : run.ring.settle ask.length ask.serial with ⟨offset, settled⟩
  obtain ⟨-, held, t', -, hrun, -⟩ := h.reserve_eq hlength hsettle
  rw [hrun, ← StagingRing.settle_capacity h.level hlength ask.serial, hsettle]

/-- The ring grows for nothing but want of room. -/
lemma Sound.reserve_capacity_eq_iff (h : run.Sound) (hlength : ask.length ≤ 2 ^ 63) :
    (run.reserve ask).ring.capacity = run.ring.capacity ↔ ask.length ≤ run.ring.capacity := by
  have hgrown := Word.le_powerOfTwoFrom ask.length
  rw [h.reserve_capacity hlength]
  split <;> omega

/-- A reservation goes where the last one says. -/
lemma Sound.settle_offset (h : run.Sound) (hlength : ask.length ≤ 2 ^ 63) :
    (run.ring.settle ask.length ask.serial).1 = run.nextOffset ask := by
  have hserial := h.lastSerial
  have hcursor := h.cursor
  have hsettle := StagingRing.settle_eq_or h.level hlength ask.serial
  simp only [nextOffset, h.reserve_capacity_eq_iff hlength]
  cases hlast : run.placed.getLast? with
  | none =>
    rw [hlast] at hserial
    rcases hsettle with ⟨-, hcase⟩ | ⟨-, hsame, -⟩ | ⟨-, -, hcase⟩
    · rw [hcase]
    · rw [hserial] at hsame
      cases hsame
    · rw [hcase]
  | some last =>
    rw [hlast] at hserial hcursor
    have hstop : run.ring.cursor = last.stop := hcursor
    have hsame : run.ring.lastSerial = some ask.serial ↔ last.serial = ask.serial := by
      simp [hserial]
    rw [hsame, hstop] at hsettle
    dsimp only
    rcases hsettle with ⟨hlt, hcase⟩ | ⟨hle, hserials, hfits, hcase⟩ | ⟨hle, hfull, hcase⟩
    · rw [hcase, if_neg fun both => not_lt.mpr both.2 hlt]
    · rw [hcase, if_pos ⟨hserials, hle⟩, if_pos hfits]
    · rw [hcase]
      by_cases hserials : last.serial = ask.serial
      · rw [if_pos ⟨hserials, hle⟩, if_neg (not_le.mpr (hfull hserials))]
      · rw [if_neg fun both => hserials both.1]

/-- A reservation that succeeds lies inside the buffer that it returns. -/
lemma Sound.reserve_ok (h : run.Sound) (hlength : ask.length ≤ 2 ^ 63) {buffer : BufferId}
    {offset : ℕ}
    (hok : (run.ring.reserve ask.length ask.serial run.device).1 = .ok (buffer, offset)) :
    offset = run.nextOffset ask ∧ offset + ask.length ≤ (run.reserve ask).ring.capacity ∧
      (run.reserve ask).ring.buffer = some buffer := by
  have hoffset := h.settle_offset hlength
  have hfits := (h.level.settle hlength ask.serial).2
  rcases hsettle : run.ring.settle ask.length ask.serial with ⟨start, settled⟩
  obtain ⟨answer, held, t', hreserve, hrun, -, hanswer⟩ := h.reserve_eq hlength hsettle
  rw [hsettle] at hoffset hfits
  rw [hreserve] at hok
  obtain ⟨hheld, rfl⟩ := hanswer buffer offset hok
  rw [hrun]
  exact ⟨hoffset, hfits, hheld⟩

/-- One more reservation. -/
lemma Sound.reserve (h : run.Sound) (hlength : ask.length ≤ 2 ^ 63) :
    (run.reserve ask).Sound := by
  rcases hsettle : run.ring.settle ask.length ask.serial with ⟨offset, settled⟩
  obtain ⟨-, held, t', -, hrun, hmade, -⟩ := h.reserve_eq hlength hsettle
  have hlevel : settled.Level := by
    have hlevel := (h.level.settle hlength ask.serial).1
    rwa [hsettle] at hlevel
  have hoffset : offset = run.nextOffset ask := by
    rw [← h.settle_offset hlength, hsettle]
  have hsettled : settled.cursor = offset + ask.length ∧ settled.lastSerial = some ask.serial := by
    rcases StagingRing.settle_eq_or h.level hlength ask.serial with
      ⟨-, hcase⟩ | ⟨-, -, -, hcase⟩ | ⟨-, -, hcase⟩
    all_goals
      cases hsettle.symm.trans hcase
      simp
  rw [hrun]
  refine ⟨⟨hlevel.capacity_pos, hlevel.capacity_dvd, hlevel.capacity_lt, hlevel.cursor_le⟩,
    ?_, ?_, hmade, ?_⟩
  · simp [hsettled.2]
  · simp [hsettled.1, Placement.stop]
  · rw [hoffset]
    refine h.chained.append (.singleton _) ?_
    rintro last hlast _ ⟨⟩
    exact next_nextOffset ask hlast

/-- Any number of reservations. -/
lemma Sound.reserveAll {asks : List Ask} (h : run.Sound)
    (hasks : ∀ ask ∈ asks, ask.length ≤ 2 ^ 63) : (run.reserveAll asks).Sound := by
  induction asks generalizing run with
  | nil => exact h
  | cons ask asks ih =>
    have hstep := h.reserve (hasks ask (by simp))
    exact ih hstep fun a ha => hasks a (List.mem_cons_of_mem _ ha)

end RingRun

/-- **Reservations in a staging ring.** After any reservations, on any device, the capacity is a
positive multiple of 256, and a buffer that is held was made with it. The next reservation does not
overflow. It makes the ring grow if it is longer than the ring, and then to the least power of two
that is long enough. It lies where the one before it says, in whole granules and inside the buffer
that is returned. Reservations of which none starts over are of one frame and lie one behind the
other. -/
theorem reservations_sound {δ P D : Type} [Device δ P D] (capacity : ℕ) (d : δ) (asks : List Ask)
    (ask : Ask) (hasks : ∀ a ∈ asks ++ [ask], a.length ≤ 2 ^ 63) :
    let run : RingRun δ P D := (RingRun.start capacity d).reserveAll asks
    let next := run.reserve ask
    let out := run.ring.reserve ask.length ask.serial run.device
    (0 < run.ring.capacity ∧ 256 ∣ run.ring.capacity ∧
      ∀ buffer, run.ring.buffer = some buffer →
        run.device.created.getLast? = some (run.ring.capacity, buffer)) ∧
    (StagingRing.ofCapacity? capacity = some (.ofCapacity capacity) ∧
      run.ring.reserve? ask.length ask.serial run.device = some out) ∧
    (run.ring.capacity ≤ next.ring.capacity ∧
      (ask.length ≤ run.ring.capacity → next.ring.capacity = run.ring.capacity) ∧
      (run.ring.capacity < ask.length →
        IsLeast {m | ask.length ≤ m ∧ ∃ k, m = 2 ^ k} next.ring.capacity)) ∧
    (next.placed = run.placed ++ [⟨ask, run.nextOffset ask⟩] ∧
      ∀ buffer offset, out.1 = .ok (buffer, offset) →
        offset = run.nextOffset ask ∧ 256 ∣ offset ∧ offset + ask.length ≤ next.ring.capacity ∧
          next.ring.buffer = some buffer) ∧
    ∀ segment, segment <:+: run.placed → (∀ p ∈ segment.tail, p.offset ≠ 0) →
      segment.Pairwise Placement.Before := by
  intro run next out
  have hlength : ask.length ≤ 2 ^ 63 := hasks ask (by simp)
  have hrun : run.Sound :=
    (RingRun.sound_start capacity d).reserveAll fun a ha => hasks a (List.mem_append_left _ ha)
  have hcapacity : next.ring.capacity = _ := hrun.reserve_capacity hlength
  refine ⟨⟨hrun.level.capacity_pos, hrun.level.capacity_dvd, hrun.made⟩,
    ⟨StagingRing.ofCapacity?_eq capacity, StagingRing.reserve?_eq hrun.level hlength _ _⟩,
    ⟨?_, (hrun.reserve_capacity_eq_iff hlength).mpr, ?_⟩, ⟨?_, ?_⟩, ?_⟩
  · have hgrown := Word.le_powerOfTwoFrom ask.length
    rw [hcapacity]
    split <;> omega
  · intro hlt
    rw [hcapacity, if_pos hlt]
    exact Word.powerOfTwoFrom_isLeast ask.length
  · rw [← hrun.settle_offset hlength]
    rfl
  · intro buffer offset hok
    obtain ⟨hoffset, hfits, hheld⟩ := hrun.reserve_ok hlength hok
    refine ⟨hoffset, ?_, hfits, hheld⟩
    rw [hoffset]
    exact RingRun.dvd_nextOffset run ask
  · intro segment hsegment hbehind
    have hchained := List.IsChain.infix hrun.chained hsegment
    exact Placement.pairwise_before hchained hbehind

/-- A ring of 1024 bytes whose first reservation finds no room on the device. -/
def refusedReservation : RingRun FaultyDevice CompiledPipeline CompiledDepthStencil :=
  (RingRun.start 1024 (FaultyDevice.arm .createBuffer 1 (.resource .targetsNotReady) {})).reserveAll
    [⟨300, {}⟩]

/-- The reservation that failed counts: the next one lies behind it. -/
theorem reservations_sound_refusedReservation :
    refusedReservation.ring.buffer = none ∧ refusedReservation.nextOffset ⟨100, {}⟩ = 512 ∧
    ∃ buffer, (refusedReservation.ring.reserve 100 {} refusedReservation.device).1 =
        .ok (buffer, 512) ∧
      (refusedReservation.reserve ⟨100, {}⟩).ring.buffer = some buffer ∧
      512 + 100 ≤ (refusedReservation.reserve ⟨100, {}⟩).ring.capacity := by
  obtain ⟨-, -, -, ⟨-, hout⟩, -⟩ := reservations_sound 1024
    (FaultyDevice.arm .createBuffer 1 (.resource .targetsNotReady) {}) [⟨300, {}⟩] ⟨100, {}⟩
    (by decide)
  have hok : (refusedReservation.ring.reserve 100 {} refusedReservation.device).1 =
      .ok (1, 512) := by decide +kernel
  obtain ⟨hoffset, -, hfits, hheld⟩ := hout 1 512 hok
  exact ⟨by decide +kernel, hoffset.symm, 1, hok, hheld, hfits⟩

end RenderBridge
