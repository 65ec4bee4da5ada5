import IronReplay.Files

/-!
The two players, `routes/player/+page.svelte` and `lib/ReplayPlayer.svelte`, as one state machine
over the events a browser delivers; each call in flight is a task that its settle resumes. The
replay engine lies outside the repository: a handle is what its accessors return.
-/

namespace IronReplay.Engine

structure Pointer where
  width : ℕ
  height : ℕ
  bitmap : List UInt8
  deriving DecidableEq, Repr

structure Handle where
  currentFrame : ℕ
  width : ℕ
  height : ℕ
  frameBuffer : List UInt8
  desktopWidth : ℕ
  desktopHeight : ℕ
  resolutionChanged : Bool
  pointer : Pointer
  pointerBitmapChanged : Bool
  clearedDesktop : ℕ × ℕ
  clearedPointer : Pointer
  deriving DecidableEq, Repr

namespace Handle

def DEFAULT_WIDTH : ℕ := 1920

def DEFAULT_HEIGHT : ℕ := 1080

def clearResolutionChanged (e : Handle) : Handle :=
  { e with resolutionChanged := false, clearedDesktop := (e.desktopWidth, e.desktopHeight) }

def clearPointerBitmapChanged (e : Handle) : Handle :=
  { e with pointerBitmapChanged := false, clearedPointer := e.pointer }

/-- The flags follow the state: each is raised exactly when the desktop size, or the pointer,
differs from its value at the flag's last clear. -/
def Honest (e : Handle) : Prop :=
  (e.resolutionChanged = true ↔ (e.desktopWidth, e.desktopHeight) ≠ e.clearedDesktop) ∧
    (e.pointerBitmapChanged = true ↔ e.pointer ≠ e.clearedPointer)

def Fresh (e : Handle) : Prop :=
  e.Honest ∧ e.desktopWidth = DEFAULT_WIDTH ∧ e.desktopHeight = DEFAULT_HEIGHT ∧
    e.pointer.bitmap = [] ∧ e.resolutionChanged = false ∧ e.pointerBitmapChanged = false

def Follows (e e' : Handle) : Prop :=
  e'.clearedDesktop = e.clearedDesktop ∧ e'.clearedPointer = e.clearedPointer ∧ e'.Honest

instance (e : Handle) : Decidable e.Honest := inferInstanceAs (Decidable (_ ∧ _))

instance (e : Handle) : Decidable e.Fresh := inferInstanceAs (Decidable (_ ∧ _))

instance (e e' : Handle) : Decidable (Follows e e') := inferInstanceAs (Decidable (_ ∧ _))

end Handle

structure Cursor where
  width : ℕ
  height : ℕ
  image : Option (List UInt8)
  deriving DecidableEq, Repr

def imageDataOk (data : List UInt8) (w h : ℕ) : Bool :=
  0 < w && 0 < h && data.length == 4 * w * h

def cursorOf (p : Pointer) : Option Cursor :=
  if p.bitmap.isEmpty || p.width == 0 || p.height == 0 then none
  else some ⟨p.width, p.height, some p.bitmap⟩

end IronReplay.Engine

namespace IronReplay.Playback

open Engine Handle Timing

inductive Pc
  | create
  | loopStep
  | loopTimer
  | stepFrame
  deriving DecidableEq, Repr

structure Task where
  pc : Pc
  handle : Option ℕ
  lastTimeOffset : ℤ
  deriving DecidableEq, Repr

inductive Action
  | startLoop (t : ℕ)
  | stop
  | loopStep (t : ℕ)
  | frameStep (t : ℕ)
  | paced (t p c : ℕ) (wait : ℤ)
  | updated (t : ℕ)
  | exit (t : ℕ)
  deriving DecidableEq, Repr

inductive Event
  | toggle
  | step
  | reset (e : Handle)
  | created (t : ℕ) (r : Except String Handle)
  | stepped (t : ℕ) (r : Except String (Bool × Handle))
  | timer (t : ℕ)

structure Player where
  isInitialized : Bool
  replay : Option ℕ
  handles : ℕ
  engine : Handle
  isPlaying : Bool
  currentFrame : ℕ
  error : Option String
  canvasWidth : ℕ
  canvasHeight : ℕ
  cursorCanvas : Option Cursor
  tasks : List (Option Task)
  log : List Action

namespace Player

variable (timing : List TimingEntry)

def task (s : Player) (t : ℕ) : Option Task := s.tasks[t]?.join

def setTask (s : Player) (t : ℕ) (k : Option Task) : Player := { s with tasks := s.tasks.set t k }

def spawn (s : Player) (k : Task) : Player := { s with tasks := s.tasks ++ [some k] }

def emit (s : Player) (a : Action) : Player := { s with log := s.log ++ [a] }

def updateCursorCanvas (s : Player) : Player × Option String :=
  let p := s.engine.pointer
  if p.bitmap.isEmpty || p.width == 0 || p.height == 0 then ({ s with cursorCanvas := none }, none)
  else if imageDataOk p.bitmap p.width p.height then
    ({ s with cursorCanvas := some ⟨p.width, p.height, some p.bitmap⟩ }, none)
  else ({ s with cursorCanvas := some ⟨p.width, p.height, none⟩ }, some "IndexSizeError")

def applyResolution (s : Player) : Player :=
  if s.engine.resolutionChanged then
    { s with canvasWidth := s.engine.desktopWidth, canvasHeight := s.engine.desktopHeight
             engine := clearResolutionChanged s.engine }
  else s

def handleUpdates (s : Player) : Player × Option String :=
  let s := applyResolution s
  if s.engine.pointerBitmapChanged then
    let r := updateCursorCanvas s
    (if r.2.isNone then { r.1 with engine := clearPointerBitmapChanged r.1.engine } else r.1, r.2)
  else (s, none)

def renderFrame (s : Player) : Option String :=
  if imageDataOk s.engine.frameBuffer s.engine.width s.engine.height then none
  else some "IndexSizeError"

def fail (s : Player) (t : ℕ) (m : String) : Player :=
  ({ s with error := some ("Playback error: " ++ m), isPlaying := false }.setTask t none).emit (.exit t)

def loopTop (s : Player) (t : ℕ) (last : ℤ) : Player :=
  if s.isPlaying then (s.setTask t (some ⟨.loopStep, s.replay, last⟩)).emit (.loopStep t)
  else (s.setTask t none).emit (.exit t)

def playFrames (s : Player) (t : ℕ) : Player :=
  match s.replay with
  | none => s.setTask t none
  | some _ => loopTop (s.emit (.startLoop t)) t (startOffset timing)

def pace (s : Player) (t : ℕ) (last : ℤ) (p : ℕ) : Player :=
  match entryAt timing s.currentFrame with
  | some e =>
    let delay := e.timeOffset - last
    let s := s.emit (.paced t p s.currentFrame (if 0 < delay then delay else 0))
    if 0 < delay then s.setTask t (some ⟨.loopTimer, s.replay, e.timeOffset⟩)
    else loopTop s t e.timeOffset
  | none => (s.emit (.paced t p s.currentFrame 16)).setTask t (some ⟨.loopTimer, s.replay, last⟩)

def loopStepped (s : Player) (t : ℕ) (last : ℤ) (p : ℕ) (hasMore : Bool) : Player :=
  let r := handleUpdates { s with currentFrame := s.engine.currentFrame }
  match r.2, renderFrame r.1 with
  | some m, _ => fail r.1 t m
  | none, some m => fail (r.1.emit (.updated t)) t m
  | none, none =>
    if hasMore then pace timing (r.1.emit (.updated t)) t last p
    else ({ r.1.emit (.updated t) with isPlaying := false }.setTask t none).emit (.exit t)

def frameStepped (s : Player) (t : ℕ) : Player :=
  let r := handleUpdates { s with currentFrame := s.engine.currentFrame }
  match r.2, renderFrame r.1 with
  | some m, _ => { r.1 with error := some ("Step error: " ++ m) }.setTask t none
  | none, some m => { r.1.emit (.updated t) with error := some ("Step error: " ++ m) }.setTask t none
  | none, none => (r.1.emit (.updated t)).setTask t none

/-- The engine answers a `replay.step()` of task `t`; only the handle `replay` still holds is
observed, a step of a replaced handle changes nothing the player reads. -/
def stepped (s : Player) (t : ℕ) (r : Except String (Bool × Handle)) : Player :=
  match s.task t, r with
  | some ⟨.loopStep, _, _⟩, .error m => fail s t m
  | some ⟨.loopStep, h, last⟩, .ok (hasMore, e) =>
    loopStepped timing (if h = s.replay then { s with engine := e } else s) t last
      s.engine.currentFrame hasMore
  | some ⟨.stepFrame, _, _⟩, .error m => { s with error := some ("Step error: " ++ m) }.setTask t none
  | some ⟨.stepFrame, h, _⟩, .ok (_, e) =>
    frameStepped (if h = s.replay then { s with engine := e } else s) t
  | _, _ => s

def timer (s : Player) (t : ℕ) : Player :=
  match s.task t with
  | some ⟨.loopTimer, _, last⟩ => loopTop s t last
  | _ => s

def stopReplay (s : Player) : Player := { s with isPlaying := false }.emit .stop

def resetReplay (s : Player) (e : Handle) : Player :=
  match s.replay with
  | none => s
  | some _ => { s with engine := e, currentFrame := 0 }

def stepFrame (s : Player) : Player :=
  match s.replay with
  | none => s
  | some _ => (s.spawn ⟨.stepFrame, s.replay, 0⟩).emit (.frameStep s.tasks.length)

def opens (s : Player) : Event → Bool
  | .toggle | .step => !s.isPlaying
  | _ => false

@[simp] theorem opens_toggle (s : Player) : opens s .toggle = !s.isPlaying := rfl

@[simp] theorem opens_step (s : Player) : opens s .step = !s.isPlaying := rfl

def liveCount (s : Player) : ℕ := s.tasks.countP Option.isSome

def TouchesOnly (t : ℕ) (s s' : Player) : Prop := ∃ k, s'.tasks = s.tasks.set t k

theorem task_setTask (s : Player) (t t' : ℕ) (k : Option Task) :
    (s.setTask t k).task t' = if t = t' then (if t < s.tasks.length then k else none)
      else s.task t' := by
  unfold task setTask
  rw [List.getElem?_set]
  split_ifs <;> rfl

@[simp] theorem task_emit (s : Player) (a : Action) (t : ℕ) : (s.emit a).task t = s.task t := rfl

@[simp] theorem tasks_emit (s : Player) (a : Action) : (s.emit a).tasks = s.tasks := rfl

@[simp] theorem tasks_setTask (s : Player) (t : ℕ) (k : Option Task) :
    (s.setTask t k).tasks = s.tasks.set t k := rfl

theorem applyResolution_eq (s : Player) : ∃ w h e, applyResolution s =
    { s with canvasWidth := w, canvasHeight := h, engine := e } ∧
      e.currentFrame = s.engine.currentFrame := by
  unfold applyResolution
  split_ifs
  · exact ⟨_, _, _, rfl, rfl⟩
  · exact ⟨s.canvasWidth, s.canvasHeight, s.engine, rfl, rfl⟩

theorem updateCursorCanvas_fst (s : Player) :
    ∃ c, (updateCursorCanvas s).1 = { s with cursorCanvas := c } := by
  unfold updateCursorCanvas; dsimp only
  split_ifs <;> exact ⟨_, rfl⟩

theorem handleUpdates_eq (s : Player) : ∃ w h c e, (handleUpdates s).1 =
    { s with canvasWidth := w, canvasHeight := h, cursorCanvas := c, engine := e } ∧
      e.currentFrame = s.engine.currentFrame := by
  obtain ⟨w, h, e, hr, he⟩ := applyResolution_eq s
  obtain ⟨c, hc⟩ := updateCursorCanvas_fst (applyResolution s)
  unfold handleUpdates
  rw [hr] at hc ⊢
  dsimp only
  split_ifs
  · rw [hc]; exact ⟨w, h, c, clearPointerBitmapChanged e, rfl, he⟩
  · rw [hc]; exact ⟨w, h, c, e, rfl, he⟩
  · exact ⟨w, h, s.cursorCanvas, e, rfl, he⟩

theorem tasks_handleUpdates (s : Player) : (handleUpdates s).1.tasks = s.tasks := by
  obtain ⟨_, _, _, _, h, -⟩ := handleUpdates_eq s
  rw [h]

theorem touchesOnly_of_eq {t : ℕ} {s s₁ s' : Player} (h₁ : s₁.tasks = s.tasks)
    (h : TouchesOnly t s₁ s') : TouchesOnly t s s' := by
  rwa [TouchesOnly, ← h₁]

theorem loopTop_touches (s : Player) (t : ℕ) (last : ℤ) : TouchesOnly t s (loopTop s t last) := by
  unfold loopTop; split_ifs <;> exact ⟨_, rfl⟩

theorem fail_touches (s : Player) (t : ℕ) (m : String) : TouchesOnly t s (fail s t m) := ⟨_, rfl⟩

theorem pace_touches (s : Player) (t : ℕ) (last : ℤ) (p : ℕ) :
    TouchesOnly t s (pace timing s t last p) := by
  unfold pace
  split
  · dsimp only; split_ifs
    · exact ⟨_, rfl⟩
    · exact loopTop_touches _ _ _
  · exact ⟨_, rfl⟩

theorem loopStepped_touches (s : Player) (t : ℕ) (last : ℤ) (p : ℕ) (hasMore : Bool) :
    TouchesOnly t s (loopStepped timing s t last p hasMore) := by
  have hu := tasks_handleUpdates { s with currentFrame := s.engine.currentFrame }
  unfold loopStepped
  generalize handleUpdates { s with currentFrame := s.engine.currentFrame } = r at hu
  obtain ⟨s', m⟩ := r
  dsimp only at hu ⊢
  cases m with
  | some m => exact touchesOnly_of_eq hu (fail_touches _ _ _)
  | none =>
    cases renderFrame s' with
    | some m => exact touchesOnly_of_eq hu (fail_touches _ _ _)
    | none =>
      cases hasMore
      · exact ⟨none, by simp [hu]⟩
      · exact touchesOnly_of_eq hu (pace_touches timing (s'.emit (.updated t)) t last p)

theorem frameStepped_touches (s : Player) (t : ℕ) : TouchesOnly t s (frameStepped s t) := by
  have hu := tasks_handleUpdates { s with currentFrame := s.engine.currentFrame }
  unfold frameStepped
  generalize handleUpdates { s with currentFrame := s.engine.currentFrame } = r at hu
  obtain ⟨s', m⟩ := r
  dsimp only at hu ⊢
  split <;> exact ⟨none, by simp [hu]⟩

theorem countP_set_le {α : Type} (p : α → Bool) (a : α) :
    ∀ (l : List α) (t : ℕ), (∃ x, l.get? t = some x ∧ p x = true) →
      (l.set t a).countP p ≤ l.countP p
  | [], _, ⟨_, h, _⟩ => by simp at h
  | y :: l, 0, ⟨x, h, hx⟩ => by
    obtain rfl : y = x := by simpa using h
    rw [List.set_cons_zero, List.countP_cons, List.countP_cons, if_pos hx]
    split <;> omega
  | y :: l, t + 1, h => by
    have := countP_set_le p a l t (by simpa using h)
    simp only [List.set_cons_succ, List.countP_cons]
    omega

theorem liveCount_le_of_touches {t : ℕ} {s s' : Player} {k : Task} (h : s.task t = some k)
    (ht : TouchesOnly t s s') : liveCount s' ≤ liveCount s := by
  obtain ⟨k', hk'⟩ := ht
  rw [liveCount, liveCount, hk']
  unfold task at h
  cases hg : s.tasks[t]? with
  | none => rw [hg] at h; cases h
  | some o =>
    obtain rfl : o = some k := by rw [hg] at h; exact h
    exact countP_set_le _ _ _ _ ⟨some k, by simpa using hg, rfl⟩

theorem liveCount_stepped (s : Player) (t : ℕ) (r : Except String (Bool × Handle)) :
    liveCount (stepped timing s t r) ≤ liveCount s := by
  unfold stepped
  split
  · exact liveCount_le_of_touches ‹_› (fail_touches _ _ _)
  · exact liveCount_le_of_touches ‹_›
      (touchesOnly_of_eq (by split <;> rfl) (loopStepped_touches _ _ _ _ _ _))
  · exact liveCount_le_of_touches ‹_› ⟨none, rfl⟩
  · exact liveCount_le_of_touches ‹_›
      (touchesOnly_of_eq (by split <;> rfl) (frameStepped_touches _ _))
  · exact le_rfl

theorem liveCount_timer (s : Player) (t : ℕ) : liveCount (timer s t) ≤ liveCount s := by
  unfold timer
  split
  · exact liveCount_le_of_touches ‹_› (loopTop_touches _ _ _)
  · exact le_rfl

theorem liveCount_spawn (s : Player) (k : Task) : liveCount (s.spawn k) = liveCount s + 1 := by
  simp [spawn, liveCount]

theorem liveCount_playFrames_spawn (s : Player) (k : Task) :
    liveCount (playFrames timing (s.spawn k) s.tasks.length) ≤ liveCount s + 1 := by
  have hs : (s.spawn k).task s.tasks.length = some k := by simp [spawn, task]
  rw [← liveCount_spawn s k]
  unfold playFrames
  split
  · exact liveCount_le_of_touches hs ⟨none, rfl⟩
  · exact liveCount_le_of_touches hs (touchesOnly_of_eq rfl (loopTop_touches _ _ _))

theorem liveCount_stepFrame (s : Player) : liveCount (stepFrame s) ≤ liveCount s + 1 := by
  unfold stepFrame
  split
  · exact Nat.le_succ _
  · exact (liveCount_spawn s _).le

theorem liveCount_resetReplay (s : Player) (e : Handle) : liveCount (resetReplay s e) = liveCount s := by
  unfold resetReplay
  split <;> rfl

theorem liveCount_unless_playing {s a b : Player} (ha : liveCount a ≤ liveCount s)
    (hb : liveCount b ≤ liveCount s + 1) :
    liveCount (if s.isPlaying then a else b) ≤ liveCount s + if !s.isPlaying then 1 else 0 := by
  cases s.isPlaying
  · simpa using hb
  · simpa using ha

end Player

open Player

namespace PlayerPage

variable (timing : List TimingEntry)

def mounted (e : Handle) : Player :=
  ⟨true, some 0, 1, e, false, 0, none, DEFAULT_WIDTH, DEFAULT_HEIGHT, none, [], []⟩

def startReplay (s : Player) : Player :=
  if s.isInitialized && s.replay.isSome then
    playFrames timing ({ s with isPlaying := true, error := none }.spawn ⟨.loopStep, none, 0⟩)
      s.tasks.length
  else { s with error := some "Player not ready" }

def togglePlayPause (s : Player) : Player := if s.isPlaying then stopReplay s else startReplay timing s

def step (s : Player) : Event → Player
  | .toggle => togglePlayPause timing s
  | .step => if s.isPlaying then s else Player.stepFrame s
  | .reset e => resetReplay s e
  | .created _ _ => s
  | .stepped t r => stepped timing s t r
  | .timer t => timer s t

def run (s : Player) (evs : List Event) : Player := evs.foldl (step timing) s

theorem liveCount_startReplay (s : Player) : liveCount (startReplay timing s) ≤ liveCount s + 1 := by
  unfold startReplay
  split
  · exact liveCount_playFrames_spawn timing _ _
  · exact Nat.le_succ _

theorem liveCount_step (s : Player) (ev : Event) :
    liveCount (step timing s ev) ≤ liveCount s + if opens s ev then 1 else 0 := by
  cases ev with
  | toggle => exact liveCount_unless_playing le_rfl (liveCount_startReplay timing s)
  | step => exact liveCount_unless_playing le_rfl (Player.liveCount_stepFrame s)
  | reset e => exact (liveCount_resetReplay s e).trans_le (Nat.le_add_right _ _)
  | created t r => exact Nat.le_add_right _ _
  | stepped t r => exact (liveCount_stepped timing s t r).trans (Nat.le_add_right _ _)
  | timer t => exact (liveCount_timer s t).trans (Nat.le_add_right _ _)

end PlayerPage

namespace ReplayPlayer

variable (timing : List TimingEntry)

def loaded (e : Handle) : Player :=
  ⟨true, none, 0, e, false, 0, none, DEFAULT_WIDTH, DEFAULT_HEIGHT, none, [], []⟩

def startReplay (s : Player) : Player :=
  if s.isInitialized then s.spawn ⟨.create, none, 0⟩
  else { s with error := some "WASM not initialized" }

def created (s : Player) (t : ℕ) (r : Except String Handle) : Player :=
  match s.task t, r with
  | some ⟨.create, _, _⟩, .error m =>
    { s with error := some ("Failed to create replay: " ++ m), isPlaying := false }.setTask t none
  | some ⟨.create, _, _⟩, .ok e =>
    playFrames timing { s with replay := some s.handles, handles := s.handles + 1, engine := e,
                               isPlaying := true, error := none } t
  | _, _ => s

def stepFrame (s : Player) : Player :=
  match s.replay with
  | none => { s with error := some "No replay loaded" }
  | some _ => Player.stepFrame s

def step (s : Player) : Event → Player
  | .toggle => if s.isPlaying then stopReplay s else startReplay s
  | .step => if s.isPlaying then s else stepFrame s
  | .reset e => resetReplay s e
  | .created t r => created timing s t r
  | .stepped t r => stepped timing s t r
  | .timer t => timer s t

def run (s : Player) (evs : List Event) : Player := evs.foldl (step timing) s

theorem liveCount_created (s : Player) (t : ℕ) (r : Except String Handle) :
    liveCount (created timing s t r) ≤ liveCount s := by
  unfold created
  split
  · exact liveCount_le_of_touches ‹_› ⟨none, rfl⟩
  · rename_i h
    refine liveCount_le_of_touches h (touchesOnly_of_eq rfl ?_)
    unfold playFrames
    split
    · exact ⟨none, rfl⟩
    · exact loopTop_touches _ _ _
  · exact le_rfl

theorem liveCount_startReplay (s : Player) : liveCount (startReplay s) ≤ liveCount s + 1 := by
  unfold startReplay
  split
  · exact (liveCount_spawn s _).le
  · exact Nat.le_succ _

theorem liveCount_stepFrame (s : Player) : liveCount (stepFrame s) ≤ liveCount s + 1 := by
  unfold stepFrame
  split
  · exact Nat.le_succ _
  · exact Player.liveCount_stepFrame s

theorem liveCount_step (s : Player) (ev : Event) :
    liveCount (step timing s ev) ≤ liveCount s + if opens s ev then 1 else 0 := by
  cases ev with
  | toggle => exact liveCount_unless_playing le_rfl (liveCount_startReplay s)
  | step => exact liveCount_unless_playing le_rfl (liveCount_stepFrame s)
  | reset e => exact (liveCount_resetReplay s e).trans_le (Nat.le_add_right _ _)
  | created t r => exact (liveCount_created timing s t r).trans (Nat.le_add_right _ _)
  | stepped t r => exact (liveCount_stepped timing s t r).trans (Nat.le_add_right _ _)
  | timer t => exact (liveCount_timer s t).trans (Nat.le_add_right _ _)

end ReplayPlayer

end IronReplay.Playback

namespace IronReplay.Concurrency

open Engine Handle Timing Playback Player

def still (n : ℕ) : Handle :=
  ⟨n, 1, 1, [0, 0, 0, 0], DEFAULT_WIDTH, DEFAULT_HEIGHT, false, ⟨0, 0, []⟩, false,
    (DEFAULT_WIDTH, DEFAULT_HEIGHT), ⟨0, 0, []⟩⟩

def Patient (step : Player → Event → Player) : Player → List Event → Prop
  | _, [] => True
  | s, ev :: evs => (opens s ev = true → liveCount s = 0) ∧ Patient step (step s ev) evs

theorem liveCount_run_of_patient {step : Player → Event → Player}
    (hstep : ∀ s ev, liveCount (step s ev) ≤ liveCount s + if opens s ev then 1 else 0) :
    ∀ (evs : List Event) (s : Player), liveCount s ≤ 1 → Patient step s evs →
      liveCount (evs.foldl step s) ≤ 1
  | [], _, h, _ => h
  | ev :: evs, s, h, ⟨hq, hp⟩ => by
    refine liveCount_run_of_patient hstep evs (step s ev) ?_ hp
    have := hstep s ev
    by_cases ho : opens s ev = true
    · rw [if_pos ho, hq ho] at this; omega
    · rw [if_neg ho] at this; omega

theorem one_call_in_flight_when_patient (timing : List TimingEntry) (e : Handle)
    (evs : List Event) :
    (Patient (PlayerPage.step timing) (PlayerPage.mounted e) evs →
      liveCount (PlayerPage.run timing (PlayerPage.mounted e) evs) ≤ 1) ∧
    (Patient (ReplayPlayer.step timing) (ReplayPlayer.loaded e) evs →
      liveCount (ReplayPlayer.run timing (ReplayPlayer.loaded e) evs) ≤ 1) :=
  ⟨liveCount_run_of_patient (PlayerPage.liveCount_step timing) evs _ (Nat.zero_le 1),
    liveCount_run_of_patient (ReplayPlayer.liveCount_step timing) evs _ (Nat.zero_le 1)⟩

theorem one_call_in_flight_when_patient_witness :
    Patient (PlayerPage.step []) (PlayerPage.mounted (still 0))
        [.toggle, .stepped 0 (.ok (true, still 1)), .toggle, .timer 0] ∧
      liveCount (PlayerPage.run [] (PlayerPage.mounted (still 0))
        [.toggle, .stepped 0 (.ok (true, still 1)), .toggle, .timer 0]) ≤ 1 ∧
    Patient (ReplayPlayer.step []) (ReplayPlayer.loaded (still 0))
        [.toggle, .created 0 (.ok (still 0)), .toggle] ∧
      liveCount (ReplayPlayer.run [] (ReplayPlayer.loaded (still 0))
        [.toggle, .created 0 (.ok (still 0)), .toggle]) ≤ 1 := by
  have hp : Patient (PlayerPage.step []) (PlayerPage.mounted (still 0))
      [.toggle, .stepped 0 (.ok (true, still 1)), .toggle, .timer 0] := by
    simp only [Patient]; decide
  have hr : Patient (ReplayPlayer.step []) (ReplayPlayer.loaded (still 0))
      [.toggle, .created 0 (.ok (still 0)), .toggle] := by
    simp only [Patient]; decide
  exact ⟨hp, (one_call_in_flight_when_patient [] (still 0) _).1 hp, hr,
    (one_call_in_flight_when_patient [] (still 0) _).2 hr⟩

theorem stale_loop_and_step_drive_handle :
    (PlayerPage.run [⟨0⟩, ⟨100⟩, ⟨250⟩] (PlayerPage.mounted (still 0))
        [.toggle, .stepped 0 (.ok (true, still 1)), .toggle, .toggle, .timer 0]).log =
      [.startLoop 0, .loopStep 0, .updated 0, .paced 0 0 1 100, .stop, .startLoop 1, .loopStep 1,
        .loopStep 0] ∧
    (PlayerPage.run [⟨0⟩, ⟨100⟩, ⟨250⟩] (PlayerPage.mounted (still 0))
        [.toggle, .stepped 0 (.ok (true, still 1)), .toggle, .step]).log =
      [.startLoop 0, .loopStep 0, .updated 0, .paced 0 0 1 100, .stop, .frameStep 1] ∧
    (ReplayPlayer.run [⟨0⟩, ⟨100⟩, ⟨250⟩] (ReplayPlayer.loaded (still 0))
        [.toggle, .toggle, .created 0 (.ok (still 0)), .created 1 (.ok (still 0)),
          .stepped 0 (.ok (true, still 1))]).log =
      [.startLoop 0, .loopStep 0, .startLoop 1, .loopStep 1, .updated 0, .paced 0 0 0 0,
        .loopStep 0] := by
  decide

end IronReplay.Concurrency
