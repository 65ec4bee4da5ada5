import IronReplay.Playback

/-!
The render state the players cache, the canvas size and the cursor canvas, updated only when the
engine raises `resolutionChanged` or `pointerBitmapChanged`.
-/

namespace IronReplay.RenderCache

open Engine Handle Timing Playback Player Concurrency

def Synced (s : Player) : Prop :=
  s.canvasWidth = s.engine.desktopWidth ∧ s.canvasHeight = s.engine.desktopHeight ∧
    s.cursorCanvas = cursorOf s.engine.pointer

def Consistent (p : Pointer) : Prop :=
  p.bitmap = [] ∨ p.width = 0 ∨ p.height = 0 ∨ p.bitmap.length = 4 * p.width * p.height

instance (p : Pointer) : Decidable (Consistent p) := inferInstanceAs (Decidable (_ ∨ _))

/-- The cache holds the engine's desktop size and pointer at the flags' last clears. -/
structure Cached (s : Player) : Prop where
  canvas : (s.canvasWidth, s.canvasHeight) = s.engine.clearedDesktop
  cursor : s.cursorCanvas = cursorOf s.engine.clearedPointer
  honest : s.engine.Honest
  consistent : Consistent s.engine.pointer

def render (s : Player) : Handle × ℕ × ℕ × Option Cursor :=
  (s.engine, s.canvasWidth, s.canvasHeight, s.cursorCanvas)

variable {s : Player}

theorem Cached.of_render (h : Cached s) {s' : Player} (hr : render s' = render s) : Cached s' := by
  simp only [render, Prod.mk.injEq] at hr
  obtain ⟨he, hw, hh, hc⟩ := hr
  exact ⟨by rw [hw, hh, he]; exact h.canvas, by rw [hc, he]; exact h.cursor, he ▸ h.honest,
    he ▸ h.consistent⟩

theorem Synced.of_render (h : Synced s) {s' : Player} (hr : render s' = render s) : Synced s' := by
  simp only [render, Prod.mk.injEq] at hr
  obtain ⟨he, hw, hh, hc⟩ := hr
  exact ⟨by rw [hw, he]; exact h.1, by rw [hh, he]; exact h.2.1, by rw [hc, he]; exact h.2.2⟩

@[simp] theorem render_emit (a : Action) : render (s.emit a) = render s := rfl

@[simp] theorem render_setTask (t : ℕ) (k : Option Task) : render (s.setTask t k) = render s := rfl

@[simp] theorem render_spawn (k : Task) : render (s.spawn k) = render s := rfl

theorem render_loopTop (t : ℕ) (last : ℤ) : render (loopTop s t last) = render s := by
  unfold loopTop; split_ifs <;> rfl

theorem render_pace (timing : List TimingEntry) (t : ℕ) (last : ℤ) (p : ℕ) :
    render (pace timing s t last p) = render s := by
  unfold pace
  split
  · dsimp only
    split_ifs
    · rfl
    · exact render_loopTop _ _
  · rfl

theorem render_playFrames (timing : List TimingEntry) (t : ℕ) :
    render (playFrames timing s t) = render s := by
  unfold playFrames
  split
  · rfl
  · exact render_loopTop _ _

theorem imageDataOk_of_consistent {p : Pointer} (h : Consistent p) (hb : p.bitmap ≠ [])
    (hw : p.width ≠ 0) (hh : p.height ≠ 0) : imageDataOk p.bitmap p.width p.height = true := by
  rcases h with h | h | h | h
  · exact absurd h hb
  · exact absurd h hw
  · exact absurd h hh
  · simp [imageDataOk, h, Nat.pos_of_ne_zero hw, Nat.pos_of_ne_zero hh]

theorem updateCursorCanvas_eq (hc : Consistent s.engine.pointer) :
    updateCursorCanvas s = ({ s with cursorCanvas := cursorOf s.engine.pointer }, none) := by
  unfold updateCursorCanvas cursorOf
  dsimp only
  split_ifs with h₁ h₂
  · rfl
  · rfl
  · simp only [Bool.or_eq_true, beq_iff_eq, List.isEmpty_iff, not_or] at h₁
    exact absurd (imageDataOk_of_consistent hc h₁.1.1 h₁.1.2 h₁.2) h₂

def cleared (e : Handle) : Handle :=
  { e with resolutionChanged := false, pointerBitmapChanged := false,
           clearedDesktop := (e.desktopWidth, e.desktopHeight), clearedPointer := e.pointer }

theorem handleUpdates_of_cached (h : Cached s) :
    handleUpdates s =
      ({ s with canvasWidth := s.engine.desktopWidth, canvasHeight := s.engine.desktopHeight,
                cursorCanvas := cursorOf s.engine.pointer, engine := cleared s.engine }, none) := by
  obtain ⟨hcanvas, hcursor, ⟨hr, hp⟩, hcons⟩ := h
  obtain ⟨i, rp, hs, ⟨cf, w, ht, fb, dw, dh, rc, ptr, pbc, cd, cp⟩, pl, c, er, cw, ch, cc, ts, lg⟩ := s
  simp only [Prod.mk.injEq] at hcanvas hcursor hr hp hcons
  obtain ⟨rfl, rfl⟩ := hcanvas
  subst hcursor
  unfold Player.handleUpdates applyResolution
  cases rc <;> cases pbc
  · obtain ⟨rfl, rfl⟩ : dw = cw ∧ dh = ch := by simpa using hr
    obtain rfl : ptr = cp := by simpa using hp
    rfl
  · obtain ⟨rfl, rfl⟩ : dw = cw ∧ dh = ch := by simpa using hr
    simp only [if_true, Bool.false_eq_true, if_false]
    rw [updateCursorCanvas_eq hcons]
    rfl
  · obtain rfl : ptr = cp := by simpa using hp
    rfl
  · simp only [if_true]
    rw [updateCursorCanvas_eq hcons]
    rfl

theorem Cached.handleUpdates (h : Cached s) :
    (handleUpdates s).2 = none ∧ Cached (handleUpdates s).1 ∧ Synced (handleUpdates s).1 := by
  rw [handleUpdates_of_cached h]
  exact ⟨rfl, ⟨rfl, rfl, ⟨by simp [cleared], by simp [cleared]⟩, h.consistent⟩, rfl, rfl, rfl⟩

theorem Cached.with_engine (h : Cached s) {e : Handle} (hf : Follows s.engine e)
    (hc : Consistent e.pointer) : Cached { s with engine := e } :=
  ⟨h.canvas.trans hf.1.symm, h.cursor.trans (congrArg _ hf.2.1.symm), hf.2.2, hc⟩

theorem Cached.loopStepped (h : Cached s) (timing : List TimingEntry) (t : ℕ) (last : ℤ) (p : ℕ)
    (hasMore : Bool) :
    Cached (Player.loopStepped timing s t last p hasMore) ∧
      Synced (Player.loopStepped timing s t last p hasMore) := by
  have h₀ : Cached { s with currentFrame := s.engine.currentFrame } := h.of_render rfl
  obtain ⟨hn, hc, hs⟩ := h₀.handleUpdates
  have hr : render (Player.loopStepped timing s t last p hasMore) =
      render (Player.handleUpdates { s with currentFrame := s.engine.currentFrame }).1 := by
    unfold Player.loopStepped
    generalize Player.handleUpdates { s with currentFrame := s.engine.currentFrame } = r at hn
    obtain ⟨s', m⟩ := r
    dsimp only at hn ⊢
    subst hn
    cases renderFrame s' with
    | some m => rfl
    | none =>
      cases hasMore
      · rfl
      · exact render_pace timing t last p
  exact ⟨hc.of_render hr, hs.of_render hr⟩

theorem Cached.frameStepped (h : Cached s) (t : ℕ) :
    Cached (Player.frameStepped s t) ∧ Synced (Player.frameStepped s t) := by
  have h₀ : Cached { s with currentFrame := s.engine.currentFrame } := h.of_render rfl
  obtain ⟨hn, hc, hs⟩ := h₀.handleUpdates
  have hr : render (Player.frameStepped s t) =
      render (Player.handleUpdates { s with currentFrame := s.engine.currentFrame }).1 := by
    unfold Player.frameStepped
    generalize Player.handleUpdates { s with currentFrame := s.engine.currentFrame } = r at hn
    obtain ⟨s', m⟩ := r
    dsimp only at hn ⊢
    subst hn
    cases renderFrame s' <;> rfl
  exact ⟨hc.of_render hr, hs.of_render hr⟩

/-- The engines an event delivers keep the values at the last clears, raise the flags honestly,
and hold consistent pointer bitmaps. -/
def Answers (s : Player) : Event → Prop
  | .stepped _ (.ok (_, e)) => Follows s.engine e ∧ Consistent e.pointer
  | .reset e => Follows s.engine e ∧ Consistent e.pointer
  | .created _ (.ok e) => e.Fresh
  | _ => True

instance (s : Player) : (ev : Event) → Decidable (Answers s ev)
  | .stepped _ (.ok (_, _)) => inferInstanceAs (Decidable (_ ∧ _))
  | .stepped _ (.error _) => isTrue trivial
  | .reset _ => inferInstanceAs (Decidable (_ ∧ _))
  | .created _ (.ok e) => inferInstanceAs (Decidable e.Fresh)
  | .created _ (.error _) => isTrue trivial
  | .toggle => isTrue trivial
  | .step => isTrue trivial
  | .timer _ => isTrue trivial

def Handled (s : Player) (t : ℕ) : Prop :=
  ∃ k, s.task t = some k ∧ (k.pc = .loopStep ∨ k.pc = .stepFrame)

theorem Cached.stepped (h : Cached s) (timing : List TimingEntry) (t : ℕ)
    (r : Except String (Bool × Handle)) (ha : Answers s (.stepped t r)) :
    Cached (Player.stepped timing s t r) ∧
      (Handled s t → ∀ b e, r = .ok (b, e) → Synced (Player.stepped timing s t r)) := by
  have hcached : ∀ b e, r = .ok (b, e) → ∀ hd : Option ℕ,
      Cached (if hd = s.replay then { s with engine := e } else s) := by
    rintro b e rfl hd
    split_ifs
    · exact h.with_engine ha.1 ha.2
    · exact h
  unfold Player.stepped
  rcases hk : s.task t with _ | ⟨pc, hd, last⟩
  · exact ⟨h, fun ⟨k, hk', _⟩ => by rw [hk] at hk'; cases hk'⟩
  · have hpc : Handled s t → pc = .loopStep ∨ pc = .stepFrame := fun ⟨k, hk', hp⟩ => by
      rw [hk] at hk'; cases hk'; exact hp
    cases pc <;> rcases r with m | ⟨hasMore, e⟩ <;> dsimp only
    · exact ⟨h, fun _ _ _ hr => by cases hr⟩
    · exact ⟨h, fun hH => by simpa using hpc hH⟩
    · exact ⟨h.of_render rfl, fun _ _ _ hr => by cases hr⟩
    · obtain ⟨hc, hs⟩ := (hcached _ _ rfl hd).loopStepped timing t last s.engine.currentFrame hasMore
      exact ⟨hc, fun _ _ _ _ => hs⟩
    · exact ⟨h, fun _ _ _ hr => by cases hr⟩
    · exact ⟨h, fun hH => by simpa using hpc hH⟩
    · exact ⟨h.of_render rfl, fun _ _ _ hr => by cases hr⟩
    · obtain ⟨hc, hs⟩ := (hcached _ _ rfl hd).frameStepped t
      exact ⟨hc, fun _ _ _ _ => hs⟩

theorem render_togglePlayPause (timing : List TimingEntry) :
    render (PlayerPage.togglePlayPause timing s) = render s := by
  unfold PlayerPage.togglePlayPause PlayerPage.startReplay stopReplay
  split_ifs
  · rfl
  · exact render_playFrames timing _
  · rfl

theorem render_stepFrame : render (Player.stepFrame s) = render s := by
  unfold Player.stepFrame; split <;> rfl

theorem render_timer (t : ℕ) : render (timer s t) = render s := by
  unfold timer; split
  · exact render_loopTop _ _
  · rfl

theorem Cached.resetReplay (h : Cached s) {e : Handle} (ha : Answers s (.reset e)) :
    Cached (resetReplay s e) := by
  unfold Player.resetReplay
  split
  · exact h
  · exact (h.with_engine ha.1 ha.2).of_render rfl

theorem Cached.pageStep (h : Cached s) (timing : List TimingEntry) {ev : Event}
    (ha : Answers s ev) : Cached (PlayerPage.step timing s ev) := by
  cases ev with
  | toggle => exact h.of_render (render_togglePlayPause timing)
  | step =>
    show Cached (if s.isPlaying then s else Player.stepFrame s)
    split_ifs
    · exact h
    · exact h.of_render render_stepFrame
  | reset e => exact h.resetReplay ha
  | created => exact h
  | stepped t r => exact (h.stepped timing t r ha).1
  | timer t => exact h.of_render (render_timer t)

def HonestRun (step : Player → Event → Player) : Player → List Event → Prop
  | _, [] => True
  | s, ev :: evs => Answers s ev ∧ HonestRun step (step s ev) evs

instance decHonestRun (step : Player → Event → Player) :
    (s : Player) → (evs : List Event) → Decidable (HonestRun step s evs)
  | _, [] => isTrue trivial
  | s, ev :: evs =>
    haveI := decHonestRun step (step s ev) evs
    inferInstanceAs (Decidable (Answers s ev ∧ _))

theorem honestRun_append {step : Player → Event → Player} (ev : Event) :
    ∀ (evs : List Event) (s : Player), HonestRun step s (evs ++ [ev]) ↔
      HonestRun step s evs ∧ Answers (evs.foldl step s) ev
  | [], s => by simp [HonestRun]
  | ev' :: evs, s => by
    show (Answers s ev' ∧ HonestRun step (step s ev') (evs ++ [ev])) ↔
      (Answers s ev' ∧ HonestRun step (step s ev') evs) ∧ Answers (evs.foldl step (step s ev')) ev
    rw [honestRun_append ev evs, and_assoc]

theorem cached_pageRun (timing : List TimingEntry) :
    ∀ (evs : List Event) (s : Player), Cached s → HonestRun (PlayerPage.step timing) s evs →
      Cached (PlayerPage.run timing s evs)
  | [], _, h, _ => h
  | _ :: evs, _, h, ⟨ha, hr⟩ => cached_pageRun timing evs _ (h.pageStep timing ha) hr

theorem cached_mounted {e : Handle} (he : e.Fresh) : Cached (PlayerPage.mounted e) := by
  obtain ⟨⟨hr, hp⟩, hw, hh, hb, hrc, hpc⟩ := he
  have hd : (e.desktopWidth, e.desktopHeight) = e.clearedDesktop := by
    by_contra hne; simp [hr.mpr hne] at hrc
  have hq : e.pointer = e.clearedPointer := by
    by_contra hne; simp [hp.mpr hne] at hpc
  refine ⟨?_, ?_, ⟨hr, hp⟩, .inl hb⟩
  · show (DEFAULT_WIDTH, DEFAULT_HEIGHT) = e.clearedDesktop
    rw [← hw, ← hh, hd]
  · show none = cursorOf e.clearedPointer
    simp [cursorOf, ← hq, hb]

theorem page_render_cache_synced (timing : List TimingEntry) (e : Handle) (he : e.Fresh)
    (evs : List Event) (t : ℕ) (b : Bool) (e' : Handle)
    (h : HonestRun (PlayerPage.step timing) (PlayerPage.mounted e)
      (evs ++ [.stepped t (.ok (b, e'))]))
    (hh : Handled (PlayerPage.run timing (PlayerPage.mounted e) evs) t) :
    Synced (PlayerPage.run timing (PlayerPage.mounted e) (evs ++ [.stepped t (.ok (b, e'))])) := by
  obtain ⟨hr, ha⟩ := (honestRun_append _ evs _).mp h
  have hc := cached_pageRun timing evs _ (cached_mounted he) hr
  rw [PlayerPage.run, List.foldl_append]
  exact (hc.stepped timing t _ ha).2 hh b e' rfl

theorem page_render_cache_synced_witness :
    (still 0).Fresh ∧
      HonestRun (PlayerPage.step []) (PlayerPage.mounted (still 0))
        ([.toggle] ++ [.stepped 0 (.ok (true, still 1))]) ∧
      Handled (PlayerPage.run [] (PlayerPage.mounted (still 0)) [.toggle]) 0 ∧
      Synced (PlayerPage.run [] (PlayerPage.mounted (still 0))
        ([.toggle] ++ [.stepped 0 (.ok (true, still 1))])) := by
  have he : (still 0).Fresh := by decide
  have hr : HonestRun (PlayerPage.step []) (PlayerPage.mounted (still 0))
      ([.toggle] ++ [.stepped 0 (.ok (true, still 1))]) := by decide
  have hh : Handled (PlayerPage.run [] (PlayerPage.mounted (still 0)) [.toggle]) 0 :=
    ⟨_, rfl, .inl rfl⟩
  exact ⟨he, hr, hh, page_render_cache_synced [] (still 0) he [.toggle] 0 true (still 1) hr hh⟩

theorem new_handle_keeps_old_render_cache :
    HonestRun (ReplayPlayer.step []) (ReplayPlayer.loaded (still 0))
      ([.toggle, .created 0 (.ok (still 0)), .stepped 0 (.ok (false, { still 1 with
          desktopWidth := 800, desktopHeight := 600, resolutionChanged := true,
          pointer := ⟨1, 1, [1, 2, 3, 4]⟩, pointerBitmapChanged := true })), .toggle,
        .created 1 (.ok (still 0))] ++ [.stepped 1 (.ok (true, still 1))]) ∧
    Handled (ReplayPlayer.run [] (ReplayPlayer.loaded (still 0))
      [.toggle, .created 0 (.ok (still 0)), .stepped 0 (.ok (false, { still 1 with
          desktopWidth := 800, desktopHeight := 600, resolutionChanged := true,
          pointer := ⟨1, 1, [1, 2, 3, 4]⟩, pointerBitmapChanged := true })), .toggle,
        .created 1 (.ok (still 0))]) 1 ∧
    ¬ Synced (ReplayPlayer.run [] (ReplayPlayer.loaded (still 0))
      ([.toggle, .created 0 (.ok (still 0)), .stepped 0 (.ok (false, { still 1 with
          desktopWidth := 800, desktopHeight := 600, resolutionChanged := true,
          pointer := ⟨1, 1, [1, 2, 3, 4]⟩, pointerBitmapChanged := true })), .toggle,
        .created 1 (.ok (still 0))] ++ [.stepped 1 (.ok (true, still 1))])) := by
  refine ⟨by decide, ⟨_, rfl, .inl rfl⟩, fun h => ?_⟩
  exact absurd h.1 (by decide)

end IronReplay.RenderCache