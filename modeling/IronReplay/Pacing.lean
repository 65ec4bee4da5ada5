import IronReplay.Playback

/-!
The wait `playFrames` issues after a step, measured from `lastTimeOffset`, which every call of
`playFrames` starts at `timing[0]`.
-/

namespace IronReplay.Pacing

open Engine Handle Timing Playback Player Concurrency

/-- The wait the timing asks for after a step from `p` to `c`. -/
def PacedAsTimed (timing : List TimingEntry) : Action → Prop
  | .paced _ p c w =>
    (entryAt timing c = none → w = 16) ∧
      ∀ ep ec, entryAt timing p = some ep → entryAt timing c = some ec →
        w = max 0 (ec.timeOffset - ep.timeOffset)
  | _ => True

def unattended : Event → Bool
  | .stepped _ _ | .timer _ | .created _ _ => true
  | _ => false

def Tracks (timing : List TimingEntry) (n : ℕ) (last : ℤ) : Prop :=
  ∀ e, entryAt timing n = some e → last = e.timeOffset

structure Single (timing : List TimingEntry) (s : Player) (t : ℕ) : Prop where
  length : s.tasks.length ≤ 1
  only : ∀ t' k, s.task t' = some k → t' = t
  timed : ∀ a ∈ s.log, PacedAsTimed timing a

structure Uninterrupted (timing : List TimingEntry) (s : Player) (t : ℕ)
    extends Single timing s t : Prop where
  tracks : ∀ k, s.task t = some k → k.pc ≠ .create →
    Tracks timing s.engine.currentFrame k.lastTimeOffset

variable {timing : List TimingEntry} {s : Player} {t : ℕ}

theorem tracks_startOffset : Tracks timing 0 (startOffset timing) := fun _ h =>
  startOffset_of_entryAt h

theorem Single.emit (h : Single timing s t) (a : Action) (ha : PacedAsTimed timing a) :
    Single timing (s.emit a) t :=
  ⟨h.length, h.only, fun b hb => by
    rcases List.mem_append.mp hb with hb | hb
    · exact h.timed b hb
    · rw [List.mem_singleton.mp hb]; exact ha⟩

theorem Single.congr (h : Single timing s t) {s' : Player} (ht : s'.tasks = s.tasks)
    (hl : s'.log = s.log) : Single timing s' t := by
  obtain ⟨h₁, h₂, h₃⟩ := h
  exact ⟨ht ▸ h₁, fun t' k => by rw [task, ht]; exact h₂ t' k, hl ▸ h₃⟩

theorem Single.spawn (hs : s.tasks = []) (hl : ∀ a ∈ s.log, PacedAsTimed timing a) (k : Task) :
    Single timing (s.spawn k) s.tasks.length := by
  refine ⟨by simp [Player.spawn, hs], fun t' k' ht' => ?_, hl⟩
  cases t' with
  | zero => simp [hs]
  | succ n => simp [task, Player.spawn, hs] at ht'

theorem Uninterrupted.idle (hs : s.tasks = []) (hl : ∀ a ∈ s.log, PacedAsTimed timing a) :
    Uninterrupted timing s t :=
  ⟨⟨by simp [hs], fun t' k ht' => by simp [task, hs] at ht', hl⟩, fun k ht' => by
    simp [task, hs] at ht'⟩

theorem Single.setTask (h : Single timing s t) {k : Option Task}
    (hk : ∀ k', k = some k' → k'.pc ≠ .create →
      Tracks timing s.engine.currentFrame k'.lastTimeOffset) :
    Uninterrupted timing (s.setTask t k) t := by
  refine ⟨⟨by simpa [setTask] using h.length, fun t' k' ht' => ?_, h.timed⟩, fun k' ht' => ?_⟩
  · rw [task_setTask] at ht'
    split_ifs at ht' with h₁
    · exact h₁.symm
    · exact h.only t' k' ht'
  · rw [task_setTask, if_pos rfl] at ht'
    split_ifs at ht'
    exact hk k' ht'

theorem Single.clear (h : Single timing s t) : Uninterrupted timing (s.setTask t none) t :=
  h.setTask fun _ hk => by cases hk

theorem Uninterrupted.emit (h : Uninterrupted timing s t) (a : Action)
    (ha : PacedAsTimed timing a) : Uninterrupted timing (s.emit a) t :=
  ⟨h.toSingle.emit a ha, h.tracks⟩

theorem Single.loopTop (h : Single timing s t) {last : ℤ}
    (hl : Tracks timing s.engine.currentFrame last) :
    Uninterrupted timing (loopTop s t last) t := by
  unfold Player.loopTop
  split_ifs
  · refine (h.setTask ?_).emit _ trivial
    intro k' hk'; cases hk'; exact fun _ => hl
  · exact h.clear.emit _ trivial

theorem Single.stopped (h : Single timing s t) (m : Option String) (playing : Bool) :
    Uninterrupted timing (({ s with error := m, isPlaying := playing }.setTask t none).emit (.exit t)) t :=
  Uninterrupted.emit (Single.clear (h.congr (by rfl) (by rfl))) _ (by trivial)

theorem Single.pace (h : Single timing s t) {last : ℤ} {p : ℕ}
    (hc : s.currentFrame = s.engine.currentFrame) (hp : Tracks timing p last) :
    Uninterrupted timing (pace timing s t last p) t := by
  unfold Player.pace
  split
  · rename_i ec hec
    have hw : PacedAsTimed timing
        (.paced t p s.currentFrame (if 0 < ec.timeOffset - last then ec.timeOffset - last else 0)) := by
      refine ⟨fun hn => (by rw [hec] at hn; cases hn), fun ep ec' hep hec' => ?_⟩
      rw [hec] at hec'
      cases hec'
      rw [hp ep hep]
      split_ifs <;> omega
    have hl : Tracks timing s.engine.currentFrame ec.timeOffset :=
      fun ec' he => by rw [← hc, hec] at he; cases he; rfl
    have h₁ := h.emit _ hw
    dsimp only
    split_ifs at h₁ ⊢
    · refine h₁.setTask ?_
      intro k' hk'; cases hk'; exact fun _ => hl
    · exact h₁.loopTop hl
  · rename_i hec
    refine (h.emit (.paced t p s.currentFrame 16) ⟨fun _ => rfl, fun ep ec _ hec' => ?_⟩).setTask ?_
    · rw [hec] at hec'; cases hec'
    · intro k' _ _ ec' he
      rw [show (s.emit _).engine = s.engine from rfl, ← hc, hec] at he
      cases he

theorem Single.handleUpdates (h : Single timing s t) :
    Single timing (handleUpdates { s with currentFrame := s.engine.currentFrame }).1 t ∧
      (handleUpdates { s with currentFrame := s.engine.currentFrame }).1.currentFrame =
        (handleUpdates { s with currentFrame := s.engine.currentFrame }).1.engine.currentFrame := by
  obtain ⟨w, hh, c, e, hu, he⟩ := handleUpdates_eq { s with currentFrame := s.engine.currentFrame }
  rw [hu]
  exact ⟨h.congr rfl rfl, he.symm⟩

theorem Single.loopStepped (h : Single timing s t) {last : ℤ} {p : ℕ} {hasMore : Bool}
    (hp : Tracks timing p last) :
    Uninterrupted timing (loopStepped timing s t last p hasMore) t := by
  obtain ⟨h₁, hc⟩ := h.handleUpdates
  have h₂ := h₁.emit (.updated t) trivial
  unfold Player.loopStepped Player.fail
  dsimp only
  split
  · exact h₁.stopped _ _
  · exact h₂.stopped _ _
  · split
    · exact h₂.pace hc hp
    · exact h₂.stopped _ _

theorem Single.frameStepped (h : Single timing s t) :
    Uninterrupted timing (frameStepped s t) t := by
  obtain ⟨h₁, -⟩ := h.handleUpdates
  have h₂ := h₁.emit (.updated t) trivial
  unfold Player.frameStepped
  dsimp only
  split
  · exact Single.clear (h₁.congr rfl rfl)
  · exact Single.clear (h₂.congr rfl rfl)
  · exact h₂.clear

theorem Uninterrupted.stepped (h : Uninterrupted timing s t) (t' : ℕ)
    (r : Except String (Bool × Handle)) : Uninterrupted timing (stepped timing s t' r) t := by
  unfold Player.stepped
  split
  · obtain rfl := h.only _ _ ‹_›
    exact h.toSingle.stopped _ _
  · rename_i hk
    obtain rfl := h.only _ _ hk
    exact Single.loopStepped (h.congr (by split <;> rfl) (by split <;> rfl)) (h.tracks _ hk nofun)
  · obtain rfl := h.only _ _ ‹_›
    exact Single.clear (h.congr rfl rfl)
  · obtain rfl := h.only _ _ ‹_›
    exact Single.frameStepped (h.congr (by split <;> rfl) (by split <;> rfl))
  · exact h

theorem Uninterrupted.timer (h : Uninterrupted timing s t) (t' : ℕ) :
    Uninterrupted timing (timer s t') t := by
  unfold Player.timer
  split
  · rename_i hk
    obtain rfl := h.only _ _ hk
    exact h.toSingle.loopTop (h.tracks _ hk nofun)
  · exact h

theorem Uninterrupted.pageStep (h : Uninterrupted timing s t) {ev : Event}
    (hu : unattended ev = true) : Uninterrupted timing (PlayerPage.step timing s ev) t := by
  cases ev with
  | stepped t' r => exact h.stepped t' r
  | timer t' => exact h.timer t'
  | created => exact h
  | _ => cases hu

theorem Uninterrupted.playerStep (h : Uninterrupted timing s t) {ev : Event}
    (hu : unattended ev = true)
    (hc : ∀ t' e, ev = .created t' (.ok e) → e.currentFrame = 0) :
    Uninterrupted timing (ReplayPlayer.step timing s ev) t := by
  cases ev with
  | stepped t' r => exact h.stepped t' r
  | timer t' => exact h.timer t'
  | created t' r =>
    show Uninterrupted timing (ReplayPlayer.created timing s t' r) t
    unfold ReplayPlayer.created
    split
    · obtain rfl := h.only _ _ ‹_›
      exact Single.clear (h.congr rfl rfl)
    · rename_i e _
      obtain rfl := h.only _ _ ‹_›
      unfold Player.playFrames
      dsimp only
      refine Single.loopTop (Single.emit (h.congr (by rfl) (by rfl)) (.startLoop t') trivial) ?_
      intro ec hec
      change entryAt timing e.currentFrame = some ec at hec
      rw [hc _ _ rfl] at hec
      exact startOffset_of_entryAt hec
    · exact h
  | _ => cases hu

theorem Uninterrupted.pageStart (hs : s.tasks = []) (hl : ∀ a ∈ s.log, PacedAsTimed timing a)
    (hp : s.isPlaying = false) (he : s.engine.currentFrame = 0) :
    Uninterrupted timing (PlayerPage.step timing s .toggle) s.tasks.length := by
  show Uninterrupted timing (PlayerPage.togglePlayPause timing s) _
  rw [PlayerPage.togglePlayPause, if_neg (by simp [hp]), PlayerPage.startReplay]
  split
  · unfold playFrames
    split
    · exact Single.clear (Single.spawn (by exact hs) (by exact hl) _)
    · exact Single.loopTop (Single.emit (Single.spawn (by exact hs) (by exact hl) _)
        (.startLoop s.tasks.length) trivial) (he ▸ tracks_startOffset)
  · exact Uninterrupted.idle hs hl

theorem Uninterrupted.playerStart (hs : s.tasks = []) (hl : ∀ a ∈ s.log, PacedAsTimed timing a)
    (hp : s.isPlaying = false) :
    Uninterrupted timing (ReplayPlayer.step timing s .toggle) s.tasks.length := by
  show Uninterrupted timing (if s.isPlaying then stopReplay s else ReplayPlayer.startReplay s) _
  rw [if_neg (by simp [hp]), ReplayPlayer.startReplay]
  split
  · refine ⟨Single.spawn (by exact hs) (by exact hl) _, fun k hk hpc => ?_⟩
    simp [task, Player.spawn] at hk
    exact absurd (hk ▸ rfl) hpc
  · exact Uninterrupted.idle hs hl

theorem Uninterrupted.pageRun (h : Uninterrupted timing s t) (evs : List Event)
    (hu : ∀ ev ∈ evs, unattended ev = true) :
    Uninterrupted timing (PlayerPage.run timing s evs) t := by
  induction evs generalizing s with
  | nil => exact h
  | cons ev evs ih =>
    exact ih (h.pageStep (hu ev (List.mem_cons_self _ _))) fun ev' hv =>
      hu ev' (List.mem_cons_of_mem _ hv)

theorem Uninterrupted.playerRun (h : Uninterrupted timing s t) (evs : List Event)
    (hu : ∀ ev ∈ evs, unattended ev = true)
    (hc : ∀ t' e, .created t' (.ok e) ∈ evs → e.currentFrame = 0) :
    Uninterrupted timing (ReplayPlayer.run timing s evs) t := by
  induction evs generalizing s with
  | nil => exact h
  | cons ev evs ih =>
    refine ih (h.playerStep (hu ev (List.mem_cons_self _ _)) ?_)
      (fun ev' hv => hu ev' (List.mem_cons_of_mem _ hv))
      (fun t' e he => hc t' e (List.mem_cons_of_mem _ he))
    rintro t' e rfl
    exact hc t' e (List.mem_cons_self _ _)

theorem uninterrupted_play_waits_as_timed (timing : List TimingEntry) (e : Handle)
    (evs : List Event) (he : e.currentFrame = 0) (hu : ∀ ev ∈ evs, unattended ev = true)
    (hc : ∀ t' e', .created t' (.ok e') ∈ evs → e'.currentFrame = 0) :
    (∀ a ∈ (PlayerPage.run timing (PlayerPage.mounted e) (.toggle :: evs)).log,
      PacedAsTimed timing a) ∧
    (∀ a ∈ (ReplayPlayer.run timing (ReplayPlayer.loaded e) (.toggle :: evs)).log,
      PacedAsTimed timing a) := by
  have hpage : Uninterrupted timing _ _ :=
    Uninterrupted.pageStart (show (PlayerPage.mounted e).tasks = [] from rfl)
      (fun a h => absurd h (List.not_mem_nil a)) rfl he
  have hplayer : Uninterrupted timing _ _ :=
    Uninterrupted.playerStart (show (ReplayPlayer.loaded e).tasks = [] from rfl)
      (fun a h => absurd h (List.not_mem_nil a)) rfl
  exact ⟨(hpage.pageRun evs hu).timed, (hplayer.playerRun evs hu hc).timed⟩

theorem uninterrupted_play_waits_as_timed_witness :
    (still 0).currentFrame = 0 ∧
      (∀ ev ∈ [Event.created 0 (.ok (still 0)), .stepped 0 (.ok (true, still 1)), .timer 0],
        unattended ev = true) ∧
      (∀ t' e', Event.created t' (.ok e') ∈
        [Event.created 0 (.ok (still 0)), .stepped 0 (.ok (true, still 1)), .timer 0] →
          e'.currentFrame = 0) ∧
      (∀ a ∈ (PlayerPage.run [⟨0⟩, ⟨100⟩] (PlayerPage.mounted (still 0))
        [.toggle, .created 0 (.ok (still 0)), .stepped 0 (.ok (true, still 1)), .timer 0]).log,
          PacedAsTimed [⟨0⟩, ⟨100⟩] a) ∧
      (∀ a ∈ (ReplayPlayer.run [⟨0⟩, ⟨100⟩] (ReplayPlayer.loaded (still 0))
        [.toggle, .created 0 (.ok (still 0)), .stepped 0 (.ok (true, still 1)), .timer 0]).log,
          PacedAsTimed [⟨0⟩, ⟨100⟩] a) ∧
      Action.paced 0 0 1 100 ∈ (ReplayPlayer.run [⟨0⟩, ⟨100⟩] (ReplayPlayer.loaded (still 0))
        [.toggle, .created 0 (.ok (still 0)), .stepped 0 (.ok (true, still 1)), .timer 0]).log := by
  have hu : ∀ ev ∈ [Event.created 0 (.ok (still 0)), .stepped 0 (.ok (true, still 1)), .timer 0],
      unattended ev = true := by
    decide
  have hc : ∀ t' e', Event.created t' (.ok e') ∈
      [Event.created 0 (.ok (still 0)), .stepped 0 (.ok (true, still 1)), .timer 0] →
        e'.currentFrame = 0 := by
    intro t' e' h
    obtain ⟨-, rfl⟩ : t' = 0 ∧ e' = still 0 := by simpa using h
    rfl
  have h := uninterrupted_play_waits_as_timed [⟨0⟩, ⟨100⟩] (still 0) _ rfl hu hc
  exact ⟨rfl, hu, hc, h.1, h.2, by decide⟩

theorem resumed_and_reset_loops_mistime_waits :
    (PlayerPage.run [⟨0⟩, ⟨100⟩, ⟨250⟩] (PlayerPage.mounted (still 0))
        [.step, .stepped 0 (.ok (true, still 1)), .toggle, .stepped 1 (.ok (true, still 2))]).log =
      [.frameStep 0, .updated 0, .startLoop 1, .loopStep 1, .updated 1, .paced 1 1 2 250] ∧
    (PlayerPage.run [⟨0⟩, ⟨100⟩, ⟨250⟩] (PlayerPage.mounted (still 0))
        [.toggle, .stepped 0 (.ok (true, still 1)), .toggle, .timer 0, .toggle,
          .stepped 1 (.ok (true, still 2))]).log =
      [.startLoop 0, .loopStep 0, .updated 0, .paced 0 0 1 100, .stop, .exit 0, .startLoop 1,
        .loopStep 1, .updated 1, .paced 1 1 2 250] ∧
    (ReplayPlayer.run [⟨0⟩, ⟨100⟩, ⟨250⟩] (ReplayPlayer.loaded (still 0))
        [.toggle, .created 0 (.ok (still 0)), .stepped 0 (.ok (true, still 1)), .timer 0,
          .reset (still 0), .stepped 0 (.ok (true, still 1))]).log =
      [.startLoop 0, .loopStep 0, .updated 0, .paced 0 0 1 100, .loopStep 0, .updated 0,
        .paced 0 0 1 0, .loopStep 0] ∧
    ¬ PacedAsTimed [⟨0⟩, ⟨100⟩, ⟨250⟩] (.paced 1 1 2 250) ∧
    ¬ PacedAsTimed [⟨0⟩, ⟨100⟩, ⟨250⟩] (.paced 0 0 1 0) :=
  ⟨by decide, by decide, by decide, fun h => absurd (h.2 ⟨100⟩ ⟨250⟩ rfl rfl) (by decide),
    fun h => absurd (h.2 ⟨0⟩ ⟨100⟩ rfl rfl) (by decide)⟩

end IronReplay.Pacing
