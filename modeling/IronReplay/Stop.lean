import IronReplay.Playback

/-!
What keeps running once a player is not playing, after a press of stop or when its loop ended.
-/

namespace IronReplay.Playback

open Engine Handle Timing Player Concurrency

def drivesLoop : Action → Bool
  | .startLoop _ | .loopStep _ => true
  | _ => false

def NoCreate (s : Player) : Prop := ∀ k ∈ s.tasks, ∀ k', k = some k' → k'.pc ≠ .create

/-- `s'` is not playing, has logged since `s` only actions that drive no loop, and holds no call
awaiting `Replay.create` that `s` did not hold. -/
structure Quiet (s s' : Player) : Prop where
  isPlaying : s'.isPlaying = false
  log : ∃ l, s'.log = s.log ++ l ∧ ∀ a ∈ l, drivesLoop a = false
  tasks : ∀ k ∈ s'.tasks, k ∈ s.tasks ∨ ∀ k', k = some k' → k'.pc ≠ .create

namespace Quiet

variable {timing : List TimingEntry} {s₀ s s' : Player}

theorem refl (h : s.isPlaying = false) : Quiet s s :=
  ⟨h, ⟨[], by simp, by simp⟩, fun _ hk => .inl hk⟩

theorem trans (h : Quiet s₀ s) (h' : Quiet s s') : Quiet s₀ s' := by
  obtain ⟨l, hl, hq⟩ := h.log
  obtain ⟨l', hl', hq'⟩ := h'.log
  exact ⟨h'.isPlaying, ⟨l ++ l', by rw [hl', hl, List.append_assoc],
    fun a ha => (List.mem_append.mp ha).elim (hq a) (hq' a)⟩,
    fun k hk => (h'.tasks k hk).elim (h.tasks k) .inr⟩

theorem congr (h : Quiet s₀ s) (hp : s'.isPlaying = false) (hl : s'.log = s.log)
    (ht : s'.tasks = s.tasks) : Quiet s₀ s' :=
  ⟨hp, hl ▸ h.log, ht ▸ h.tasks⟩

theorem emit (h : Quiet s₀ s) {a : Action} (ha : drivesLoop a = false) : Quiet s₀ (s.emit a) := by
  obtain ⟨l, hl, hq⟩ := h.log
  exact ⟨h.isPlaying, ⟨l ++ [a], by simp [Player.emit, hl], fun b hb => by
    rcases List.mem_append.mp hb with hb | hb
    · exact hq b hb
    · rw [List.mem_singleton.mp hb]; exact ha⟩, h.tasks⟩

theorem setTask (h : Quiet s₀ s) (t : ℕ) {k : Option Task}
    (hk : ∀ k', k = some k' → k'.pc ≠ .create) : Quiet s₀ (s.setTask t k) :=
  ⟨h.isPlaying, h.log, fun k' hk' => (List.mem_or_eq_of_mem_set hk').elim (h.tasks k')
    fun he => .inr (he ▸ hk)⟩

theorem spawn (h : Quiet s₀ s) {k : Task} (hk : k.pc ≠ .create) : Quiet s₀ (s.spawn k) :=
  ⟨h.isPlaying, h.log, fun k' hk' => (List.mem_append.mp hk').elim (h.tasks k') fun he => by
    rw [List.mem_singleton.mp he]; exact .inr fun k'' hk'' => Option.some.inj hk'' ▸ hk⟩

theorem loopTop (h : Quiet s₀ s) (t : ℕ) (last : ℤ) : Quiet s₀ (loopTop s t last) := by
  rw [Player.loopTop, if_neg (by simp [h.isPlaying])]
  exact Quiet.emit (Quiet.setTask h t (by simp)) (by rfl)

theorem fail (h : Quiet s₀ s) (t : ℕ) (m : String) : Quiet s₀ (fail s t m) :=
  Quiet.emit (Quiet.setTask (Quiet.congr h (by rfl) (by rfl) (by rfl)) t (by simp)) (by rfl)

theorem pace (h : Quiet s₀ s) (t : ℕ) (last : ℤ) (p : ℕ) : Quiet s₀ (pace timing s t last p) := by
  unfold Player.pace
  split
  · dsimp only
    split_ifs
    · exact Quiet.setTask (Quiet.emit h (by rfl)) t (by simp)
    · exact Quiet.loopTop (Quiet.emit h (by rfl)) t _
  · exact Quiet.setTask (Quiet.emit h (by rfl)) t (by simp)

theorem handleUpdates (h : Quiet s₀ s) (n : ℕ) :
    Quiet s₀ (Player.handleUpdates { s with currentFrame := n }).1 := by
  obtain ⟨w, hh, c, e, he, -⟩ := handleUpdates_eq { s with currentFrame := n }
  rw [he]
  exact Quiet.congr h (by exact h.isPlaying) (by rfl) (by rfl)

theorem loopStepped (h : Quiet s₀ s) (t : ℕ) (last : ℤ) (p : ℕ) (hasMore : Bool) :
    Quiet s₀ (loopStepped timing s t last p hasMore) := by
  have hu := h.handleUpdates s.engine.currentFrame
  unfold Player.loopStepped
  generalize Player.handleUpdates { s with currentFrame := s.engine.currentFrame } = r at hu
  obtain ⟨s', m⟩ := r
  dsimp only at hu ⊢
  cases m with
  | some m => exact Quiet.fail hu t m
  | none =>
    cases renderFrame s' with
    | some m => exact Quiet.fail (Quiet.emit (a := .updated t) hu rfl) t m
    | none =>
      cases hasMore
      · exact Quiet.emit (a := .exit t) (Quiet.setTask (k := none) (Quiet.congr
          (Quiet.emit (a := .updated t) hu rfl) (by rfl) (by rfl) (by rfl)) t (by simp)) rfl
      · exact Quiet.pace (Quiet.emit (a := .updated t) hu rfl) t last p

theorem frameStepped (h : Quiet s₀ s) (t : ℕ) : Quiet s₀ (frameStepped s t) := by
  have hu := h.handleUpdates s.engine.currentFrame
  unfold Player.frameStepped
  generalize Player.handleUpdates { s with currentFrame := s.engine.currentFrame } = r at hu
  obtain ⟨s', m⟩ := r
  dsimp only at hu ⊢
  split
  · exact Quiet.setTask (k := none) (Quiet.congr hu (by exact hu.isPlaying) (by rfl) (by rfl)) t (by simp)
  · exact Quiet.setTask (k := none) (Quiet.congr (Quiet.emit (a := .updated t) hu rfl)
      (by exact hu.isPlaying) (by rfl) (by rfl)) t (by simp)
  · exact Quiet.setTask (k := none) (Quiet.emit (a := .updated t) hu rfl) t (by simp)

theorem stepped (h : Quiet s₀ s) (t : ℕ) (r : Except String (Bool × Handle)) :
    Quiet s₀ (stepped timing s t r) := by
  unfold Player.stepped
  split
  · exact Quiet.fail h t _
  · split
    · exact Quiet.loopStepped (Quiet.congr h (by exact h.isPlaying) (by rfl) (by rfl)) t _ _ _
    · exact Quiet.loopStepped h t _ _ _
  · exact Quiet.setTask (Quiet.congr h (by exact h.isPlaying) (by rfl) (by rfl)) t (by simp)
  · split
    · exact Quiet.frameStepped (Quiet.congr h (by exact h.isPlaying) (by rfl) (by rfl)) t
    · exact Quiet.frameStepped h t
  · exact h

theorem timer (h : Quiet s₀ s) (t : ℕ) : Quiet s₀ (timer s t) := by
  unfold Player.timer
  split
  · exact h.loopTop t _
  · exact h

theorem stepFrame (h : Quiet s₀ s) : Quiet s₀ (Player.stepFrame s) := by
  unfold Player.stepFrame
  split
  · exact h
  · exact Quiet.emit (Quiet.spawn h (by simp)) (by rfl)

theorem resetReplay (h : Quiet s₀ s) (e : Handle) : Quiet s₀ (resetReplay s e) := by
  unfold Player.resetReplay
  split
  · exact h
  · exact Quiet.congr h (by exact h.isPlaying) (by rfl) (by rfl)

theorem noCreate (h : Quiet s₀ s) (hc : NoCreate s₀) : NoCreate s := fun k hk =>
  (h.tasks k hk).elim (hc k) id

theorem pageStep (h : Quiet s₀ s) {ev : Event} (hev : ev ≠ .toggle) :
    Quiet s₀ (PlayerPage.step timing s ev) := by
  cases ev with
  | toggle => exact absurd rfl hev
  | step => rw [PlayerPage.step, if_neg (by simp [h.isPlaying])]; exact h.stepFrame
  | reset e => exact h.resetReplay e
  | created t r => exact h
  | stepped t r => exact h.stepped t r
  | timer t => exact h.timer t

theorem playerStep (h : Quiet s₀ s) (hc : NoCreate s₀) {ev : Event} (hev : ev ≠ .toggle) :
    Quiet s₀ (ReplayPlayer.step timing s ev) := by
  cases ev with
  | toggle => exact absurd rfl hev
  | step =>
    rw [ReplayPlayer.step, if_neg (by simp [h.isPlaying])]
    unfold ReplayPlayer.stepFrame
    split
    · exact Quiet.congr h (by exact h.isPlaying) (by rfl) (by rfl)
    · exact h.stepFrame
  | reset e => exact h.resetReplay e
  | created t r =>
    show Quiet s₀ (ReplayPlayer.created timing s t r)
    unfold ReplayPlayer.created
    rcases hk : s.task t with _ | ⟨pc, hd, last⟩
    · exact h
    · have hpc : pc ≠ .create := by
        unfold task at hk
        exact h.noCreate hc _ (List.getElem?_mem (Option.join_eq_some.mp hk)) _ rfl
      cases pc <;> first | exact absurd rfl hpc | exact h
  | stepped t r => exact h.stepped t r
  | timer t => exact h.timer t

theorem pageRun (h : Quiet s₀ s) {evs : List Event} (hevs : ∀ ev ∈ evs, ev ≠ .toggle) :
    Quiet s₀ (PlayerPage.run timing s evs) := by
  induction evs generalizing s with
  | nil => exact h
  | cons ev evs ih =>
    exact ih (h.pageStep (hevs ev (List.mem_cons_self _ _)))
      fun ev' h' => hevs ev' (List.mem_cons_of_mem _ h')

theorem playerRun (h : Quiet s₀ s) (hc : NoCreate s₀) {evs : List Event}
    (hevs : ∀ ev ∈ evs, ev ≠ .toggle) : Quiet s₀ (ReplayPlayer.run timing s evs) := by
  induction evs generalizing s with
  | nil => exact h
  | cons ev evs ih =>
    exact ih (h.playerStep hc (hevs ev (List.mem_cons_self _ _)))
      fun ev' h' => hevs ev' (List.mem_cons_of_mem _ h')

end Quiet

theorem page_loops_stay_stopped (timing : List TimingEntry) (s : Player) (hs : s.isPlaying = false)
    (evs : List Event) (hevs : ∀ ev ∈ evs, ev ≠ .toggle) :
    Quiet s (PlayerPage.run timing s evs) :=
  (Quiet.refl hs).pageRun hevs

theorem page_loops_stay_stopped_witness :
    (PlayerPage.run [] (PlayerPage.mounted (still 0))
        [.toggle, .stepped 0 (.ok (true, still 1)), .toggle]).isPlaying = false ∧
      (PlayerPage.run [] (PlayerPage.mounted (still 0))
        [.toggle, .stepped 0 (.ok (true, still 1)), .toggle]).task 0 =
          some ⟨.loopTimer, some 0, 0⟩ ∧
      (∀ ev ∈ [Event.timer 0], ev ≠ .toggle) ∧
      Quiet (PlayerPage.run [] (PlayerPage.mounted (still 0))
          [.toggle, .stepped 0 (.ok (true, still 1)), .toggle])
        (PlayerPage.run [] (PlayerPage.run [] (PlayerPage.mounted (still 0))
          [.toggle, .stepped 0 (.ok (true, still 1)), .toggle]) [.timer 0]) :=
  ⟨rfl, rfl, by simp, page_loops_stay_stopped [] _ rfl _ (by simp)⟩

theorem player_loops_stay_stopped (timing : List TimingEntry) (s : Player)
    (hs : s.isPlaying = false) (hc : NoCreate s) (evs : List Event)
    (hevs : ∀ ev ∈ evs, ev ≠ .toggle) :
    Quiet s (ReplayPlayer.run timing s evs) :=
  (Quiet.refl hs).playerRun hc hevs

theorem player_loops_stay_stopped_witness :
    (ReplayPlayer.run [] (ReplayPlayer.loaded (still 0)) [.toggle, .created 0 (.ok (still 0)),
        .stepped 0 (.ok (true, still 1)), .toggle]).isPlaying = false ∧
      (ReplayPlayer.run [] (ReplayPlayer.loaded (still 0)) [.toggle, .created 0 (.ok (still 0)),
        .stepped 0 (.ok (true, still 1)), .toggle]).task 0 = some ⟨.loopTimer, some 0, 0⟩ ∧
      NoCreate (ReplayPlayer.run [] (ReplayPlayer.loaded (still 0)) [.toggle,
        .created 0 (.ok (still 0)), .stepped 0 (.ok (true, still 1)), .toggle]) ∧
      (∀ ev ∈ [Event.timer 0], ev ≠ .toggle) ∧
      Quiet (ReplayPlayer.run [] (ReplayPlayer.loaded (still 0)) [.toggle,
          .created 0 (.ok (still 0)), .stepped 0 (.ok (true, still 1)), .toggle])
        (ReplayPlayer.run [] (ReplayPlayer.run [] (ReplayPlayer.loaded (still 0)) [.toggle,
          .created 0 (.ok (still 0)), .stepped 0 (.ok (true, still 1)), .toggle]) [.timer 0]) := by
  have hc : NoCreate (ReplayPlayer.run [] (ReplayPlayer.loaded (still 0)) [.toggle,
      .created 0 (.ok (still 0)), .stepped 0 (.ok (true, still 1)), .toggle]) := fun k hk k' hk' => by
    have ht : (ReplayPlayer.run [] (ReplayPlayer.loaded (still 0)) [.toggle,
        .created 0 (.ok (still 0)), .stepped 0 (.ok (true, still 1)), .toggle]).tasks =
          [some ⟨.loopTimer, some 0, 0⟩] := rfl
    rw [ht, List.mem_singleton] at hk
    subst hk
    cases hk'
    nofun
  exact ⟨rfl, rfl, hc, by simp, player_loops_stay_stopped [] _ rfl hc _ (by simp)⟩

end IronReplay.Playback
