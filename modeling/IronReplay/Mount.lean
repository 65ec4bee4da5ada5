import IronReplay.Playback
import IronReplay.Ingest

/-!
The `onMount` callback of the player page, up to the handle `PlayerPage.mounted` starts from:
`getFrameCount()`, the WASM import and `initWasm()`, then `Replay.create`.
-/

namespace IronReplay.Playback.PlayerPage

open FrameStore Engine Handle Timing Player Concurrency

variable (timing : List TimingEntry)

inductive MountPc
  | frameCount
  | wasm
  | create
  | done
  deriving DecidableEq, Repr

structure Page where
  player : Player
  pc : MountPc
  totalFrames : ℕ
  navigatedHome : Bool

inductive MountEvent
  | counted (r : Except StorageError ℕ) (hasContext : Bool)
  | wasmLoaded (r : Except String Unit)
  | created (r : Except String Handle)
  | user (ev : Event)

def unmounted (e : Handle) : Page :=
  ⟨⟨false, none, 0, e, false, 0, none, DEFAULT_WIDTH, DEFAULT_HEIGHT, none, [], []⟩,
    .frameCount, 0, false⟩

def initFailed (p : Page) (m : String) : Page :=
  { p with pc := .done, player := { p.player with error := some ("Failed to initialize: " ++ m) } }

def counted (p : Page) (r : Except StorageError ℕ) (hasContext : Bool) : Page :=
  match r with
  | .error _ => { p with pc := .done }
  | .ok 0 => { p with pc := .done, navigatedHome := true }
  | .ok count =>
    if hasContext then { p with pc := .wasm, totalFrames := count }
    else initFailed { p with totalFrames := count } "Failed to get canvas 2D context"

def wasmLoaded (p : Page) (r : Except String Unit) : Page :=
  match r with
  | .error m => initFailed p m
  | .ok () => { p with pc := .create, player := { p.player with isInitialized := true } }

def created (p : Page) (r : Except String Handle) : Page :=
  match r with
  | .error m => initFailed p m
  | .ok e =>
    { p with pc := .done,
             player := { p.player with replay := some p.player.handles,
                                       handles := p.player.handles + 1, engine := e } }

def mountStep (p : Page) : MountEvent → Page
  | .counted r c => if p.pc = .frameCount then counted p r c else p
  | .wasmLoaded r => if p.pc = .wasm then wasmLoaded p r else p
  | .created r => if p.pc = .create then created p r else p
  | .user ev => { p with player := step timing p.player ev }

def mountRun (p : Page) (evs : List MountEvent) : Page := evs.foldl (mountStep timing) p

def isToggle : Event → Bool
  | .toggle => true
  | _ => false

/-- A page that holds no handle: it has started no call and logged nothing. -/
structure Dormant (s : Player) : Prop where
  replay : s.replay = none
  tasks : s.tasks = []
  log : s.log = []
  isPlaying : s.isPlaying = false

theorem step_of_dormant {s : Player} (h : Dormant s) (ev : Event) :
    step timing s ev =
      if isToggle ev then { s with error := some "Player not ready" } else s := by
  cases ev with
  | toggle =>
    show (if s.isPlaying then stopReplay s else startReplay timing s) = _
    rw [if_neg (by simp [h.isPlaying]), startReplay, if_neg (by simp [h.replay])]
    rfl
  | step =>
    show (if s.isPlaying then s else Player.stepFrame s) = s
    rw [if_neg (by simp [h.isPlaying]), Player.stepFrame]
    split
    · rfl
    · rename_i hr; simp [h.replay] at hr
  | reset e =>
    show Player.resetReplay s e = s
    unfold Player.resetReplay
    split
    · rfl
    · rename_i hr; simp [h.replay] at hr
  | created t r => rfl
  | stepped t r =>
    show Player.stepped timing s t r = s
    have ht : s.task t = none := by simp [task, h.tasks]
    unfold Player.stepped
    rw [ht]
  | timer t =>
    show Player.timer s t = s
    have ht : s.task t = none := by simp [task, h.tasks]
    unfold Player.timer
    rw [ht]

theorem Dormant.step {s : Player} (h : Dormant s) (ev : Event) : Dormant (step timing s ev) := by
  rw [step_of_dormant timing h]
  split
  · exact ⟨h.replay, h.tasks, h.log, h.isPlaying⟩
  · exact h

theorem mountRun_append (p : Page) (xs ys : List MountEvent) :
    mountRun timing p (xs ++ ys) = mountRun timing (mountRun timing p xs) ys :=
  List.foldl_append _ _ _ _

theorem mountRun_cons (p : Page) (ev : MountEvent) (evs : List MountEvent) :
    mountRun timing p (ev :: evs) = mountRun timing (mountStep timing p ev) evs := rfl

theorem mountRun_users {p : Page} (h : Dormant p.player) (us : List Event) :
    mountRun timing p (us.map .user) =
      { p with player := { p.player with
          error := if us.any isToggle then some "Player not ready" else p.player.error } } := by
  induction us generalizing p with
  | nil => rfl
  | cons ev us ih =>
    rw [List.map_cons, mountRun_cons, ih (h.step timing ev)]
    simp only [mountStep, step_of_dormant timing h, List.any_cons]
    by_cases hb : isToggle ev <;> simp [hb]

theorem Dormant.mountStep {p : Page} (h : Dormant p.player) {ev : MountEvent}
    (hev : ∀ r, ev ≠ .created (.ok r)) : Dormant (mountStep timing p ev).player := by
  have hkeep {s : Player} (hs : s.replay = p.player.replay ∧ s.tasks = p.player.tasks ∧
      s.log = p.player.log ∧ s.isPlaying = p.player.isPlaying) : Dormant s :=
    ⟨hs.1.trans h.replay, hs.2.1.trans h.tasks, hs.2.2.1.trans h.log, hs.2.2.2.trans h.isPlaying⟩
  cases ev with
  | counted r c =>
    dsimp only [PlayerPage.mountStep, counted, initFailed]
    repeat' split
    all_goals exact hkeep ⟨rfl, rfl, rfl, rfl⟩
  | wasmLoaded r =>
    dsimp only [PlayerPage.mountStep, wasmLoaded, initFailed]
    repeat' split
    all_goals exact hkeep ⟨rfl, rfl, rfl, rfl⟩
  | created r =>
    cases r with
    | error m =>
      dsimp only [PlayerPage.mountStep, created, initFailed]
      split <;> exact hkeep ⟨rfl, rfl, rfl, rfl⟩
    | ok e => exact absurd rfl (hev e)
  | user ev => exact h.step timing ev

theorem Dormant.mountRun {p : Page} (h : Dormant p.player) {evs : List MountEvent}
    (hevs : ∀ r, .created (.ok r) ∉ evs) : Dormant (mountRun timing p evs).player := by
  induction evs generalizing p with
  | nil => exact h
  | cons ev evs ih =>
    exact ih (h.mountStep timing fun r he => hevs r (he ▸ List.mem_cons_self _ _))
      fun r hr => hevs r (List.mem_cons_of_mem _ hr)

theorem dormant_unmounted (e : Handle) : Dormant (unmounted e).player := ⟨rfl, rfl, rfl, rfl⟩

theorem no_engine_call_before_create (e : Handle) (evs : List MountEvent)
    (hevs : ∀ r, .created (.ok r) ∉ evs) :
    Dormant (mountRun timing (unmounted e) evs).player ∧
      (mountRun timing (unmounted e) (evs ++ [.user .toggle])).player.error =
        some "Player not ready" := by
  have h := (dormant_unmounted e).mountRun timing hevs
  refine ⟨h, ?_⟩
  rw [mountRun_append, show [MountEvent.user .toggle] = [Event.toggle].map .user from rfl,
    mountRun_users timing h]
  rfl

theorem no_engine_call_before_create_witness :
    (∀ r, MountEvent.created (.ok r) ∉
      [.counted (.error (.getFrameCount "quota")) true, .user .toggle, .user .step]) ∧
    Dormant (mountRun [] (unmounted (still 0))
      [.counted (.error (.getFrameCount "quota")) true, .user .toggle, .user .step]).player ∧
    (mountRun [] (unmounted (still 0))
      ([.counted (.error (.getFrameCount "quota")) true, .user .toggle, .user .step] ++
        [.user .toggle])).player.error = some "Player not ready" := by
  have h : ∀ r, MountEvent.created (.ok r) ∉
      [.counted (.error (.getFrameCount "quota")) true, .user .toggle, .user .step] := by simp
  exact ⟨h, no_engine_call_before_create [] (still 0) _ h⟩

theorem mountRun_users_append {p : Page} (h : Dormant p.player) (us : List Event)
    (evs : List MountEvent) :
    mountRun timing p (us.map .user ++ evs) =
      mountRun timing { p with player := { p.player with
        error := if us.any isToggle then some "Player not ready" else p.player.error } } evs := by
  rw [mountRun_append, mountRun_users timing h]

section Handoff

open Ingest Files

theorem count_pos_of_get {s : Store} {k : Key} (h : s.get k ≠ none) : 0 < s.count := by
  unfold Store.count
  unfold Store.get at h
  cases he : s.entries with
  | nil => rw [he] at h; exact absurd rfl h
  | cons _ _ => exact Nat.succ_pos _

theorem count_putAll_pos {fs : List File} (h : fs ≠ []) : 0 < (putAll .empty fs).count := by
  obtain ⟨f, fs, rfl⟩ := List.exists_cons_of_ne_nil h
  refine count_pos_of_get (k := key f) ?_
  rw [get_putAll_empty, lastWith_cons, if_pos rfl]
  cases lastWith fs (key f) <;> simp

theorem writeFrames_ok_count {env : Outcomes} {pdus : List File} {s : Store} {n : ℕ}
    (h : (writeFrames env pdus s).2 = .ok n) : n = (writeFrames env pdus s).1.count := by
  unfold writeFrames at h ⊢
  rcases hc : clearFrames env.clearFrames s with e | cleared
  · simp [hc] at h
  · rcases hl : loadFrames env 0 pdus cleared with ⟨s', _ | e⟩
    · rcases hg : getFrameCount env.getFrameCount s' with e | m
      · simp [hc, hl, hg] at h
      · simp only [hc, hl, hg, Except.ok.injEq] at h ⊢
        exact h ▸ (request_eq_ok.mp hg).2.symm
    · simp [hc, hl] at h

theorem upload_hands_off_to_player (localeCompare : String → String → Ordering) (env : Outcomes)
    (files : List File) (p : Ingest.Page) (e : Handle)
    (hs : (Ingest.Page.processFiles localeCompare env files p).uploadState.status = .success) :
    mountStep timing (unmounted e)
        (.counted (getFrameCount .ok (Ingest.Page.processFiles localeCompare env files p).store)
          true) =
      if (pduFiles (naturalSort localeCompare files)).isEmpty then
        { unmounted e with pc := .done, navigatedHome := true }
      else { unmounted e with
        pc := .wasm, totalFrames := (Ingest.Page.processFiles localeCompare env files p).frameCount } := by
  have hstore := store_of_success hs
  obtain ⟨n, hr⟩ : ∃ n, (writeFrames env (pduFiles (naturalSort localeCompare files)) p.store).2 =
      .ok n := by
    revert hs
    simp only [Ingest.Page.processFiles]
    cases (writeFrames env (pduFiles (naturalSort localeCompare files)) p.store).2 with
    | error e => simp [finish]
    | ok n => exact fun _ => ⟨n, rfl⟩
  have hcount : n = (putAll .empty (pduFiles (naturalSort localeCompare files))).count :=
    (writeFrames_ok_count hr).trans (congrArg Store.count hstore)
  have hfc : (Ingest.Page.processFiles localeCompare env files p).frameCount = n := by
    simp [Ingest.Page.processFiles, hr]
  have hget : getFrameCount .ok (Ingest.Page.processFiles localeCompare env files p).store =
      .ok n := by
    rw [hcount, ← hstore]; rfl
  rw [hget, hfc]
  cases hp : pduFiles (naturalSort localeCompare files) with
  | nil =>
    rw [hp] at hcount
    simp [hcount, mountStep, counted, unmounted, putAll, Store.count, Store.empty]
  | cons f fs =>
    have hpos := count_putAll_pos (List.cons_ne_nil f fs)
    rw [← hp, ← hcount] at hpos
    obtain ⟨k, rfl⟩ := Nat.exists_eq_succ_of_ne_zero hpos.ne'
    simp [mountStep, counted, unmounted]

theorem upload_hands_off_to_player_witness :
    (Ingest.Page.processFiles compare .allOk [File.mk "0" [3, 0, 0, 4] none]
        (.init .empty none)).uploadState.status = .success ∧
      mountStep [] (unmounted (still 0))
          (.counted (getFrameCount .ok (Ingest.Page.processFiles compare .allOk
            [File.mk "0" [3, 0, 0, 4] none] (.init .empty none)).store) true) =
        if (pduFiles (naturalSort compare [File.mk "0" [3, 0, 0, 4] none])).isEmpty then
          { unmounted (still 0) with pc := .done, navigatedHome := true }
        else { unmounted (still 0) with
          pc := .wasm, totalFrames := (Ingest.Page.processFiles compare .allOk
            [File.mk "0" [3, 0, 0, 4] none] (.init .empty none)).frameCount } := by
  have hs : (Ingest.Page.processFiles compare .allOk [File.mk "0" [3, 0, 0, 4] none]
      (.init .empty none)).uploadState.status = .success := by decide
  exact ⟨hs, upload_hands_off_to_player [] compare .allOk _ _ (still 0) hs⟩

end Handoff

end IronReplay.Playback.PlayerPage
