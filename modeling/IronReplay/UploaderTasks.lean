import IronReplay.IngestSerial

/-!
`handleFolderSelect` of `FolderUploader.svelte` as a call suspended at each `await`, with the
button, `disabled` while the status is `'loading'`, that opens the modal folder dialog.
-/

namespace IronReplay.UploaderTasks

open FrameStore Timing Files Ingest

structure Panel where
  uploader : Uploader
  dialog : Bool
  tasks : List (Option IngestTasks.Task)

inductive Event
  | click
  | cancel
  | change (env : Outcomes) (files : List File)
  | settle (t : ℕ)

namespace Panel

def task (q : Panel) (t : ℕ) : Option IngestTasks.Task := q.tasks[t]?.join

def setTask (q : Panel) (t : ℕ) (k : Option IngestTasks.Task) : Panel :=
  { q with tasks := q.tasks.set t k }

def setUploader (q : Panel) (u : Uploader) : Panel := { q with uploader := u }

def callClear (q : Panel) (t : ℕ) (k : IngestTasks.Task) : Panel :=
  let u := { q.uploader with uploadState := ⟨.loading, 0, (pduFiles k.fileArray).length⟩ }
  match clearFrames k.env.clearFrames u.store with
  | .ok s => (q.setUploader { u with store := s }).setTask t (some { k with pc := .clear none })
  | .error e => (q.setUploader u).setTask t (some { k with pc := .clear (some e) })

def callNext (q : Panel) (t : ℕ) (k : IngestTasks.Task) (i : ℕ) : Panel :=
  if i < (pduFiles k.fileArray).length then q.setTask t (some { k with pc := .read i })
  else q.setTask t (some { k with pc := .count (getFrameCount k.env.getFrameCount q.uploader.store) })

def callStore (q : Panel) (t : ℕ) (k : IngestTasks.Task) (i : ℕ) (f : File) : Panel :=
  match storeFrame (k.env.storeFrame i) (key f) f.bytes q.uploader.store with
  | .ok s =>
    (q.setUploader { q.uploader with store := s }).setTask t (some { k with pc := .store i none })
  | .error e => q.setTask t (some { k with pc := .store i (some e) })

def fail (q : Panel) (t : ℕ) (e : Failure) : Panel :=
  (q.setUploader { q.uploader with uploadState := ⟨.error e, 0, 0⟩ }).setTask t none

section

variable (localeCompare : String → String → Ordering)

def handleFolderSelect (q : Panel) (env : Outcomes) (files : List File) : Panel :=
  if files.isEmpty then q.setUploader { q.uploader with uploadState := ⟨.idle, 0, 0⟩ }
  else
    let k : IngestTasks.Task := ⟨env, naturalSort localeCompare files, .text⟩
    let q' : Panel := { q with tasks := q.tasks ++ [some k] }
    match timingFile k.fileArray with
    | some _ => q'
    | none => callClear (q'.setUploader { q.uploader with timing := .array [] }) q.tasks.length k

end

def settle (q : Panel) (t : ℕ) : Panel :=
  match q.task t with
  | none => q
  | some k =>
    match k.pc with
    | .text =>
      callClear (q.setUploader { q.uploader with
        timing := bindTiming k.env k.fileArray q.uploader.timing }) t k
    | .clear none => callNext q t k 0
    | .clear (some e) => fail q t (.storage e)
    | .read i =>
      match k.env.arrayBuffer i, (pduFiles k.fileArray)[i]? with
      | some m, _ => fail q t (.read m)
      | none, some f => callStore q t k i f
      | none, none => q
    | .store i none =>
      callNext (q.setUploader { q.uploader with
        uploadState := { q.uploader.uploadState with progress := i + 1 } }) t k (i + 1)
    | .store _ (some e) => fail q t (.storage e)
    | .count (.ok n) =>
      let total := (pduFiles k.fileArray).length
      (q.setUploader { q.uploader with
        uploadState := readTimingLength q.uploader.timing ⟨.success, total, total⟩
        frameCount := n }).setTask t none
    | .count (.error e) => fail q t (.storage e)

/-- `triggerFolderSelect` from the button `disabled={uploadState.status === 'loading'}`; while
the dialog shows, the page takes no click. -/
def click (q : Panel) : Panel :=
  if q.uploader.uploadState.status = .loading ∨ q.dialog = true then q else { q with dialog := true }

def step (localeCompare : String → String → Ordering) (q : Panel) : Event → Panel
  | .click => click q
  | .cancel => { q with dialog := false }
  | .change env files =>
    if q.dialog then handleFolderSelect localeCompare { q with dialog := false } env files else q
  | .settle t => settle q t

def run (localeCompare : String → String → Ordering) (q : Panel) (evs : List Event) : Panel :=
  evs.foldl (step localeCompare) q

def init (store : Store) : Panel := ⟨Uploader.init store, false, []⟩

end Panel

def awaitsText : IngestTasks.Pc → Bool
  | .text => true
  | _ => false

section Page

open IngestTasks

theorem eq_of_task_setTask {u : Upload} {t : ℕ} {x k : Task}
    (h : (u.setTask t (some x)).task t = some k) : k = x := by
  simp only [Upload.task, Upload.tasks_setTask, List.getElem?_set_self'] at h
  cases hl : u.tasks[t]? <;> simp [hl] at h
  exact h.symm

theorem task_setTask_none (u : Upload) (t : ℕ) : (u.setTask t none).task t = none := by
  simp only [Upload.task, Upload.tasks_setTask, List.getElem?_set_self']
  cases u.tasks[t]? <;> rfl

theorem page_callNext (u : Upload) (t : ℕ) (k : Task) (i : ℕ) : (u.callNext t k i).page = u.page := by
  unfold Upload.callNext; split_ifs <;> rfl

theorem pastText_callNext {u : Upload} {t : ℕ} {k k' : Task} {i : ℕ}
    (h : (u.callNext t k i).task t = some k') : awaitsText k'.pc = false := by
  unfold Upload.callNext at h
  split_ifs at h <;> rw [eq_of_task_setTask h] <;> rfl

theorem callStore_cases (u : Upload) (t : ℕ) (k : Task) (i : ℕ) (f : File) :
    (u.callStore t k i f).page.session = u.page.session ∧
    (u.callStore t k i f).page.uploadState = u.page.uploadState ∧
    ∀ k', (u.callStore t k i f).task t = some k' → awaitsText k'.pc = false := by
  unfold Upload.callStore
  split <;> exact ⟨rfl, rfl, fun k' h => by rw [eq_of_task_setTask h]; rfl⟩

theorem callClear_cases (u : Upload) (t : ℕ) (k : Task) :
    (u.callClear t k).page.session = u.page.session ∧
    (u.callClear t k).page.uploadState.status = .loading ∧
    ∀ k', (u.callClear t k).task t = some k' → awaitsText k'.pc = false := by
  unfold Upload.callClear
  dsimp only
  split <;> exact ⟨rfl, rfl, fun k' h => by rw [eq_of_task_setTask h]; rfl⟩

theorem settle_pastText {u : Upload} {t : ℕ} (h : ∀ k, u.task t = some k → awaitsText k.pc = false) :
    (u.settle t).page.session = u.page.session ∧ ∀ k, (u.settle t).task t = some k →
      awaitsText k.pc = false ∧ (u.settle t).page.uploadState.status = u.page.uploadState.status := by
  unfold Upload.settle
  rcases hk : u.task t with _ | ⟨env, fileArray, pc⟩
  · exact ⟨rfl, fun k hk' => Option.noConfusion (hk.symm.trans hk')⟩
  · have hfail : ∀ e : Failure, (u.fail t e).page.session = u.page.session ∧
        ∀ k, (u.fail t e).task t = some k → awaitsText k.pc = false ∧
          (u.fail t e).page.uploadState.status = u.page.uploadState.status :=
      fun e => ⟨rfl, fun k hk' => by rw [Upload.fail, task_setTask_none] at hk'; cases hk'⟩
    cases pc with
    | text => cases h _ hk
    | clear e =>
      cases e
      · exact ⟨by rw [page_callNext], fun k hk' => ⟨pastText_callNext hk', by rw [page_callNext]⟩⟩
      · exact hfail _
    | read i =>
      dsimp only
      cases env.arrayBuffer i
      · cases (pduFiles fileArray)[i]?
        · exact ⟨rfl, fun k hk' => ⟨by rw [hk] at hk'; cases hk'; rfl, rfl⟩⟩
        · obtain ⟨hs, hu, ht⟩ := callStore_cases u t _ i _
          exact ⟨hs, fun k hk' => ⟨ht k hk', by rw [hu]⟩⟩
      · exact hfail _
    | store i e =>
      cases e
      · exact ⟨by rw [page_callNext]; rfl,
          fun k hk' => ⟨pastText_callNext hk', by rw [page_callNext]; rfl⟩⟩
      · exact hfail _
    | count r =>
      cases r
      · exact hfail _
      · exact ⟨rfl, fun k hk' => by rw [task_setTask_none] at hk'; cases hk'⟩

end Page

theorem iterate_eq_of_fixed {α : Type} {f : α → α} {x : α} {j n : ℕ} (hj : f (f^[j] x) = f^[j] x)
    (hn : f (f^[n] x) = f^[n] x) : f^[j] x = f^[n] x := by
  rcases le_total j n with h | h
  · rw [← Nat.sub_add_cancel h, Function.iterate_add_apply, Function.iterate_fixed hj]
  · rw [← Nat.sub_add_cancel h, Function.iterate_add_apply, Function.iterate_fixed hn]

namespace Panel

def toUpload (q : Panel) : IngestTasks.Upload :=
  ⟨⟨q.uploader.store, none, q.uploader.uploadState, q.uploader.frameCount⟩, q.tasks⟩

def ofUpload (q : Panel) (u : IngestTasks.Upload) : Panel :=
  ⟨⟨u.page.store, q.uploader.timing, readTimingLength q.uploader.timing u.page.uploadState,
    u.page.frameCount⟩, q.dialog, u.tasks⟩

/-- Reading `timing.length` for the success message leaves the upload state as it is. -/
def LengthRead (q : Panel) : Prop :=
  readTimingLength q.uploader.timing q.uploader.uploadState = q.uploader.uploadState

theorem lengthRead_of_loading {q : Panel} (h : q.uploader.uploadState.status = .loading) :
    q.LengthRead :=
  readTimingLength_of_ne_success (by rw [h]; nofun) _

theorem status_ofUpload (q : Panel) {u : IngestTasks.Upload}
    (h : u.page.uploadState.status = .loading) : (q.ofUpload u).uploader.uploadState.status = .loading :=
  (congrArg UploadState.status (readTimingLength_of_ne_success (by rw [h]; nofun) _)).trans h

theorem ofUpload_toUpload {q : Panel} (h : q.LengthRead) : q.ofUpload q.toUpload = q := by
  rcases q with ⟨⟨⟩, _, _⟩
  exact congrArg (fun st => Panel.mk (Uploader.mk _ _ st _) _ _) h

@[simp] theorem ofUpload_ofUpload (q : Panel) (u v : IngestTasks.Upload) :
    (q.ofUpload u).ofUpload v = q.ofUpload v :=
  rfl

theorem toUpload_ofUpload (q : Panel) {u : IngestTasks.Upload} (h : u.page.session = none)
    (hs : u.page.uploadState.status = .loading) : (q.ofUpload u).toUpload = u := by
  rcases u with ⟨⟨_, _, ⟨⟩, _⟩, _⟩
  cases h
  cases hs
  rfl

theorem setTask_eq_ofUpload {q : Panel} (hq : q.LengthRead) (t : ℕ) (x : Option IngestTasks.Task) :
    q.setTask t x = q.ofUpload (q.toUpload.setTask t x) := by
  rcases q with ⟨⟨⟩, _, _⟩
  exact congrArg (fun st => Panel.mk (Uploader.mk _ _ st _) _ _) hq.symm

theorem callClear_eq_ofUpload (q : Panel) (t : ℕ) (k : IngestTasks.Task) :
    callClear q t k = q.ofUpload (q.toUpload.callClear t k) := by
  unfold callClear IngestTasks.Upload.callClear
  dsimp only [toUpload]
  cases clearFrames k.env.clearFrames q.uploader.store <;> rfl

theorem callNext_eq_ofUpload {q : Panel} (hq : q.LengthRead) (t : ℕ) (k : IngestTasks.Task) (i : ℕ) :
    callNext q t k i = q.ofUpload (q.toUpload.callNext t k i) := by
  unfold callNext IngestTasks.Upload.callNext
  split_ifs <;> exact setTask_eq_ofUpload hq _ _

theorem callStore_eq_ofUpload {q : Panel} (hq : q.LengthRead) (t : ℕ) (k : IngestTasks.Task) (i : ℕ)
    (f : File) : callStore q t k i f = q.ofUpload (q.toUpload.callStore t k i f) := by
  unfold callStore IngestTasks.Upload.callStore
  dsimp only [toUpload]
  cases storeFrame (k.env.storeFrame i) (key f) f.bytes q.uploader.store with
  | ok s => exact setTask_eq_ofUpload (q := q.setUploader { q.uploader with store := s }) hq _ _
  | error e => exact setTask_eq_ofUpload hq _ _

theorem fail_eq_ofUpload (q : Panel) (t : ℕ) (e : Failure) :
    fail q t e = q.ofUpload (q.toUpload.fail t e) :=
  rfl

def PastText (q : Panel) (t : ℕ) : Prop := ∀ k, q.task t = some k → awaitsText k.pc = false

theorem settle_eq_ofUpload {q : Panel} {t : ℕ} (h : PastText q t) (hq : q.LengthRead) :
    settle q t = q.ofUpload (q.toUpload.settle t) := by
  unfold settle IngestTasks.Upload.settle
  rw [show q.toUpload.task t = q.task t from rfl]
  rcases hk : q.task t with _ | ⟨env, fileArray, pc⟩
  · exact (ofUpload_toUpload hq).symm
  · cases pc with
    | text => cases h _ hk
    | clear e => cases e <;> [exact callNext_eq_ofUpload hq _ _ _; exact fail_eq_ofUpload ..]
    | read i =>
      dsimp only
      cases env.arrayBuffer i with
      | some m => exact fail_eq_ofUpload ..
      | none =>
        cases (pduFiles fileArray)[i]? with
        | none => exact (ofUpload_toUpload hq).symm
        | some f => exact callStore_eq_ofUpload hq _ _ _ _
    | store i e =>
      cases e
      · exact callNext_eq_ofUpload (q := q.setUploader { q.uploader with uploadState :=
          { q.uploader.uploadState with progress := i + 1 } }) (readTimingLength_progress hq _) _ _ _
      · exact fail_eq_ofUpload ..
    | count r => cases r <;> [exact fail_eq_ofUpload ..; rfl]

theorem settle_of_task_none {q : Panel} {t : ℕ} (h : q.task t = none) : settle q t = q := by
  unfold settle; rw [h]

theorem iterate_settle {t : ℕ} : ∀ (m : ℕ) {q : Panel}, PastText q t →
    q.uploader.uploadState.status = .loading →
    (settle · t)^[m] q = q.ofUpload ((IngestTasks.Upload.settle · t)^[m] q.toUpload)
  | 0, q, _, hl => (ofUpload_toUpload (lengthRead_of_loading hl)).symm
  | m + 1, q, h, hl => by
    rw [Function.iterate_succ_apply, Function.iterate_succ_apply,
      settle_eq_ofUpload h (lengthRead_of_loading hl)]
    obtain ⟨hs, hlive⟩ := settle_pastText (u := q.toUpload) h
    cases hk : (q.toUpload.settle t).task t with
    | none =>
      rw [Function.iterate_fixed (settle_of_task_none (q := q.ofUpload _) hk),
        Function.iterate_fixed (IngestTasks.Upload.settle_of_task_none hk)]
    | some k =>
      have hl' := (hlive k hk).2.trans hl
      have hp : PastText (q.ofUpload (q.toUpload.settle t)) t := fun k' hk' => (hlive k' hk').1
      rw [iterate_settle m hp (status_ofUpload q hl'), ofUpload_ofUpload, toUpload_ofUpload _ hs hl']

theorem status_callClear (q : Panel) (t : ℕ) (k : IngestTasks.Task) :
    (callClear q t k).uploader.uploadState.status = .loading ∧
      (callClear q t k).dialog = q.dialog := by
  unfold callClear; dsimp only; split <;> exact ⟨rfl, rfl⟩

theorem pastText_callClear (q : Panel) (t : ℕ) (k : IngestTasks.Task) :
    PastText (callClear q t k) t :=
  fun k' hk => (callClear_cases q.toUpload t k).2.2 k' (by rwa [callClear_eq_ofUpload] at hk)

theorem iterate_callClear (q : Panel) {t : ℕ} (k : IngestTasks.Task) (ht : t < q.tasks.length) :
    (settle · t)^[2 * (pduFiles k.fileArray).length + 2] (callClear q t k) =
      q.ofUpload ((q.toUpload.setPage (IngestTasks.Upload.finishPage (pduFiles k.fileArray).length
        (writeFrames k.env (pduFiles k.fileArray) q.uploader.store) q.toUpload.page)).setTask t
          none) := by
  obtain ⟨hs, hl, -⟩ := callClear_cases q.toUpload t k
  rw [iterate_settle _ (pastText_callClear q t k) (status_callClear q t k).1, callClear_eq_ofUpload,
    ofUpload_ofUpload, toUpload_ofUpload _ hs hl, IngestTasks.Upload.iterate_callClear k ht]
  rfl

theorem iterate_handleFolderSelect (localeCompare : String → String → Ordering) (q : Panel)
    (env : Outcomes) (files : List File) :
    (settle · q.tasks.length)^[2 * (pduFiles (naturalSort localeCompare files)).length + 3]
      (handleFolderSelect localeCompare q env files) =
      ⟨Uploader.handleFolderSelect localeCompare env files q.uploader, q.dialog,
        if files.isEmpty then q.tasks else q.tasks ++ [none]⟩ := by
  unfold handleFolderSelect
  by_cases he : files.isEmpty
  · have hn : (q.setUploader { q.uploader with uploadState := ⟨.idle, 0, 0⟩ }).task q.tasks.length =
        none := by
      simp [task, setUploader]
    rw [if_pos he, Function.iterate_fixed (settle_of_task_none hn)]
    simp [Uploader.handleFolderSelect, he, setUploader]
  · let k : IngestTasks.Task := ⟨env, naturalSort localeCompare files, .text⟩
    let q' : Panel := { q with tasks := q.tasks ++ [some k] }
    rw [if_neg he]
    dsimp only
    cases hf : timingFile (naturalSort localeCompare files) with
    | none =>
      dsimp only
      rw [Function.iterate_succ_apply', iterate_callClear _ k ?_, settle_of_task_none ?_]
      · cases hw : (writeFrames env (pduFiles (naturalSort localeCompare files)) q.uploader.store).2 <;>
          simp [ofUpload, setUploader, toUpload, Uploader.handleFolderSelect, he, hf, hw, bindTiming,
            IngestTasks.Upload.finishPage]
      · simp [task, ofUpload, toUpload, setUploader]
      · simp [setUploader]
    | some f =>
      have h₁ : settle q' q.tasks.length = callClear (q'.setUploader { q.uploader with
          timing := bindTiming env (naturalSort localeCompare files) q.uploader.timing })
          q.tasks.length k := by
        unfold settle; simp [q', task]
      dsimp only
      rw [Function.iterate_succ_apply, h₁, iterate_callClear _ k ?_]
      · cases hw : (writeFrames env (pduFiles (naturalSort localeCompare files)) q.uploader.store).2 <;>
          simp [ofUpload, setUploader, toUpload, Uploader.handleFolderSelect, he, hw,
            IngestTasks.Upload.finishPage]
      · simp [q', setUploader]

def Idle (q : Panel) : Prop := ∀ o ∈ q.tasks, o.isNone

instance (q : Panel) : Decidable q.Idle := inferInstanceAs (Decidable (∀ o ∈ q.tasks, o.isNone))

theorem Idle.task_eq {q : Panel} (h : q.Idle) (t : ℕ) : q.task t = none :=
  IngestTasks.Upload.Idle.task_eq (u := q.toUpload) h t

/-- The button's guard at work: a call in flight is past its `text()`, with the status
`'loading'` and no dialog showing, and at most one call is in flight. -/
structure Guarded (q : Panel) : Prop where
  live : ∀ t k, q.task t = some k →
    awaitsText k.pc = false ∧ q.uploader.uploadState.status = .loading ∧ q.dialog = false
  single : ∀ t t', (q.task t).isSome → (q.task t').isSome → t = t'

theorem Guarded.of_only {q : Panel} {t : ℕ} (hne : ∀ t', t' ≠ t → q.task t' = none)
    (ht : ∀ k, q.task t = some k →
      awaitsText k.pc = false ∧ q.uploader.uploadState.status = .loading ∧ q.dialog = false) :
    Guarded q := by
  have e : ∀ t', (q.task t').isSome → t' = t := fun t' h' => by
    by_contra ht'
    rw [hne t' ht'] at h'
    cases h'
  refine ⟨fun t' k hk => ?_, fun t₁ t₂ h₁ h₂ => (e t₁ h₁).trans (e t₂ h₂).symm⟩
  obtain rfl := e t' (by rw [hk]; rfl)
  exact ht k hk

theorem Guarded.of_idle {q : Panel} (h : q.Idle) : Guarded q :=
  .of_only (t := 0) (fun t' _ => h.task_eq t') fun k hk => by rw [h.task_eq] at hk; cases hk

theorem Guarded.idle {q : Panel} (h : Guarded q)
    (hs : q.uploader.uploadState.status ≠ .loading ∨ q.dialog = true) : q.Idle :=
  IngestTasks.Upload.idle_of_task (u := q.toUpload) fun t => by
    cases hk : q.task t with
    | none => exact hk
    | some k =>
      obtain ⟨-, hl, hd⟩ := h.live t k hk
      rw [hd] at hs
      exact absurd hl (by simpa using hs)

theorem Guarded.settle {q : Panel} (h : Guarded q) (t : ℕ) : Guarded (settle q t) := by
  rcases hk : q.task t with _ | k
  · rwa [settle_of_task_none hk]
  · obtain ⟨hx, hl, hd⟩ := h.live t k hk
    have hp : PastText q t := fun k' hk' => by rw [hk] at hk'; cases hk'; exact hx
    refine .of_only (t := t) (fun t' ht' => ?_) fun k' hk' => ?_
    · rw [settle_eq_ofUpload hp (lengthRead_of_loading hl)]
      refine (IngestTasks.Upload.task_settle_ne q.toUpload ht').trans ?_
      cases hk' : q.task t' with
      | none => exact hk'
      | some _ => exact absurd (h.single t' t (by rw [hk']; rfl) (by rw [hk]; rfl)) ht'
    · rw [settle_eq_ofUpload hp (lengthRead_of_loading hl)] at hk' ⊢
      obtain ⟨h₁, h₂⟩ := (settle_pastText (u := q.toUpload) hp).2 k' hk'
      exact ⟨h₁, status_ofUpload q (h₂.trans hl), hd⟩

theorem Guarded.callClear {q : Panel} {t : ℕ} (k : IngestTasks.Task)
    (hne : ∀ t', t' ≠ t → q.task t' = none) (hd : q.dialog = false) : Guarded (callClear q t k) := by
  obtain ⟨hs, hd'⟩ := status_callClear q t k
  refine .of_only (t := t) (fun t' ht' => ?_) fun k' hk' =>
    ⟨pastText_callClear q t k k' hk', hs, hd'.trans hd⟩
  rw [callClear_eq_ofUpload]
  exact (IngestTasks.Upload.task_of_tasks_set
    (IngestTasks.Upload.tasks_callClear _ _ _).choose_spec ht').trans (hne t' ht')

theorem timingFile_naturalSort_eq_none (localeCompare : String → String → Ordering)
    {files : List File} (h : ∀ f ∈ files, f.name ≠ "timing.json") :
    timingFile (naturalSort localeCompare files) = none :=
  List.find?_eq_none.mpr fun f hf => by simpa using h f ((List.perm_insertionSort _ files).subset hf)

theorem Guarded.step (localeCompare : String → String → Ordering) {q : Panel} (h : Guarded q) :
    ∀ ev : Event, (∀ env files, ev = .change env files → ∀ f ∈ files, f.name ≠ "timing.json") →
      Guarded (step localeCompare q ev)
  | .click, _ => by
    show Guarded (click q)
    unfold click
    split_ifs with hc
    · exact h
    · exact .of_idle (h.idle (.inl (not_or.mp hc).1))
  | .cancel, _ => ⟨fun t k hk => ⟨(h.live t k hk).1, (h.live t k hk).2.1, rfl⟩, h.single⟩
  | .change env files, hf => by
    by_cases hd : q.dialog
    · have hi := h.idle (.inr hd)
      simp only [Panel.step, hd, if_true, handleFolderSelect]
      split_ifs
      · exact .of_idle hi
      · rw [timingFile_naturalSort_eq_none localeCompare (hf env files rfl)]
        refine .callClear _ (fun t' ht' => ?_) rfl
        have hl : ∀ x : Option IngestTasks.Task, (q.tasks ++ [x])[t']? = q.tasks[t']? := fun x => by
          rcases Nat.lt_or_gt_of_ne ht' with h' | h'
          · exact List.getElem?_append_left h'
          · rw [List.getElem?_eq_none (by simp; omega), List.getElem?_eq_none (by omega)]
        simp only [task, setUploader, hl]
        exact hi.task_eq t'
    · simpa [Panel.step, hd] using h
  | .settle t, _ => h.settle t

theorem Guarded.run (localeCompare : String → String → Ordering) : ∀ (evs : List Event) {q : Panel},
    Guarded q → (∀ env files, Event.change env files ∈ evs → ∀ f ∈ files, f.name ≠ "timing.json") →
      Guarded (run localeCompare q evs)
  | [], _, h, _ => h
  | ev :: evs, _, h, hevs =>
    Guarded.run localeCompare evs
      (h.step localeCompare ev fun env files he => hevs env files (he ▸ List.mem_cons_self _ _))
      fun env files hm => hevs env files (List.mem_cons_of_mem _ hm)

theorem guarded_calls_never_overlap (localeCompare : String → String → Ordering) (q : Panel)
    (evs : List Event) (hq : q.Idle)
    (hevs : ∀ env files, Event.change env files ∈ evs → ∀ f ∈ files, f.name ≠ "timing.json") :
    (∀ t t', ((run localeCompare q evs).task t).isSome → ((run localeCompare q evs).task t').isSome →
      t = t') ∧
    ∀ t, ((run localeCompare q evs).task t).isSome →
      (run localeCompare q evs).uploader.uploadState.status = .loading ∧
        (run localeCompare q evs).dialog = false := by
  have h := Guarded.run localeCompare evs (.of_idle hq) hevs
  refine ⟨h.single, fun t ht => ?_⟩
  obtain ⟨k, hk⟩ := Option.isSome_iff_exists.mp ht
  exact (h.live t k hk).2

theorem guarded_calls_never_overlap_witness :
    (init .empty).Idle ∧
    (∀ env files, Event.change env files ∈ [.click, .change .allOk [⟨"0", [3, 0, 0, 4], none⟩]] →
      ∀ f ∈ files, f.name ≠ "timing.json") ∧
    (∀ t t', ((run compare (init .empty) [.click, .change .allOk [⟨"0", [3, 0, 0, 4], none⟩]]).task
        t).isSome →
      ((run compare (init .empty) [.click, .change .allOk [⟨"0", [3, 0, 0, 4], none⟩]]).task
        t').isSome → t = t') ∧
    ∀ t, ((run compare (init .empty) [.click, .change .allOk [⟨"0", [3, 0, 0, 4], none⟩]]).task
        t).isSome →
      (run compare (init .empty)
        [.click, .change .allOk [⟨"0", [3, 0, 0, 4], none⟩]]).uploader.uploadState.status =
          .loading ∧
      (run compare (init .empty) [.click, .change .allOk [⟨"0", [3, 0, 0, 4], none⟩]]).dialog =
        false :=
  have hq : (init .empty).Idle := by decide
  have hevs : ∀ env files,
      Event.change env files ∈ [.click, .change .allOk [⟨"0", [3, 0, 0, 4], none⟩]] →
        ∀ f ∈ files, f.name ≠ "timing.json" := by
    intro env files h
    simp only [List.mem_cons, List.mem_singleton, reduceCtorEq, Event.change.injEq, false_or,
      List.not_mem_nil, or_false] at h
    rw [h.2]
    decide
  ⟨hq, hevs, guarded_calls_never_overlap compare _ _ hq hevs⟩

def delivered (q : Panel) : Event → List (Outcomes × List File)
  | .change env files => if q.dialog then [(env, files)] else []
  | .click | .cancel | .settle _ => []

def selections (localeCompare : String → String → Ordering) :
    Panel → List Event → List (Outcomes × List File)
  | _, [] => []
  | q, ev :: evs => delivered q ev ++ selections localeCompare (step localeCompare q ev) evs

def uploadAll (localeCompare : String → String → Ordering) (u : Uploader)
    (ds : List (Outcomes × List File)) : Uploader :=
  ds.foldl (fun u d => Uploader.handleFolderSelect localeCompare d.1 d.2 u) u

section

variable {localeCompare : String → String → Ordering}

theorem iterate_of_returned {q : Panel} {env : Outcomes} {files : List File} {j : ℕ}
    (h : ((settle · q.tasks.length)^[j] (handleFolderSelect localeCompare q env files)).task
      q.tasks.length = none) :
    (settle · q.tasks.length)^[j] (handleFolderSelect localeCompare q env files) =
      ⟨Uploader.handleFolderSelect localeCompare env files q.uploader, q.dialog,
        if files.isEmpty then q.tasks else q.tasks ++ [none]⟩ := by
  rw [← iterate_handleFolderSelect]
  refine iterate_eq_of_fixed (settle_of_task_none h) (settle_of_task_none ?_)
  rw [iterate_handleFolderSelect]
  split_ifs <;> simp [task]

theorem idle_returned {q : Panel} (hq : q.Idle) (u : Uploader) (d : Bool) (files : List File) :
    Idle ⟨u, d, if files.isEmpty then q.tasks else q.tasks ++ [none]⟩ := by
  split_ifs
  · exact hq
  · intro o ho
    rcases List.mem_append.mp ho with ho | ho
    · exact hq o ho
    · rw [List.mem_singleton.mp ho]; rfl

def Stage (localeCompare : String → String → Ordering) (u₀ : Uploader)
    (ds : List (Outcomes × List File)) (q : Panel) : Prop :=
  (q.Idle ∧ q.uploader = uploadAll localeCompare u₀ ds) ∨
  ∃ ds' env files q₀ j, ds = ds' ++ [(env, files)] ∧ q₀.Idle ∧
    q₀.uploader = uploadAll localeCompare u₀ ds' ∧
    q = (settle · q₀.tasks.length)^[j] (handleFolderSelect localeCompare q₀ env files)

variable {u₀ : Uploader}

theorem stage_idle {ds : List (Outcomes × List File)} {q : Panel} (h : Stage localeCompare u₀ ds q)
    (hi : q.Idle) : q.uploader = uploadAll localeCompare u₀ ds := by
  rcases h with ⟨_, h⟩ | ⟨ds', env, files, q₀, j, rfl, -, hu, rfl⟩
  · exact h
  · rw [iterate_of_returned (hi.task_eq _)]
    simp [uploadAll, hu]

theorem stage_step_of_idle {ds : List (Outcomes × List File)} {q : Panel} (hi : q.Idle)
    (hu : q.uploader = uploadAll localeCompare u₀ ds) (ev : Event) :
    Stage localeCompare u₀ (ds ++ delivered q ev) (step localeCompare q ev) := by
  cases ev with
  | click =>
    rw [delivered, List.append_nil]
    exact .inl (by unfold step click; split_ifs <;> exact ⟨hi, hu⟩)
  | cancel => rw [delivered, List.append_nil]; exact .inl ⟨hi, hu⟩
  | change env files =>
    by_cases hd : q.dialog
    · rw [delivered, if_pos hd]
      exact .inr ⟨ds, env, files, { q with dialog := false }, 0, rfl, hi, hu, by simp [step, hd]⟩
    · rw [delivered, if_neg hd, List.append_nil]
      exact .inl (by simpa [step, hd] using ⟨hi, hu⟩)
  | settle t =>
    rw [delivered, List.append_nil, step, settle_of_task_none (hi.task_eq t)]
    exact .inl ⟨hi, hu⟩

theorem stage_step {ds : List (Outcomes × List File)} {q : Panel} (h : Stage localeCompare u₀ ds q)
    (hg : Guarded q) (ev : Event) :
    Stage localeCompare u₀ (ds ++ delivered q ev) (step localeCompare q ev) := by
  by_cases hi : q.Idle
  · exact stage_step_of_idle hi (stage_idle h hi) ev
  rcases h with ⟨hi', -⟩ | ⟨ds', env, files, q₀, j, rfl, hq₀, hu, hq⟩
  · exact absurd hi' hi
  have hn : ∃ k, q.task q₀.tasks.length = some k := by
    refine Option.ne_none_iff_exists'.mp fun hn => hi ?_
    rw [hq] at hn ⊢
    rw [iterate_of_returned hn]
    exact idle_returned hq₀ _ _ _
  obtain ⟨k, hk⟩ := hn
  obtain ⟨-, hl, hd⟩ := hg.live _ k hk
  have hcall : Stage localeCompare u₀ (ds' ++ [(env, files)]) q :=
    .inr ⟨ds', env, files, q₀, j, rfl, hq₀, hu, hq⟩
  cases ev with
  | click =>
    rw [delivered, List.append_nil]
    unfold step click
    rwa [if_pos (.inl hl)]
  | cancel =>
    rw [delivered, List.append_nil]
    have : { q with dialog := false } = q := by rw [← hd]
    rwa [step, this]
  | change env' files' =>
    rw [delivered, if_neg (by simp [hd]), List.append_nil]
    simpa [step, hd] using hcall
  | settle t =>
    rw [delivered, List.append_nil]
    by_cases ht : t = q₀.tasks.length
    · subst ht
      exact .inr ⟨ds', env, files, q₀, j + 1, rfl, hq₀, hu, by
        rw [hq, Function.iterate_succ_apply']; rfl⟩
    · have ht' : q.task t = none := by
        cases hk' : q.task t with
        | none => rfl
        | some _ => exact absurd (hg.single t _ (by rw [hk']; rfl) (by rw [hk]; rfl)) ht
      rwa [step, settle_of_task_none ht']

theorem stage_run : ∀ (evs : List Event) {q : Panel} {ds : List (Outcomes × List File)},
    Stage localeCompare u₀ ds q → Guarded q →
      (∀ env files, Event.change env files ∈ evs → ∀ f ∈ files, f.name ≠ "timing.json") →
        Stage localeCompare u₀ (ds ++ selections localeCompare q evs) (run localeCompare q evs)
  | [], _, _, h, _, _ => by rwa [selections, List.append_nil]
  | ev :: evs, q, ds, h, hg, hevs => by
    rw [selections, ← List.append_assoc]
    exact stage_run evs (stage_step h hg ev)
      (hg.step localeCompare ev fun env files he => hevs env files (he ▸ List.mem_cons_self _ _))
      fun env files hm => hevs env files (List.mem_cons_of_mem _ hm)

end

/-- A folder with a `timing.json` awaits its `text()` with the button still enabled, and a folder
chosen then is loaded alongside it. -/
example :
    (run compare (init .empty) [.click, .change .allOk [⟨"timing.json", [], some (.array [])⟩,
      ⟨"0", [0], none⟩], .click, .change .allOk [⟨"1", [1], none⟩], .settle 0, .settle 1, .settle 1,
      .settle 0, .settle 0, .settle 0, .settle 0, .settle 1, .settle 1]).Idle ∧
    (run compare (init .empty) [.click, .change .allOk [⟨"timing.json", [], some (.array [])⟩,
      ⟨"0", [0], none⟩], .click, .change .allOk [⟨"1", [1], none⟩], .settle 0, .settle 1, .settle 1,
      .settle 0, .settle 0, .settle 0, .settle 0, .settle 1, .settle 1]).uploader.store.entries =
      [(WithTop.some 0, [0]), (WithTop.some 1, [1])] ∧
    (uploadAll compare (Uploader.init .empty) [(.allOk, [⟨"timing.json", [], some (.array [])⟩,
      ⟨"0", [0], none⟩]), (.allOk, [⟨"1", [1], none⟩])]).store.entries =
      [(WithTop.some 1, [1])] := by
  decide

end Panel

end IronReplay.UploaderTasks
