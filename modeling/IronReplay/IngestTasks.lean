import IronReplay.Ingest
import Mathlib.Logic.Function.Iterate

/-!
`processFiles` of `routes/+page.svelte` as a call that suspends at each `await`. IndexedDB runs
readwrite transactions on one store in creation order, so a store call takes effect when made.
-/

namespace IronReplay.IngestTasks

open FrameStore Timing Files Ingest

/-- Where a call is suspended, with the answer of the store call it awaits. -/
inductive Pc
  | text
  | clear (e : Option StorageError)
  | read (i : ℕ)
  | store (i : ℕ) (e : Option StorageError)
  | count (r : Except StorageError ℕ)

structure Task where
  env : Outcomes
  fileArray : List File
  pc : Pc

structure Upload where
  page : Page
  tasks : List (Option Task)

inductive Event
  | processFiles (env : Outcomes) (files : List File)
  | settle (t : ℕ)

namespace Upload

def task (u : Upload) (t : ℕ) : Option Task := u.tasks[t]?.join

def setTask (u : Upload) (t : ℕ) (k : Option Task) : Upload := { u with tasks := u.tasks.set t k }

def setPage (u : Upload) (p : Page) : Upload := { u with page := p }

def callClear (u : Upload) (t : ℕ) (k : Task) : Upload :=
  let p := { u.page with uploadState := ⟨.loading, 0, (pduFiles k.fileArray).length⟩ }
  match clearFrames k.env.clearFrames p.store with
  | .ok s => (u.setPage { p with store := s }).setTask t (some { k with pc := .clear none })
  | .error e => (u.setPage p).setTask t (some { k with pc := .clear (some e) })

def callNext (u : Upload) (t : ℕ) (k : Task) (i : ℕ) : Upload :=
  if i < (pduFiles k.fileArray).length then u.setTask t (some { k with pc := .read i })
  else u.setTask t (some { k with pc := .count (getFrameCount k.env.getFrameCount u.page.store) })

def callStore (u : Upload) (t : ℕ) (k : Task) (i : ℕ) (f : File) : Upload :=
  match storeFrame (k.env.storeFrame i) (key f) f.bytes u.page.store with
  | .ok s => (u.setPage { u.page with store := s }).setTask t (some { k with pc := .store i none })
  | .error e => u.setTask t (some { k with pc := .store i (some e) })

def fail (u : Upload) (t : ℕ) (e : Failure) : Upload :=
  (u.setPage { u.page with uploadState := ⟨.error e, 0, 0⟩ }).setTask t none

section

variable (localeCompare : String → String → Ordering)

def processFiles (u : Upload) (env : Outcomes) (files : List File) : Upload :=
  let k : Task := ⟨env, naturalSort localeCompare files, .text⟩
  let u' : Upload := { u with tasks := u.tasks ++ [some k] }
  match timingFile k.fileArray with
  | some _ => u'
  | none => callClear (u'.setPage { u.page with session := none }) u.tasks.length k

end

def settle (u : Upload) (t : ℕ) : Upload :=
  match u.task t with
  | none => u
  | some k =>
    match k.pc with
    | .text =>
      callClear (u.setPage { u.page with session := storeTiming k.env k.fileArray u.page.session })
        t k
    | .clear none => callNext u t k 0
    | .clear (some e) => fail u t (.storage e)
    | .read i =>
      match k.env.arrayBuffer i, (pduFiles k.fileArray)[i]? with
      | some m, _ => fail u t (.read m)
      | none, some f => callStore u t k i f
      | none, none => u
    | .store i none =>
      callNext (u.setPage { u.page with uploadState := { u.page.uploadState with progress := i + 1 } })
        t k (i + 1)
    | .store _ (some e) => fail u t (.storage e)
    | .count (.ok n) =>
      (u.setPage { u.page with uploadState := ⟨.success, (pduFiles k.fileArray).length,
        (pduFiles k.fileArray).length⟩, frameCount := n }).setTask t none
    | .count (.error e) => fail u t (.storage e)

def step (localeCompare : String → String → Ordering) (u : Upload) : Event → Upload
  | .processFiles env files => processFiles localeCompare u env files
  | .settle t => settle u t

def run (localeCompare : String → String → Ordering) (u : Upload) (evs : List Event) : Upload :=
  evs.foldl (step localeCompare) u

@[simp] theorem tasks_setTask (u : Upload) (t : ℕ) (k : Option Task) :
    (u.setTask t k).tasks = u.tasks.set t k := rfl

@[simp] theorem tasks_setPage (u : Upload) (p : Page) : (u.setPage p).tasks = u.tasks := rfl

@[simp] theorem page_setPage (u : Upload) (p : Page) : (u.setPage p).page = p := rfl

@[simp] theorem page_setTask (u : Upload) (t : ℕ) (k : Option Task) :
    (u.setTask t k).page = u.page := rfl

@[simp] theorem setTask_setTask (u : Upload) (t : ℕ) (a b : Option Task) :
    (u.setTask t a).setTask t b = u.setTask t b := by
  simp [setTask, List.set_set]

@[simp] theorem setPage_setTask (u : Upload) (t : ℕ) (k : Option Task) (p : Page) :
    (u.setTask t k).setPage p = (u.setPage p).setTask t k := rfl

@[simp] theorem setPage_setPage (u : Upload) (p q : Page) : (u.setPage p).setPage q = u.setPage q :=
  rfl

theorem task_setTask_self {u : Upload} {t : ℕ} (ht : t < u.tasks.length) (k : Option Task) :
    (u.setTask t k).task t = k := by
  simp [task, setTask, ht]

theorem settle_of_task_none {u : Upload} {t : ℕ} (h : u.task t = none) : settle u t = u := by
  unfold settle; rw [h]

theorem iterate_settle_done {u : Upload} {t : ℕ} (ht : t < u.tasks.length) (m : ℕ) :
    (settle · t)^[m] (u.setTask t none) = u.setTask t none :=
  Function.iterate_fixed (settle_of_task_none (task_setTask_self ht none)) m

theorem callNext_setTask (u : Upload) (t : ℕ) (x : Option Task) (k : Task) (i : ℕ) :
    callNext (u.setTask t x) t k i = callNext u t k i := by
  unfold callNext; split_ifs <;> simp

theorem callStore_setTask (u : Upload) (t : ℕ) (x : Option Task) (k : Task) (i : ℕ) (f : File) :
    callStore (u.setTask t x) t k i f = callStore u t k i f := by
  simp only [callStore, page_setTask]
  split <;> simp

theorem fail_setTask (u : Upload) (t : ℕ) (x : Option Task) (e : Failure) :
    fail (u.setTask t x) t e = fail u t e := by
  simp [fail]

def afterClear (env : Outcomes) (i : ℕ) (fs : List File) (s : Store) : Store × Except Failure ℕ :=
  match loadFrames env i fs s with
  | (s', some e) => (s', .error e)
  | (s', none) =>
    match getFrameCount env.getFrameCount s' with
    | .ok n => (s', .ok n)
    | .error e => (s', .error (.storage e))

def finishPage (n : ℕ) (r : Store × Except Failure ℕ) (p : Page) : Page :=
  { p with store := r.1, uploadState := finish n r.2,
           frameCount := match r.2 with
             | .ok c => c
             | .error _ => p.frameCount }

theorem iterate_callNext (k : Task) (t : ℕ) : ∀ (fs : List File) (i : ℕ) (u : Upload),
    (pduFiles k.fileArray).drop i = fs → t < u.tasks.length →
    (settle · t)^[2 * fs.length + 1] (callNext u t k i) =
      (u.setPage (finishPage (pduFiles k.fileArray).length
        (afterClear k.env i fs u.page.store) u.page)).setTask t none
  | [], i, u, hd, ht => by
    have hi : ¬ i < (pduFiles k.fileArray).length := by simpa using hd
    rw [callNext, if_neg hi, List.length_nil, Nat.mul_zero, Nat.zero_add, Function.iterate_one]
    unfold settle
    rw [task_setTask_self ht]
    dsimp only
    cases hg : getFrameCount k.env.getFrameCount u.page.store with
    | ok c => simp [afterClear, loadFrames, hg, finishPage, finish]
    | error e => simp [fail, afterClear, loadFrames, hg, finishPage, finish]
  | f :: fs, i, u, hd, ht => by
    have hi : i < (pduFiles k.fileArray).length := by
      by_contra h; rw [List.drop_eq_nil_of_le (not_lt.mp h)] at hd; cases hd
    have hf : (pduFiles k.fileArray)[i]? = some f := by
      rw [← List.head?_drop, hd]; rfl
    have ht' : ∀ p : Page, t < (u.setPage p).tasks.length := fun _ => ht
    rw [callNext, if_pos hi, List.length_cons,
      show 2 * (fs.length + 1) + 1 = 2 * fs.length + 1 + 1 + 1 by omega,
      Function.iterate_succ_apply, Function.iterate_succ_apply]
    cases hm : k.env.arrayBuffer i with
    | some m =>
      have h₁ : settle (u.setTask t (some { k with pc := .read i })) t = fail u t (.read m) := by
        simp only [settle, task_setTask_self ht, hm, fail_setTask]
      rw [h₁, fail, ← Function.iterate_succ_apply, iterate_settle_done (ht' _)]
      simp [afterClear, loadFrames, hm, finishPage, finish]
    | none =>
      have h₁ : settle (u.setTask t (some { k with pc := .read i })) t = callStore u t k i f := by
        simp only [settle, task_setTask_self ht, hm, hf, callStore_setTask]
        rfl
      rw [h₁]
      cases hw : storeFrame (k.env.storeFrame i) (key f) f.bytes u.page.store with
      | ok s' =>
        have hd' : (pduFiles k.fileArray).drop (i + 1) = fs := by
          rw [← List.drop_drop, hd]; rfl
        have h₂ : settle (callStore u t k i f) t = callNext (u.setPage ⟨s', u.page.session,
            { u.page.uploadState with progress := i + 1 }, u.page.frameCount⟩) t k (i + 1) := by
          simp only [callStore, hw, settle, task_setTask_self (ht' _), page_setTask, page_setPage,
            setPage_setTask, setPage_setPage, callNext_setTask]
          rfl
        rw [h₂, iterate_callNext k t fs (i + 1) _ hd' (ht' _)]
        simp [afterClear, loadFrames, hm, hw, finishPage]
      | error e =>
        have h₂ : settle (callStore u t k i f) t = fail u t (.storage e) := by
          simp only [callStore, hw, settle, task_setTask_self ht, fail_setTask]
        rw [h₂, fail, iterate_settle_done (ht' _)]
        simp [afterClear, loadFrames, hm, hw, finishPage, finish]

theorem writeFrames_of_cleared {env : Outcomes} {pdus : List File} {s c : Store}
    (hc : clearFrames env.clearFrames s = .ok c) :
    writeFrames env pdus s = afterClear env 0 pdus c := by
  rcases hl : loadFrames env 0 pdus c with ⟨s', _ | e⟩
  · cases hg : getFrameCount env.getFrameCount s' <;> simp [writeFrames, hc, afterClear, hl, hg]
  · simp [writeFrames, hc, afterClear, hl]

theorem iterate_callClear {u : Upload} {t : ℕ} (k : Task) (ht : t < u.tasks.length) :
    (settle · t)^[2 * (pduFiles k.fileArray).length + 2] (callClear u t k) =
      (u.setPage (finishPage (pduFiles k.fileArray).length
        (writeFrames k.env (pduFiles k.fileArray) u.page.store) u.page)).setTask t none := by
  have ht' : ∀ p : Page, t < (u.setPage p).tasks.length := fun _ => ht
  rw [Function.iterate_succ_apply]
  cases hc : clearFrames k.env.clearFrames u.page.store with
  | ok s =>
    have h₁ : settle (callClear u t k) t = callNext (u.setPage ⟨s, u.page.session,
        ⟨.loading, 0, (pduFiles k.fileArray).length⟩, u.page.frameCount⟩) t k 0 := by
      simp only [callClear, hc, settle, task_setTask_self (ht' _), callNext_setTask]
      rfl
    rw [h₁, iterate_callNext k t _ 0 _ (List.drop_zero _) (ht' _), writeFrames_of_cleared hc]
    simp [finishPage]
  | error e =>
    have h₁ : settle (callClear u t k) t = fail (u.setPage { u.page with
        uploadState := ⟨.loading, 0, (pduFiles k.fileArray).length⟩ }) t (.storage e) := by
      simp only [callClear, hc, settle, task_setTask_self (ht' _), fail_setTask]
    rw [h₁, fail, setPage_setPage, iterate_settle_done (ht' _)]
    simp [writeFrames, hc, finishPage, finish]

theorem processFiles_eq_finishPage (localeCompare : String → String → Ordering) (env : Outcomes)
    (files : List File) (p : Page) : Page.processFiles localeCompare env files p =
      finishPage (pduFiles (naturalSort localeCompare files)).length
        (writeFrames env (pduFiles (naturalSort localeCompare files)) p.store)
        { p with session := storeTiming env (naturalSort localeCompare files) p.session } := by
  cases h : (writeFrames env (pduFiles (naturalSort localeCompare files)) p.store).2 <;>
    simp [Page.processFiles, finishPage, h]

theorem processFiles_alone (localeCompare : String → String → Ordering) (u : Upload)
    (env : Outcomes) (files : List File) :
    ((settle · u.tasks.length)^[2 * (pduFiles (naturalSort localeCompare files)).length + 3]
      (processFiles localeCompare u env files)).page =
      Page.processFiles localeCompare env files u.page := by
  let k : Task := ⟨env, naturalSort localeCompare files, .text⟩
  let u' : Upload := { u with tasks := u.tasks ++ [some k] }
  have ht : ∀ p : Page, u.tasks.length < (u'.setPage p).tasks.length := fun _ => by simp [u']
  have hk : u'.task u.tasks.length = some k := by simp [u', task]
  unfold processFiles
  dsimp only
  cases hf : timingFile (naturalSort localeCompare files) with
  | none =>
    dsimp only
    rw [Function.iterate_succ_apply', iterate_callClear k (ht _), settle_of_task_none
      (task_setTask_self (by simp) none)]
    simp [processFiles_eq_finishPage, storeTiming, hf]
  | some f =>
    have h₁ : settle u' u.tasks.length = callClear (u'.setPage { u.page with
        session := storeTiming env (naturalSort localeCompare files) u.page.session })
        u.tasks.length k := by
      unfold settle; rw [hk]
    dsimp only
    rw [Function.iterate_succ_apply, h₁, iterate_callClear k (ht _)]
    simp [processFiles_eq_finishPage]

end Upload

open Upload

theorem overlapping_drops_mix_sessions :
    (run (fun _ _ => .eq) ⟨Page.init .empty none, []⟩
        [.processFiles .allOk [⟨"0", [0], none⟩, ⟨"1", [1], none⟩], .settle 0, .settle 0,
          .processFiles .allOk [⟨"0", [2], none⟩], .settle 1, .settle 1, .settle 0, .settle 0,
          .settle 0, .settle 0, .settle 1, .settle 1]).page.store.entries =
      [(WithTop.some 0, [2]), (WithTop.some 1, [1])] ∧
    (run (fun _ _ => .eq) ⟨Page.init .empty none, []⟩
        [.processFiles .allOk [⟨"0", [0], none⟩, ⟨"1", [1], none⟩], .settle 0, .settle 0,
          .processFiles .allOk [⟨"0", [2], none⟩], .settle 1, .settle 1, .settle 0, .settle 0,
          .settle 0, .settle 0, .settle 1, .settle 1]).page.uploadState.status = .success ∧
    ((Page.init .empty none).processFiles (fun _ _ => .eq) .allOk
        [⟨"0", [0], none⟩, ⟨"1", [1], none⟩]).store.entries =
      [(WithTop.some 0, [0]), (WithTop.some 1, [1])] ∧
    ((Page.init .empty none).processFiles (fun _ _ => .eq) .allOk [⟨"0", [2], none⟩]).store.entries =
      [(WithTop.some 0, [2])] := by
  decide

end IronReplay.IngestTasks
