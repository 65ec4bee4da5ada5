import IronReplay.Files

/-!
Ingestion: the files a drop on `routes/+page.svelte` passes on, its `processFiles`, and
`handleFolderSelect` of `FolderUploader.svelte`, with the timing index each leaves for playback.
-/

namespace IronReplay.Drop

open Files

inductive Entry
  | file (f : File)
  | directory

inductive Item
  | file (f : File)
  | directory (batches : List (List Entry))
  | other

def fileOf : Entry → Option File
  | .file f => some f
  | .directory => none

def readDirectory (batches : List (List Entry)) : List File :=
  (batches.headD []).filterMap fileOf

/-- The item loop; `awaited` records that the handler has awaited, after which the item list
reads as empty. -/
def collect : List Item → Bool → List File
  | [], _ => []
  | _ :: _, true => []
  | .other :: items, false => collect items false
  | .file f :: items, false => f :: collect items true
  | .directory batches :: items, false => readDirectory batches ++ collect items true

def handleDrop (items : List Item) : Option (List File) :=
  let files := collect items false
  if 0 < files.length then some files else none

def dropped : List Item → List File
  | [] => []
  | .file f :: items => f :: dropped items
  | .directory batches :: items => batches.flatten.filterMap fileOf ++ dropped items
  | .other :: items => dropped items

theorem later_batches_and_items_dropped :
    handleDrop [.directory [[.file ⟨"0", [0], none⟩], [.file ⟨"1", [1], none⟩], []]] =
      some [⟨"0", [0], none⟩] ∧
    dropped [.directory [[.file ⟨"0", [0], none⟩], [.file ⟨"1", [1], none⟩], []]] =
      [⟨"0", [0], none⟩, ⟨"1", [1], none⟩] ∧
    handleDrop [.file ⟨"0", [0], none⟩, .file ⟨"1", [1], none⟩] = some [⟨"0", [0], none⟩] ∧
    dropped [.file ⟨"0", [0], none⟩, .file ⟨"1", [1], none⟩] =
      [⟨"0", [0], none⟩, ⟨"1", [1], none⟩] :=
  ⟨rfl, rfl, rfl, rfl⟩

end IronReplay.Drop

namespace IronReplay.Ingest

open FrameStore Timing Files

structure Outcomes where
  textOk : Bool
  setItemOk : Bool
  clearFrames : Outcome
  arrayBuffer : ℕ → Option String
  storeFrame : ℕ → Outcome
  getFrameCount : Outcome

def Outcomes.allOk : Outcomes := ⟨true, true, .ok, fun _ => none, fun _ => .ok, .ok⟩

inductive Failure
  | storage (e : StorageError)
  | read (message : String)
  | lengthOfNull
  deriving DecidableEq

inductive Status
  | idle
  | loading
  | success
  | error (cause : Failure)
  deriving DecidableEq

structure UploadState where
  status : Status
  progress : ℕ
  total : ℕ

def key (f : File) : Key := parseInt f.name

def loadFrames (env : Outcomes) : ℕ → List File → Store → Store × Option Failure
  | _, [], s => (s, none)
  | i, f :: fs, s =>
    match env.arrayBuffer i with
    | some message => (s, some (.read message))
    | none =>
      match storeFrame (env.storeFrame i) (key f) f.bytes s with
      | .ok s' => loadFrames env (i + 1) fs s'
      | .error e => (s, some (.storage e))

def writeFrames (env : Outcomes) (pdus : List File) (s : Store) : Store × Except Failure ℕ :=
  match clearFrames env.clearFrames s with
  | .error e => (s, .error (.storage e))
  | .ok cleared =>
    match loadFrames env 0 pdus cleared with
    | (s', some e) => (s', .error e)
    | (s', none) =>
      match getFrameCount env.getFrameCount s' with
      | .ok n => (s', .ok n)
      | .error e => (s', .error (.storage e))

def finish (total : ℕ) : Except Failure ℕ → UploadState
  | .ok _ => ⟨.success, total, total⟩
  | .error e => ⟨.error e, 0, 0⟩

structure Page where
  store : Store
  session : Option (Option Json)
  uploadState : UploadState
  frameCount : ℕ

def storeTiming (env : Outcomes) (fileArray : List File) (session : Option (Option Json)) :
    Option (Option Json) :=
  match timingFile fileArray with
  | none => none
  | some f => if env.textOk && f.json.isSome && env.setItemOk then some f.json else session

namespace Page

def init (store : Store) (session : Option (Option Json)) : Page := ⟨store, session, ⟨.idle, 0, 0⟩, 0⟩

def processFiles (localeCompare : String → String → Ordering) (env : Outcomes)
    (files : List File) (p : Page) : Page :=
  let fileArray := naturalSort localeCompare files
  let pdus := pduFiles fileArray
  let r := writeFrames env pdus p.store
  { store := r.1
    session := storeTiming env fileArray p.session
    uploadState := finish pdus.length r.2
    frameCount := match r.2 with
      | .ok n => n
      | .error _ => p.frameCount }

def handleFolderSelect (localeCompare : String → String → Ordering) (env : Outcomes)
    (files : List File) (p : Page) : Page :=
  if files.isEmpty then p else processFiles localeCompare env files p

end Page

structure Uploader where
  store : Store
  timing : Json
  uploadState : UploadState
  frameCount : ℕ

def Uploader.init (store : Store) : Uploader := ⟨store, .array [], ⟨.idle, 0, 0⟩, 0⟩

def bindTiming (env : Outcomes) (fileArray : List File) (timing : Json) : Json :=
  match timingFile fileArray with
  | none => .array []
  | some f => if env.textOk then f.json.getD timing else timing

/-- The success message reads `timing.length`, which throws on a `null` timing; the `catch`
then reports the error. -/
def readTimingLength (timing : Json) (st : UploadState) : UploadState :=
  match st.status, timing with
  | .success, .null => ⟨.error .lengthOfNull, 0, 0⟩
  | _, _ => st

def Uploader.handleFolderSelect (localeCompare : String → String → Ordering) (env : Outcomes)
    (files : List File) (u : Uploader) : Uploader :=
  if files.isEmpty then { u with uploadState := ⟨.idle, 0, 0⟩ }
  else
    let fileArray := naturalSort localeCompare files
    let pdus := pduFiles fileArray
    let r := writeFrames env pdus u.store
    let timing := bindTiming env fileArray u.timing
    { store := r.1
      timing := timing
      uploadState := readTimingLength timing (finish pdus.length r.2)
      frameCount := match r.2 with
        | .ok n => n
        | .error _ => u.frameCount }

theorem readTimingLength_of_ne_success {st : UploadState} (h : st.status ≠ .success) (timing : Json) :
    readTimingLength timing st = st := by
  unfold readTimingLength; split
  · exact absurd ‹_› h
  · rfl

theorem readTimingLength_of_success {timing : Json} {st : UploadState}
    (h : (readTimingLength timing st).status = .success) : readTimingLength timing st = st := by
  revert h; unfold readTimingLength; split
  · intro h; cases h
  · intro _; rfl

theorem readTimingLength_progress {timing : Json} {st : UploadState}
    (h : readTimingLength timing st = st) (n : ℕ) :
    readTimingLength timing { st with progress := n } = { st with progress := n } := by
  rcases st with ⟨_ | _ | _ | _, _, _⟩ <;> try rfl
  cases timing <;> first | rfl | cases h

example :
    ((Uploader.init .empty).handleFolderSelect compare .allOk
        [⟨"timing.json", [], some .null⟩, ⟨"0", [0], none⟩]).uploadState.status =
      .error .lengthOfNull ∧
    ((Uploader.init .empty).handleFolderSelect compare .allOk
        [⟨"timing.json", [], some .null⟩, ⟨"0", [0], none⟩]).store.get (WithTop.some 0) = some [0] ∧
    ((Uploader.init .empty).handleFolderSelect compare .allOk
        [⟨"timing.json", [], some .null⟩, ⟨"0", [0], none⟩]).frameCount = 1 :=
  ⟨rfl, rfl, rfl⟩

def Succeeds (env : Outcomes) (i : ℕ) : Prop := env.arrayBuffer i = none ∧ env.storeFrame i = .ok

def putAll (s : Store) (fs : List File) : Store := fs.foldl (fun s f => s.put (key f) f.bytes) s

def lastWith (fs : List File) (k : Key) : Option Bytes :=
  (fs.reverse.find? (fun f => decide (key f = k))).map (·.bytes)

theorem lastWith_cons (f : File) (fs : List File) (k : Key) :
    lastWith (f :: fs) k = (lastWith fs k).or (if key f = k then some f.bytes else none) := by
  simp only [lastWith, List.reverse_cons, List.find?_append]
  cases fs.reverse.find? (fun f => decide (key f = k)) <;> by_cases hk : key f = k <;>
    simp [hk]

theorem get_putAll (s : Store) (fs : List File) (k : Key) :
    (putAll s fs).get k = (lastWith fs k).or (s.get k) := by
  induction fs generalizing s with
  | nil => simp [putAll, lastWith]
  | cons f fs ih =>
    rw [putAll, List.foldl_cons, ← putAll, ih, lastWith_cons, Store.get_put]
    by_cases hk : key f = k
    · cases lastWith fs k <;> simp [hk]
    · cases lastWith fs k <;> simp [hk, Ne.symm hk]

theorem get_putAll_empty (fs : List File) (k : Key) : (putAll .empty fs).get k = lastWith fs k := by
  rw [get_putAll, Store.get_empty]
  cases lastWith fs k <;> rfl

theorem loadFrames_ok {env : Outcomes} {i : ℕ} {fs : List File}
    (h : ∀ j < fs.length, Succeeds env (i + j)) (s : Store) :
    loadFrames env i fs s = (putAll s fs, none) := by
  induction fs generalizing i s with
  | nil => rfl
  | cons f fs ih =>
    obtain ⟨hr, hw⟩ : Succeeds env i := h 0 (by simp)
    have ht : ∀ j < fs.length, Succeeds env (i + 1 + j) := fun j hj => by
      simpa [Nat.add_assoc, Nat.add_comm 1] using h (j + 1) (by simpa using hj)
    simp [loadFrames, hr, hw, storeFrame, request, ih ht, putAll]

theorem loadFrames_none {env : Outcomes} {i : ℕ} {fs : List File} {s : Store}
    (h : (loadFrames env i fs s).2 = none) : ∀ j < fs.length, Succeeds env (i + j) := by
  induction fs generalizing i s with
  | nil => simp
  | cons f fs ih =>
    simp only [loadFrames] at h
    cases hr : env.arrayBuffer i with
    | some m => simp [hr] at h
    | none =>
      by_cases hw : env.storeFrame i = .ok
      · simp only [hr, hw, storeFrame, request] at h
        intro j hj
        cases j with
        | zero => exact ⟨hr, hw⟩
        | succ j => simpa [Nat.add_assoc, Nat.add_comm 1] using ih h j (by simpa using hj)
      · obtain ⟨e, he⟩ := request_ne_ok hw (.storeFrame (key f)) (s.put (key f) f.bytes)
        simp [hr, storeFrame, he] at h

theorem loadFrames_fail {env : Outcomes} {i j : ℕ} {fs : List File} (hj : j < fs.length)
    (hok : ∀ j' < j, Succeeds env (i + j')) (hfail : ¬ Succeeds env (i + j)) (s : Store) :
    loadFrames env i fs s = (putAll s (fs.take j), (loadFrames env i fs s).2) ∧
      (loadFrames env i fs s).2 ≠ none := by
  induction fs generalizing i j s with
  | nil => simp at hj
  | cons f fs ih =>
    cases j with
    | zero =>
      simp only [Succeeds, Nat.add_zero, not_and_or] at hfail
      cases hr : env.arrayBuffer i with
      | some m => simp [loadFrames, hr, putAll]
      | none =>
        have hw : env.storeFrame i ≠ .ok := by simpa [hr] using hfail
        obtain ⟨e, he⟩ := request_ne_ok hw (.storeFrame (key f)) (s.put (key f) f.bytes)
        simp [loadFrames, hr, storeFrame, he, putAll]
    | succ j =>
      obtain ⟨hr, hw⟩ : Succeeds env i := hok 0 (by omega)
      have ht : ∀ j' < j, Succeeds env (i + 1 + j') := fun j' hj' => by
        simpa [Nat.add_assoc, Nat.add_comm 1] using hok (j' + 1) (by omega)
      have hf : ¬ Succeeds env (i + 1 + j) := by
        simpa [Nat.add_assoc, Nat.add_comm 1] using hfail
      have := ih (by simpa using hj) ht hf (s.put (key f) f.bytes)
      simp only [loadFrames, hr, hw, storeFrame, request] at this ⊢
      exact ⟨by rw [this.1]; rfl, this.2⟩

/-- What one ingestion that found `before` in the store and left `after` with `status` must
satisfy, for frame candidates `pdus` in processing order. -/
structure IngestLaw (env : Outcomes) (pdus : List File) (before : Store) (status : Status)
    (after : Store) : Prop where
  success : status = .success →
    env.clearFrames = .ok ∧ (∀ i < pdus.length, Succeeds env i) ∧ ∀ k, after.get k = lastWith pdus k
  failure : ∀ i < pdus.length, env.clearFrames = .ok → (∀ j < i, Succeeds env j) →
    ¬ Succeeds env i → (∃ e, status = .error e) ∧ ∀ k, after.get k = lastWith (pdus.take i) k
  cleared : env.clearFrames ≠ .ok → after = before

theorem writeFrames_law (env : Outcomes) (pdus : List File) (s : Store) :
    IngestLaw env pdus s (finish pdus.length (writeFrames env pdus s).2).status
      (writeFrames env pdus s).1 := by
  by_cases hc : env.clearFrames = .ok
  · rcases hl : loadFrames env 0 pdus Store.empty with ⟨s', r⟩
    have hload := fun j => @loadFrames_fail env 0 j pdus
    simp only [Nat.zero_add] at hload
    cases r with
    | some e =>
      have hw : writeFrames env pdus s = (s', .error e) := by
        simp [writeFrames, clearFrames, request, hc, hl]
      refine ⟨fun h => by simp [hw, finish] at h, fun i hi _ hok hfail => ?_, fun h => absurd hc h⟩
      have hs' := (hload i hi hok hfail .empty).1
      rw [hl, Prod.mk.injEq] at hs'
      exact ⟨⟨e, by simp [hw, finish]⟩, fun k => by rw [hw, hs'.1, get_putAll_empty]⟩
    | none =>
      have hall := loadFrames_none (show (loadFrames env 0 pdus .empty).2 = none by rw [hl])
      simp only [Nat.zero_add] at hall
      have hs' : s' = putAll .empty pdus := by
        have := @loadFrames_ok env 0 pdus (fun j hj => by simpa using hall j hj) Store.empty
        rw [hl] at this
        exact (Prod.mk.inj this).1
      have hw : (writeFrames env pdus s).1 = s' := by
        cases hg : getFrameCount env.getFrameCount s' <;>
          simp [writeFrames, clearFrames, request, hc, hl, hg]
      refine ⟨fun _ => ⟨hc, hall, fun k => by rw [hw, hs', get_putAll_empty]⟩,
        fun i hi _ _ hfail => absurd (hall i hi) hfail, fun h => absurd hc h⟩
  · obtain ⟨e, he⟩ := request_ne_ok hc .clearFrames Store.empty
    have hw : writeFrames env pdus s = (s, .error (.storage e)) := by
      simp [writeFrames, clearFrames, he]
    exact ⟨fun h => by simp [hw, finish] at h, fun _ _ h => absurd h hc, fun _ => by rw [hw]⟩

theorem IngestLaw.after_readTimingLength {env : Outcomes} {pdus : List File} {before after : Store}
    {st : UploadState} (h : IngestLaw env pdus before st.status after) (timing : Json) :
    IngestLaw env pdus before (readTimingLength timing st).status after where
  success hs := h.success (by rwa [readTimingLength_of_success hs] at hs)
  failure i hi hc hok hf := by
    obtain ⟨⟨e, he⟩, hk⟩ := h.failure i hi hc hok hf
    exact ⟨⟨e, by rw [readTimingLength_of_ne_success (by simp [he]), he]⟩, hk⟩
  cleared := h.cleared

theorem ingestion_satisfies_law (localeCompare : String → String → Ordering) (env : Outcomes)
    (files : List File) (p : Page) (u : Uploader) :
    IngestLaw env (pduFiles (naturalSort localeCompare files)) p.store
        (Page.processFiles localeCompare env files p).uploadState.status
        (Page.processFiles localeCompare env files p).store ∧
      IngestLaw env (pduFiles (naturalSort localeCompare files)) u.store
        (Uploader.handleFolderSelect localeCompare env files u).uploadState.status
        (Uploader.handleFolderSelect localeCompare env files u).store := by
  refine ⟨writeFrames_law _ _ _, ?_⟩
  by_cases h : files.isEmpty
  · obtain rfl := List.isEmpty_iff.mp h
    exact ⟨fun h => by simp [Uploader.handleFolderSelect] at h, fun i hi => by simp [pduFiles,
      naturalSort] at hi, fun _ => rfl⟩
  · rw [Uploader.handleFolderSelect, if_neg h]
    exact (writeFrames_law env _ u.store).after_readTimingLength _

theorem putAll_perm {l₁ l₂ : List File} (hp : l₁.Perm l₂) (hn : (l₁.map key).Nodup) (s : Store) :
    putAll s l₁ = putAll s l₂ := by
  induction hp generalizing s with
  | nil => rfl
  | cons f _ ih => exact ih (List.nodup_cons.mp hn).2 _
  | swap f g l =>
    have hgf : key g ≠ key f := fun h => by simp [h] at hn
    exact congrArg (putAll · l) (Store.put_comm s hgf _ _)
  | trans h₁ _ ih₁ ih₂ => exact (ih₁ hn s).trans (ih₂ ((h₁.map key).nodup_iff.mp hn) s)

theorem store_of_success {env : Outcomes} {pdus : List File} {s : Store}
    (h : (finish pdus.length (writeFrames env pdus s).2).status = .success) :
    (writeFrames env pdus s).1 = putAll .empty pdus :=
  Store.ext fun k => by rw [((writeFrames_law env pdus s).success h).2.2 k, get_putAll_empty]

theorem pduFiles_naturalSort_perm (localeCompare : String → String → Ordering) (files : List File) :
    (pduFiles (naturalSort localeCompare files)).Perm (pduFiles files) :=
  (List.perm_insertionSort _ _).filter _

theorem ingestion_order_independent_of_distinct_keys (localeCompare : String → String → Ordering)
    (env₁ env₂ : Outcomes) (files₁ files₂ : List File) (p : Page) (u : Uploader)
    (hperm : files₁.Perm files₂) (hkeys : ((pduFiles files₁).map key).Nodup) :
    ((Page.processFiles localeCompare env₁ files₁ p).uploadState.status = .success →
      (Page.processFiles localeCompare env₂ files₂ p).uploadState.status = .success →
      (Page.processFiles localeCompare env₁ files₁ p).store =
        (Page.processFiles localeCompare env₂ files₂ p).store) ∧
    ((Uploader.handleFolderSelect localeCompare env₁ files₁ u).uploadState.status = .success →
      (Uploader.handleFolderSelect localeCompare env₂ files₂ u).uploadState.status = .success →
      (Uploader.handleFolderSelect localeCompare env₁ files₁ u).store =
        (Uploader.handleFolderSelect localeCompare env₂ files₂ u).store) := by
  have hp : (pduFiles (naturalSort localeCompare files₁)).Perm
      (pduFiles (naturalSort localeCompare files₂)) :=
    ((pduFiles_naturalSort_perm _ _).trans (hperm.filter _)).trans
      (pduFiles_naturalSort_perm _ _).symm
  have hn : ((pduFiles (naturalSort localeCompare files₁)).map key).Nodup :=
    (((pduFiles_naturalSort_perm _ _).map key).nodup_iff).mpr hkeys
  have hne : files₁.isEmpty = files₂.isEmpty := by
    cases files₁ <;> cases files₂ <;> simp_all [List.Perm.nil_eq, List.perm_nil]
  refine ⟨fun h₁ h₂ => ?_, fun h₁ h₂ => ?_⟩
  · exact (store_of_success h₁).trans ((putAll_perm hp hn _).trans (store_of_success h₂).symm)
  · by_cases he : files₁.isEmpty
    · simp [Uploader.handleFolderSelect, he] at h₁
    · simp only [Uploader.handleFolderSelect, he, ← hne, Bool.false_eq_true, if_false] at h₁ h₂ ⊢
      rw [readTimingLength_of_success h₁] at h₁
      rw [readTimingLength_of_success h₂] at h₂
      exact (store_of_success h₁).trans ((putAll_perm hp hn _).trans (store_of_success h₂).symm)

theorem ingestion_order_independent_witness :
    ([File.mk "0" [7] none, File.mk "1" [9] none].Perm [File.mk "1" [9] none, File.mk "0" [7] none] ∧
      ((pduFiles [File.mk "0" [7] none, File.mk "1" [9] none]).map key).Nodup) ∧
    ((Page.processFiles compare .allOk [File.mk "0" [7] none, File.mk "1" [9] none]
          (.init .empty none)).uploadState.status = .success →
      (Page.processFiles compare .allOk [File.mk "1" [9] none, File.mk "0" [7] none]
          (.init .empty none)).uploadState.status = .success →
      (Page.processFiles compare .allOk [File.mk "0" [7] none, File.mk "1" [9] none]
          (.init .empty none)).store =
        (Page.processFiles compare .allOk [File.mk "1" [9] none, File.mk "0" [7] none]
          (.init .empty none)).store) :=
  ⟨⟨List.Perm.swap _ _ _, by decide⟩,
    (ingestion_order_independent_of_distinct_keys compare .allOk .allOk _ _ (.init .empty none)
      (.init .empty) (List.Perm.swap _ _ _) (by decide)).1⟩

theorem processFiles_depends_on_order :
    (Page.processFiles compare .allOk [File.mk "3" [3] none, File.mk "03" [0, 3] none]
        (.init .empty none)).uploadState.status = .success ∧
    (Page.processFiles compare .allOk [File.mk "03" [0, 3] none, File.mk "3" [3] none]
        (.init .empty none)).uploadState.status = .success ∧
    (Page.processFiles compare .allOk [File.mk "3" [3] none, File.mk "03" [0, 3] none]
        (.init .empty none)).store.get (WithTop.some 3) = some [0, 3] ∧
    (Page.processFiles compare .allOk [File.mk "03" [0, 3] none, File.mk "3" [3] none]
        (.init .empty none)).store.get (WithTop.some 3) = some [3] := by
  decide

end IronReplay.Ingest

namespace IronReplay.TimingIndex

open Timing Files Ingest

def onMountTiming : Option (Option Json) → Json
  | some (some j) => j
  | _ => .array []

theorem unparsable_descriptor_keeps_earlier_entries :
    entriesOfJson (.array [.object [("timeOffset", .number 100)]]) = some [⟨100⟩] ∧
    onMountTiming ((((Page.init .empty none).processFiles compare .allOk
        [⟨"timing.json", [], some (.array [.object [("timeOffset", .number 100)]])⟩,
          ⟨"0", [0], none⟩]).processFiles compare .allOk
        [⟨"timing.json", [], none⟩, ⟨"0", [1], none⟩]).session) =
      .array [.object [("timeOffset", .number 100)]] ∧
    (((Uploader.init .empty).handleFolderSelect compare .allOk
        [⟨"timing.json", [], some (.array [.object [("timeOffset", .number 100)]])⟩,
          ⟨"0", [0], none⟩]).handleFolderSelect compare .allOk
        [⟨"timing.json", [], none⟩, ⟨"0", [1], none⟩]).timing =
      .array [.object [("timeOffset", .number 100)]] ∧
    onMountTiming ((((Page.init .empty none).processFiles compare .allOk
        [⟨"timing.json", [], some (.array [.object [("timeOffset", .number 100)]])⟩,
          ⟨"0", [0], none⟩]).processFiles compare .allOk [⟨"0", [1], none⟩]).session) =
      .array [] ∧
    (((Uploader.init .empty).handleFolderSelect compare .allOk
        [⟨"timing.json", [], some (.array [.object [("timeOffset", .number 100)]])⟩,
          ⟨"0", [0], none⟩]).handleFolderSelect compare .allOk [⟨"0", [1], none⟩]).timing =
      .array [] ∧
    entriesOfJson (.array [.object [("timeOffset", .string "5")]]) = none ∧
    onMountTiming ((Page.init .empty none).processFiles compare .allOk
        [⟨"timing.json", [], some (.array [.object [("timeOffset", .string "5")]])⟩]).session =
      .array [.object [("timeOffset", .string "5")]] ∧
    ((Uploader.init .empty).handleFolderSelect compare .allOk
        [⟨"timing.json", [], some (.array [.object [("timeOffset", .string "5")]])⟩]).timing =
      .array [.object [("timeOffset", .string "5")]] :=
  ⟨rfl, rfl, rfl, rfl, rfl, rfl, rfl, rfl⟩

end IronReplay.TimingIndex
