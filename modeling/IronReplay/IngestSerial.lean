import IronReplay.IngestTasks

/-!
Runs of the upload page in which every drop comes while no ingestion is in flight end as the
dropped folders ingested one after another.
-/

namespace IronReplay.IngestTasks

open FrameStore Timing Files Ingest

namespace Upload

theorem task_of_tasks_set {u v : Upload} {t t' : ℕ} {x : Option Task}
    (h : v.tasks = u.tasks.set t x) (ht : t' ≠ t) : v.task t' = u.task t' := by
  simp only [task, h, List.getElem?_set_ne (Ne.symm ht)]

theorem task_setTask_ne (u : Upload) {t t' : ℕ} (k : Option Task) (ht : t' ≠ t) :
    (u.setTask t k).task t' = u.task t' :=
  task_of_tasks_set rfl ht

theorem tasks_callClear (u : Upload) (t : ℕ) (k : Task) :
    ∃ x, (callClear u t k).tasks = u.tasks.set t x := by
  unfold callClear; dsimp only; split <;> exact ⟨_, rfl⟩

theorem tasks_callNext (u : Upload) (t : ℕ) (k : Task) (i : ℕ) :
    ∃ x, (callNext u t k i).tasks = u.tasks.set t x := by
  unfold callNext; split_ifs <;> exact ⟨_, rfl⟩

theorem tasks_callStore (u : Upload) (t : ℕ) (k : Task) (i : ℕ) (f : File) :
    ∃ x, (callStore u t k i f).tasks = u.tasks.set t x := by
  unfold callStore; dsimp only; split <;> exact ⟨_, rfl⟩

theorem task_settle_ne (u : Upload) {t t' : ℕ} (ht : t' ≠ t) : (settle u t).task t' = u.task t' := by
  unfold settle
  split
  · rfl
  · split
    · exact task_of_tasks_set (tasks_callClear _ _ _).choose_spec ht
    · exact task_of_tasks_set (tasks_callNext _ _ _ _).choose_spec ht
    · exact task_setTask_ne _ none ht
    · split
      · exact task_setTask_ne _ none ht
      · exact task_of_tasks_set (tasks_callStore _ _ _ _ _).choose_spec ht
      · rfl
    · exact task_of_tasks_set (tasks_callNext _ _ _ _).choose_spec ht
    · exact task_setTask_ne _ none ht
    · exact task_setTask_ne _ none ht
    · exact task_setTask_ne _ none ht

theorem task_iterate_settle_ne (u : Upload) {t t' : ℕ} (ht : t' ≠ t) (j : ℕ) :
    ((settle · t)^[j] u).task t' = u.task t' := by
  induction j with
  | zero => rfl
  | succ j ih => rw [Function.iterate_succ_apply', task_settle_ne _ ht, ih]

theorem task_processFiles_ne (localeCompare : String → String → Ordering) (u : Upload)
    (env : Outcomes) (files : List File) {t : ℕ} (ht : t ≠ u.tasks.length) :
    (processFiles localeCompare u env files).task t = u.task t := by
  have happ : ∀ x : Option Task, (u.tasks ++ [x])[t]? = u.tasks[t]? := fun x => by
    rcases Nat.lt_or_gt_of_ne ht with h | h
    · exact List.getElem?_append_left h
    · rw [List.getElem?_eq_none (by simp; omega), List.getElem?_eq_none (by omega)]
  unfold processFiles
  dsimp only
  split
  · simp only [task, happ]
  · rw [task_of_tasks_set (tasks_callClear _ _ _).choose_spec ht]
    simp only [task, tasks_setPage, happ]

def Idle (u : Upload) : Prop := ∀ o ∈ u.tasks, o.isNone

instance (u : Upload) : Decidable u.Idle :=
  inferInstanceAs (Decidable (∀ o ∈ u.tasks, o.isNone))

theorem Idle.task_eq {u : Upload} (h : u.Idle) (t : ℕ) : u.task t = none := by
  unfold task
  cases hg : u.tasks[t]? with
  | none => rfl
  | some o => rw [Option.isNone_iff_eq_none.mp (h o (List.mem_iff_getElem?.mpr ⟨t, hg⟩))]; rfl

theorem idle_of_task {u : Upload} (h : ∀ t, u.task t = none) : u.Idle := fun o ho => by
  obtain ⟨t, ht⟩ := List.mem_iff_getElem?.mp ho
  simpa [task, ht] using h t

theorem task_iterate_processFiles (localeCompare : String → String → Ordering) (u : Upload)
    (env : Outcomes) (files : List File) :
    ((settle · u.tasks.length)^[2 * (pduFiles (naturalSort localeCompare files)).length + 3]
      (processFiles localeCompare u env files)).task u.tasks.length = none := by
  let k : Task := ⟨env, naturalSort localeCompare files, .text⟩
  let u' : Upload := { u with tasks := u.tasks ++ [some k] }
  have ht : ∀ p : Page, u.tasks.length < (u'.setPage p).tasks.length := fun _ => by simp [u']
  have hk : u'.task u.tasks.length = some k := by simp [u', task]
  unfold processFiles
  dsimp only
  cases hf : timingFile (naturalSort localeCompare files) with
  | none =>
    dsimp only
    rw [Function.iterate_succ_apply', iterate_callClear k (ht _), settle_of_task_none
      (task_setTask_self (by simp) none)]
    exact task_setTask_self (by simp [u']) none
  | some f =>
    have h₁ : settle u' u.tasks.length = callClear (u'.setPage { u.page with
        session := storeTiming env (naturalSort localeCompare files) u.page.session })
        u.tasks.length k := by
      unfold settle; rw [hk]
    dsimp only
    rw [Function.iterate_succ_apply, h₁, iterate_callClear k (ht _)]
    exact task_setTask_self (by simp [u']) none

def serial (localeCompare : String → String → Ordering) : Upload → List Event → Bool
  | _, [] => true
  | u, .processFiles env files :: evs =>
    decide u.Idle && serial localeCompare (processFiles localeCompare u env files) evs
  | u, .settle t :: evs => serial localeCompare (settle u t) evs

end Upload

open Upload

def drops : List Event → List (Outcomes × List File)
  | [] => []
  | .processFiles env files :: evs => (env, files) :: drops evs
  | .settle _ :: evs => drops evs

def ingestAll (localeCompare : String → String → Ordering) (p : Page)
    (ds : List (Outcomes × List File)) : Page :=
  ds.foldl (fun p d => Page.processFiles localeCompare d.1 d.2 p) p

section

variable {localeCompare : String → String → Ordering} {p : Page}

/-- Where a serial run stands after the drops `ds` from page `p`: no call in flight and the page
of the drops one after another; or one call in flight, `j` settles into the last drop, which was
made with no other call in flight on the page of the drops before it. -/
def Stage (localeCompare : String → String → Ordering) (p : Page)
    (ds : List (Outcomes × List File)) (u : Upload) : Prop :=
  (u.Idle ∧ u.page = ingestAll localeCompare p ds) ∨
  ∃ ds' env files T j, ds = ds' ++ [(env, files)] ∧
    (⟨ingestAll localeCompare p ds', T⟩ : Upload).Idle ∧
    u = (settle · T.length)^[j] (processFiles localeCompare ⟨ingestAll localeCompare p ds', T⟩ env files)

theorem stage_idle {ds : List (Outcomes × List File)} {u : Upload}
    (h : Stage localeCompare p ds u) (hi : u.Idle) : u.page = ingestAll localeCompare p ds := by
  rcases h with ⟨_, h⟩ | ⟨ds', env, files, T, j, rfl, -, rfl⟩
  · exact h
  · have hj := hi.task_eq T.length
    have hn : ((settle · T.length)^[2 * (pduFiles (naturalSort localeCompare files)).length + 3]
        (processFiles localeCompare ⟨ingestAll localeCompare p ds', T⟩ env files)).task T.length =
        none :=
      task_iterate_processFiles localeCompare ⟨ingestAll localeCompare p ds', T⟩ env files
    have heq : (settle · T.length)^[j] (processFiles localeCompare ⟨ingestAll localeCompare p ds', T⟩
        env files) = (settle · T.length)^[2 * (pduFiles (naturalSort localeCompare files)).length + 3]
          (processFiles localeCompare ⟨ingestAll localeCompare p ds', T⟩ env files) := by
      rcases le_total j (2 * (pduFiles (naturalSort localeCompare files)).length + 3) with h | h
      · rw [← Nat.sub_add_cancel h, Function.iterate_add_apply,
          Function.iterate_fixed (f := (settle · T.length)) (settle_of_task_none hj)]
      · rw [← Nat.sub_add_cancel h, Function.iterate_add_apply,
          Function.iterate_fixed (f := (settle · T.length)) (settle_of_task_none hn)]
    rw [heq]
    exact (processFiles_alone localeCompare ⟨_, T⟩ env files).trans
      (by simp only [ingestAll, List.foldl_append, List.foldl_cons, List.foldl_nil])

theorem stage_settle {ds : List (Outcomes × List File)} {u : Upload}
    (h : Stage localeCompare p ds u) (t : ℕ) : Stage localeCompare p ds (settle u t) := by
  rcases h with ⟨hi, hp⟩ | ⟨ds', env, files, T, j, rfl, hT, rfl⟩
  · rw [settle_of_task_none (hi.task_eq t)]
    exact .inl ⟨hi, hp⟩
  · right
    by_cases ht : t = T.length
    · subst ht
      exact ⟨ds', env, files, T, j + 1, rfl, hT,
        (Function.iterate_succ_apply' (settle · T.length) j _).symm⟩
    · refine ⟨ds', env, files, T, j, rfl, hT, settle_of_task_none ?_⟩
      rw [task_iterate_settle_ne _ ht, task_processFiles_ne _ _ _ _ ht]
      exact hT.task_eq t

theorem stage_processFiles {ds : List (Outcomes × List File)} {u : Upload}
    (h : Stage localeCompare p ds u) (hi : u.Idle) (env : Outcomes) (files : List File) :
    Stage localeCompare p (ds ++ [(env, files)]) (processFiles localeCompare u env files) := by
  refine .inr ⟨ds, env, files, u.tasks, 0, rfl, hi, ?_⟩
  rw [Function.iterate_zero_apply, ← stage_idle h hi]

theorem stage_run : ∀ (evs : List Event) (u : Upload) (ds : List (Outcomes × List File)),
    Stage localeCompare p ds u → serial localeCompare u evs = true →
      Stage localeCompare p (ds ++ drops evs) (run localeCompare u evs)
  | [], _, ds, h, _ => by rwa [drops, List.append_nil]
  | .processFiles env files :: evs, u, ds, h, hs => by
    simp only [serial, Bool.and_eq_true, decide_eq_true_eq] at hs
    rw [drops, ← List.singleton_append, ← List.append_assoc]
    exact stage_run evs _ _ (stage_processFiles h hs.1 env files) hs.2
  | .settle t :: evs, u, ds, h, hs => stage_run evs _ ds (stage_settle h t) hs

end

theorem serial_drops_ingest_in_order (localeCompare : String → String → Ordering) (u : Upload)
    (evs : List Event) (hu : u.Idle) (hs : serial localeCompare u evs = true)
    (he : (run localeCompare u evs).Idle) :
    (run localeCompare u evs).page = ingestAll localeCompare u.page (drops evs) := by
  have h := stage_run evs u [] (.inl ⟨hu, rfl⟩) hs
  rw [List.nil_append] at h
  exact stage_idle h he

theorem serial_drops_ingest_in_order_witness :
    (⟨Page.init .empty none, []⟩ : Upload).Idle ∧
    serial (fun _ _ => .eq) ⟨Page.init .empty none, []⟩
      [.processFiles .allOk [⟨"0", [0], none⟩], .settle 0, .settle 0, .settle 0, .settle 0,
        .processFiles .allOk [⟨"0", [2], none⟩], .settle 1, .settle 1, .settle 1, .settle 1] = true ∧
    (run (fun _ _ => .eq) ⟨Page.init .empty none, []⟩
      [.processFiles .allOk [⟨"0", [0], none⟩], .settle 0, .settle 0, .settle 0, .settle 0,
        .processFiles .allOk [⟨"0", [2], none⟩], .settle 1, .settle 1, .settle 1, .settle 1]).Idle ∧
    (run (fun _ _ => .eq) ⟨Page.init .empty none, []⟩
      [.processFiles .allOk [⟨"0", [0], none⟩], .settle 0, .settle 0, .settle 0, .settle 0,
        .processFiles .allOk [⟨"0", [2], none⟩], .settle 1, .settle 1, .settle 1, .settle 1]).page =
      ingestAll (fun _ _ => .eq) (Page.init .empty none)
        (drops [.processFiles .allOk [⟨"0", [0], none⟩], .settle 0, .settle 0, .settle 0, .settle 0,
          .processFiles .allOk [⟨"0", [2], none⟩], .settle 1, .settle 1, .settle 1, .settle 1]) :=
  have hu : (⟨Page.init .empty none, []⟩ : Upload).Idle := by decide
  have hs : serial (fun _ _ => .eq) ⟨Page.init .empty none, []⟩
      [.processFiles .allOk [⟨"0", [0], none⟩], .settle 0, .settle 0, .settle 0, .settle 0,
        .processFiles .allOk [⟨"0", [2], none⟩], .settle 1, .settle 1, .settle 1, .settle 1] = true := by
    decide
  have he : (run (fun _ _ => .eq) ⟨Page.init .empty none, []⟩
      [.processFiles .allOk [⟨"0", [0], none⟩], .settle 0, .settle 0, .settle 0, .settle 0,
        .processFiles .allOk [⟨"0", [2], none⟩], .settle 1, .settle 1, .settle 1, .settle 1]).Idle := by
    decide
  ⟨hu, hs, he, serial_drops_ingest_in_order _ _ _ hu hs he⟩

end IronReplay.IngestTasks
