import Mathlib.Order.WithBot
import Mathlib.Data.List.Pairwise

/-!
The `frames` object store of `pdu-store.ts`. Keys are the numbers frame names parse to, so
`WithTop ℕ`, and entries are kept in ascending key order, the order of a cursor.
-/

namespace IronReplay.FrameStore

abbrev Key := WithTop ℕ

abbrev Bytes := List UInt8

def Ascending (es : List (Key × Bytes)) : Prop := es.Pairwise (fun a b => a.1 < b.1)

structure Store where
  entries : List (Key × Bytes)
  ascending : Ascending entries

def find : List (Key × Bytes) → Key → Option Bytes
  | [], _ => none
  | (k, b) :: es, j => if j = k then some b else find es j

def upsert : List (Key × Bytes) → Key → Bytes → List (Key × Bytes)
  | [], k, b => [(k, b)]
  | (k', b') :: es, k, b =>
    if k < k' then (k, b) :: (k', b') :: es
    else if k = k' then (k, b) :: es
    else (k', b') :: upsert es k b

theorem find_upsert (es : List (Key × Bytes)) (k j : Key) (b : Bytes) :
    find (upsert es k b) j = if j = k then some b else find es j := by
  induction es with
  | nil => rfl
  | cons e es ih =>
    obtain ⟨k', b'⟩ := e
    by_cases hlt : k < k'
    · simp [upsert, find, hlt]
    · by_cases heq : k = k'
      · subst heq; by_cases hj : j = k <;> simp [upsert, find, hj]
      · by_cases hj : j = k'
        · subst hj; simp [upsert, find, hlt, heq, Ne.symm heq]
        · simp [upsert, find, hlt, heq, hj, ih]

theorem mem_upsert {es : List (Key × Bytes)} {k : Key} {b : Bytes} {e : Key × Bytes}
    (h : e ∈ upsert es k b) : e.1 = k ∨ e ∈ es := by
  induction es with
  | nil => simp_all [upsert]
  | cons f es ih =>
    obtain ⟨k', b'⟩ := f
    simp only [upsert] at h
    split_ifs at h with hlt heq
    · rcases List.mem_cons.mp h with rfl | h
      · exact .inl rfl
      · exact .inr h
    · rcases List.mem_cons.mp h with rfl | h
      · exact .inl rfl
      · exact .inr (List.mem_cons_of_mem _ h)
    · rcases List.mem_cons.mp h with rfl | h
      · exact .inr (List.mem_cons_self _ _)
      · exact (ih h).imp_right (List.mem_cons_of_mem _)

theorem ascending_upsert {es : List (Key × Bytes)} (h : Ascending es) (k : Key) (b : Bytes) :
    Ascending (upsert es k b) := by
  induction es with
  | nil => simp [upsert, Ascending]
  | cons f es ih =>
    obtain ⟨k', b'⟩ := f
    have hes := List.pairwise_cons.mp h
    simp only [upsert]
    split_ifs with hlt heq
    · refine List.Pairwise.cons (fun e he => ?_) h
      rcases List.mem_cons.mp he with rfl | he
      · exact hlt
      · exact hlt.trans (hes.1 e he)
    · subst heq; exact List.Pairwise.cons hes.1 hes.2
    · refine List.Pairwise.cons (fun e he => ?_) (ih hes.2)
      rcases mem_upsert he with he | he
      · rw [he]; exact lt_of_le_of_ne (not_lt.mp hlt) (Ne.symm heq)
      · exact hes.1 e he

theorem find_eq_none {es : List (Key × Bytes)} {j : Key} (h : ∀ e ∈ es, j < e.1) :
    find es j = none := by
  induction es with
  | nil => rfl
  | cons e es ih =>
    have hj := h e (List.mem_cons_self _ _)
    simp [find, ne_of_lt hj, ih (fun f hf => h f (List.mem_cons_of_mem _ hf))]

theorem find_of_lt_head {k j : Key} {b : Bytes} {es : List (Key × Bytes)}
    (h : Ascending ((k, b) :: es)) (hj : j < k) : find ((k, b) :: es) j = none :=
  find_eq_none fun e he => by
    rcases List.mem_cons.mp he with rfl | he
    · exact hj
    · exact hj.trans ((List.pairwise_cons.mp h).1 e he)

theorem entries_ext {es fs : List (Key × Bytes)} (hes : Ascending es) (hfs : Ascending fs)
    (h : ∀ j, find es j = find fs j) : es = fs := by
  induction es generalizing fs with
  | nil =>
    cases fs with
    | nil => rfl
    | cons f fs => simpa [find] using h f.1
  | cons e es ih =>
    cases fs with
    | nil => simpa [find] using h e.1
    | cons f fs =>
      obtain ⟨k, b⟩ := e
      obtain ⟨k', b'⟩ := f
      have he := List.pairwise_cons.mp hes
      have hf := List.pairwise_cons.mp hfs
      have hk : k = k' := by
        rcases lt_trichotomy k k' with hlt | heq | hlt
        · simpa [find] using (h k).trans (find_of_lt_head hfs hlt)
        · exact heq
        · simpa [find] using (h k').symm.trans (find_of_lt_head hes hlt)
      subst hk
      have hb : b = b' := by simpa [find] using h k
      subst hb
      congr 1
      refine ih he.2 hf.2 (fun j => ?_)
      by_cases hj : j = k
      · subst hj
        rw [find_eq_none he.1, find_eq_none hf.1]
      · simpa [find, hj] using h j

namespace Store

def empty : Store := ⟨[], List.Pairwise.nil⟩

def get (s : Store) (j : Key) : Option Bytes := find s.entries j

def put (s : Store) (k : Key) (b : Bytes) : Store := ⟨upsert s.entries k b, ascending_upsert s.ascending k b⟩

def count (s : Store) : ℕ := s.entries.length

@[simp] theorem get_empty (j : Key) : empty.get j = none := rfl

@[simp] theorem get_put (s : Store) (k j : Key) (b : Bytes) :
    (s.put k b).get j = if j = k then some b else s.get j := find_upsert _ _ _ _

@[simp] theorem count_empty : empty.count = 0 := rfl

@[ext] theorem ext {s t : Store} (h : ∀ j, s.get j = t.get j) : s = t := by
  obtain ⟨es, hes⟩ := s
  obtain ⟨fs, hfs⟩ := t
  obtain rfl := entries_ext hes hfs h
  rfl

theorem put_comm (s : Store) {a b : Key} (h : a ≠ b) (x y : Bytes) :
    (s.put a x).put b y = (s.put b y).put a x := by
  ext j
  by_cases ha : j = a
  · subst ha; simp [h]
  · simp [ha]

end Store

/-- The `Error`s the functions of `pdu-store.ts` throw, one constructor per message template;
`detail` is `request.error?.message`. -/
inductive StorageError
  | openDatabase (detail : String)
  | clearFrames (detail : String)
  | storeFrame (index : Key) (detail : String)
  | getFrame (index : Key) (detail : String)
  | getFrameCount (detail : String)
  deriving DecidableEq, Repr

/-- How the browser answers the requests of one call: `indexedDB.open` inside `openDatabase`
can fail before the call's own request is made. -/
inductive Outcome
  | ok
  | openFailed (detail : String)
  | requestFailed (detail : String)
  deriving DecidableEq, Repr

def request {α : Type} (o : Outcome) (failed : String → StorageError) (x : α) :
    Except StorageError α :=
  match o with
  | .ok => .ok x
  | .openFailed detail => .error (.openDatabase detail)
  | .requestFailed detail => .error (failed detail)

def clearFrames (o : Outcome) (_ : Store) : Except StorageError Store :=
  request o .clearFrames Store.empty

def storeFrame (o : Outcome) (index : Key) (data : Bytes) (s : Store) : Except StorageError Store :=
  request o (.storeFrame index) (s.put index data)

def getFrame (o : Outcome) (index : Key) (s : Store) : Except StorageError (Option Bytes) :=
  request o (.getFrame index) (s.get index)

def getFrameCount (o : Outcome) (s : Store) : Except StorageError ℕ :=
  request o .getFrameCount s.count

theorem request_eq_ok {α : Type} {o : Outcome} {failed : String → StorageError} {x y : α} :
    request o failed x = .ok y ↔ o = .ok ∧ x = y := by
  cases o <;> simp [request]

theorem request_ne_ok {α : Type} {o : Outcome} (h : o ≠ .ok) (failed : String → StorageError)
    (x : α) : ∃ e, request o failed x = .error e := by
  cases o with
  | ok => exact absurd rfl h
  | openFailed d => exact ⟨_, rfl⟩
  | requestFailed d => exact ⟨_, rfl⟩

end IronReplay.FrameStore
