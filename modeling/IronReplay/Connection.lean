import IronReplay.FrameStore
import Mathlib.Data.List.Basic

/-!
The connection cache of `pdu-store.ts`: `openDatabase` returns the cached `dbInstance` or opens
and caches a new connection, and `closeDatabase` closes the cached one.
-/

namespace IronReplay.Connection

open FrameStore

inductive Request
  | pending
  | succeeded (c : ℕ)
  | failed
  deriving DecidableEq, Repr

inductive Answer
  | resolved (c : ℕ)
  | rejected (e : StorageError)
  deriving DecidableEq, Repr

/-- The module's `dbInstance`, which connections are open, the open requests made so far, and
the answers of the calls that have settled. -/
structure Db where
  dbInstance : Option ℕ
  conns : List Bool
  requests : List Request
  answers : List Answer
  deriving DecidableEq, Repr

inductive Event
  | openDatabase
  | success (r : ℕ)
  | error (r : ℕ) (detail : String)
  | closeDatabase
  | close (c : ℕ)
  deriving DecidableEq, Repr

namespace Db

variable {s : Db}

def init : Db := ⟨none, [], [], []⟩

def IsOpen (s : Db) (c : ℕ) : Prop := s.conns[c]? = some true

def openDatabase (s : Db) : Db :=
  match s.dbInstance with
  | some c => { s with answers := s.answers ++ [.resolved c] }
  | none => { s with requests := s.requests ++ [.pending] }

def onsuccess (s : Db) (r : ℕ) : Db :=
  if s.requests[r]? = some .pending then
    ⟨some s.conns.length, s.conns ++ [true], s.requests.set r (.succeeded s.conns.length),
      s.answers ++ [.resolved s.conns.length]⟩
  else s

def onerror (s : Db) (r : ℕ) (detail : String) : Db :=
  if s.requests[r]? = some .pending then
    { s with requests := s.requests.set r .failed,
             answers := s.answers ++ [.rejected (.openDatabase detail)] }
  else s

def closeDatabase (s : Db) : Db :=
  match s.dbInstance with
  | some c => { s with dbInstance := none, conns := s.conns.set c false }
  | none => s

def close (s : Db) (c : ℕ) : Db := { s with conns := s.conns.set c false }

def step (s : Db) : Event → Db
  | .openDatabase => s.openDatabase
  | .success r => s.onsuccess r
  | .error r detail => s.onerror r detail
  | .closeDatabase => s.closeDatabase
  | .close c => s.close c

def run (s : Db) (evs : List Event) : Db := evs.foldl step s

def allowed (s : Db) : Event → Bool
  | .openDatabase => !s.requests.contains .pending
  | .close _ => false
  | _ => true

def serial : Db → List Event → Bool
  | _, [] => true
  | s, e :: evs => s.allowed e && serial (s.step e) evs

def added (s : Db) (e : Event) : List Answer := (s.step e).answers.drop s.answers.length

structure Inv (s : Db) : Prop where
  cached_open : ∀ c, s.dbInstance = some c → s.IsOpen c
  open_cached : ∀ c, s.IsOpen c → s.dbInstance = some c
  pending_last : ∀ r, s.requests[r]? = some .pending → r + 1 = s.requests.length ∧ s.dbInstance = none

theorem getElem?_concat_eq_some {α : Type} {l : List α} {x y : α} {c : ℕ} :
    (l ++ [x])[c]? = some y ↔ l[c]? = some y ∨ (c = l.length ∧ x = y) := by
  rcases Nat.lt_or_ge c l.length with h | h
  · rw [List.getElem?_append_left h]
    exact ⟨.inl, fun h' => h'.elim id fun h' => absurd h'.1 (Nat.ne_of_lt h)⟩
  · rw [List.getElem?_append_right h, List.getElem?_eq_none h]
    rcases Nat.eq_or_lt_of_le h with rfl | h'
    · simp
    · have : c - l.length ≠ 0 := by omega
      simp [List.getElem?_cons, this]
      omega

theorem inv_init : Inv init :=
  ⟨fun _ h => by simp [init] at h, fun _ h => by simp [Db.IsOpen, init] at h, fun _ h => by
    simp [init] at h⟩

theorem Inv.not_pending_set (h : Inv s) {r : ℕ} (hr : s.requests[r]? = some .pending) (x : Request)
    (hx : x ≠ .pending) (r' : ℕ) : (s.requests.set r x)[r']? ≠ some .pending := by
  intro h'
  by_cases h₁ : r = r'
  · subst h₁
    rw [List.getElem?_set_self (by have := (h.pending_last r hr).1; omega)] at h'
    exact hx (Option.some.inj h')
  · rw [List.getElem?_set_ne h₁] at h'
    exact h₁ (by have := (h.pending_last r hr).1; have := (h.pending_last r' h').1; omega)

theorem Inv.openDatabase (h : Inv s) (ha : s.allowed .openDatabase) : Inv s.openDatabase := by
  unfold Db.openDatabase
  split
  · exact ⟨h.cached_open, h.open_cached, h.pending_last⟩
  · rename_i hc
    refine ⟨fun c hc' => (by cases hc ▸ hc'), h.open_cached, fun r hr => ?_⟩
    have hn : Request.pending ∉ s.requests := fun hm => by simp [allowed, hm] at ha
    rcases getElem?_concat_eq_some.mp hr with hr | ⟨rfl, -⟩
    · exact absurd (List.mem_iff_getElem?.mpr ⟨_, hr⟩) hn
    · exact ⟨by simp, hc⟩

theorem Inv.onsuccess (h : Inv s) (r : ℕ) : Inv (s.onsuccess r) := by
  unfold Db.onsuccess
  split_ifs with hr
  · have hd := (h.pending_last r hr).2
    refine ⟨fun c hc => ?_, fun c hc => ?_,
      fun r' hr' => absurd hr' (h.not_pending_set hr (.succeeded s.conns.length) nofun r')⟩
    · cases hc
      exact List.getElem?_concat_length _ _
    · rcases getElem?_concat_eq_some.mp hc with hc | ⟨rfl, -⟩
      · rw [h.open_cached c hc] at hd; cases hd
      · rfl
  · exact h

theorem Inv.onerror (h : Inv s) (r : ℕ) (detail : String) : Inv (s.onerror r detail) := by
  unfold Db.onerror
  split_ifs with hr
  · exact ⟨h.cached_open, h.open_cached, fun r' hr' =>
      absurd hr' (h.not_pending_set hr .failed nofun r')⟩
  · exact h

theorem Inv.closeDatabase (h : Inv s) : Inv s.closeDatabase := by
  unfold Db.closeDatabase
  split
  · rename_i c hc
    refine ⟨fun _ h' => (by cases h'), fun c' hc' => ?_, fun r hr => ?_⟩
    · by_cases hcc : c = c'
      · subst hcc; simp [Db.IsOpen, List.getElem?_set] at hc'
      · rw [Db.IsOpen, List.getElem?_set_ne hcc] at hc'
        rw [h.open_cached c' hc'] at hc
        exact absurd (Option.some.inj hc) (Ne.symm hcc)
    · have := (h.pending_last r hr).2
      rw [hc] at this; cases this
  · exact h

theorem Inv.step (h : Inv s) {e : Event} (ha : s.allowed e = true) : Inv (s.step e) := by
  cases e with
  | openDatabase => exact h.openDatabase ha
  | success r => exact h.onsuccess r
  | error r detail => exact h.onerror r detail
  | closeDatabase => exact h.closeDatabase
  | close c => cases ha

theorem Inv.added_resolved (h : Inv s) (e : Event) (c : ℕ) (hc : Answer.resolved c ∈ s.added e) :
    (s.step e).dbInstance = some c ∧ (s.step e).IsOpen c := by
  cases e with
  | openDatabase =>
    simp only [added, Db.step, Db.openDatabase] at hc ⊢
    split at hc
    · rename_i c' hc'
      simp only [List.drop_left, List.mem_singleton, Answer.resolved.injEq] at hc
      subst hc
      exact ⟨hc', h.cached_open _ hc'⟩
    · simp at hc
  | success r =>
    simp only [added, Db.step, Db.onsuccess] at hc ⊢
    split_ifs at hc ⊢
    · simp only [List.drop_left, List.mem_singleton, Answer.resolved.injEq] at hc
      subst hc
      exact ⟨rfl, List.getElem?_concat_length _ _⟩
    · simp at hc
  | error r detail =>
    simp only [added, Db.step, Db.onerror] at hc
    split_ifs at hc <;> simp at hc
  | closeDatabase =>
    simp only [added, Db.step, Db.closeDatabase] at hc
    split at hc <;> simp at hc
  | close c' => simp [added, Db.step, Db.close] at hc

theorem Inv.uncached (h : Inv s) (e : Event)
    (he : e = .closeDatabase ∨ ∃ r detail, e = .error r detail ∧ s.requests[r]? = some .pending) :
    (s.step e).dbInstance = none := by
  rcases he with rfl | ⟨r, detail, rfl, hr⟩
  · show s.closeDatabase.dbInstance = none
    unfold Db.closeDatabase
    split
    · rfl
    · assumption
  · show (s.onerror r detail).dbInstance = none
    rw [Db.onerror, if_pos hr]
    exact (h.pending_last r hr).2

theorem inv_run : ∀ (evs : List Event) (s : Db), Inv s → s.serial evs = true → Inv (s.run evs)
  | [], _, h, _ => h
  | e :: evs, s, h, hs => by
    simp only [serial, Bool.and_eq_true] at hs
    exact inv_run evs (s.step e) (h.step hs.1) hs.2

end Db

open Db

end IronReplay.Connection
