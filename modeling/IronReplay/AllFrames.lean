import IronReplay.FrameStore
import Mathlib.Data.List.Basic

/-!
`storeFrames` and `getAllFrames` of `pdu-store.ts`. A JavaScript array indexes only the integers
below `2^32 - 1`; any other key, `Infinity` among them, becomes an ordinary property.
-/

namespace IronReplay.FrameStore

def settleWith {α : Type} (o : Outcome) (message : String) (x : α) : Except String α :=
  match o with
  | .ok => .ok x
  | .openFailed detail => .error ("Failed to open database: " ++ detail)
  | .requestFailed detail => .error (message ++ ": " ++ detail)

def storeFrames (frames : List Bytes) (s : Store) : Store :=
  frames.enum.foldl (fun s f => s.put (WithTop.some f.1) f.2) s

theorem get_storeFrames (frames : List Bytes) (s : Store) (n : ℕ) :
    (storeFrames frames s).get (WithTop.some n) = frames[n]?.or (s.get (WithTop.some n)) := by
  induction frames using List.reverseRecOn with
  | nil => rfl
  | append_singleton fs f ih =>
    simp only [storeFrames, List.enum_append, List.enumFrom_singleton, List.foldl_append,
      List.foldl_cons, List.foldl_nil] at ih ⊢
    rw [Store.get_put, ih]
    rcases lt_trichotomy n fs.length with hn | rfl | hn
    · simp [hn.ne, List.getElem?_append_left hn]
    · simp
    · simp [hn.ne', List.getElem?_eq_none hn.le,
        List.getElem?_eq_none (show (fs ++ [f]).length ≤ n by simpa using hn)]

theorem get_storeFrames_top (frames : List Bytes) (s : Store) :
    (storeFrames frames s).get ⊤ = s.get ⊤ := by
  induction frames using List.reverseRecOn with
  | nil => rfl
  | append_singleton fs f ih =>
    simp only [storeFrames, List.enum_append, List.enumFrom_singleton, List.foldl_append,
      List.foldl_cons, List.foldl_nil] at ih ⊢
    rw [Store.get_put, if_neg WithTop.top_ne_coe, ih]

def arrayIndex : Key → Option ℕ
  | none => none
  | some n => if n < 0xFFFFFFFF then some n else none

@[simp] theorem arrayIndex_top : arrayIndex ⊤ = none := rfl

@[simp] theorem arrayIndex_coe (n : ℕ) :
    arrayIndex (WithTop.some n) = if n < 0xFFFFFFFF then some n else none := rfl

theorem arrayIndex_eq_some {k : Key} {n : ℕ} :
    arrayIndex k = some n ↔ k = WithTop.some n ∧ n < 0xFFFFFFFF := by
  induction k using WithTop.recTopCoe with
  | top => simp
  | coe m =>
    rw [arrayIndex_coe, WithTop.coe_eq_coe]
    split_ifs with hm
    · rw [Option.some_inj]
      exact ⟨fun h => ⟨h, h ▸ hm⟩, And.left⟩
    · exact iff_of_false id fun ⟨h, h'⟩ => hm (h ▸ h')

/-- A JavaScript array: its elements below `length`, holes as `none`, and its other properties in
the order they were created. -/
structure JsArray where
  elements : List (Option Bytes)
  properties : List (Key × Bytes)
  deriving DecidableEq, Repr

def setElement (es : List (Option Bytes)) (n : ℕ) (v : Bytes) : List (Option Bytes) :=
  if n < es.length then es.set n (some v) else es ++ List.replicate (n - es.length) none ++ [some v]

def setProperty : List (Key × Bytes) → Key → Bytes → List (Key × Bytes)
  | [], k, v => [(k, v)]
  | (k', v') :: ps, k, v => if k' = k then (k, v) :: ps else (k', v') :: setProperty ps k v

theorem length_setElement (es : List (Option Bytes)) (n : ℕ) (v : Bytes) :
    (setElement es n v).length = max es.length (n + 1) := by
  unfold setElement; split <;> simp <;> omega

theorem join_getElem?_setElement (es : List (Option Bytes)) (n m : ℕ) (v : Bytes) :
    (setElement es n v)[m]?.join = if m = n then some v else es[m]?.join := by
  unfold setElement
  split
  · by_cases hm : m = n
    · subst hm; simp [*]
    · simp [hm, List.getElem?_set_ne (Ne.symm hm)]
  · rcases lt_or_le m es.length with hm | hm
    · simp [List.getElem?_append_left, hm, show m ≠ n by omega]
    · rw [List.append_assoc, List.getElem?_append_right hm, List.getElem?_eq_none hm,
        List.getElem?_append, List.length_replicate, List.getElem?_replicate]
      rcases lt_trichotomy m n with hmn | rfl | hmn
      · simp [hmn.ne, show m - es.length < n - es.length by omega]
      · simp
      · have hv : [some v].length ≤ m - es.length - (n - es.length) := by simp; omega
        simp [hmn.ne', show ¬m - es.length < n - es.length by omega, List.getElem?_eq_none hv]

theorem find_setProperty (ps : List (Key × Bytes)) (k j : Key) (v : Bytes) :
    find (setProperty ps k v) j = if j = k then some v else find ps j := by
  induction ps with
  | nil => rfl
  | cons p ps ih =>
    obtain ⟨k', v'⟩ := p
    by_cases hk : k' = k
    · subst hk; by_cases hj : j = k' <;> simp [setProperty, find, hj]
    · by_cases hj : j = k' <;> simp [setProperty, find, hk, hj, ih]

namespace JsArray

def empty : JsArray := ⟨[], []⟩

def assign (a : JsArray) (k : Key) (v : Bytes) : JsArray :=
  match arrayIndex k with
  | some n => { a with elements := setElement a.elements n v }
  | none => { a with properties := setProperty a.properties k v }

def read (a : JsArray) (k : Key) : Option Bytes :=
  match arrayIndex k with
  | some n => a.elements[n]?.join
  | none => find a.properties k

theorem read_assign (a : JsArray) (k j : Key) (v : Bytes) :
    (a.assign k v).read j = if j = k then some v else a.read j := by
  unfold assign read
  rcases hk : arrayIndex k with _ | n <;> rcases hj : arrayIndex j with _ | m <;> dsimp only
  · exact find_setProperty _ _ _ _
  · rw [if_neg (by rintro rfl; simp_all)]
  · rw [if_neg (by rintro rfl; simp_all)]
  · rw [join_getElem?_setElement]
    obtain ⟨rfl, -⟩ := arrayIndex_eq_some.mp hj
    obtain ⟨rfl, -⟩ := arrayIndex_eq_some.mp hk
    simp

theorem read_coe {a : JsArray} {n : ℕ} (hn : n < 0xFFFFFFFF) :
    a.read (WithTop.some n) = a.elements[n]?.join := by
  unfold read; rw [arrayIndex_coe, if_pos hn]

theorem elements_assign (a : JsArray) (k : Key) (v : Bytes) :
    (a.assign k v).elements = match arrayIndex k with
      | some n => setElement a.elements n v
      | none => a.elements := by
  unfold assign; split <;> rfl

end JsArray

def collect (es : List (Key × Bytes)) (a : JsArray) : JsArray :=
  es.foldl (fun a e => a.assign e.1 e.2) a

def getAllFrames (o : Outcome) (s : Store) : Except String JsArray :=
  settleWith o "Failed to get all frames" (collect s.entries .empty)

theorem read_collect {es : List (Key × Bytes)} (h : Ascending es) (a : JsArray) (j : Key) :
    (collect es a).read j = (find es j).or (a.read j) := by
  induction es generalizing a with
  | nil => rfl
  | cons e es ih =>
    obtain ⟨k, v⟩ := e
    have hes := List.pairwise_cons.mp h
    simp only [collect, List.foldl_cons] at ih ⊢
    rw [ih hes.2, JsArray.read_assign]
    by_cases hj : j = k
    · subst hj; simp [find, find_eq_none hes.1]
    · simp [find, hj]

theorem lt_length_collect (es : List (Key × Bytes)) (a : JsArray) (n : ℕ) :
    n < (collect es a).elements.length ↔
      n < a.elements.length ∨ ∃ e ∈ es, ∃ m, arrayIndex e.1 = some m ∧ n ≤ m := by
  induction es generalizing a with
  | nil => simp [collect]
  | cons e es ih =>
    simp only [collect, List.foldl_cons] at ih ⊢
    rw [ih, JsArray.elements_assign]
    split <;> rename_i hk <;> simp [length_setElement, hk, Nat.lt_succ_iff, or_assoc]

theorem find_ne_none_iff {es : List (Key × Bytes)} {k : Key} :
    find es k ≠ none ↔ ∃ e ∈ es, e.1 = k := by
  induction es with
  | nil => simp [find]
  | cons e es ih =>
    obtain ⟨k', b⟩ := e
    by_cases hk : k = k'
    · subst hk; exact iff_of_true (by simp [find]) ⟨_, List.mem_cons_self _ _, rfl⟩
    · simp only [find, if_neg hk, ih, List.mem_cons, or_and_right, exists_or, exists_eq_left,
        Ne.symm hk, false_or]

theorem properties_collect {es : List (Key × Bytes)} (h : ∀ e ∈ es, arrayIndex e.1 ≠ none)
    (a : JsArray) : (collect es a).properties = a.properties := by
  induction es generalizing a with
  | nil => rfl
  | cons e es ih =>
    simp only [collect, List.foldl_cons] at ih ⊢
    rw [ih (fun f hf => h f (List.mem_cons_of_mem _ hf))]
    unfold JsArray.assign
    split
    · rfl
    · exact absurd ‹_› (h e (List.mem_cons_self _ _))

@[simp] theorem JsArray.read_empty (k : Key) : JsArray.empty.read k = none := by
  unfold JsArray.read; split <;> rfl

theorem getAllFrames_agrees_with_getFrame (s : Store) :
    ∃ a, getAllFrames .ok s = .ok a ∧ (∀ k, getFrame .ok k s = .ok (a.read k)) ∧
      ∀ n, n < a.elements.length ↔
        ∃ m, n ≤ m ∧ m < 0xFFFFFFFF ∧ s.get (WithTop.some m) ≠ none := by
  refine ⟨_, rfl, fun k => ?_, fun n => ?_⟩
  · simp [getFrame, request, read_collect s.ascending, Store.get]
  · simp only [lt_length_collect, JsArray.empty, List.length_nil, Nat.not_lt_zero, false_or,
      Store.get, find_ne_none_iff, arrayIndex_eq_some]
    constructor
    · rintro ⟨e, he, m, ⟨hk, hm⟩, hn⟩
      exact ⟨m, hn, hm, e, he, hk⟩
    · rintro ⟨m, hn, hm, e, he, hk⟩
      exact ⟨e, he, m, ⟨hk, hm⟩, hn⟩

theorem key_of_mem_storeFrames {frames : List Bytes} {e : Key × Bytes}
    (he : e ∈ (storeFrames frames .empty).entries) : ∃ n < frames.length, e.1 = WithTop.some n := by
  obtain ⟨k, b⟩ := e
  have hfind : (storeFrames frames .empty).get k ≠ none := find_ne_none_iff.mpr ⟨_, he, rfl⟩
  induction k using WithTop.recTopCoe with
  | top => simp [get_storeFrames_top] at hfind
  | coe n =>
    rw [get_storeFrames] at hfind
    exact ⟨n, by simpa [List.getElem?_eq_none_iff] using hfind, rfl⟩

theorem getAllFrames_storeFrames (frames : List Bytes) (h : frames.length ≤ 0xFFFFFFFF) :
    getAllFrames .ok (storeFrames frames .empty) = .ok ⟨frames.map some, []⟩ := by
  set s := storeFrames frames .empty
  have hidx {e} (he : e ∈ s.entries) : ∃ n < frames.length, arrayIndex e.1 = some n := by
    obtain ⟨n, hn, hk⟩ := key_of_mem_storeFrames he
    exact ⟨n, hn, arrayIndex_eq_some.mpr ⟨hk, by omega⟩⟩
  have hlen (n : ℕ) : n < (collect s.entries .empty).elements.length ↔ n < frames.length := by
    rw [lt_length_collect]
    constructor
    · rintro (hn | ⟨e, he, m, hm, hn⟩)
      · exact absurd hn (Nat.not_lt_zero _)
      · obtain ⟨m', hm', hm''⟩ := hidx he
        rw [hm''] at hm; cases hm; omega
    · intro hn
      obtain ⟨e, he, hk⟩ := find_ne_none_iff.mp (show s.get (WithTop.some n) ≠ none by
        rw [get_storeFrames, List.getElem?_eq_getElem hn, Option.or_some]
        exact Option.some_ne_none _)
      exact .inr ⟨e, he, n, arrayIndex_eq_some.mpr ⟨hk, by omega⟩, le_rfl⟩
  have hprops : (collect s.entries .empty).properties = [] :=
    properties_collect (fun e he => by obtain ⟨n, -, hn⟩ := hidx he; simp [hn]) _
  have helems : (collect s.entries .empty).elements = frames.map some := by
    refine List.ext_getElem? fun m => ?_
    rcases Nat.lt_or_ge m frames.length with hm | hm
    · have hread := read_collect s.ascending .empty (WithTop.some m)
      rw [JsArray.read_coe (by omega), JsArray.read_empty, Option.or_none] at hread
      have hfind : find s.entries (WithTop.some m) = some frames[m] := by
        simpa [Option.or_none, hm] using get_storeFrames frames .empty m
      rw [hfind, Option.join_eq_some] at hread
      simp [hread, hm]
    · rw [List.getElem?_eq_none (not_lt.mp ((hlen m).not.mpr (by omega))),
        List.getElem?_eq_none (by simpa using hm)]
  show Except.ok (collect s.entries .empty) = _
  rw [show collect s.entries .empty = ⟨(collect s.entries .empty).elements,
    (collect s.entries .empty).properties⟩ from rfl, helems, hprops]

theorem getAllFrames_storeFrames_witness :
    ([[1, 2], [3]] : List Bytes).length ≤ 0xFFFFFFFF ∧
      getAllFrames .ok (storeFrames [[1, 2], [3]] .empty) = .ok ⟨[some [1, 2], some [3]], []⟩ :=
  ⟨by decide, getAllFrames_storeFrames _ (by decide)⟩

end IronReplay.FrameStore
