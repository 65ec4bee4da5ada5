import Mathlib.Data.List.Range
import Mathlib.Order.Fin.Basic

/-!
The promise each write function of `pdu-store.ts` returns, against the events of its readwrite
transaction: the answers of its requests in order, then `complete`, or error events for the
requests not yet answered and then `abort`.
-/

namespace IronReplay.Transaction

inductive TxEvent
  | success (i : ℕ)
  | error (i : ℕ)
  | complete
  | abort
  deriving DecidableEq, Repr

/-- How a transaction of `n` requests ends: it commits, or it aborts once its first `k` requests
succeeded. -/
inductive Ending (n : ℕ)
  | commit
  | abort (k : Fin (n + 1))
  deriving DecidableEq, Repr

def events (n : ℕ) : Ending n → List TxEvent
  | .commit => (List.range n).map .success ++ [.complete]
  | .abort k => (List.range k).map .success ++ (List.range' k (n - k)).map .error ++ [.abort]

inductive Promise
  | pending
  | resolved
  | rejected
  deriving DecidableEq, Repr

def settle : Promise → Option Bool → Promise
  | .pending, some true => .resolved
  | .pending, some false => .rejected
  | p, _ => p

structure Handlers where
  requestSuccess : Option Bool
  requestError : Option Bool
  transactionError : Option Bool
  transactionComplete : Option Bool
  transactionAbort : Option Bool
  deriving DecidableEq, Repr

/-- An error event reaches its request's `onerror`, then bubbles to the transaction's. -/
def dispatch (h : Handlers) (p : Promise) : TxEvent → Promise
  | .success _ => settle p h.requestSuccess
  | .error _ => settle (settle p h.requestError) h.transactionError
  | .complete => settle p h.transactionComplete
  | .abort => settle p h.transactionAbort

structure Write where
  requests : ℕ
  handlers : Handlers

def Write.promise (w : Write) (e : Ending w.requests) : Promise :=
  (events w.requests e).foldl (dispatch w.handlers) .pending

/-- One request, with `request.onsuccess = resolve` and `request.onerror = reject`. -/
def requestWrite : Write := ⟨1, ⟨some true, some false, none, none, none⟩⟩

def clearFrames : Write := requestWrite

def storeFrame : Write := requestWrite

def storeFrames (frames : List (List UInt8)) : Write :=
  ⟨frames.length, ⟨none, none, some false, some true, none⟩⟩

@[simp] theorem settle_none (p : Promise) : settle p none = p := by cases p <;> rfl

theorem settle_idem (p : Promise) (x : Option Bool) : settle (settle p x) x = settle p x := by
  rcases p with _ | _ | _ <;> rcases x with _ | _ | _ <;> rfl

theorem settle_error_idem (p : Promise) (x y : Option Bool) :
    settle (settle (settle (settle p x) y) x) y = settle (settle p x) y := by
  rcases p with _ | _ | _ <;> rcases x with _ | _ | _ <;> rcases y with _ | _ | _ <;> rfl

theorem foldl_successes (h : Handlers) (p : Promise) (l : List ℕ) :
    (l.map .success).foldl (dispatch h) p = if l = [] then p else settle p h.requestSuccess := by
  induction l generalizing p with
  | nil => rfl
  | cons i l ih =>
    rw [List.map_cons, List.foldl_cons, ih, if_neg (List.cons_ne_nil i l)]
    split_ifs
    · rfl
    · exact settle_idem _ _

theorem foldl_errors (h : Handlers) (p : Promise) (l : List ℕ) :
    (l.map .error).foldl (dispatch h) p =
      if l = [] then p else settle (settle p h.requestError) h.transactionError := by
  induction l generalizing p with
  | nil => rfl
  | cons i l ih =>
    rw [List.map_cons, List.foldl_cons, ih, if_neg (List.cons_ne_nil i l)]
    split_ifs
    · rfl
    · exact settle_error_idem _ _ _

theorem promise_eq (w : Write) (e : Ending w.requests) : w.promise e =
    match e with
    | .commit => settle (if w.requests = 0 then .pending else
        settle .pending w.handlers.requestSuccess) w.handlers.transactionComplete
    | .abort k => settle (if w.requests - k = 0 then
          (if (k : ℕ) = 0 then .pending else settle .pending w.handlers.requestSuccess)
        else settle (settle (if (k : ℕ) = 0 then .pending else
          settle .pending w.handlers.requestSuccess) w.handlers.requestError)
          w.handlers.transactionError) w.handlers.transactionAbort := by
  cases e with
  | commit =>
    simp only [Write.promise, events, List.foldl_append, foldl_successes, List.range_eq_nil]
    rfl
  | abort k =>
    simp only [Write.promise, events, List.foldl_append, foldl_successes, foldl_errors,
      List.range_eq_nil, List.range'_eq_nil]
    rfl

theorem requestWrite_promise (e : Ending 1) :
    requestWrite.promise e = if e = .abort 0 then .rejected else .resolved := by
  cases e with
  | commit => rfl
  | abort k => revert k; decide

theorem storeFrames_promise (frames : List (List UInt8)) (e : Ending frames.length) :
    (storeFrames frames).promise e = match e with
      | .commit => .resolved
      | .abort k => if (k : ℕ) < frames.length then .rejected else .pending := by
  rw [promise_eq]
  cases e with
  | commit => split_ifs <;> rfl
  | abort k =>
    have hk := k.is_lt
    dsimp only [storeFrames]
    split_ifs <;> first | rfl | omega

theorem commit_failure_resolves_or_strands_writes :
    clearFrames.promise (.abort 1) = .resolved ∧ storeFrame.promise (.abort 1) = .resolved ∧
      (storeFrames [[0]]).promise (.abort 1) = .pending :=
  ⟨(requestWrite_promise _).trans (if_neg (by decide)),
    (requestWrite_promise _).trans (if_neg (by decide)), by decide⟩

end IronReplay.Transaction
