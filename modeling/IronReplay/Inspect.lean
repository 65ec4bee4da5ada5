import IronReplay.AllFrames

/-!
`debugInspectFrames` and `parsePduHeader` of `pdu-store.ts`: a frame is one PDU behind a TPKT or
a FastPath header, whose announced length the walk logs against the frame's byte count.
-/

namespace IronReplay.FrameStore

theorem shiftLeft_or_eq_add (a : ℕ) {b : ℕ} (hb : b < 0x100) : a <<< 8 ||| b = 0x100 * a + b :=
  Nat.eq_of_testBit_eq fun j => by
    have hb8 : b < 2 ^ 8 := hb
    rw [Nat.testBit_or, Nat.testBit_shiftLeft, show (0x100 : ℕ) = 2 ^ 8 from rfl,
      Nat.testBit_mul_pow_two_add a hb8]
    by_cases hj : j < 8
    · simp [hj, Nat.not_le.mpr hj]
    · have hb' : b.testBit j = false :=
        Nat.testBit_lt_two_pow (hb8.trans_le (Nat.pow_le_pow_right (by decide) (Nat.le_of_not_lt hj)))
      simp [hj, Nat.le_of_not_lt hj, hb']

set_option maxRecDepth 4000 in
theorem and_0x80_ne_zero : ∀ b < 0x100, (b &&& 0x80 ≠ 0 ↔ 0x80 ≤ b) := by decide

structure HeaderInfo where
  type : String
  expectedLength : ℤ
  deriving DecidableEq, Repr

def parsePduHeader (data : Bytes) : HeaderInfo :=
  if data.length < 1 then ⟨"empty", 0⟩
  else
    let firstByte := data.getD 0 0
    if firstByte = 0x03 then
      if data.length < 4 then ⟨"X224 (incomplete header)", -1⟩
      else ⟨"X224/TPKT", ((data.getD 2 0).toNat <<< 8 ||| (data.getD 3 0).toNat : ℕ)⟩
    else if data.length < 2 then ⟨"FastPath (incomplete header)", -1⟩
    else
      let lengthByte1 := (data.getD 1 0).toNat
      if lengthByte1 &&& 0x80 ≠ 0 then
        if data.length < 3 then ⟨"FastPath (incomplete length)", -1⟩
        else ⟨"FastPath", ((lengthByte1 &&& 0x7F) <<< 8 ||| (data.getD 2 0).toNat : ℕ)⟩
      else ⟨"FastPath", lengthByte1⟩

def tpktHeader (length : ℕ) : Bytes :=
  [0x03, 0, UInt8.ofNat (length / 0x100), UInt8.ofNat (length % 0x100)]

def fastPathHeader (header : UInt8) (length : ℕ) : Bytes :=
  if length < 0x80 then [header, UInt8.ofNat length]
  else [header, UInt8.ofNat (0x80 + length / 0x100), UInt8.ofNat (length % 0x100)]

theorem toNat_ofNat_byte {n : ℕ} (h : n < 0x100) : (UInt8.ofNat n).toNat = n :=
  UInt8.toNat_ofNat_of_lt h

theorem parsePduHeader_tpktHeader {length : ℕ} (h : length < 0x10000) (body : Bytes) :
    parsePduHeader (tpktHeader length ++ body) = ⟨"X224/TPKT", length⟩ := by
  have hlo : length % 0x100 < 0x100 := Nat.mod_lt _ (by decide)
  have hlen : 0x100 * (length / 0x100) + length % 0x100 = length := Nat.div_add_mod _ _
  simp only [parsePduHeader, tpktHeader, List.cons_append, List.length_cons, List.getD_cons_zero,
    List.getD_cons_succ, toNat_ofNat_byte (show length / 0x100 < 0x100 by omega),
    toNat_ofNat_byte hlo, shiftLeft_or_eq_add _ hlo, hlen]
  simp

theorem parsePduHeader_fastPathHeader {header : UInt8} (hh : header ≠ 0x03) {length : ℕ}
    (h : length < 0x8000) (body : Bytes) :
    parsePduHeader (fastPathHeader header length ++ body) = ⟨"FastPath", length⟩ := by
  unfold fastPathHeader
  split_ifs with hs
  · have hflag : ¬length &&& 0x80 ≠ 0 := (and_0x80_ne_zero length (by omega)).not.mpr (by omega)
    simp [parsePduHeader, hh, toNat_ofNat_byte (show length < 0x100 by omega), hflag]
  · have hb1 := toNat_ofNat_byte (show 0x80 + length / 0x100 < 0x100 by omega)
    have hflag : 0x80 + length / 0x100 &&& 0x80 ≠ 0 := (and_0x80_ne_zero _ (by omega)).mpr (by omega)
    have hhigh : 0x80 + length / 0x100 &&& 0x7F = length / 0x100 := by
      rw [show (0x7F : ℕ) = 2 ^ 7 - 1 from rfl, Nat.and_pow_two_sub_one_eq_mod]; omega
    have hlo : length % 0x100 < 0x100 := Nat.mod_lt _ (by decide)
    have hlen : 0x100 * (length / 0x100) + length % 0x100 = length := Nat.div_add_mod _ _
    simp only [parsePduHeader, List.cons_append, List.length_cons, List.getD_cons_zero,
      List.getD_cons_succ, hb1, hhigh, toNat_ofNat_byte hlo, shiftLeft_or_eq_add _ hlo, hlen]
    simp +arith [hh, hflag]

def hexByte (b : UInt8) : String :=
  let s := String.mk (Nat.toDigits 16 b.toNat)
  if s.length < 2 then "0" ++ s else s

structure FrameReport where
  storedBytes : ℕ
  headerInfo : HeaderInfo
  «match» : String
  firstBytes : String
  deriving DecidableEq, Repr

def report (data : Bytes) : FrameReport :=
  let headerInfo := parsePduHeader data
  { storedBytes := data.length
    headerInfo := headerInfo
    «match» := if (data.length : ℤ) = headerInfo.expectedLength then "✓"
      else "✗ (diff: " ++ toString ((data.length : ℤ) - headerInfo.expectedLength) ++ ")"
    firstBytes := " ".intercalate ((data.take 10).map hexByte) }

inductive LogLine
  | frame (index : Key) (report : FrameReport)
  | inspected (count : ℕ)
  deriving DecidableEq

def inspect (limit : ℕ) : ℕ → List (Key × Bytes) → List LogLine
  | count, (index, data) :: es =>
    if count < limit then .frame index (report data) :: inspect limit (count + 1) es
    else [.inspected count]
  | count, [] => [.inspected count]

/-- `debugInspectFrames(limit)`, whose own default for `limit` is `20`: the lines it logs. -/
def debugInspectFrames (o : Outcome) (limit : ℕ) (s : Store) : Except String (List LogLine) :=
  settleWith o "Failed to inspect frames" (inspect limit 0 s.entries)

theorem inspect_eq (limit count : ℕ) (es : List (Key × Bytes)) :
    inspect limit count es = (es.take (limit - count)).map (fun e => .frame e.1 (report e.2)) ++
      [.inspected (count + min (limit - count) es.length)] := by
  induction es generalizing count with
  | nil => simp [inspect]
  | cons e es ih =>
    obtain ⟨index, data⟩ := e
    unfold inspect
    split_ifs with hc
    · obtain ⟨k, hk⟩ : ∃ k, limit - count = k + 1 := ⟨limit - count - 1, by omega⟩
      rw [ih, hk, show limit - (count + 1) = k by omega]
      simp
      omega
    · simp [show limit - count = 0 by omega]

/-- A frame that holds one whole PDU: its header announces its own byte count. -/
def WholePdu (data : Bytes) : Prop :=
  (∃ length body, length < 0x10000 ∧ data = tpktHeader length ++ body ∧ data.length = length) ∨
  ∃ header length body, header ≠ 0x03 ∧ length < 0x8000 ∧
    data = fastPathHeader header length ++ body ∧ data.length = length

theorem report_match_of_wholePdu {data : Bytes} (h : WholePdu data) :
    (report data).«match» = "✓" := by
  rcases h with ⟨length, body, hl, rfl, hn⟩ | ⟨header, length, body, hh, hl, rfl, hn⟩
  · simp [report, parsePduHeader_tpktHeader hl, hn]
  · simp [report, parsePduHeader_fastPathHeader hh hl, hn]

example : (report [3, 0, 0, 9, 1]).«match» = "✗ (diff: -4)" := by decide

end IronReplay.FrameStore
