import IronReplay.FrameStore
import Mathlib.Data.List.Sort

/-!
The files of one upload: the timing descriptor `timing.json` with the entries playback paces by,
and the name logic that `routes/+page.svelte` and `FolderUploader.svelte` share.
-/

namespace IronReplay.Timing

inductive Json
  | null
  | bool (b : Bool)
  | number (x : ℤ)
  | string (s : String)
  | array (xs : List Json)
  | object (fields : List (String × Json))
  deriving Repr

structure TimingEntry where
  timeOffset : ℤ
  deriving DecidableEq, Repr

def entryAt (timing : List TimingEntry) (i : ℕ) : Option TimingEntry := timing.get? i

def startOffset (timing : List TimingEntry) : ℤ := ((entryAt timing 0).map (·.timeOffset)).getD 0

def entryOfJson : Json → Option TimingEntry
  | .object fields =>
    match fields.lookup "timeOffset" with
    | some (.number t) => some ⟨t⟩
    | _ => none
  | _ => none

def entriesOfJson : Json → Option (List TimingEntry)
  | .array xs => xs.mapM entryOfJson
  | _ => none

@[simp] theorem entryAt_nil (i : ℕ) : entryAt [] i = none := by simp [entryAt]

@[simp] theorem startOffset_nil : startOffset [] = 0 := rfl

theorem startOffset_of_entryAt {timing : List TimingEntry} {e : TimingEntry}
    (h : entryAt timing 0 = some e) : startOffset timing = e.timeOffset := by
  simp [startOffset, h]

end IronReplay.Timing

namespace IronReplay.Files

open FrameStore Timing

structure File where
  name : String
  bytes : Bytes
  json : Option Json

def isFrameName (name : String) : Bool := !name.toList.isEmpty && name.toList.all Char.isDigit

def leadingDigits (name : String) : List Char := name.toList.takeWhile Char.isDigit

def digitsValue (ds : List Char) : ℕ := ds.foldl (fun v c => 10 * v + (c.toNat - '0'.toNat)) 0

def topBit (v : ℕ) : (e fuel : ℕ) → ℕ
  | e, 0 => e
  | e, fuel + 1 => if v < Nat.pow 2 (e + 1) then e else topBit v (e + 1) fuel

/-- The double nearest to `v`, ties to even, and `Infinity` from `2 ^ 1024 - 2 ^ 970` on. -/
def toNumber (v : ℕ) : Key :=
  if v < Nat.pow 2 53 then WithTop.some v
  else
    let s := topBit v 53 971 - 52
    let q := v / Nat.pow 2 s
    let r := v % Nat.pow 2 s
    let m := (if Nat.pow 2 (s - 1) < r ∨ (r = Nat.pow 2 (s - 1) ∧ q % 2 = 1) then q + 1 else q) *
      Nat.pow 2 s
    if Nat.pow 2 1024 ≤ m then ⊤ else WithTop.some m

def parseInt (s : String) : Key := toNumber (digitsValue (leadingDigits s))

def compareKeys (x y : Key) : Ordering := if x < y then .lt else if y < x then .gt else .eq

section

variable (localeCompare : String → String → Ordering)

def compareNames (a b : File) : Ordering :=
  if (leadingDigits a.name).isEmpty || (leadingDigits b.name).isEmpty then
    localeCompare a.name b.name
  else compareKeys (parseInt a.name) (parseInt b.name)

def naturalSort (files : List File) : List File :=
  files.insertionSort (fun a b => compareNames localeCompare a b ≠ .gt)

end

def timingFile (files : List File) : Option File := files.find? (·.name == "timing.json")

def pduFiles (files : List File) : List File := files.filter (isFrameName ·.name)

theorem toNumber_small {v : ℕ} (h : v < Nat.pow 2 53) : toNumber v = WithTop.some v := by
  rw [toNumber, if_pos h]

theorem compareKeys_swap (x y : Key) : (compareKeys x y).swap = compareKeys y x := by
  rcases lt_trichotomy x y with h | rfl | h
  · simp [compareKeys, h, h.not_lt, Ordering.swap]
  · simp [compareKeys, Ordering.swap]
  · simp [compareKeys, h, h.not_lt, Ordering.swap]

theorem compareKeys_ne_gt {x y : Key} : compareKeys x y ≠ .gt ↔ x ≤ y := by
  unfold compareKeys
  split_ifs with h₁ h₂
  · simp [h₁.le]
  · simp [h₂]
  · simp [not_lt.mp h₂]

theorem digitsValue_le_of_parseInt_le {a b : String} (h : parseInt a ≤ parseInt b)
    (ha : digitsValue (leadingDigits a) < Nat.pow 2 53) :
    digitsValue (leadingDigits a) ≤ digitsValue (leadingDigits b) := by
  by_cases hb : digitsValue (leadingDigits b) < Nat.pow 2 53
  · rwa [parseInt, parseInt, toNumber_small ha, toNumber_small hb, WithTop.coe_le_coe] at h
  · omega

theorem leadingDigits_ne_nil {name : String} (h : isFrameName name = true) :
    leadingDigits name ≠ [] := by
  obtain ⟨_ | ⟨c, cs⟩⟩ := name
  · simp [isFrameName] at h
  · simp_all [isFrameName, leadingDigits, List.takeWhile_cons]

/-- What `localeCompare(.., { numeric: true })` is taken to be: a total preorder on names that
puts each name without a leading digit run before every name with one, or after every such
name. -/
structure NumericCollation (localeCompare : String → String → Ordering) : Prop where
  swap : ∀ a b, (localeCompare a b).swap = localeCompare b a
  trans : ∀ a b c, localeCompare a b ≠ .gt → localeCompare b c ≠ .gt → localeCompare a c ≠ .gt
  placed : ∀ n, leadingDigits n = [] →
    (∀ d, leadingDigits d ≠ [] → localeCompare n d = .lt) ∨
      (∀ d, leadingDigits d ≠ [] → localeCompare d n = .lt)

def byLeadingDigits (a b : String) : Ordering :=
  match leadingDigits a, leadingDigits b with
  | [], _ :: _ => .lt
  | _ :: _, [] => .gt
  | _, _ => .eq

theorem numericCollation_byLeadingDigits : NumericCollation byLeadingDigits where
  swap a b := by
    unfold byLeadingDigits
    cases leadingDigits a <;> cases leadingDigits b <;> rfl
  trans a b c := by
    unfold byLeadingDigits
    cases leadingDigits a <;> cases leadingDigits b <;> cases leadingDigits c <;> simp
  placed n hn := .inl fun d hd => by
    unfold byLeadingDigits
    rw [hn]
    cases h : leadingDigits d
    · exact absurd h hd
    · rfl

section

variable {localeCompare : String → String → Ordering}

theorem NumericCollation.gt_of_lt (hc : NumericCollation localeCompare) {a b : String}
    (h : localeCompare b a = .lt) : localeCompare a b = .gt := by
  rw [← hc.swap, h]; rfl

theorem compareNames_of_digits {a b : File} (ha : leadingDigits a.name ≠ [])
    (hb : leadingDigits b.name ≠ []) :
    compareNames localeCompare a b = compareKeys (parseInt a.name) (parseInt b.name) := by
  simp [compareNames, ha, hb]

theorem compareNames_of_nil {a b : File}
    (h : leadingDigits a.name = [] ∨ leadingDigits b.name = []) :
    compareNames localeCompare a b = localeCompare a.name b.name := by
  rcases h with h | h <;> simp [compareNames, h]

theorem compareNames_swap (hc : NumericCollation localeCompare) (a b : File) :
    (compareNames localeCompare a b).swap = compareNames localeCompare b a := by
  unfold compareNames
  rw [Bool.or_comm]
  split
  · exact hc.swap _ _
  · exact compareKeys_swap _ _

theorem compareNames_trans (hc : NumericCollation localeCompare) {a b c : File}
    (hab : compareNames localeCompare a b ≠ .gt) (hbc : compareNames localeCompare b c ≠ .gt) :
    compareNames localeCompare a c ≠ .gt := by
  by_cases hac : leadingDigits a.name = [] ∨ leadingDigits c.name = []
  · rw [compareNames_of_nil hac]
    by_cases hab' : leadingDigits a.name = [] ∨ leadingDigits b.name = []
    · by_cases hbc' : leadingDigits b.name = [] ∨ leadingDigits c.name = []
      · rw [compareNames_of_nil hab'] at hab
        rw [compareNames_of_nil hbc'] at hbc
        exact hc.trans _ _ _ hab hbc
      · push_neg at hbc'
        have ha : leadingDigits a.name = [] := hac.resolve_right hbc'.2
        rw [compareNames_of_nil (.inl ha)] at hab
        rcases hc.placed _ ha with h | h
        · rw [h _ hbc'.2]; nofun
        · exact absurd (hc.gt_of_lt (h _ hbc'.1)) hab
    · push_neg at hab'
      have hcn : leadingDigits c.name = [] := hac.resolve_left hab'.1
      rw [compareNames_of_nil (.inr hcn)] at hbc
      rcases hc.placed _ hcn with h | h
      · exact absurd (hc.gt_of_lt (h _ hab'.2)) hbc
      · rw [h _ hab'.1]; nofun
  · push_neg at hac
    by_cases hb : leadingDigits b.name = []
    · rw [compareNames_of_nil (.inr hb)] at hab
      rw [compareNames_of_nil (.inl hb)] at hbc
      rcases hc.placed _ hb with h | h
      · exact absurd (hc.gt_of_lt (h _ hac.1)) hab
      · exact absurd (hc.gt_of_lt (h _ hac.2)) hbc
    · rw [compareNames_of_digits hac.1 hb, compareKeys_ne_gt] at hab
      rw [compareNames_of_digits hb hac.2, compareKeys_ne_gt] at hbc
      rw [compareNames_of_digits hac.1 hac.2, compareKeys_ne_gt]
      exact hab.trans hbc

theorem compareNames_total (hc : NumericCollation localeCompare) (a b : File) :
    compareNames localeCompare a b ≠ .gt ∨ compareNames localeCompare b a ≠ .gt := by
  by_cases h : compareNames localeCompare a b = .gt
  · right; rw [← compareNames_swap hc, h]; nofun
  · exact .inl h

theorem naturalSort_orders_digit_runs (hc : NumericCollation localeCompare) (files : List File) :
    (naturalSort localeCompare files).Perm files ∧
    (naturalSort localeCompare files).Pairwise (fun a b =>
      leadingDigits a.name ≠ [] → leadingDigits b.name ≠ [] →
        parseInt a.name ≤ parseInt b.name ∧
          (digitsValue (leadingDigits a.name) < Nat.pow 2 53 →
            digitsValue (leadingDigits a.name) ≤ digitsValue (leadingDigits b.name))) ∧
    ((pduFiles (naturalSort localeCompare files)).map (parseInt ·.name)).Sorted (· ≤ ·) := by
  haveI : IsTotal File (fun a b => compareNames localeCompare a b ≠ .gt) :=
    ⟨compareNames_total hc⟩
  haveI : IsTrans File (fun a b => compareNames localeCompare a b ≠ .gt) :=
    ⟨fun _ _ _ => compareNames_trans hc⟩
  have hkeys : (naturalSort localeCompare files).Pairwise (fun a b =>
      leadingDigits a.name ≠ [] → leadingDigits b.name ≠ [] → parseInt a.name ≤ parseInt b.name) :=
    (List.sorted_insertionSort _ files).imp fun h ha hb =>
      compareKeys_ne_gt.mp (by rwa [compareNames_of_digits ha hb] at h)
  refine ⟨List.perm_insertionSort _ files,
    hkeys.imp fun h ha hb => ⟨h ha hb, digitsValue_le_of_parseInt_le (h ha hb)⟩, ?_⟩
  refine List.pairwise_map.mpr ((hkeys.sublist (List.filter_sublist _)).imp_of_mem ?_)
  intro a b ha hb h
  exact h (leadingDigits_ne_nil (List.mem_filter.mp ha).2)
    (leadingDigits_ne_nil (List.mem_filter.mp hb).2)

end

theorem naturalSort_orders_digit_runs_witness :
    NumericCollation byLeadingDigits ∧
    ((naturalSort byLeadingDigits
        [⟨"10", [], none⟩, ⟨"2", [], none⟩, ⟨"timing.json", [], none⟩]).Perm
        [⟨"10", [], none⟩, ⟨"2", [], none⟩, ⟨"timing.json", [], none⟩] ∧
      (naturalSort byLeadingDigits
          [⟨"10", [], none⟩, ⟨"2", [], none⟩, ⟨"timing.json", [], none⟩]).Pairwise (fun a b =>
        leadingDigits a.name ≠ [] → leadingDigits b.name ≠ [] →
          parseInt a.name ≤ parseInt b.name ∧
            (digitsValue (leadingDigits a.name) < Nat.pow 2 53 →
              digitsValue (leadingDigits a.name) ≤ digitsValue (leadingDigits b.name))) ∧
      ((pduFiles (naturalSort byLeadingDigits
          [⟨"10", [], none⟩, ⟨"2", [], none⟩, ⟨"timing.json", [], none⟩])).map
        (parseInt ·.name)).Sorted (· ≤ ·)) :=
  ⟨numericCollation_byLeadingDigits,
    naturalSort_orders_digit_runs numericCollation_byLeadingDigits _⟩

example : (naturalSort byLeadingDigits [⟨"10", [], none⟩, ⟨"2", [], none⟩, ⟨"1", [], none⟩,
    ⟨"timing.json", [], none⟩]).map (·.name) = ["timing.json", "1", "2", "10"] := by
  decide

theorem digit_runs_past_two_pow_53_keep_input_order :
    NumericCollation byLeadingDigits ∧
    (∀ localeCompare, naturalSort localeCompare
        [⟨"9007199254740993", [], none⟩, ⟨"9007199254740992", [], none⟩] =
      [⟨"9007199254740993", [], none⟩, ⟨"9007199254740992", [], none⟩]) ∧
    digitsValue (leadingDigits "9007199254740992") <
      digitsValue (leadingDigits "9007199254740993") := by
  refine ⟨numericCollation_byLeadingDigits, fun localeCompare => ?_, by decide⟩
  have hp : parseInt "9007199254740993" = parseInt "9007199254740992" := by
    have h₁ : topBit 9007199254740993 53 971 = 53 := rfl
    have h₂ : topBit 9007199254740992 53 971 = 53 := rfl
    rw [parseInt, parseInt,
      show digitsValue (leadingDigits "9007199254740993") = 9007199254740993 by decide,
      show digitsValue (leadingDigits "9007199254740992") = 9007199254740992 by decide,
      toNumber, toNumber]
    generalize Nat.pow 2 1024 = K
    simp [h₁, h₂, Nat.pow_eq]
  have h : compareNames localeCompare ⟨"9007199254740993", [], none⟩
      ⟨"9007199254740992", [], none⟩ = .eq := by
    rw [compareNames_of_digits (by decide) (by decide), hp]
    simp [compareKeys]
  simp [naturalSort, List.insertionSort, List.orderedInsert, h]

end IronReplay.Files
