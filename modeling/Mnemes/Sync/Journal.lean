import Mathlib.Data.List.Sort
import Mnemes.Lib.Table
import Mnemes.Types

/-!
# Exporting a device's journal

`export_device_journal` reads the rows of a stream from a sequence on and keeps those without a gap
(`sync.rs`). A client pages through the journal by exporting again from the sequence it was given,
as long as there is more. That exports exactly the contiguous run from the start, unless the limit
is zero, where the loop never ends, or the run goes up to `i64::MAX`, where the next sequence
overflows (`journal_paging_iff`).
-/

namespace Mnemes

open Relational

/-! ## The journal -/

/-- A row of `mutation_journal`, whose unique index is the key. -/
structure MutationJournalRow where
  homeDeviceId : String
  storeId : String
  sequence : Int64
  operationKind : String
  payload : Bytes
  deriving DecidableEq, Repr

def MutationJournalRow.key (row : MutationJournalRow) : String × String × Int64 :=
  (row.homeDeviceId, row.storeId, row.sequence)

abbrev MutationJournal := Table MutationJournalRow MutationJournalRow.key

/-- A single journal entry ready for replication. -/
structure JournalPayload where
  sequence : Int64
  operationKind : String
  payload : Bytes
  deriving DecidableEq, Repr

def MutationJournalRow.entry (row : MutationJournalRow) : JournalPayload :=
  ⟨row.sequence, row.operationKind, row.payload⟩

/-- `ORDER BY sequence ASC`. -/
def JournalPayload.Before (a b : JournalPayload) : Prop := a.sequence ≤ b.sequence

instance : DecidableRel JournalPayload.Before :=
  fun a b => inferInstanceAs (Decidable (a.sequence ≤ b.sequence))

/-- The rows of a stream from a sequence on. -/
def journalFrom (journal : MutationJournal) (homeDeviceId storeId : String) (start : Int64) :
    List JournalPayload :=
  ((journal.rows.filter fun row =>
    row.homeDeviceId = homeDeviceId && row.storeId = storeId && start ≤ row.sequence).map
      (·.entry)).insertionSort JournalPayload.Before

/-- `LIMIT`: a negative one is none. -/
def limited (limit : UInt64) (entries : List JournalPayload) : List JournalPayload :=
  if limit.toInt64 < 0 then entries else entries.take limit.toNat

/-! ## The export -/

/-- What `export_device_journal` returns. -/
structure JournalExport where
  entries : List JournalPayload
  nextSequence : Int64
  hasMore : Bool
  deriving DecidableEq, Repr

/-- Its loop over the rows: the entries up to the first gap, the sequence after them, and whether
there is a gap. -/
def exportRows : Int64 → List JournalPayload → List JournalPayload × Int64 × Bool
  | expected, [] => ([], expected, false)
  | expected, entry :: rows =>
    if entry.sequence ≠ expected then ([], expected, true)
    else
      let (entries, next, hasGap) := exportRows (entry.sequence + 1) rows
      (entry :: entries, next, hasGap)

/-- `export_device_journal`. -/
def exportDeviceJournal (journal : MutationJournal) (homeDeviceId storeId : String) (start : Int64)
    (limit : UInt64) : JournalExport :=
  let (entries, next, hasGap) :=
    exportRows start (limited limit (journalFrom journal homeDeviceId storeId start))
  ⟨entries, next, !hasGap && limit.toNat ≤ entries.length⟩

/-- The loop that exports again from the next sequence while there is more: the entries of its
exports, unless the fuel runs out. -/
def exportLoop (journal : MutationJournal) (homeDeviceId storeId : String) (limit : UInt64) :
    Nat → Int64 → Option (List JournalPayload)
  | 0, _ => none
  | fuel + 1, start =>
    let page := exportDeviceJournal journal homeDeviceId storeId start limit
    if page.hasMore then
      (exportLoop journal homeDeviceId storeId limit fuel page.nextSequence).map (page.entries ++ ·)
    else some page.entries

/-! ## What an export is for -/

section
variable (journal : MutationJournal) (homeDeviceId storeId : String)

/-- The stream has no row with the sequence. -/
def Missing (sequence : Int64) : Prop := journal.find? (homeDeviceId, storeId, sequence) = none

/-- The entries are the rows of the stream with the sequences `start`, `start + 1`, … -/
def Contiguous (start : Int64) (entries : List JournalPayload) : Prop :=
  ∀ (i : Nat) entry, entries[i]? = some entry → entry.sequence.toInt = start.toInt + i ∧
    ∃ row, journal.find? (homeDeviceId, storeId, entry.sequence) = some row ∧ row.entry = entry

/-- The run of `count` entries from `start` cannot be continued. -/
def EndsAt (start : Int64) (count : Nat) : Prop :=
  ∀ sequence : Int64, sequence.toInt = start.toInt + count →
    Missing journal homeDeviceId storeId sequence

/-- A page has the rows from its start up to the first gap or the limit, and the next sequence. -/
structure PageMeets (start : Int64) (limit : UInt64) (page : JournalExport) : Prop where
  contiguous : Contiguous journal homeDeviceId storeId start page.entries
  length_le : page.entries.length ≤ limit.toNat
  complete : page.entries.length = limit.toNat ∨
    EndsAt journal homeDeviceId storeId start page.entries.length
  next : page.nextSequence.toInt = start.toInt + page.entries.length

/-- The sequences the loop exports from. -/
inductive Cursor (limit : UInt64) (start : Int64) : Int64 → Prop where
  | start : Cursor limit start start
  | next {cursor : Int64} : Cursor limit start cursor →
    (exportDeviceJournal journal homeDeviceId storeId cursor limit).hasMore = true →
    Cursor limit start (exportDeviceJournal journal homeDeviceId storeId cursor limit).nextSequence

/-- Every page of the loop is what it is for, and the loop ends with the maximal contiguous run. -/
def PagesExactly (start : Int64) (limit : UInt64) : Prop :=
  (∀ cursor, Cursor journal homeDeviceId storeId limit start cursor →
    PageMeets journal homeDeviceId storeId cursor limit
      (exportDeviceJournal journal homeDeviceId storeId cursor limit)) ∧
  ∃ fuel entries, exportLoop journal homeDeviceId storeId limit fuel start = some entries ∧
    Contiguous journal homeDeviceId storeId start entries ∧
    EndsAt journal homeDeviceId storeId start entries.length

end

/-! ## The rows of a stream -/

instance : IsTrans JournalPayload JournalPayload.Before where
  trans _ _ _ hab hbc := Int64.le_trans hab hbc

instance : Std.Total JournalPayload.Before where
  total a b := Int64.le_total a.sequence b.sequence

section
variable {journal : MutationJournal} {homeDeviceId storeId : String} {start : Int64}

/-- The entries from a sequence on are the rows of the device and the store that do not come before.
-/
theorem mem_journalFrom {entry : JournalPayload} :
    entry ∈ journalFrom journal homeDeviceId storeId start ↔ start ≤ entry.sequence ∧
      ∃ row, journal.find? (homeDeviceId, storeId, entry.sequence) = some row ∧
        row.entry = entry := by
  rw [journalFrom, List.mem_insertionSort, List.mem_map]
  constructor
  · rintro ⟨row, hrow, rfl⟩
    obtain ⟨hmem, hstream⟩ := List.mem_filter.1 hrow
    simp only [Bool.and_eq_true, decide_eq_true_eq] at hstream
    obtain ⟨⟨rfl, rfl⟩, hle⟩ := hstream
    exact ⟨hle, row, Table.find?_eq_some.2 ⟨hmem, rfl⟩, rfl⟩
  · rintro ⟨hle, row, hrow, rfl⟩
    obtain ⟨hmem, hkey⟩ := Table.find?_eq_some.1 hrow
    simp only [MutationJournalRow.key, Prod.mk.injEq] at hkey
    have hle : start ≤ row.sequence := hle
    refine ⟨row, List.mem_filter.2 ⟨hmem, ?_⟩, rfl⟩
    simp only [hkey.1, hkey.2.1, hle, decide_true, Bool.and_self]

/-- The rows of a stream come in strictly ascending order. -/
theorem journalFrom_sorted :
    (journalFrom journal homeDeviceId storeId start).Pairwise
      fun a b => a.sequence.toInt < b.sequence.toInt := by
  have hnodup : (journalFrom journal homeDeviceId storeId start).Pairwise
      fun a b => a.sequence ≠ b.sequence := by
    rw [← List.pairwise_map (R := (· ≠ ·))]
    refine ((List.perm_insertionSort _ _).map _).nodup_iff.2 ?_
    rw [List.map_map]
    refine List.Nodup.map_on ?_ ((List.Nodup.of_map _ journal.nodup).filter _)
    intro a ha b hb hab
    obtain ⟨ha, hahome⟩ := List.mem_filter.1 ha
    obtain ⟨hb, hbhome⟩ := List.mem_filter.1 hb
    simp only [Bool.and_eq_true, decide_eq_true_eq] at hahome hbhome
    refine Table.eq_of_key ha hb ?_
    simp only [MutationJournalRow.key, hahome.1.1, hahome.1.2, hbhome.1.1, hbhome.1.2]
    exact congrArg (fun s => (homeDeviceId, storeId, s)) hab
  refine (List.pairwise_insertionSort _ _).imp₂ (fun a b hle hne => ?_) hnodup
  exact lt_of_le_of_ne (Int64.le_iff_toInt_le.1 hle) fun h => hne (Int64.toInt_inj.1 h)

/-- What the loop over ascending rows returns: the first rows, with consecutive sequences, and the
rest, which is left at a gap and lies beyond it. -/
theorem exportRows_spec {expected next : Int64} {rows entries : List JournalPayload} {hasGap : Bool}
    (hrows : rows.Pairwise fun a b => a.sequence.toInt < b.sequence.toInt)
    (hge : ∀ entry ∈ rows, expected.toInt ≤ entry.sequence.toInt)
    (h : exportRows expected rows = (entries, next, hasGap)) :
    ∃ rest, rows = entries ++ rest ∧
      (∀ (i : Nat) entry, entries[i]? = some entry → entry.sequence.toInt = expected.toInt + i) ∧
      (expected.toInt + entries.length < 2 ^ 63 → next.toInt = expected.toInt + entries.length) ∧
      (hasGap = true ↔ rest ≠ []) ∧
      ∀ entry ∈ rest, expected.toInt + entries.length < entry.sequence.toInt := by
  induction rows generalizing expected entries with
  | nil =>
    cases h
    exact ⟨[], rfl, by simp, by simp, by simp, by simp⟩
  | cons entry rows ih =>
    obtain ⟨hfirst, hrows⟩ := List.pairwise_cons.1 hrows
    have hle := hge entry List.mem_cons_self
    unfold exportRows at h
    by_cases hne : entry.sequence ≠ expected
    · rw [if_pos hne] at h
      cases h
      have hlt : next.toInt < entry.sequence.toInt :=
        lt_of_le_of_ne hle fun he => hne (Int64.toInt_inj.1 he).symm
      refine ⟨entry :: rows, rfl, by simp, by simp, by simp, fun e he => ?_⟩
      rcases List.mem_cons.1 he with rfl | he
      · simpa using hlt
      · simpa using hlt.trans (hfirst e he)
    · rw [if_neg hne] at h
      have heq : entry.sequence = expected := not_not.1 hne
      obtain ⟨tail, next', hasGap', htail⟩ :
          ∃ tail next' hasGap', exportRows (entry.sequence + 1) rows = (tail, next', hasGap') :=
        ⟨_, _, _, rfl⟩
      rw [htail] at h
      cases h
      by_cases hmax : expected.toInt + 1 < 2 ^ 63
      · have hnext : (entry.sequence + 1).toInt = expected.toInt + 1 := by
          rw [heq, toInt_add_one hmax]
        obtain ⟨rest, rfl, hsequences, hlast, hgap, hrest⟩ := ih hrows
          (fun e he => by have := hfirst e he; rw [heq] at this; omega) htail
        rw [hnext] at hsequences hlast hrest
        refine ⟨rest, rfl, fun i e he => ?_, fun hlt => ?_, hgap, fun e he => ?_⟩
        · cases i with
          | zero =>
            cases he
            simp [heq]
          | succ i =>
            rw [hsequences i e he]
            push_cast
            omega
        · rw [hlast (by simp at hlt; omega), List.length_cons]
          push_cast
          omega
        · have := hrest e he
          rw [List.length_cons]
          push_cast
          omega
      · -- no row can follow the last sequence
        have hrows : rows = [] := by
          by_contra hne
          obtain ⟨e, he⟩ := List.exists_mem_of_ne_nil rows hne
          have hlt := hfirst e he
          have := e.sequence.toInt_lt
          rw [heq] at hlt
          omega
        subst hrows
        cases htail
        refine ⟨[], rfl, fun i e he => ?_, fun hlt => ?_, by simp, by simp⟩
        · cases i with
          | zero =>
            cases he
            simp [heq]
          | succ i => simp at he
        · simp at hlt
          omega

/-- A limit below 2^63 is kept to. -/
theorem limited_of_lt {limit : UInt64} (h : limit.toNat < 2 ^ 63) (entries : List JournalPayload) :
    limited limit entries = entries.take limit.toNat := by
  have htoInt : limit.toInt64.toInt = limit.toNat := toInt_toInt64 h
  refine if_neg fun hneg => ?_
  have := Int64.lt_iff_toInt_lt.1 hneg
  rw [htoInt] at this
  exact absurd this (by simp)

/-- A limit from 2^63 on is bound as a negative number, which is none. -/
theorem limited_of_le {limit : UInt64} (h : 2 ^ 63 ≤ limit.toNat) (entries : List JournalPayload) :
    limited limit entries = entries := by
  refine if_pos (Int64.lt_iff_toInt_lt.2 ?_)
  have hlt := limit.toNat_lt
  show limit.toBitVec.toInt < 0
  rw [BitVec.toInt_eq_toNat_cond, UInt64.toNat_toBitVec]
  split <;> omega

/-- What a page is, whatever its limit. -/
theorem exportDeviceJournal_spec {limit : UInt64} {page : JournalExport}
    (h : exportDeviceJournal journal homeDeviceId storeId start limit = page) :
    Contiguous journal homeDeviceId storeId start page.entries ∧
      (limit.toNat < 2 ^ 63 → page.entries.length ≤ limit.toNat) ∧
      (start.toInt + page.entries.length < 2 ^ 63 →
        page.nextSequence.toInt = start.toInt + page.entries.length) ∧
      (page.entries.length < limit.toNat ∨ 2 ^ 63 ≤ limit.toNat →
        EndsAt journal homeDeviceId storeId start page.entries.length) ∧
      (page.hasMore = true → limit.toNat ≤ page.entries.length) ∧
      (page.hasMore = false → page.entries.length < limit.toNat ∨
        EndsAt journal homeDeviceId storeId start page.entries.length) := by
  obtain ⟨entries, next, hasGap, hrows⟩ : ∃ entries next hasGap, exportRows start
      (limited limit (journalFrom journal homeDeviceId storeId start)) = (entries, next, hasGap) :=
    ⟨_, _, _, rfl⟩
  have hpage : page = ⟨entries, next, !hasGap && limit.toNat ≤ entries.length⟩ := by
    rw [← h, exportDeviceJournal, hrows]
  subst hpage
  -- the rows that are read are the first ones of the stream
  obtain ⟨more, hmore, hall, hlength⟩ : ∃ more, journalFrom journal homeDeviceId storeId start =
      limited limit (journalFrom journal homeDeviceId storeId start) ++ more ∧
      ((limited limit (journalFrom journal homeDeviceId storeId start)).length < limit.toNat ∨
        2 ^ 63 ≤ limit.toNat → more = []) ∧
      (limit.toNat < 2 ^ 63 →
        (limited limit (journalFrom journal homeDeviceId storeId start)).length ≤ limit.toNat) := by
    by_cases hlimit : limit.toNat < 2 ^ 63
    · rw [limited_of_lt hlimit]
      refine ⟨_, (List.take_append_drop _ _).symm, fun hlt => ?_, fun _ => List.length_take_le _ _⟩
      rw [List.length_take] at hlt
      exact List.drop_eq_nil_of_le (by omega)
    · rw [limited_of_le (by omega)]
      exact ⟨[], (List.append_nil _).symm, fun _ => rfl, fun hlt => absurd hlt hlimit⟩
  generalize limited limit (journalFrom journal homeDeviceId storeId start) = rows at *
  have hsorted := @journalFrom_sorted journal homeDeviceId storeId start
  rw [hmore] at hsorted
  have hsorted' := List.pairwise_append.1 hsorted
  have hge : ∀ entry ∈ rows, start.toInt ≤ entry.sequence.toInt := fun entry he =>
    Int64.le_iff_toInt_le.1 (mem_journalFrom.1 (hmore ▸ List.mem_append_left _ he)).1
  obtain ⟨rest, rfl, hsequences, hnext, hgap, hrest⟩ := exportRows_spec hsorted'.1 hge hrows
  have hends :
      (rest = [] → more = []) → EndsAt journal homeDeviceId storeId start entries.length := by
    intro hnone sequence hsequence
    by_contra hfound
    obtain ⟨row, hrow⟩ := Option.ne_none_iff_exists'.1 hfound
    have hkey := (Table.find?_eq_some.1 hrow).2
    have hrowSequence : row.entry.sequence = sequence := congrArg (·.2.2) hkey
    have hmem : row.entry ∈ journalFrom journal homeDeviceId storeId start :=
      mem_journalFrom.2 ⟨Int64.le_iff_toInt_le.2 (by rw [hrowSequence]; omega), row,
        by rw [hrowSequence]; exact hrow, rfl⟩
    rw [hmore, List.append_assoc, List.mem_append, List.mem_append] at hmem
    rcases hmem with hmem | hmem | hmem
    · obtain ⟨i, hi⟩ := List.mem_iff_getElem?.1 hmem
      have hlt := (List.getElem?_eq_some_iff.1 hi).1
      have := hsequences i _ hi
      rw [hrowSequence] at this
      omega
    · have := hrest _ hmem
      rw [hrowSequence] at this
      omega
    · -- what was not read lies beyond what was
      obtain ⟨e, he⟩ := List.exists_mem_of_ne_nil rest fun h => by
        rw [hnone h] at hmem
        cases hmem
      have := hrest e he
      have := hsorted'.2.2 e (List.mem_append_right _ he) _ hmem
      rw [hrowSequence] at this
      omega
  have hread : ∀ entry ∈ entries, ∃ row,
      journal.find? (homeDeviceId, storeId, entry.sequence) = some row ∧ row.entry = entry := by
    intro entry hentry
    have hmem : entry ∈ journalFrom journal homeDeviceId storeId start := by
      rw [hmore]
      exact List.mem_append_left _ (List.mem_append_left _ hentry)
    exact (mem_journalFrom.1 hmem).2
  refine ⟨fun i entry hi => ⟨hsequences i entry hi, hread entry (List.mem_of_getElem? hi)⟩,
    fun hlt => ?_, hnext, fun hshort => hends fun hrest => hall ?_, fun hhas => ?_, fun hhas => ?_⟩
  · have := hlength hlt
    rw [List.length_append] at this
    exact (Nat.le_add_right _ _).trans this
  · rw [hrest, List.append_nil]
    exact hshort
  · simp at hhas
    exact hhas.2
  · by_cases hlt : entries.length < limit.toNat
    · exact .inl hlt
    · refine .inr (hends fun hrest => ?_)
      have hno : hasGap = false := by
        by_contra h
        exact hgap.1 (by simpa using h) hrest
      rw [hno] at hhas
      simp at hhas
      omega

/-! ## The loop -/

/-- The limit is positive, and the stream misses a sequence from the start on; where the limit is so
large that it is taken for none, among the first `limit + 1` ones. -/
def Pageable (journal : MutationJournal) (homeDeviceId storeId : String) (start : Int64)
    (limit : UInt64) : Prop :=
  limit ≠ 0 ∧ ∃ gap, start ≤ gap ∧ Missing journal homeDeviceId storeId gap ∧
    (limit.toNat < 2 ^ 63 ∨ gap.toInt - start.toInt ≤ limit.toNat)

/-- Before a gap, a page is what it is for, and stays before the gap. -/
theorem page_meets {gap : Int64} {limit : UInt64} (hle : start ≤ gap)
    (hgap : Missing journal homeDeviceId storeId gap)
    (hlimit : limit.toNat < 2 ^ 63 ∨ gap.toInt - start.toInt ≤ limit.toNat) {page : JournalExport}
    (h : exportDeviceJournal journal homeDeviceId storeId start limit = page) :
    PageMeets journal homeDeviceId storeId start limit page ∧
      page.nextSequence.toInt ≤ gap.toInt := by
  obtain ⟨hcontiguous, hlength, hnext, hends, -, -⟩ := exportDeviceJournal_spec h
  have hle := Int64.le_iff_toInt_le.1 hle
  have hbefore : start.toInt + page.entries.length ≤ gap.toInt := by
    by_contra hlt
    have hindex : (gap.toInt - start.toInt).toNat < page.entries.length := by omega
    obtain ⟨hsequence, row, hrow, -⟩ := hcontiguous _ _ (List.getElem?_eq_getElem hindex)
    have heq : page.entries[(gap.toInt - start.toInt).toNat].sequence = gap := by
      apply Int64.toInt_inj.1
      rw [hsequence]
      omega
    rw [heq, hgap] at hrow
    cases hrow
  have hmax := gap.toInt_lt
  refine ⟨⟨hcontiguous, ?_, ?_, hnext (by omega)⟩, by rw [hnext (by omega)]; exact hbefore⟩
  · rcases hlimit with hlimit | hlimit
    · exact hlength hlimit
    · omega
  · by_cases hfull : page.entries.length = limit.toNat
    · exact .inl hfull
    · refine .inr (hends ?_)
      by_cases hlimit' : limit.toNat < 2 ^ 63
      · have := hlength hlimit'
        omega
      · omega

/-- Pages before a gap continue each other. -/
theorem Contiguous.append {next : Int64} {entries entries' : List JournalPayload}
    (h : Contiguous journal homeDeviceId storeId start entries)
    (h' : Contiguous journal homeDeviceId storeId next entries')
    (hnext : next.toInt = start.toInt + entries.length) :
    Contiguous journal homeDeviceId storeId start (entries ++ entries') := by
  intro i entry hi
  rw [List.getElem?_append] at hi
  split at hi
  · exact h i entry hi
  · obtain ⟨hsequence, hrow⟩ := h' _ entry hi
    refine ⟨?_, hrow⟩
    rw [hsequence, hnext]
    omega

/-- Before a gap, the loop ends with the maximal run. -/
theorem exportLoop_returns {gap : Int64} {limit : UInt64} (hpos : limit ≠ 0)
    (hgap : Missing journal homeDeviceId storeId gap) (hle : start ≤ gap)
    (hlimit : limit.toNat < 2 ^ 63 ∨ gap.toInt - start.toInt ≤ limit.toNat) :
    ∃ fuel entries, exportLoop journal homeDeviceId storeId limit fuel start = some entries ∧
      Contiguous journal homeDeviceId storeId start entries ∧
      EndsAt journal homeDeviceId storeId start entries.length := by
  induction hdistance : (gap.toInt - start.toInt).toNat using Nat.strong_induction_on
    generalizing start with
  | _ distance ih =>
  obtain ⟨page, hpage⟩ :
      ∃ page, exportDeviceJournal journal homeDeviceId storeId start limit = page :=
    ⟨_, rfl⟩
  obtain ⟨hmeets, hnext⟩ := page_meets hle hgap hlimit hpage
  obtain ⟨-, -, -, -, hmore, hlast⟩ := exportDeviceJournal_spec hpage
  have hpos' : limit.toNat ≠ 0 := fun h => hpos (UInt64.toNat_inj.1 h)
  by_cases hhas : page.hasMore = true
  · -- the rest of the loop starts nearer to the gap
    have hlonger := hmore hhas
    have hnextEq := hmeets.next
    have hle := Int64.le_iff_toInt_le.1 hle
    obtain ⟨fuel, entries, hloop, hcontiguous, hends⟩ := ih _ (by omega)
      (Int64.le_iff_toInt_le.2 hnext) (hlimit.imp id fun h => by omega) rfl
    refine ⟨fuel + 1, page.entries ++ entries, ?_, hmeets.contiguous.append hcontiguous hnextEq, ?_⟩
    · simp only [exportLoop, hpage, hhas, if_true, hloop, Option.map_some]
    · intro sequence hsequence
      refine hends sequence ?_
      rw [hsequence, hnextEq, List.length_append]
      push_cast
      omega
  · rw [Bool.not_eq_true] at hhas
    refine ⟨1, page.entries, ?_, hmeets.contiguous, ?_⟩
    · simp [exportLoop, hpage, hhas]
    · rcases hlast hhas with hshort | hends
      · exact hmeets.complete.resolve_left hshort.ne
      · exact hends

/-- The loop stays between the start and a gap. -/
theorem Cursor.between {gap cursor : Int64} {limit : UInt64} (hle : start ≤ gap)
    (hgap : Missing journal homeDeviceId storeId gap)
    (hlimit : limit.toNat < 2 ^ 63 ∨ gap.toInt - start.toInt ≤ limit.toNat)
    (h : Cursor journal homeDeviceId storeId limit start cursor) :
    start.toInt ≤ cursor.toInt ∧ cursor.toInt ≤ gap.toInt := by
  induction h with
  | start => exact ⟨le_rfl, Int64.le_iff_toInt_le.1 hle⟩
  | next _ _ ih =>
    obtain ⟨hmeets, hnext⟩ := page_meets (Int64.le_iff_toInt_le.2 ih.2) hgap
      (hlimit.imp id fun h => by omega) rfl
    have := hmeets.next
    omega

/-- Without a gap, no page of the loop is the last one. -/
theorem exportLoop_none {limit : UInt64}
    (hnone : ∀ sequence : Int64, start.toInt ≤ sequence.toInt →
      ¬ Missing journal homeDeviceId storeId sequence)
    (hmeets : ∀ cursor, Cursor journal homeDeviceId storeId limit start cursor →
      PageMeets journal homeDeviceId storeId cursor limit
        (exportDeviceJournal journal homeDeviceId storeId cursor limit))
    (fuel : Nat) {cursor : Int64}
    (hcursor : Cursor journal homeDeviceId storeId limit start cursor)
    (hle : start.toInt ≤ cursor.toInt) :
    exportLoop journal homeDeviceId storeId limit fuel cursor = none := by
  induction fuel generalizing cursor with
  | zero => rfl
  | succ fuel ih =>
    obtain ⟨-, -, -, -, -, hlast⟩ := exportDeviceJournal_spec
      (rfl : exportDeviceJournal journal homeDeviceId storeId cursor limit = _)
    have hpage := hmeets cursor hcursor
    have hgoes : ¬ EndsAt journal homeDeviceId storeId cursor
        (exportDeviceJournal journal homeDeviceId storeId cursor limit).entries.length :=
            fun hends =>
      hnone _ (by have := hpage.next; omega) (hends _ hpage.next)
    have hhas : (exportDeviceJournal journal homeDeviceId storeId cursor limit).hasMore = true := by
      by_contra hno
      rcases hlast (by simpa using hno) with hshort | hends
      · exact hgoes (hpage.complete.resolve_left hshort.ne)
      · exact hgoes hends
    simp only [exportLoop, hhas, if_true]
    rw [ih (hcursor.next hhas) (by have := hpage.next; omega)]
    rfl

/-- A limit of zero exports nothing, for ever. -/
theorem exportLoop_zero (fuel : Nat) :
    exportLoop journal homeDeviceId storeId 0 fuel start = none := by
  have hpage :
      ∀ start, exportDeviceJournal journal homeDeviceId storeId start 0 = ⟨[], start, true⟩ :=
    fun start => by
      rw [exportDeviceJournal, limited_of_lt (by decide)]
      rfl
  induction fuel with
  | zero => rfl
  | succ fuel ih =>
    simp only [exportLoop, hpage, if_true, ih]
    rfl

end

/-- Paging through a stream is exact and terminates exactly where the limit is positive and the
stream misses a sequence from the start on (among the first `limit + 1` ones, for a limit of `2^63`
or more). -/
theorem journal_paging_iff (journal : MutationJournal) (homeDeviceId storeId : String)
    (start : Int64) (limit : UInt64) :
    PagesExactly journal homeDeviceId storeId start limit ↔
      Pageable journal homeDeviceId storeId start limit := by
  constructor
  · rintro ⟨hmeets, fuel, entries, hloop, -⟩
    have hpos : limit ≠ 0 := by
      rintro rfl
      rw [exportLoop_zero] at hloop
      cases hloop
    refine ⟨hpos, ?_⟩
    by_contra hnone
    by_cases hlimit : limit.toNat < 2 ^ 63
    · rw [exportLoop_none (fun sequence hle hmissing => hnone ⟨sequence,
        Int64.le_iff_toInt_le.2 hle, hmissing, .inl hlimit⟩) hmeets fuel .start le_rfl] at hloop
      cases hloop
    · -- the first page has the whole run, which is longer than the limit
      have hpage := hmeets start .start
      obtain ⟨-, -, -, hends, -, -⟩ := exportDeviceJournal_spec
        (rfl : exportDeviceJournal journal homeDeviceId storeId start limit = _)
      have hnext := hpage.next
      have hlength := hpage.length_le
      exact hnone ⟨_, Int64.le_iff_toInt_le.2 (by omega), hends (.inr (by omega)) _ hnext,
        .inr (by omega)⟩
  · rintro ⟨hpos, gap, hle, hgap, hlimit⟩
    refine ⟨fun cursor hcursor => ?_, exportLoop_returns hpos hgap hle hlimit⟩
    obtain ⟨hfirst, hlast⟩ := hcursor.between hle hgap hlimit
    exact (page_meets (Int64.le_iff_toInt_le.2 hlast) hgap (hlimit.imp id fun h => by omega) rfl).1

/-- With a limit of zero the loop never ends, on an empty journal already. -/
theorem zero_limit_never_ends : ¬ ∀ (journal : MutationJournal) (homeDeviceId storeId : String)
    (start : Int64) (limit : UInt64), PagesExactly journal homeDeviceId storeId start limit := by
  intro h
  obtain ⟨-, fuel, entries, hloop, -⟩ := h .empty "device-1" "store-1" 1 0
  rw [exportLoop_zero] at hloop
  cases hloop

end Mnemes
