import Keystone3.Log.Walk

/-!
# The log as a ring of sectors

What the zone looks like in every run (`Ring`): the sectors up to the current one
are closed, each with its records and an end that leads to the next one, and so
are the sectors behind it, or these are all erased; the current one is open.

In such a zone the search for the writer's position ends there (`Ring.findLoop`),
and from the earliest sector with a record a walk passes all records in the order
of writing (`Ring.earliest`).
-/

namespace Keystone3.Log

/-- Where sector `p` starts. -/
def start (p : Nat) : Nat := spiFlashAddrLog + p * sectorSize

/-- The sector after `p`. -/
def next (p : Nat) : Nat := if p + 1 < sectorCount then p + 1 else 0

theorem next_lt (p : Nat) : next p < sectorCount := by
  unfold next
  split
  · assumption
  · decide

theorem getNextSectorAddr_start {p x : Nat} (hp : p < sectorCount) (hx : x < sectorSize) :
    getNextSectorAddr (start p + x) = start (next p) := by
  have hp' : p < 128 := hp
  have hx' : x < 4096 := hx
  unfold getNextSectorAddr next start
  simp only [spiFlashAddrLog, sectorSize, logEnd, spiFlashSizeLog, sectorCount] at *
  split <;> split <;> omega

theorem start_mod {p x : Nat} (hx : x < sectorSize) : (start p + x) % sectorSize = x := by
  have hx' : x < 4096 := hx
  unfold start
  simp only [spiFlashAddrLog, sectorSize] at *
  omega

theorem start_ne {p q x y : Nat} (h : p ≠ q) (hx : x < sectorSize) (hy : y < sectorSize) :
    start p + x ≠ start q + y := by
  have hx' : x < 4096 := hx
  have hy' : y < 4096 := hy
  unfold start
  simp only [spiFlashAddrLog, sectorSize] at *
  omega

theorem recordSize_dvd (ds : List LogData) : 4 ∣ recordSize ds := by
  induction ds with
  | nil => exact Nat.dvd_zero 4
  | cons d ds ih => exact Nat.dvd_add d.four_dvd_size ih

theorem length_le_recordSize (ds : List LogData) : 8 * ds.length ≤ recordSize ds := by
  induction ds with
  | nil => exact Nat.le_refl 0
  | cons d ds ih =>
    have hd := d.le_size
    rw [List.length_cons, recordSize_cons]
    omega

structure Stored (f : Flash.Cells) (p : Nat) (ds : List LogData) : Prop where
  valid : ∀ d ∈ ds, d.Valid
  stands : Flash.read f (start p) (recordSize ds) = recordBytes ds

/-- A sector that the writer has left: it ends with a mark, or its records fill it and the
next one follows in flash. -/
structure Closed (f : Flash.Cells) (p : Nat) (ds : List LogData) : Prop extends Stored f p ds where
  nonempty : ds ≠ []
  ends : recordSize ds + 4 ≤ sectorSize ∧
      (readHead f (start p + recordSize ds)).event = nextSectorMark ∨
    recordSize ds = sectorSize ∧ p + 1 < sectorCount

structure Open (f : Flash.Cells) (p : Nat) (ds : List LogData) : Prop extends Stored f p ds where
  room : recordSize ds < sectorSize
  erased : ∀ x, recordSize ds ≤ x → x < sectorSize → f (start p + x) = Flash.erased

section

variable {f g : Flash.Cells} {p : Nat} {ds : List LogData}

theorem Open.room_mark (h : Open f p ds) : recordSize ds + 4 ≤ sectorSize := by
  have hroom : recordSize ds < 4096 := h.room
  obtain ⟨k, hk⟩ := recordSize_dvd ds
  show recordSize ds + 4 ≤ 4096
  omega

theorem Open.event (h : Open f p ds) : (readHead f (start p + recordSize ds)).event = 0xFFFF := by
  have hroom : recordSize ds + 4 ≤ 4096 := h.room_mark
  refine event_erased fun x hx hx' => ?_
  obtain ⟨y, rfl⟩ := Nat.exists_eq_add_of_le hx
  rw [Nat.add_assoc]
  exact h.erased _ (Nat.le_add_right _ _) (by show _ < 4096; omega)

theorem Stored.walk (h : Stored f p ds) (wraps : Prop) (hp : p < sectorCount)
    (hsize : recordSize ds ≤ sectorSize) :
    Walk f wraps ds.length (start p) (start p + recordSize ds) ds := by
  refine walk_records h.valid ?_ h.stands
  have hp' : p < 128 := hp
  have hsize' : recordSize ds ≤ 4096 := hsize
  unfold start
  simp only [spiFlashAddrLog, sectorSize, logEnd, spiFlashSizeLog]
  omega

theorem start_lt {p x : Nat} (hp : p < sectorCount) (hx : x < sectorSize) : start p + x < logEnd := by
  have hp' : p < 128 := hp
  have hx' : x < 4096 := hx
  unfold start
  simp only [spiFlashAddrLog, sectorSize, logEnd, spiFlashSizeLog]
  omega

abbrev sectorSteps : Nat := 513

theorem Closed.walk (h : Closed f p ds) (wraps : Prop) (hp : p < sectorCount)
    (hw : p + 1 = sectorCount → wraps) :
    ∃ n ≤ sectorSteps, Walk f wraps n (start p) (start (next p)) ds := by
  have hlen := length_le_recordSize ds
  rcases h.ends with ⟨hroom, hmark⟩ | ⟨hfull, hlast⟩
  · have hroom' : recordSize ds + 4 ≤ 4096 := hroom
    have hx : recordSize ds < sectorSize := by show _ < 4096; omega
    refine ⟨ds.length + 1, by show _ ≤ 513; omega, ?_⟩
    have hrecords := h.toStored.walk wraps hp (Nat.le_of_lt hx)
    have hnext := getNextSectorAddr_start hp hx
    -- from the mark the walk goes on in the next sector
    have hmarked : Walk f wraps 1 (start p + recordSize ds) (start (next p)) [] := by
      refine .mark (start_lt hp hx) hmark (fun hwrap => ?_) ?_
      · rw [hnext] at hwrap
        apply hw
        by_contra hne
        have hp' : p < 128 := hp
        have hne' : p + 1 ≠ 128 := hne
        have hlt : p + 1 < sectorCount := by show _ < 128; omega
        unfold next start at hwrap
        rw [if_pos hlt] at hwrap
        simp only [spiFlashAddrLog, sectorSize] at hwrap
        omega
      · rw [hnext]
        exact .refl _
    have hwalk := hrecords.append hmarked
    rwa [List.append_nil] at hwalk
  · have hlen' : 8 * ds.length ≤ 4096 := Nat.le_trans hlen (Nat.le_of_eq hfull)
    refine ⟨ds.length, by show _ ≤ 513; omega, ?_⟩
    have hrecords := h.toStored.walk wraps hp (Nat.le_of_eq hfull)
    -- a full sector has no mark: its records end where the next one starts
    have hend : start p + recordSize ds = start (next p) := by
      unfold next start
      rw [hfull, if_pos hlast]
      simp only [spiFlashAddrLog, sectorSize]
      omega
    rwa [hend] at hrecords

theorem Closed.size_le (h : Closed f p ds) : recordSize ds ≤ sectorSize := by
  rcases h.ends with ⟨hroom, -⟩ | ⟨hfull, -⟩
  · omega
  · exact Nat.le_of_eq hfull

theorem Closed.event (h : Closed f p ds) (hp : p < sectorCount) :
    (readHead f (start p)).event ≠ 0xFFFF := by
  obtain ⟨d, es, rfl⟩ := List.exists_cons_of_ne_nil h.nonempty
  exact (h.toStored.walk True hp h.size_le).not_erased

theorem Stored.congr (h : Stored f p ds)
    (hsame : ∀ x, x < recordSize ds → g (start p + x) = f (start p + x)) : Stored g p ds := by
  refine ⟨h.valid, ?_⟩
  rw [← h.stands]
  refine Flash.read_congr fun x hx hx' => ?_
  obtain ⟨y, rfl⟩ := Nat.exists_eq_add_of_le hx
  exact hsame y (by omega)

theorem event_congr {a : Nat} (h : ∀ x, x < 2 → g (a + x) = f (a + x)) :
    (readHead g a).event = (readHead f a).event := by
  rw [event_readHead, event_readHead]
  congr 1
  refine Flash.read_congr fun x hx hx' => ?_
  obtain ⟨y, rfl⟩ := Nat.exists_eq_add_of_le hx
  exact h y (by omega)

theorem Closed.congr (h : Closed f p ds)
    (hsame : ∀ x, x < sectorSize → g (start p + x) = f (start p + x)) : Closed g p ds := by
  rcases h.ends with ⟨hroom, hmark⟩ | ⟨hfull, hlast⟩
  · have hroom' : recordSize ds + 4 ≤ 4096 := hroom
    refine ⟨h.toStored.congr fun x hx => hsame x (by show _ < 4096; omega),
      h.nonempty, .inl ⟨hroom, ?_⟩⟩
    rw [← hmark]
    refine event_congr fun x hx => ?_
    rw [Nat.add_assoc]
    exact hsame _ (by show _ < 4096; omega)
  · exact ⟨h.toStored.congr fun x hx => hsame x (hfull ▸ hx), h.nonempty,
      .inr ⟨hfull, hlast⟩⟩

theorem Open.congr (h : Open f p ds)
    (hsame : ∀ x, x < sectorSize → g (start p + x) = f (start p + x)) : Open g p ds := by
  have hroom : recordSize ds < 4096 := h.room
  refine ⟨h.toStored.congr fun x hx => hsame x (Nat.lt_trans hx hroom), h.room,
    fun x hx hx' => ?_⟩
  rw [hsame x hx']
  exact h.erased x hx hx'

end

def ringOrder (cur : Nat) : List Nat :=
  List.range' (cur + 1) (sectorCount - 1 - cur) ++ List.range (cur + 1)

theorem ringOrder_next {cur : Nat} (hcur : cur < sectorCount) :
    ∃ rest, ringOrder cur = next cur :: rest ∧ ringOrder (next cur) = rest ++ [next cur] ∧
      next cur ∉ rest := by
  have hcur' : cur < 128 := hcur
  unfold ringOrder next
  by_cases hlast : cur + 1 < sectorCount
  · have hlast' : cur + 1 < 128 := hlast
    refine ⟨List.range' (cur + 2) (sectorCount - 1 - (cur + 1)) ++ List.range (cur + 1), ?_, ?_, ?_⟩
    · have hcount : sectorCount - 1 - cur = (sectorCount - 1 - (cur + 1)) + 1 := by
        show 127 - cur = 127 - (cur + 1) + 1
        omega
      rw [if_pos hlast, hcount, List.range'_succ]
      rfl
    · rw [if_pos hlast, List.range_succ, List.append_assoc]
    · rw [if_pos hlast, List.mem_append, List.mem_range'_1, List.mem_range]
      omega
  · have hlast' : ¬cur + 1 < 128 := hlast
    obtain rfl : cur = 127 := by omega
    exact ⟨List.range' 1 127, by decide, by decide, by decide⟩

/-- A record, with the number of the sector that it is in. -/
structure LogEntry where
  sector : Nat
  data : LogData

/-- The flash and the records in it that were not erased, in the order of writing. -/
structure LogRun where
  state : LogState
  entries : List LogEntry

/-- The records of sector `p`. -/
def sectorEntries (content : Nat → List LogData) (p : Nat) : List LogEntry :=
  (content p).map fun d => ⟨start p / sectorSize, d⟩

structure Ring (content : Nat → List LogData) (cur : Nat) (r : LogRun) : Prop where
  cur_lt : cur < sectorCount
  current : Open r.state.flash cur (content cur)
  logAddr : r.state.logAddr = start cur + recordSize (content cur)
  before : ∀ p, p < cur → Closed r.state.flash p (content p)
  after : (∀ p, cur < p → p < sectorCount → Closed r.state.flash p (content p)) ∨
    ∀ p, cur < p → p < sectorCount → content p = [] ∧ Open r.state.flash p []
  entries : r.entries = (ringOrder cur).flatMap (sectorEntries content)

section

variable {f : Flash.Cells} {content : Nat → List LogData} {cur : Nat} {r : LogRun}

theorem walk_before (wraps : Prop) {k : Nat} (hk : k < sectorCount)
    (h : ∀ p, p < k → Closed f p (content p)) :
    ∃ n ≤ sectorSteps * k, Walk f wraps n (start 0) (start k) ((List.range k).flatMap content) := by
  induction k with
  | zero => exact ⟨0, Nat.zero_le _, .refl _⟩
  | succ k ih =>
    have hk' : k < sectorCount := Nat.lt_of_succ_lt hk
    obtain ⟨n, hn, hwalk⟩ := ih hk' fun p hp => h p (Nat.lt_succ_of_lt hp)
    obtain ⟨m, hm, hlast⟩ := (h k (Nat.lt_succ_self k)).walk wraps hk'
      fun he => absurd he (Nat.ne_of_lt hk)
    have hnext : next k = k + 1 := if_pos hk
    rw [hnext] at hlast
    refine ⟨n + m, ?_, ?_⟩
    · simp only [sectorSteps] at *
      omega
    · rw [List.range_succ, List.flatMap_append, List.flatMap_singleton]
      exact hwalk.append hlast

theorem walk_after {f : Flash.Cells} {c : Nat → List LogData} {k : Nat} (hk : k < sectorCount)
    (h : ∀ p, sectorCount - 1 - k ≤ p → p < sectorCount → Closed f p (c p)) :
    ∃ n ≤ sectorSteps * (k + 1), Walk f True n (start (sectorCount - 1 - k)) (start 0)
      ((List.range' (sectorCount - 1 - k) (k + 1)).flatMap c) := by
  induction k with
  | zero =>
    obtain ⟨n, hn, hwalk⟩ := (h (sectorCount - 1) (Nat.le_refl _) (by decide)).walk
      True (by decide) fun _ => trivial
    refine ⟨n, by simpa only [sectorSteps] using hn, ?_⟩
    have hflat : (List.range' (sectorCount - 1) 1).flatMap c = c (sectorCount - 1) := by
      simp
    exact hflat.symm ▸ hwalk
  | succ k ih =>
    have hk' : k + 1 < 128 := hk
    have hp : sectorCount - 1 - (k + 1) + 1 = sectorCount - 1 - k := by
      show 127 - (k + 1) + 1 = 127 - k
      omega
    have hlt : sectorCount - 1 - (k + 1) + 1 < sectorCount := by
      show 127 - (k + 1) + 1 < 128
      omega
    obtain ⟨n, hn, hwalk⟩ := ih (Nat.lt_of_succ_lt hk) fun p hp' hp'' => h p (by omega) hp''
    obtain ⟨m, hm, hfirst⟩ := (h (sectorCount - 1 - (k + 1)) (Nat.le_refl _) (by omega)).walk
      True (by omega) fun _ => trivial
    have hnext : next (sectorCount - 1 - (k + 1)) = sectorCount - 1 - k := (if_pos hlt).trans hp
    rw [hnext] at hfirst
    refine ⟨m + n, ?_, ?_⟩
    · simp only [sectorSteps] at *
      omega
    · rw [List.range'_succ, hp, List.flatMap_cons]
      exact hfirst.append hwalk

theorem Ring.walk (h : Ring content cur r) (wraps : Prop) :
    ∃ n ≤ sectorSteps * (cur + 1), Walk r.state.flash wraps n (start 0) r.state.logAddr
      ((List.range (cur + 1)).flatMap content) := by
  obtain ⟨n, hn, hwalk⟩ := walk_before wraps h.cur_lt h.before
  have hroom := h.current.room
  have hlen := length_le_recordSize (content cur)
  refine ⟨n + (content cur).length, ?_, ?_⟩
  · simp only [sectorSteps, sectorSize] at *
    omega
  · rw [List.range_succ, List.flatMap_append, List.flatMap_singleton, h.logAddr]
    exact hwalk.append (h.current.toStored.walk wraps h.cur_lt (Nat.le_of_lt hroom))

theorem Ring.logAddr_lt (h : Ring content cur r) : r.state.logAddr < logEnd := by
  rw [h.logAddr]
  exact start_lt h.cur_lt h.current.room

theorem Ring.event (h : Ring content cur r) :
    (readHead r.state.flash r.state.logAddr).event = 0xFFFF := by
  rw [h.logAddr]
  exact h.current.event

theorem steps_lt {cur n : Nat} (hcur : cur < sectorCount) (hn : n ≤ sectorSteps * (cur + 1)) :
    n < spiFlashSizeLog := by
  have hcur' : cur < 128 := hcur
  simp only [sectorSteps, spiFlashSizeLog] at *
  omega

theorem Ring.findLoop (h : Ring content cur r) :
    Log.findLoop r.state.flash spiFlashSizeLog spiFlashAddrLog = .ok r.state.logAddr := by
  obtain ⟨n, hn, hwalk⟩ := h.walk False
  exact findLoop_walk hwalk h.logAddr_lt h.event (steps_lt h.cur_lt hn)

theorem findEarliest_found {cur x n : Nat} (hx : x < sectorSize) (hcur : cur < sectorCount)
    (h : (readHead f (start (next cur))).event ≠ 0xFFFF) :
    findEarliest f (n + 1) (start cur + x) = some (start (next cur)) := by
  unfold findEarliest
  rw [getNextSectorAddr_start hcur hx]
  exact if_pos h

theorem findEarliest_skip {cur x tries : Nat} (hx : x < sectorSize) (hcur : cur < sectorCount)
    (h : ∀ p, cur < p → p < sectorCount → (readHead f (start p)).event = 0xFFFF)
    (hfirst : (readHead f (start 0)).event ≠ 0xFFFF) (htries : sectorCount - cur ≤ tries) :
    findEarliest f tries (start cur + x) = some (start 0) := by
  induction tries generalizing cur x with
  | zero =>
    have hcur' : cur < 128 := hcur
    have htries' : 128 - cur ≤ 0 := htries
    omega
  | succ tries ih =>
    -- the sector behind is erased while there is one; then comes the first of the zone
    by_cases hlast : cur + 1 < sectorCount
    · have hnext : next cur = cur + 1 := if_pos hlast
      unfold findEarliest
      rw [getNextSectorAddr_start hcur hx, hnext]
      dsimp only
      rw [h (cur + 1) (Nat.lt_succ_self cur) hlast, if_neg (by decide)]
      exact ih (x := 0) (by decide) hlast (fun p hp hp' => h p (Nat.lt_of_succ_lt hp) hp') (by omega)
    · have hnext : next cur = 0 := if_neg hlast
      rw [← hnext] at hfirst ⊢
      exact findEarliest_found hx hcur hfirst

theorem Ring.earliest (h : Ring content cur r) (hne : r.entries ≠ []) :
    ∃ addr, findEarliest r.state.flash sectorCount r.state.logAddr = some addr ∧
      ∃ n < spiFlashSizeLog, Walk r.state.flash True n addr r.state.logAddr
        (r.entries.map LogEntry.data) := by
  have hcur : cur < 128 := h.cur_lt
  have hflat : r.entries.map LogEntry.data = (ringOrder cur).flatMap content := by
    rw [h.entries, List.map_flatMap]
    congr 1
    funext p
    unfold sectorEntries
    rw [List.map_map]
    exact List.map_id _
  obtain ⟨n, hn, hwalk⟩ := h.walk True
  have hroom : recordSize (content cur) < sectorSize := h.current.room
  rw [hflat]
  unfold ringOrder
  rw [List.flatMap_append]
  -- the first sector is the earliest one where those behind the writer are erased
  have hfirst :
      (∀ p, cur < p → p < sectorCount → (readHead r.state.flash (start p)).event = 0xFFFF) →
      (List.range' (cur + 1) (sectorCount - 1 - cur)).flatMap content = [] →
      (readHead r.state.flash (start 0)).event ≠ 0xFFFF →
      ∃ addr, findEarliest r.state.flash sectorCount r.state.logAddr = some addr ∧
        ∃ n < spiFlashSizeLog, Walk r.state.flash True n addr r.state.logAddr
          ((List.range' (cur + 1) (sectorCount - 1 - cur)).flatMap content ++
            (List.range (cur + 1)).flatMap content) := by
    intro herased hempty hhead
    refine ⟨start 0, ?_, n, steps_lt h.cur_lt hn, ?_⟩
    · rw [h.logAddr]
      exact findEarliest_skip hroom h.cur_lt herased hhead (Nat.sub_le _ _)
    · rw [hempty]
      exact hwalk
  by_cases hlast : cur + 1 < sectorCount
  · have hlast' : cur + 1 < 128 := hlast
    rcases h.after with hclosed | herased
    · have hbehind := hclosed (cur + 1) (Nat.lt_succ_self cur) hlast
      have hk : sectorCount - 1 - (126 - cur) = cur + 1 := by
        show 127 - (126 - cur) = cur + 1
        omega
      have hcount : 126 - cur + 1 = sectorCount - 1 - cur := by
        show 126 - cur + 1 = 127 - cur
        omega
      -- the sectors behind the writer are older than those before it
      obtain ⟨m, hm, hafter⟩ := walk_after (k := 126 - cur) (by show 126 - cur < 128; omega)
        (f := r.state.flash) (c := content) (by rw [hk]; exact hclosed)
      rw [hk, hcount] at hafter
      refine ⟨start (cur + 1), ?_, m + n, ?_, hafter.append hwalk⟩
      · have hnext : next cur = cur + 1 := if_pos hlast
        rw [h.logAddr, ← hnext]
        exact findEarliest_found (n := 127) hroom h.cur_lt (hnext ▸ hbehind.event hlast)
      · simp only [sectorSteps, spiFlashSizeLog] at *
        omega
    · have hnil : (List.range' (cur + 1) (sectorCount - 1 - cur)).flatMap content = [] := by
        rw [List.flatMap_eq_nil_iff]
        intro p hp
        rw [List.mem_range'_1] at hp
        have hp' : p < sectorCount := by
          have hlt : p < cur + 1 + (127 - cur) := hp.2
          show p < 128
          omega
        exact (herased p hp.1 hp').1
      refine hfirst (fun p hp hp' => (herased p hp hp').2.event) hnil ?_
      cases cur with
      | succ cur => exact (h.before 0 (Nat.succ_pos cur)).event (by decide)
      | zero =>
        -- with one sector in use, the records are all in it
        have hcontent : content 0 ≠ [] := by
          intro hempty
          have hall : r.entries.map LogEntry.data = [] := by
            rw [hflat]
            unfold ringOrder
            rw [List.flatMap_append, hnil, List.range_one, List.flatMap_singleton, hempty]
            rfl
          exact hne (List.map_eq_nil_iff.mp hall)
        obtain ⟨d, ds, hds⟩ := List.exists_cons_of_ne_nil hcontent
        have hstored := h.current.toStored.walk True h.cur_lt (Nat.le_of_lt hroom)
        rw [hds] at hstored
        exact hstored.not_erased
  · have hlast' : ¬cur + 1 < 128 := hlast
    -- nothing is behind the last sector, and the next one is the first
    obtain rfl : cur = 127 := by omega
    exact hfirst (fun p hp hp' => absurd hp' (by show ¬p < 128; omega)) rfl
      ((h.before 0 (by decide)).event (by decide))

end

end Keystone3.Log
