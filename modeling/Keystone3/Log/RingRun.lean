import Keystone3.Log.Ring

/-!
# Runs of the log

One record leaves the zone a ring, if it does not end exactly with the sector that it
would begin in (`Ring.write`): it stays in the current sector (`Ring.write_inside`), or
closes that and goes to the next one (`Ring.write_across`, `Ring.write_full`). So every
restart in a run of such records recovers the log (`log_recovers`).
-/

namespace Keystone3.Log

open Bytes (toLe)
open Logic (Outcome AllSteps runSteps)
open Flash (Cells eraseSector program program_out)
open Function (update_of_ne update_self)

def LogRun.write (d : LogData) (r : LogRun) : LogRun :=
  let addr := r.state.logAddr
  let erases := addr % sectorSize + d.bytes.length ≥ sectorSize
  let kept := if erases then
      r.entries.filter fun e => e.sector ≠ getNextSectorAddr addr / sectorSize
    else r.entries
  { state := writeLogDataToFlash d.bytes r.state
    entries := kept ++ [⟨(eraseNextSector d.bytes.length r.state).logAddr / sectorSize, d⟩] }

section

variable {f : Cells} {p q x y : Nat} {b : List UInt8}

theorem erase_self (hx : x < sectorSize) :
    eraseSector sectorSize (start p) f (start p + x) = Flash.erased :=
  Flash.eraseSector_in f ⟨Nat.le_add_right _ _, by omega⟩

theorem erase_other (h : q ≠ p) (hx : x < sectorSize) :
    eraseSector sectorSize (start p) f (start q + x) = f (start q + x) := by
  refine Flash.eraseSector_out f fun hin => ?_
  obtain ⟨y, hy⟩ := Nat.exists_eq_add_of_le hin.1
  exact start_ne h hx (y := y) (by omega) hy

theorem program_other (h : q ≠ p) (hx : x + b.length ≤ sectorSize) (hy : y < sectorSize) :
    program (start p + x) b f (start q + y) = f (start q + y) := by
  refine program_out f fun hin => ?_
  obtain ⟨z, hz⟩ := Nat.exists_eq_add_of_le hin.1
  exact start_ne h hy (y := x + z) (by omega) (by omega)

theorem program_behind (h : x + b.length ≤ y) :
    program (start p + x) b f (start p + y) = f (start p + y) :=
  program_out f (by omega)

variable {ds : List LogData} {d : LogData}

theorem Open.stored_append (h : Open f p ds) (hd : d.Valid)
    (hroom : recordSize ds + d.size ≤ sectorSize) :
    Stored (program (start p + recordSize ds) d.bytes f) p (ds ++ [d]) := by
  refine ⟨fun e he => ?_, ?_⟩
  · rcases List.mem_append.mp he with he | he
    · exact h.valid e he
    · rw [List.mem_singleton.mp he]
      exact hd
  · have hold : Flash.read (program (start p + recordSize ds) d.bytes f) (start p)
        (recordSize ds) = recordBytes ds := by
      rw [← h.stands]
      exact Flash.read_congr fun y hy hy' => program_out f (by omega)
    have hnew := @Flash.read_program f (start p + recordSize ds) d.bytes fun j hj => by
      rw [Nat.add_assoc]
      rw [d.length_bytes] at hj
      exact h.erased _ (Nat.le_add_right _ _) (by omega)
    rw [d.length_bytes] at hnew
    rw [recordSize_append, read_add, hold, recordSize_cons, recordSize_nil, Nat.add_zero, hnew]
    simp [recordBytes]

theorem Open.append (h : Open f p ds) (hd : d.Valid) (hroom : recordSize ds + d.size < sectorSize) :
    Open (program (start p + recordSize ds) d.bytes f) p (ds ++ [d]) := by
  have hsize : recordSize (ds ++ [d]) = recordSize ds + d.size := by simp
  refine ⟨h.stored_append hd (Nat.le_of_lt hroom), hsize ▸ hroom, fun x hx hx' => ?_⟩
  rw [hsize] at hx
  rw [program_behind (by rw [d.length_bytes]; exact hx)]
  exact h.erased x (by omega) hx'

theorem Open.mark (h : Open f p ds) (hne : ds ≠ []) :
    Closed (program (start p + recordSize ds) (toLe 2 nextSectorMark) f) p ds := by
  refine ⟨⟨h.valid, ?_⟩, hne, .inl ⟨h.room_mark, ?_⟩⟩
  · rw [← h.stands]
    exact Flash.read_congr fun y hy hy' => program_out f (by omega)
  · have hroom := h.room_mark
    have hmark := @Flash.read_program f (start p + recordSize ds) (toLe 2 nextSectorMark)
      fun j hj => by
        rw [Nat.add_assoc]
        rw [Bytes.length_toLe] at hj
        exact h.erased _ (Nat.le_add_right _ _) (by omega)
    rw [Bytes.length_toLe] at hmark
    rw [event_readHead, hmark]
    decide

theorem open_erased (h : ∀ x, x < sectorSize → f (start p + x) = Flash.erased) : Open f p [] :=
  ⟨⟨fun _ he => absurd he List.not_mem_nil, rfl⟩, by decide, fun x _ hx => h x hx⟩

end

section

variable {content : Nat → List LogData} {cur : Nat} {r : LogRun} {d : LogData} {s : LogState}

theorem write_inside (h : s.logAddr % sectorSize + d.size < sectorSize) :
    writeLogDataToFlash d.bytes s
      = ⟨program s.logAddr d.bytes s.flash, s.logAddr + d.size⟩ := by
  unfold writeLogDataToFlash eraseNextSector
  rw [d.length_bytes, if_neg (by omega)]
  dsimp only
  rw [Flash.programPages_eq (by decide)]

theorem write_across (h : sectorSize < s.logAddr % sectorSize + d.size) :
    writeLogDataToFlash d.bytes s
      = ⟨program (getNextSectorAddr s.logAddr) d.bytes
          (program s.logAddr (toLe 2 nextSectorMark)
            (eraseSector sectorSize (getNextSectorAddr s.logAddr) s.flash)),
        getNextSectorAddr s.logAddr + d.size⟩ := by
  unfold writeLogDataToFlash eraseNextSector
  rw [d.length_bytes, if_pos (by omega)]
  dsimp only
  rw [if_pos h, Flash.programPages_eq (by decide), Flash.programPages_eq (by decide)]

/-- Where a record can be written: it does not end exactly with the sector that it begins in,
and one that fills a sector has an erased sector of the zone behind it. -/
def FitsZone (d : LogData) (s : LogState) : Prop :=
  s.logAddr % sectorSize + d.size ≠ sectorSize ∧
    (d.size = sectorSize → getNextSectorAddr s.logAddr + sectorSize < logEnd ∧
      (readHead s.flash (getNextSectorAddr s.logAddr + sectorSize)).event = 0xFFFF)

theorem Ring.offset (h : Ring content cur r) :
    r.state.logAddr % sectorSize = recordSize (content cur) := by
  rw [h.logAddr]
  exact start_mod h.current.room

theorem Ring.nextAddr (h : Ring content cur r) :
    getNextSectorAddr r.state.logAddr = start (next cur) := by
  rw [h.logAddr]
  exact getNextSectorAddr_start h.cur_lt h.current.room

theorem start_div {p x : Nat} (hx : x < sectorSize) :
    (start p + x) / sectorSize = start p / sectorSize := by
  have hx' : x < 4096 := hx
  unfold start
  simp only [spiFlashAddrLog, sectorSize] at *
  omega

theorem start_div_ne {p q : Nat} (h : p ≠ q) : start p / sectorSize ≠ start q / sectorSize := by
  unfold start
  simp only [spiFlashAddrLog, sectorSize]
  omega

theorem ringOrder_current (cur : Nat) : ∃ init, ringOrder cur = init ++ [cur] ∧ cur ∉ init := by
  refine ⟨List.range' (cur + 1) (sectorCount - 1 - cur) ++ List.range cur, ?_, ?_⟩
  · unfold ringOrder
    rw [List.range_succ, List.append_assoc]
  · rw [List.mem_append, List.mem_range'_1, List.mem_range]
    omega

theorem flatMap_update {content : Nat → List LogData} {ps : List Nat} {p : Nat}
    {ds : List LogData} (h : p ∉ ps) :
    ps.flatMap (sectorEntries (Function.update content p ds))
      = ps.flatMap (sectorEntries content) := by
  refine List.flatMap_congr fun q hq => ?_
  unfold sectorEntries
  rw [update_of_ne fun he : q = p => h (by rw [← he]; exact hq)]

theorem Ring.write_inside (h : Ring content cur r) (hd : d.Valid)
    (hroom : recordSize (content cur) + d.size < sectorSize) :
    Ring (Function.update content cur (content cur ++ [d])) cur (r.write d) := by
  have hoff : r.state.logAddr % sectorSize + d.size < sectorSize := by
    rw [h.offset]
    exact hroom
  have hwrite := Log.write_inside hoff
  have hflash : (r.write d).state.flash
      = program (start cur + recordSize (content cur)) d.bytes r.state.flash := by
    rw [← h.logAddr]
    exact congrArg LogState.flash hwrite
  -- the record is programmed into this sector, and the others keep what they hold
  have hothers : ∀ p, p ≠ cur → ∀ x, x < sectorSize →
      (r.write d).state.flash (start p + x) = r.state.flash (start p + x) := by
    intro p hp x hx
    rw [hflash]
    exact program_other hp (by rw [d.length_bytes]; omega) hx
  have hne : ∀ {p}, p ≠ cur → Function.update content cur (content cur ++ [d]) p = content p :=
    fun hp => update_of_ne hp _ _
  refine ⟨h.cur_lt, ?_, ?_, fun p hp => ?_, ?_, ?_⟩
  · rw [update_self, hflash]
    exact h.current.append hd hroom
  · rw [update_self, recordSize_append, recordSize_cons, recordSize_nil, Nat.add_zero,
      ← Nat.add_assoc, ← h.logAddr]
    exact congrArg LogState.logAddr hwrite
  · have hp' : p ≠ cur := Nat.ne_of_lt hp
    rw [hne hp']
    exact (h.before p hp).congr (hothers p hp')
  · rcases h.after with hclosed | herased
    · refine .inl fun p hp hp' => ?_
      have hp'' : p ≠ cur := Nat.ne_of_gt hp
      rw [hne hp'']
      exact (hclosed p hp hp').congr (hothers p hp'')
    · refine .inr fun p hp hp' => ?_
      have hp'' : p ≠ cur := Nat.ne_of_gt hp
      rw [hne hp'']
      exact ⟨(herased p hp hp').1, (herased p hp hp').2.congr (hothers p hp'')⟩
  · obtain ⟨init, horder, hinit⟩ := ringOrder_current cur
    have hkept : (r.write d).entries = r.entries ++ [⟨r.state.logAddr / sectorSize, d⟩] := by
      unfold LogRun.write eraseNextSector
      dsimp only
      rw [d.length_bytes, if_neg (by omega), if_neg (by omega)]
    rw [hkept, h.entries, horder, List.flatMap_append, List.flatMap_append, flatMap_update hinit,
      List.flatMap_singleton, List.flatMap_singleton, List.append_assoc]
    congr 1
    unfold sectorEntries
    rw [update_self, List.map_append, h.logAddr, start_div h.current.room]
    rfl

end

section

variable {content : Nat → List LogData} {cur : Nat} {r : LogRun} {d : LogData}

theorem next_ne (cur : Nat) : next cur ≠ cur := by
  unfold next
  by_cases h : cur + 1 < sectorCount
  · rw [if_pos h]
    omega
  · have h' : ¬cur + 1 < 128 := h
    rw [if_neg h]
    omega

/-- What a record leaves that does not fit the current sector. -/
structure Crossed (content : Nat → List LogData) (cur : Nat) (d : LogData) (r r' : LogRun) :
    Prop where
  logAddr : r'.state.logAddr = start (next cur) + d.size
  left : Closed r'.state.flash cur (content cur)
  stored : Stored r'.state.flash (next cur) [d]
  erased : ∀ x, d.size ≤ x → x < sectorSize → r'.state.flash (start (next cur) + x) = Flash.erased
  others : ∀ p, p ≠ cur → p ≠ next cur → ∀ x, x < sectorSize →
    r'.state.flash (start p + x) = r.state.flash (start p + x)
  entries : r'.entries
    = (ringOrder (next cur)).flatMap (sectorEntries (Function.update content (next cur) [d]))

theorem filter_sector (content : Nat → List LogData) (p q : Nat) :
    (sectorEntries content q).filter (fun e => e.sector ≠ start p / sectorSize)
      = if q = p then [] else sectorEntries content q := by
  unfold sectorEntries
  split
  · next he =>
    subst he
    simp
  · next hne =>
    rw [List.filter_eq_self]
    intro e he
    obtain ⟨d, -, rfl⟩ := List.mem_map.mp he
    exact decide_eq_true (start_div_ne hne)

theorem Ring.crossed (h : Ring content cur r) (hd : d.Valid)
    (hroom : sectorSize < recordSize (content cur) + d.size) :
    Crossed content cur d r (r.write d) := by
  have hfits := hd.fits
  have hoff : sectorSize < r.state.logAddr % sectorSize + d.size := by
    rw [h.offset]
    exact hroom
  have hne : content cur ≠ [] := by
    intro hempty
    rw [hempty, recordSize_nil] at hroom
    omega
  have hnext : next cur ≠ cur := next_ne cur
  have hwrite := write_across hoff
  rw [h.nextAddr, h.logAddr] at hwrite
  have hflash : (r.write d).state.flash
      = program (start (next cur)) d.bytes
          (program (start cur + recordSize (content cur)) (toLe 2 nextSectorMark)
            (eraseSector sectorSize (start (next cur)) r.state.flash)) :=
    congrArg LogState.flash hwrite
  have hmark : recordSize (content cur) + (toLe 2 nextSectorMark).length ≤ sectorSize := by
    have hlen := h.current.room_mark
    rw [Bytes.length_toLe]
    omega
  have hbytes : 0 + d.bytes.length ≤ sectorSize := by
    rw [d.length_bytes]
    omega
  -- the writer erases the next sector, marks this one as left, and then programs the record
  have herased : Open (program (start cur + recordSize (content cur)) (toLe 2 nextSectorMark)
      (eraseSector sectorSize (start (next cur)) r.state.flash)) (next cur) [] := by
    refine open_erased fun x hx => ?_
    rw [program_other hnext hmark hx]
    exact erase_self hx
  have hclosed : Closed (program (start cur + recordSize (content cur))
      (toLe 2 nextSectorMark) (eraseSector sectorSize (start (next cur)) r.state.flash))
      cur (content cur) :=
    Open.mark (h.current.congr fun x hx => erase_other hnext.symm hx) hne
  refine ⟨congrArg LogState.logAddr hwrite, ?_, ?_, fun x hx hx' => ?_, fun p hp hp' x hx => ?_, ?_⟩
  · rw [hflash]
    exact hclosed.congr fun x hx => program_other (x := 0) hnext.symm hbytes hx
  · rw [hflash]
    exact herased.stored_append hd (by rw [recordSize_nil]; omega)
  · rw [hflash]
    have hbehind := program_behind (f := program (start cur + recordSize (content cur))
      (toLe 2 nextSectorMark) (eraseSector sectorSize (start (next cur)) r.state.flash))
      (p := next cur) (x := 0) (y := x) (b := d.bytes) (by rw [d.length_bytes]; omega)
    exact hbehind.trans (herased.erased x (Nat.zero_le x) hx')
  · rw [hflash]
    have hrecord := program_other (f := program (start cur + recordSize (content cur))
      (toLe 2 nextSectorMark) (eraseSector sectorSize (start (next cur)) r.state.flash))
      (x := 0) (b := d.bytes) hp' hbytes hx
    exact hrecord.trans ((program_other hp hmark hx).trans (erase_other hp' hx))
  · obtain ⟨rest, horder, hnew, hrest⟩ := ringOrder_next h.cur_lt
    have hkept : (r.write d).entries
        = r.entries.filter (fun e => e.sector ≠ start (next cur) / sectorSize)
          ++ [⟨start (next cur) / sectorSize, d⟩] := by
      unfold LogRun.write eraseNextSector
      dsimp only
      rw [d.length_bytes, if_pos (by omega), if_pos (by omega), h.nextAddr]
    rw [hkept, h.entries, horder, hnew, List.flatMap_append, flatMap_update hrest,
      List.flatMap_cons, List.filter_append, filter_sector, if_pos rfl, List.nil_append,
      List.flatMap_singleton, List.filter_flatMap]
    congr 1
    · refine List.flatMap_congr fun q hq => ?_
      rw [filter_sector, if_neg fun he : q = next cur => hrest (he ▸ hq)]
    · unfold sectorEntries
      rw [update_self]
      rfl

theorem Ring.write_across (h : Ring content cur r) (hd : d.Valid)
    (hroom : sectorSize < recordSize (content cur) + d.size) (hsize : d.size < sectorSize) :
    Ring (Function.update content (next cur) [d]) (next cur) (r.write d) := by
  have hc := h.crossed hd hroom
  have hother : ∀ {p}, p ≠ next cur → Function.update content (next cur) [d] p = content p :=
    fun hp => update_of_ne hp _ _
  have hsum : recordSize [d] = d.size := by simp
  -- what was closed before stays closed, the sector that the writer leaves included
  have hclosed : ∀ p, p ≠ next cur → (p ≠ cur → Closed r.state.flash p (content p)) →
      Closed (r.write d).state.flash p (Function.update content (next cur) [d] p) := by
    intro p hp hp'
    rw [hother hp]
    by_cases he : p = cur
    · rw [he]
      exact hc.left
    · exact (hp' he).congr (hc.others p he hp)
  refine ⟨next_lt cur, ?_, ?_, ?_, ?_, hc.entries⟩
  · rw [update_self]
    exact ⟨hc.stored, hsum ▸ hsize, fun x hx hx' => hc.erased x (hsum ▸ hx) hx'⟩
  · rw [update_self, hsum]
    exact hc.logAddr
  · intro p hp
    refine hclosed p (Nat.ne_of_lt hp) fun he => h.before p ?_
    by_cases hlast : cur + 1 < sectorCount
    · have hnext : next cur = cur + 1 := if_pos hlast
      omega
    · have hnext : next cur = 0 := if_neg hlast
      omega
  · by_cases hlast : cur + 1 < sectorCount
    · have hnext : next cur = cur + 1 := if_pos hlast
      rcases h.after with hafter | hafter
      · exact .inl fun p hp hp' => hclosed p (Nat.ne_of_gt hp) fun _ =>
          hafter p (by omega) hp'
      · refine .inr fun p hp hp' => ?_
        have hp'' : p ≠ next cur := Nat.ne_of_gt hp
        obtain ⟨hempty, hopen⟩ := hafter p (by omega) hp'
        rw [hother hp'']
        exact ⟨hempty, hopen.congr (hc.others p (by omega) hp'')⟩
    · have hcur := h.cur_lt
      refine .inl fun p hp hp' => hclosed p (Nat.ne_of_gt hp) fun he => h.before p ?_
      omega

theorem Ring.write_full (h : Ring content cur r) (hd : d.Valid)
    (hroom : sectorSize < recordSize (content cur) + d.size) (hsize : d.size = sectorSize)
    (hbehind : next cur + 1 < sectorCount)
    (herased : (readHead r.state.flash (start (next cur + 1))).event = 0xFFFF) :
    Ring (Function.update content (next cur) [d]) (next cur + 1) (r.write d) := by
  have hc := h.crossed hd hroom
  have hother : ∀ {p}, p ≠ next cur → Function.update content (next cur) [d] p = content p :=
    fun hp => update_of_ne hp _ _
  have hsum : recordSize [d] = d.size := by simp
  -- the erased sector is behind the writer, in the first round of the ring
  have hlast : cur + 1 < sectorCount := by
    by_contra hlast
    have hnext : next cur = 0 := if_neg hlast
    rw [hnext] at herased
    have hlast' : ¬cur + 1 < 128 := hlast
    exact (h.before 1 (by omega)).event (by decide) herased
  have hnext : next cur = cur + 1 := if_pos hlast
  rw [hnext] at hbehind herased hother ⊢
  -- so all sectors behind the writer are erased ones
  have hafter : ∀ p, cur < p → p < sectorCount → content p = [] ∧ Open r.state.flash p [] := by
    rcases h.after with hafter | hafter
    · exact absurd herased ((hafter (cur + 1 + 1) (by omega) hbehind).event hbehind)
    · exact hafter
  have hempty : Function.update content (cur + 1) [d] (cur + 1 + 1) = [] := by
    rw [hother (by omega)]
    exact (hafter _ (by omega) hbehind).1
  have hopen : ∀ p, cur + 1 < p → p < sectorCount → Open (r.write d).state.flash p [] :=
    fun p hp hp' =>
      (hafter p (by omega) hp').2.congr (hc.others p (by omega) (by rw [hnext]; omega))
  refine ⟨hbehind, ?_, ?_, fun p hp => ?_, .inr fun p hp hp' => ?_, ?_⟩
  · rw [hempty]
    exact hopen _ (by omega) hbehind
  · rw [hempty, hc.logAddr, hnext, hsize, recordSize_nil]
    unfold start
    simp only [spiFlashAddrLog, sectorSize]
    omega
  · by_cases hp' : p = cur + 1
    · rw [hp', update_self, ← hnext]
      exact ⟨hc.stored, List.cons_ne_nil _ _,
        .inr ⟨hsum.trans hsize, by rw [hnext]; exact hbehind⟩⟩
    · rw [hother hp']
      by_cases he : p = cur
      · rw [he]
        exact hc.left
      · exact (h.before p (by omega)).congr (hc.others p he (by rw [hnext]; exact hp'))
  · rw [hother (by omega)]
    exact ⟨(hafter p (by omega) hp').1, hopen p (by omega) hp'⟩
  · obtain ⟨rest, horder, hnew, -⟩ := ringOrder_next hlast
    have hnext' : next (cur + 1) = cur + 1 + 1 := if_pos hbehind
    have hnone : sectorEntries (Function.update content (cur + 1) [d]) (cur + 1 + 1) = [] := by
      unfold sectorEntries
      rw [hempty]
      rfl
    -- the new current sector has no records: it leaves the front of the order and joins its end
    have hentries := hc.entries
    rw [hnext, horder, hnext', List.flatMap_cons, hnone, List.nil_append] at hentries
    rw [hentries, ← hnext', hnew, hnext', List.flatMap_append, List.flatMap_singleton, hnone,
      List.append_nil]

end

structure LogOp where
  record : LogData
  reboots : Bool

def logStep (op : LogOp) : Option LogRun → Option LogRun
  | none => none
  | some r =>
    let r := r.write op.record
    if op.reboots then
      match logInit r.state with
      | .ok state => some ⟨state, r.entries⟩
      | _ => none
    else some r

def LogOp.Fits (op : LogOp) : Option LogRun → Prop
  | none => False
  | some r => FitsZone op.record r.state

def LogRun.start (f : Cells) : LogRun := ⟨⟨f, spiFlashAddrLog⟩, []⟩

/-- A restart finds the position of the writer, leaves the zone as it is, and a walk from the
earliest record passes those that were not erased. -/
structure Recovers (r : LogRun) : Prop where
  offset : findLogOffsetAddr r.state = .ok (r.state.logAddr, r.state)
  kept : checkLogData r.state = .ok r.state
  walk : ∃ readAddr, findEarliest r.state.flash sectorCount r.state.logAddr = some readAddr ∧
    checkLoop r.state.flash r.state.logAddr spiFlashSizeLog readAddr
      = .ok (r.entries.map fun e => e.data.bytes)

section

variable {content : Nat → List LogData} {cur : Nat} {r : LogRun} {f : Cells} {op : LogOp}

theorem Ring.recovers (h : Ring content cur r) (hne : r.entries ≠ []) : Recovers r := by
  obtain ⟨readAddr, hearliest, n, hn, hwalk⟩ := h.earliest hne
  have hcheck := checkLoop_walk hwalk h.logAddr_lt h.event hn
  rw [List.map_map] at hcheck
  refine ⟨?_, ?_, readAddr, hearliest, hcheck⟩
  · unfold findLogOffsetAddr
    rw [h.findLoop]
  · unfold checkLogData
    rw [hearliest]
    dsimp only
    rw [hcheck]

theorem Recovers.reboot (h : Recovers r) : logInit r.state = .ok r.state := by
  unfold logInit
  rw [h.offset]
  exact h.kept

theorem Ring.write (h : Ring content cur r) {d : LogData} (hd : d.Valid)
    (hfits : FitsZone d r.state) : ∃ content' cur', Ring content' cur' (r.write d) := by
  obtain ⟨hexact, hfull⟩ := hfits
  rw [h.offset] at hexact
  rw [h.nextAddr] at hfull
  by_cases hinside : recordSize (content cur) + d.size < sectorSize
  · exact ⟨_, _, h.write_inside hd hinside⟩
  · have hacross : sectorSize < recordSize (content cur) + d.size := by omega
    by_cases hsize : d.size = sectorSize
    · obtain ⟨hend, hhead⟩ := hfull hsize
      have hstart : start (next cur) + sectorSize = start (next cur + 1) := by
        unfold start
        simp only [sectorSize]
        omega
      have hbehind : next cur + 1 < sectorCount := by
        unfold start at hend
        simp only [spiFlashAddrLog, sectorSize, logEnd, spiFlashSizeLog] at hend
        show _ < 128
        omega
      exact ⟨_, _, h.write_full hd hacross hsize hbehind (hstart ▸ hhead)⟩
    · have hfits := hd.fits
      exact ⟨_, _, h.write_across hd hacross (by omega)⟩

def InRing : Option LogRun → Prop
  | none => False
  | some r => ∃ content cur, Ring content cur r

theorem LogRun.write_nonempty (r : LogRun) (d : LogData) : (r.write d).entries ≠ [] := by
  unfold LogRun.write
  exact List.append_ne_nil_of_right_ne_nil _ (List.cons_ne_nil _ _)

theorem logStep_ring {r : Option LogRun} (hd : op.record.Valid) (hfits : op.Fits r)
    (h : InRing r) :
    ∃ s, logStep op r = some s ∧ InRing (some s) ∧ s.entries ≠ [] := by
  cases r with
  | none => exact h.elim
  | some r =>
    obtain ⟨content, cur, hring⟩ := h
    obtain ⟨content', cur', hwritten⟩ := hring.write hd hfits
    have hne := r.write_nonempty op.record
    refine ⟨r.write op.record, ?_, ⟨content', cur', hwritten⟩, hne⟩
    unfold logStep
    dsimp only
    cases op.reboots with
    | false => rfl
    | true => rw [(hwritten.recovers hne).reboot, if_pos rfl]

theorem ring_start (h : ∀ x, spiFlashAddrLog ≤ x → x < logEnd → f x = Flash.erased) :
    Ring (fun _ => []) 0 (LogRun.start f) := by
  have hopen : ∀ p, p < sectorCount → Open f p [] := by
    intro p hp
    exact open_erased fun x hx => h _ (by unfold Log.start; omega) (start_lt hp hx)
  refine ⟨by decide, hopen 0 (by decide), rfl, fun p hp => absurd hp (Nat.not_lt_zero p),
    .inr fun p _ hp => ⟨rfl, hopen p hp⟩, ?_⟩
  exact (List.flatMap_eq_nil_iff.mpr fun p _ => rfl).symm

theorem runSteps_ring (ops : List LogOp) {r : Option LogRun} (hvalid : ∀ op ∈ ops, op.record.Valid)
    (hfits : AllSteps logStep LogOp.Fits ops r) (h : InRing r)
    (hentries : ops = [] → ∀ s, r = some s → s.entries ≠ []) :
    ∃ s, runSteps logStep ops r = some s ∧ InRing (some s) ∧ s.entries ≠ [] := by
  induction ops generalizing r with
  | nil =>
    cases r with
    | none => exact h.elim
    | some s => exact ⟨s, rfl, h, hentries rfl s rfl⟩
  | cons op ops ih =>
    obtain ⟨s, hs, hring, hne⟩ := logStep_ring (hvalid op (.head _)) hfits.1 h
    have hlater := hfits.2
    show ∃ s, runSteps logStep ops (logStep op r) = some s ∧ _
    rw [hs] at hlater ⊢
    refine ih (fun o ho => hvalid o (List.mem_cons_of_mem op ho)) hlater hring fun _ s' hs' => ?_
    rw [← Option.some.inj hs']
    exact hne

/-- After every run whose records can each be written where the writer is, a restart recovers
the log. -/
theorem log_recovers (herased : ∀ x, spiFlashAddrLog ≤ x → x < logEnd → f x = Flash.erased)
    {ops : List LogOp} (hvalid : ∀ op ∈ ops, op.record.Valid) (hne : ops ≠ [])
    (hfits : AllSteps logStep LogOp.Fits ops (some (LogRun.start f))) :
    ∃ r, runSteps logStep ops (some (LogRun.start f)) = some r ∧ Recovers r := by
  obtain ⟨r, hr, ⟨content, cur, hring⟩, hentries⟩ := runSteps_ring ops hvalid hfits
    ⟨_, _, ring_start herased⟩ fun hnil => absurd hnil hne
  exact ⟨r, hr, hring.recovers hentries⟩

end

/-- A record with `n` words of zeros. -/
def LogData.sample (n : Nat) (h : n < 2 ^ 11) : LogData where
  event := 0x1001
  length := ⟨n, h⟩
  dataType := false
  timeStamp := 1700000000
  pData := ⟨List.replicate (4 * n) 0, List.length_replicate⟩

theorem LogData.valid_sample {n : Nat} (h : n < 2 ^ 11) (hfits : 8 + n * 4 ≤ 4096) :
    (LogData.sample n h).Valid :=
  ⟨(by decide : 0x1001 ≠ nextSectorMark), (by decide : 0x1001 ≠ 0xFFFF), hfits⟩

instance (d : LogData) (s : LogState) : Decidable (FitsZone d s) :=
  inferInstanceAs (Decidable (_ ∧ _))

instance (op : LogOp) (r : Option LogRun) : Decidable (op.Fits r) :=
  match r with
  | none => isFalse id
  | some r => inferInstanceAs (Decidable (FitsZone op.record r.state))

def sampleOps : List LogOp :=
  [⟨.sample 500 (by decide), false⟩, ⟨.sample 500 (by decide), true⟩,
    ⟨.sample 100 (by decide), true⟩]

theorem log_recovers_sample :
    ∃ r, runSteps logStep sampleOps (some (LogRun.start fun _ => Flash.erased)) = some r ∧
      Recovers r := by
  refine log_recovers (fun _ _ _ => rfl) (fun op hop => ?_) (List.cons_ne_nil _ _)
    (by decide +kernel)
  rcases List.mem_cons.mp hop with rfl | hop
  · exact LogData.valid_sample _ (by decide)
  rcases List.mem_cons.mp hop with rfl | hop
  · exact LogData.valid_sample _ (by decide)
  · rw [List.mem_singleton.mp hop]
    exact LogData.valid_sample _ (by decide)

def exactFitOps : List LogOp := [⟨.sample 510 (by decide), false⟩, ⟨.sample 510 (by decide), false⟩]

set_option maxRecDepth 16384 in
/-- The second record went to the next sector, and nothing in flash says so: the position that
is found is the gap that it left. -/
theorem exact_fit_lost :
    ¬∀ (f : Flash.Cells) (ops : List LogOp),
      (∀ x, spiFlashAddrLog ≤ x → x < logEnd → f x = Flash.erased) →
      (∀ op ∈ ops, op.record.Valid) → ops ≠ [] →
      ∃ r, runSteps logStep ops (some (LogRun.start f)) = some r ∧ Recovers r := by
  intro h
  have hvalid : ∀ op ∈ exactFitOps, op.record.Valid := by
    intro op hop
    rcases List.mem_cons.mp hop with rfl | hop
    · exact LogData.valid_sample _ (by decide)
    · rw [List.mem_singleton.mp hop]
      exact LogData.valid_sample _ (by decide)
  obtain ⟨r, hr, hrecovers⟩ :=
    h (fun _ => Flash.erased) exactFitOps (fun _ _ _ => rfl) hvalid (List.cons_ne_nil _ _)
  have hrun : r = ((LogRun.start fun _ => Flash.erased).write (.sample 510 (by decide))).write
      (.sample 510 (by decide)) := (Option.some.inj hr).symm
  have hfound : findLoop r.state.flash spiFlashSizeLog spiFlashAddrLog
      = .ok (spiFlashAddrLog + 2048) := by
    rw [hrun]
    decide
  have hwriter : r.state.logAddr = spiFlashAddrLog + sectorSize + 2048 := by
    rw [hrun]
    decide
  have hoffset := hrecovers.offset
  unfold findLogOffsetAddr at hoffset
  rw [hfound, hwriter] at hoffset
  have haddr : spiFlashAddrLog + 2048 = spiFlashAddrLog + sectorSize + 2048 :=
    congrArg Prod.fst (Outcome.ok.inj hoffset)
  cases haddr

end Keystone3.Log
