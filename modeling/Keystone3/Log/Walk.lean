import Keystone3.Log.Zone

/-!
# Walks over the log zone

A walk goes from head to head: behind a record to the next head, at a mark to the
next sector. Both readers go the way that a walk goes, the one to the first erased
head (`findLoop_walk`), the other to the writer's position (`checkLoop_walk`), and
a walk passes the records that stand in flash (`walk_records`).
-/

namespace Keystone3.Log

open Bytes (toLe ofLe)

/-- The records `ds` one after the other. -/
def recordBytes (ds : List LogData) : List UInt8 := ds.flatMap LogData.bytes

def recordSize (ds : List LogData) : Nat := (ds.map LogData.size).sum

@[simp] theorem recordSize_nil : recordSize [] = 0 := rfl

@[simp] theorem recordSize_cons (d : LogData) (ds : List LogData) :
    recordSize (d :: ds) = d.size + recordSize ds := rfl

@[simp] theorem recordSize_append (ds es : List LogData) :
    recordSize (ds ++ es) = recordSize ds + recordSize es := by
  simp [recordSize]

section

variable {f : Flash.Cells} {addr : Nat}

theorem read_add (f : Flash.Cells) (addr m n : Nat) :
    Flash.read f addr (m + n) = Flash.read f addr m ++ Flash.read f (addr + m) n := by
  unfold Flash.read
  rw [List.range_add, List.map_append, List.map_map]
  simp only [Function.comp_def, Nat.add_assoc]

theorem event_readHead : (readHead f addr).event = ofLe (Flash.read f addr 2) := by
  have hsplit := read_add f addr 2 6
  unfold readHead
  dsimp only
  rw [show logDataHeadSize = 2 + 6 from rfl, hsplit, List.take_left' (Flash.length_read f addr 2)]

theorem event_erased (h : ∀ x, addr ≤ x → x < addr + 2 → f x = Flash.erased) :
    (readHead f addr).event = 0xFFFF := by
  have hread : Flash.read f addr 2 = [Flash.erased, Flash.erased] := by
    show [f (addr + 0), f (addr + 1)] = _
    rw [h _ (by omega) (by omega), h _ (by omega) (by omega)]
  rw [event_readHead, hread]
  decide

theorem readHead_record {d : LogData} (h : Flash.read f addr d.size = d.bytes) :
    (readHead f addr).event = d.event.toNat ∧ (readHead f addr).length = d.length.val ∧
      (readHead f addr).checksumRight = true := by
  have hhead : Flash.read f addr logDataHeadSize
      = toLe 2 d.event.toNat ++ (toLe 2 d.bitFields ++ toLe 4 d.timeStamp.toNat) := by
    have hsplit := read_add f addr logDataHeadSize (d.length.val * 4)
    have hbytes : d.bytes = (toLe 2 d.event.toNat ++ (toLe 2 d.bitFields ++
        toLe 4 d.timeStamp.toNat)) ++ d.pData.bytes := by
      simp only [LogData.bytes, List.append_assoc]
    refine (List.append_inj (hsplit.symm.trans (h.trans hbytes)) ?_).1
    simp only [Flash.length_read, List.length_append, Bytes.length_toLe, logDataHeadSize]
  have hlen := d.length.isLt
  have hsum : d.checksum < 2 ^ 4 := Nat.mod_lt _ (by decide)
  have htype : d.dataType.toNat ≤ 1 := Bool.toNat_le d.dataType
  have hbits : d.bitFields < 256 ^ 2 := by
    unfold LogData.bitFields
    omega
  -- the length, the type and the checksum share two bytes
  have hbits' : ofLe (toLe 2 d.bitFields) = d.bitFields := Bytes.ofLe_toLe 2 _ hbits
  unfold readHead LogHead.checksumRight
  dsimp only
  rw [hhead, List.take_left' (Bytes.length_toLe 2 _), List.drop_left' (Bytes.length_toLe 2 _),
    List.take_left' (Bytes.length_toLe 2 _), Bytes.ofLe_toLe 2 _ d.event.toNat_lt, hbits']
  have hstamp : (toLe 2 d.event.toNat ++ (toLe 2 d.bitFields ++ toLe 4 d.timeStamp.toNat)).drop 4
      = toLe 4 d.timeStamp.toNat := by
    rw [← List.append_assoc]
    exact List.drop_left' (by rw [List.length_append, Bytes.length_toLe, Bytes.length_toLe])
  refine ⟨rfl, ?_, ?_⟩
  · unfold LogData.bitFields
    omega
  · rw [hstamp, beq_iff_eq]
    show _ = d.checksum
    unfold LogData.bitFields
    omega

end

/-- A walk of `n` steps over the zone, with the records that it passes. It goes from the last
sector to the first one only where it may. -/
inductive Walk (f : Flash.Cells) (wraps : Prop) : Nat → Nat → Nat → List LogData → Prop
  | refl (a : Nat) : Walk f wraps 0 a a []
  | record {n a b : Nat} {d : LogData} {ds : List LogData} (valid : d.Valid) (inside : a < logEnd)
      (stands : Flash.read f a d.size = d.bytes) (rest : Walk f wraps n (a + d.size) b ds) :
      Walk f wraps (n + 1) a b (d :: ds)
  | mark {n a b : Nat} {ds : List LogData} (inside : a < logEnd)
      (marked : (readHead f a).event = nextSectorMark)
      (wrap : getNextSectorAddr a = spiFlashAddrLog → wraps)
      (rest : Walk f wraps n (getNextSectorAddr a) b ds) : Walk f wraps (n + 1) a b ds

section

variable {f : Flash.Cells} {wraps : Prop} {m n a b c : Nat} {ds es : List LogData}

theorem Walk.append (h : Walk f wraps m a b ds) (k : Walk f wraps n b c es) :
    Walk f wraps (m + n) a c (ds ++ es) := by
  induction h with
  | refl a =>
    rw [Nat.zero_add]
    exact k
  | record valid inside stands _ ih =>
    rw [Nat.add_right_comm]
    exact .record valid inside stands (ih k)
  | mark inside marked wrap _ ih =>
    rw [Nat.add_right_comm]
    exact .mark inside marked wrap (ih k)

theorem walk_records (hvalid : ∀ d ∈ ds, d.Valid) (hend : a + recordSize ds ≤ logEnd)
    (h : Flash.read f a (recordSize ds) = recordBytes ds) :
    Walk f wraps ds.length a (a + recordSize ds) ds := by
  induction ds generalizing a with
  | nil => exact .refl a
  | cons d ds ih =>
    rw [recordSize_cons] at hend h ⊢
    have hsplit : Flash.read f a d.size ++ Flash.read f (a + d.size) (recordSize ds)
        = d.bytes ++ recordBytes ds := (read_add f a _ _).symm.trans h
    obtain ⟨hd, hds⟩ := List.append_inj hsplit (by rw [Flash.length_read, d.length_bytes])
    have hpos := d.le_size
    refine .record (hvalid d (.head _)) (by omega) hd ?_
    rw [← Nat.add_assoc]
    exact ih (fun e he => hvalid e (List.mem_cons_of_mem d he)) (by omega) hds

theorem Walk.not_erased (h : Walk f wraps (n + 1) a b ds) : (readHead f a).event ≠ 0xFFFF := by
  cases h with
  | record valid _ stands _ =>
    rw [(readHead_record stands).1]
    exact valid.not_erased
  | mark _ marked _ _ =>
    rw [marked]
    decide

theorem findLoop_walk (h : Walk f False n a b ds) (hb : b < logEnd)
    (herased : (readHead f b).event = 0xFFFF) {fuel : Nat} (hfuel : n < fuel) :
    findLoop f fuel a = .ok b := by
  induction h generalizing fuel with
  | refl a =>
    obtain ⟨fuel, rfl⟩ := Nat.exists_eq_succ_of_ne_zero (by omega : fuel ≠ 0)
    unfold findLoop
    rw [if_pos hb]
    exact if_pos herased
  | record valid inside stands _ ih =>
    obtain ⟨fuel, rfl⟩ := Nat.exists_eq_succ_of_ne_zero (by omega : fuel ≠ 0)
    obtain ⟨hevent, hlength, hsum⟩ := readHead_record stands
    unfold findLoop
    rw [if_pos inside]
    dsimp only
    rw [hevent, hlength, hsum, if_neg valid.not_erased, if_neg valid.not_mark, if_pos rfl,
      Nat.add_assoc]
    exact ih hb herased (by omega)
  | mark inside marked wrap _ ih =>
    obtain ⟨fuel, rfl⟩ := Nat.exists_eq_succ_of_ne_zero (by omega : fuel ≠ 0)
    unfold findLoop
    rw [if_pos inside]
    dsimp only
    rw [marked, if_neg (by decide), if_pos rfl, if_neg fun h => wrap h]
    exact ih hb herased (by omega)

theorem checkLoop_walk (h : Walk f wraps n a b ds) (hb : b < logEnd)
    (herased : (readHead f b).event = 0xFFFF) {fuel : Nat} (hfuel : n < fuel) :
    checkLoop f b fuel a = .ok (ds.map LogData.bytes) := by
  -- the loop ends at the writer's position, which no step on the way starts from
  have hne : ∀ {k x : Nat} {es : List LogData}, Walk f wraps (k + 1) x b es → x ≠ b := by
    rintro k x es hx rfl
    exact hx.not_erased herased
  induction h generalizing fuel with
  | refl a =>
    obtain ⟨fuel, rfl⟩ := Nat.exists_eq_succ_of_ne_zero (by omega : fuel ≠ 0)
    unfold checkLoop
    rw [if_neg (by omega)]
    exact if_pos rfl
  | record valid inside stands rest ih =>
    obtain ⟨fuel, rfl⟩ := Nat.exists_eq_succ_of_ne_zero (by omega : fuel ≠ 0)
    obtain ⟨hevent, hlength, hsum⟩ := readHead_record stands
    have hrest := ih hb herased (Nat.lt_of_succ_lt_succ hfuel) hne
    have hnot := hne (.record valid inside stands rest)
    unfold checkLoop
    dsimp only
    rw [if_neg (by omega), if_neg hnot, hevent, hlength, hsum, if_neg valid.not_mark,
      if_neg fun h => valid.not_erased h.1, if_pos rfl]
    -- the next head is read where this record ends
    change (checkLoop f _ fuel (_ + LogData.size _) >>= fun records =>
      pure (Flash.read f _ (LogData.size _) :: records)) = _
    rw [hrest, stands]
    rfl
  | mark inside marked wrap rest ih =>
    obtain ⟨fuel, rfl⟩ := Nat.exists_eq_succ_of_ne_zero (by omega : fuel ≠ 0)
    have hrest := ih hb herased (Nat.lt_of_succ_lt_succ hfuel) hne
    have hnot := hne (.mark inside marked wrap rest)
    unfold checkLoop
    dsimp only
    rw [if_neg (by omega), if_neg hnot, marked, if_pos rfl]
    exact hrest

end

end Keystone3.Log
