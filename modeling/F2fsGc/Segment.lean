import Mathlib

namespace f2fs.segment

/-- `enum dirty_type`: one dirty list per log type, and `DIRTY` for their union. -/
inductive DirtyType
  | DIRTY_HOT_DATA | DIRTY_WARM_DATA | DIRTY_COLD_DATA
  | DIRTY_HOT_NODE | DIRTY_WARM_NODE | DIRTY_COLD_NODE
  | DIRTY
  deriving DecidableEq, Repr

/-- Background (opportunistic) or foreground (space-pressure) cleaning. -/
inductive GcType
  | BG_GC | FG_GC
  deriving DecidableEq, Repr

/-- Cost-benefit or greedy victim cost. -/
inductive GcMode
  | GC_CB | GC_GREEDY
  deriving DecidableEq, Repr

/-- Log-structured append or slack-space reuse. -/
inductive AllocMode
  | LFS | SSR
  deriving DecidableEq, Repr

/-- A kernel bitmap (`unsigned long *`), read bit by bit through `test_bit`. -/
abbrev Bitmap := Nat → Bool

def set_bit (nr : Nat) (addr : Bitmap) : Bitmap := fun i => if i = nr then true else addr i

def clear_bit (nr : Nat) (addr : Bitmap) : Bitmap := fun i => if i = nr then false else addr i

@[simp] theorem set_bit_apply (nr i : Nat) (addr : Bitmap) :
    set_bit nr addr i = (i = nr || addr i) := by
  by_cases h : i = nr <;> simp [set_bit, h]

@[simp] theorem clear_bit_apply (nr i : Nat) (addr : Bitmap) :
    clear_bit nr addr i = (i ≠ nr && addr i) := by
  by_cases h : i = nr <;> simp [clear_bit, h]

/-- The kernel's `find_next_bit(addr, size, offset)`: the first set bit in `[offset, size)`,
or `size` when there is none. -/
def find_next_bit (addr : Bitmap) (size offset : Nat) : Nat :=
  go (size - offset) offset
where
  go : Nat → Nat → Nat
    | 0, _ => size
    | n + 1, i => if addr i then i else go n (i + 1)

private theorem find_next_bit_go_spec (addr : Bitmap) (size : Nat) :
    ∀ n i, i + n = size →
      find_next_bit.go addr size n i ≤ size ∧
      (find_next_bit.go addr size n i < size →
        i ≤ find_next_bit.go addr size n i ∧ addr (find_next_bit.go addr size n i) = true) ∧
      ∀ j, i ≤ j → j < find_next_bit.go addr size n i → addr j = false
  | 0, i, h => by simp only [find_next_bit.go]; exact ⟨le_rfl, by omega, fun j _ _ => by omega⟩
  | n + 1, i, h => by
    simp only [find_next_bit.go]
    by_cases ha : addr i = true
    · rw [if_pos ha]
      exact ⟨by omega, fun _ => ⟨le_rfl, ha⟩, fun j hij hj => by omega⟩
    · rw [if_neg ha]
      obtain ⟨hle, hlt, hclear⟩ := find_next_bit_go_spec addr size n (i + 1) (by omega)
      refine ⟨hle, fun h => ⟨by have := (hlt h).1; omega, (hlt h).2⟩, fun j hij hj => ?_⟩
      rcases Nat.eq_or_lt_of_le hij with rfl | hij
      · simpa using ha
      · exact hclear j hij hj

theorem find_next_bit_le (addr : Bitmap) (size offset : Nat) :
    find_next_bit addr size offset ≤ size := by
  unfold find_next_bit
  by_cases h : offset ≤ size
  · exact (find_next_bit_go_spec addr size _ offset (by omega)).1
  · simp [Nat.sub_eq_zero_of_le (Nat.le_of_not_le h), find_next_bit.go]

/-- A hit lies at or after `offset` and is set. -/
theorem find_next_bit_of_lt {addr : Bitmap} {size offset : Nat}
    (h : find_next_bit addr size offset < size) :
    offset ≤ find_next_bit addr size offset ∧ addr (find_next_bit addr size offset) = true := by
  unfold find_next_bit at h ⊢
  by_cases ho : offset ≤ size
  · exact (find_next_bit_go_spec addr size _ offset (by omega)).2.1 h
  · simp [Nat.sub_eq_zero_of_le (Nat.le_of_not_le ho), find_next_bit.go] at h

/-- Every bit between `offset` and the answer is clear. -/
theorem find_next_bit_clear {addr : Bitmap} {size offset j : Nat} (hj : offset ≤ j)
    (hjr : j < find_next_bit addr size offset) : addr j = false := by
  unfold find_next_bit at hjr
  by_cases ho : offset ≤ size
  · exact (find_next_bit_go_spec addr size _ offset (by omega)).2.2 j hj hjr
  · simp [Nat.sub_eq_zero_of_le (Nat.le_of_not_le ho), find_next_bit.go] at hjr
    omega

/-- The answer is `size` exactly when no bit of `[offset, size)` is set. -/
theorem find_next_bit_eq_size {addr : Bitmap} {size offset : Nat}
    (h : size ≤ find_next_bit addr size offset) {j : Nat} (hj : offset ≤ j) (hjs : j < size) :
    addr j = false :=
  @find_next_bit_clear addr size offset j hj (by omega)

/-- The segment geometry of the main area. `TOTAL_SEGS(sbi)` is an `unsigned int` and holds
whole sections. -/
structure Geometry where
  log_blocks_per_seg : Nat
  log_segs_per_sec : Nat
  total_sections : Nat
  total_segs_lt : total_sections * 2 ^ log_segs_per_sec < 2 ^ 32
  /-- `START_BLOCK(sbi, segno)`, the first block address of a segment (a segment.h macro). -/
  START_BLOCK : Nat → Nat

namespace Geometry

def blocks_per_seg (g : Geometry) : Nat := 2 ^ g.log_blocks_per_seg

def segs_per_sec (g : Geometry) : Nat := 2 ^ g.log_segs_per_sec

def TOTAL_SEGS (g : Geometry) : Nat := g.total_sections * g.segs_per_sec

/-- `GET_SECNO(sbi, segno)`. -/
def GET_SECNO (g : Geometry) (segno : Nat) : Nat := segno >>> g.log_segs_per_sec

theorem segs_per_sec_pos (g : Geometry) : 0 < g.segs_per_sec := Nat.two_pow_pos _

theorem TOTAL_SEGS_lt (g : Geometry) : g.TOTAL_SEGS < 2 ^ 32 := g.total_segs_lt

/-- With one segment per section, sections are numbered as segments. -/
theorem GET_SECNO_of_single {g : Geometry} (hs : g.log_segs_per_sec = 0) (segno : Nat) :
    g.GET_SECNO segno = segno := by
  simp [GET_SECNO, hs]

end Geometry

/-- The fields of the segment information table that victim selection reads, and the
mtime window `sit_info` keeps. -/
structure SitInfo where
  /-- `get_seg_entry(sbi, segno)->mtime` -/
  mtime : Nat → Nat
  /-- `get_valid_blocks(sbi, segno, sbi->log_segs_per_sec)` -/
  valid_blocks : Nat → Nat
  /-- `get_seg_entry(sbi, segno)->ckpt_valid_blocks` -/
  ckpt_valid_blocks : Nat → Nat
  min_mtime : Nat
  max_mtime : Nat

/-- `(int)` of an `unsigned int`. -/
def s32 (x : Nat) : Int := if x < 2 ^ 31 then x else (x : Int) - 2 ^ 32

/-- The `int` result of `int` arithmetic, wrapped in 32 bits. -/
def wrap_s32 (x : Int) : Int := s32 (x % 2 ^ 32).toNat

end f2fs.segment
