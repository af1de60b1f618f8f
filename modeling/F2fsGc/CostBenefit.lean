import F2fsGc.Policy

open f2fs.segment

namespace f2fs.gc

/-- `start`, the first segment of the section of `segno`, an `unsigned int`. -/
def sec_start (g : Geometry) (segno : Nat) : Nat :=
  (g.GET_SECNO segno <<< g.log_segs_per_sec) % 2 ^ 32

/-- The mtime sum of the section from `start`, in exact arithmetic. -/
def sec_mtime_total (g : Geometry) (sit : SitInfo) (start : Nat) : Nat :=
  ((List.range g.segs_per_sec).map fun i => sit.mtime (start + i)).sum

/-- `u` as `get_cb_cost` computes it: `(vblocks * 100) >> log_blocks_per_seg` in `unsigned int`,
stored in an `unsigned char`. -/
def cb_u (g : Geometry) (sit : SitInfo) (segno : Nat) : Nat :=
  (((sit.valid_blocks segno >>> g.log_segs_per_sec) * 100 % 2 ^ 32) >>> g.log_blocks_per_seg) %
    2 ^ 8

/-- `age` as `get_cb_cost` computes it against the widened window: `100 - div64_64(...)` in
`unsigned long long`, stored in an `unsigned char`; 0 when the window is one point. -/
def cb_age (g : Geometry) (sit : SitInfo) (segno : Nat) : Nat :=
  let w := (get_cb_cost g sit segno).2
  if w.max_mtime ≠ w.min_mtime then
    (100 + 2 ^ 64 - 100 * (cb_mtime g sit segno - w.min_mtime) % 2 ^ 64 /
      (w.max_mtime - w.min_mtime)) % 2 ^ 64 % 2 ^ 8
  else 0

/-- The cost-benefit formula in exact arithmetic, for `u` and `age` in percent. -/
def cb_cost_exact (u age : Nat) : Nat := UINT_MAX - 100 * (100 - u) * age / (100 + u)

/-- Every segment of the section of `segno` has its mtime in the SIT window. -/
def MtimesIn (g : Geometry) (sit : SitInfo) (segno : Nat) : Prop :=
  ∀ i < g.segs_per_sec, sit.min_mtime ≤ sit.mtime (sec_start g segno + i) ∧
    sit.mtime (sec_start g segno + i) ≤ sit.max_mtime

instance (g : Geometry) (sit : SitInfo) (segno : Nat) : Decidable (MtimesIn g sit segno) :=
  inferInstanceAs (Decidable (∀ i < g.segs_per_sec, _))

section Steps

variable {g : Geometry} {sit : SitInfo} {segno : Nat}

theorem cb_mtime_eq (g : Geometry) (sit : SitInfo) (segno : Nat) :
    cb_mtime g sit segno =
      (sec_mtime_total g sit (sec_start g segno) % 2 ^ 64) >>> g.log_segs_per_sec := rfl

theorem get_cb_cost_fst (g : Geometry) (sit : SitInfo) (segno : Nat) :
    (get_cb_cost g sit segno).1 = (((UINT_MAX : Int) - Int.tdiv
      (100 * (100 - (cb_u g sit segno : Int)) * cb_age g sit segno)
        (100 + cb_u g sit segno)) % 2 ^ 32).toNat := rfl

/-- The window after the call holds the section's average mtime and the window before it. -/
theorem get_cb_cost_window (g : Geometry) (sit : SitInfo) (segno : Nat) :
    (get_cb_cost g sit segno).2.min_mtime ≤ cb_mtime g sit segno ∧
      cb_mtime g sit segno ≤ (get_cb_cost g sit segno).2.max_mtime ∧
      (get_cb_cost g sit segno).2.min_mtime ≤ sit.min_mtime ∧
      sit.max_mtime ≤ (get_cb_cost g sit segno).2.max_mtime := by
  simp only [get_cb_cost_snd]
  split_ifs <;> omega

/-- An average mtime inside the window leaves the SIT as it was. -/
theorem get_cb_cost_snd_of_mem (hlo : sit.min_mtime ≤ cb_mtime g sit segno)
    (hhi : cb_mtime g sit segno ≤ sit.max_mtime) : (get_cb_cost g sit segno).2 = sit := by
  rw [get_cb_cost_snd, if_neg (by omega), if_neg (by omega)]

theorem sec_mtime_total_le {start M : Nat} (h : ∀ i < g.segs_per_sec, sit.mtime (start + i) ≤ M) :
    sec_mtime_total g sit start ≤ g.segs_per_sec * M := by
  simpa [sec_mtime_total] using
    List.sum_le_card_nsmul ((List.range g.segs_per_sec).map fun i => sit.mtime (start + i)) M
      (by simpa using h)

theorem le_sec_mtime_total {start M : Nat} (h : ∀ i < g.segs_per_sec, M ≤ sit.mtime (start + i)) :
    g.segs_per_sec * M ≤ sec_mtime_total g sit start := by
  simpa [sec_mtime_total] using
    List.card_nsmul_le_sum ((List.range g.segs_per_sec).map fun i => sit.mtime (start + i)) M
      (by simpa using h)

/-- When the 64-bit sum does not wrap, the average is the exact one. -/
theorem cb_mtime_of_lt (h : sec_mtime_total g sit (sec_start g segno) < 2 ^ 64) :
    cb_mtime g sit segno = sec_mtime_total g sit (sec_start g segno) / g.segs_per_sec := by
  rw [cb_mtime_eq, Nat.mod_eq_of_lt h, Nat.shiftRight_eq_div_pow]; rfl

/-- With at most `2^(b+s)` valid blocks and `b ≤ 25`, `vblocks * 100` does not wrap and `u` is
the utilisation in percent. -/
theorem cb_u_eq (hb : g.log_blocks_per_seg ≤ 25)
    (hv : sit.valid_blocks segno ≤ 2 ^ (g.log_blocks_per_seg + g.log_segs_per_sec)) :
    cb_u g sit segno =
        ((sit.valid_blocks segno >>> g.log_segs_per_sec) * 100) >>> g.log_blocks_per_seg ∧
      cb_u g sit segno ≤ 100 := by
  have hvb : sit.valid_blocks segno >>> g.log_segs_per_sec ≤ 2 ^ g.log_blocks_per_seg := by
    rw [Nat.shiftRight_eq_div_pow]
    exact Nat.div_le_of_le_mul (by rwa [← Nat.pow_add, Nat.add_comm])
  have hpow : 2 ^ g.log_blocks_per_seg ≤ 2 ^ 25 := Nat.pow_le_pow_right (by norm_num) hb
  have hu : ((sit.valid_blocks segno >>> g.log_segs_per_sec) * 100) >>> g.log_blocks_per_seg ≤ 100 := by
    rw [Nat.shiftRight_eq_div_pow]
    exact Nat.div_le_of_le_mul (Nat.mul_le_mul_right 100 hvb)
  have hwrap : (sit.valid_blocks segno >>> g.log_segs_per_sec) * 100 < 2 ^ 32 := by omega
  rw [cb_u, Nat.mod_eq_of_lt hwrap, Nat.mod_eq_of_lt (by omega)]
  exact ⟨rfl, hu⟩

/-- When `100 * (mtime - min_mtime)` does not wrap, `age` is the section's age in percent. -/
theorem cb_age_eq
    (h : 100 * (cb_mtime g sit segno - (get_cb_cost g sit segno).2.min_mtime) < 2 ^ 64) :
    cb_age g sit segno =
        (if (get_cb_cost g sit segno).2.max_mtime ≠ (get_cb_cost g sit segno).2.min_mtime then
          100 - 100 * (cb_mtime g sit segno - (get_cb_cost g sit segno).2.min_mtime) /
            ((get_cb_cost g sit segno).2.max_mtime - (get_cb_cost g sit segno).2.min_mtime)
        else 0) ∧
      cb_age g sit segno ≤ 100 := by
  obtain ⟨hlo, hhi, -, -⟩ := get_cb_cost_window g sit segno
  have hq : 100 * (cb_mtime g sit segno - (get_cb_cost g sit segno).2.min_mtime) /
      ((get_cb_cost g sit segno).2.max_mtime - (get_cb_cost g sit segno).2.min_mtime) ≤ 100 :=
    Nat.div_le_of_le_mul (by rw [Nat.mul_comm]; exact Nat.mul_le_mul_right _ (by omega))
  dsimp only [cb_age]
  split_ifs
  · rw [Nat.mod_eq_of_lt h]
    generalize 100 * (cb_mtime g sit segno - (get_cb_cost g sit segno).2.min_mtime) /
      ((get_cb_cost g sit segno).2.max_mtime - (get_cb_cost g sit segno).2.min_mtime) = q at hq ⊢
    constructor <;> omega
  · exact ⟨rfl, Nat.zero_le _⟩

/-- For `u` and `age` in percent the quotient is at most 10000, so the `int` arithmetic and the
conversion to `unsigned int` are exact. -/
theorem cb_cost_of_le {u age : Nat} (hu : u ≤ 100) (ha : age ≤ 100) :
    (((UINT_MAX : Int) - Int.tdiv (100 * (100 - (u : Int)) * age) (100 + u)) % 2 ^ 32).toNat =
        cb_cost_exact u age ∧
      UINT_MAX - 10000 ≤ cb_cost_exact u age := by
  have hq : 100 * (100 - u) * age / (100 + u) ≤ 10000 := Nat.div_le_of_le_mul (calc
    100 * (100 - u) * age ≤ 100 * 100 * 100 :=
      Nat.mul_le_mul (Nat.mul_le_mul_left _ (Nat.sub_le _ _)) ha
    _ ≤ (100 + u) * 10000 := by omega)
  have hnum : 100 * (100 - (u : Int)) * age = ((100 * (100 - u) * age : Nat) : Int) := by
    push_cast [Nat.cast_sub hu]; ring
  unfold cb_cost_exact UINT_MAX
  rw [hnum, show (100 : Int) + u = ((100 + u : Nat) : Int) by push_cast; rfl, ← Int.ofNat_tdiv]
  generalize 100 * (100 - u) * age / (100 + u) = q at hq ⊢
  constructor <;> omega

/-- The formula grows with `u` and falls with `age`. -/
theorem cb_cost_exact_mono {u u' age age' : Nat} (hu : u ≤ u') (ha : age' ≤ age) :
    cb_cost_exact u age ≤ cb_cost_exact u' age' :=
  Nat.sub_le_sub_left (Nat.div_le_div
    (Nat.mul_le_mul (Nat.mul_le_mul_left 100 (Nat.sub_le_sub_left hu 100)) ha)
    (Nat.add_le_add_left hu 100) (by omega)) _

/-- With its segments' mtimes in the window and no 64-bit wrap, a section's average mtime is the
exact average and lies in the window. -/
theorem MtimesIn.cb_mtime (h : MtimesIn g sit segno)
    (hmax : g.segs_per_sec * sit.max_mtime < 2 ^ 64) :
    cb_mtime g sit segno = sec_mtime_total g sit (sec_start g segno) / g.segs_per_sec ∧
      sit.min_mtime ≤ cb_mtime g sit segno ∧ cb_mtime g sit segno ≤ sit.max_mtime := by
  have hle := sec_mtime_total_le fun i hi => (h i hi).2
  have hge := le_sec_mtime_total fun i hi => (h i hi).1
  have hm := cb_mtime_of_lt (lt_of_le_of_lt hle hmax)
  rw [hm]
  exact ⟨rfl, (Nat.le_div_iff_mul_le g.segs_per_sec_pos).mpr (by rwa [Nat.mul_comm]),
    Nat.div_le_of_le_mul hle⟩

end Steps

/-- For segments of at most `2^25` blocks, a valid count within the section and segment mtimes
below `2^64 / (100 * 2^s)`, whatever window the SIT holds: the window after the call holds the
section's average mtime and has only widened, the 64-bit sum does not wrap and the age divisor is
positive when used, `u` and `age` are exact percentages, and the cost is the exact formula,
within `[UINT_MAX - 10000, UINT_MAX]`. -/
theorem get_cb_cost_exact (g : Geometry) (sit : SitInfo) (segno : Nat)
    (hb : g.log_blocks_per_seg ≤ 25)
    (hv : sit.valid_blocks segno ≤ 2 ^ (g.log_blocks_per_seg + g.log_segs_per_sec))
    (hseg : ∀ i < g.segs_per_sec,
      sit.mtime (sec_start g segno + i) < 2 ^ 64 / (100 * g.segs_per_sec)) :
    let w := (get_cb_cost g sit segno).2
    let m := cb_mtime g sit segno
    let u := cb_u g sit segno
    let age := cb_age g sit segno
    (w.min_mtime ≤ m ∧ m ≤ w.max_mtime ∧ w.min_mtime ≤ sit.min_mtime ∧
      sit.max_mtime ≤ w.max_mtime) ∧
    (sec_mtime_sum g sit (sec_start g segno) = sec_mtime_total g sit (sec_start g segno) ∧
      (w.max_mtime ≠ w.min_mtime → 0 < w.max_mtime - w.min_mtime)) ∧
    (u = ((sit.valid_blocks segno >>> g.log_segs_per_sec) * 100) >>> g.log_blocks_per_seg ∧
      u ≤ 100) ∧
    (age = (if w.max_mtime ≠ w.min_mtime then
        100 - 100 * (m - w.min_mtime) / (w.max_mtime - w.min_mtime) else 0) ∧ age ≤ 100) ∧
    (get_cb_cost g sit segno).1 = cb_cost_exact u age ∧
    UINT_MAX - 10000 ≤ (get_cb_cost g sit segno).1 ∧ (get_cb_cost g sit segno).1 ≤ UINT_MAX := by
  dsimp only
  have hP : 0 < g.segs_per_sec := g.segs_per_sec_pos
  have hPB : 100 * (g.segs_per_sec * (2 ^ 64 / (100 * g.segs_per_sec))) ≤ 2 ^ 64 := calc
    _ = 2 ^ 64 / (100 * g.segs_per_sec) * (100 * g.segs_per_sec) := by ring
    _ ≤ 2 ^ 64 := Nat.div_mul_le_self _ _
  generalize 2 ^ 64 / (100 * g.segs_per_sec) = B at hseg hPB
  have hB : B ≤ g.segs_per_sec * B := Nat.le_mul_of_pos_left B hP
  have hB1 : 0 < B := Nat.zero_lt_of_lt (hseg 0 hP)
  have htotal : sec_mtime_total g sit (sec_start g segno) ≤ g.segs_per_sec * B - g.segs_per_sec := by
    rw [← Nat.mul_sub_one]; exact sec_mtime_total_le fun i hi => Nat.le_sub_one_of_lt (hseg i hi)
  have hsum : sec_mtime_total g sit (sec_start g segno) < 2 ^ 64 := by omega
  have hm : cb_mtime g sit segno < B := by
    rw [cb_mtime_of_lt hsum]; exact Nat.div_lt_of_lt_mul (by omega)
  obtain ⟨hlo, hhi, hwlo, hwhi⟩ := get_cb_cost_window g sit segno
  obtain ⟨hu, hu100⟩ := cb_u_eq hb hv
  obtain ⟨hage, hage100⟩ := @cb_age_eq g sit segno (by omega)
  obtain ⟨hcost, hlow⟩ := cb_cost_of_le hu100 hage100
  have hcost' : (get_cb_cost g sit segno).1 =
      cb_cost_exact (cb_u g sit segno) (cb_age g sit segno) := hcost
  exact ⟨⟨hlo, hhi, hwlo, hwhi⟩, ⟨Nat.mod_eq_of_lt hsum, fun _ => by omega⟩, ⟨hu, hu100⟩,
    ⟨hage, hage100⟩, hcost', hcost' ▸ hlow, hcost' ▸ Nat.sub_le _ _⟩

/-- Sections on a device of 512-block segments, two to a section, with mtimes in `[0, 1000]`:
the first holds 300 valid blocks, the second 700. -/
def f2fs_geometry : Geometry where
  log_blocks_per_seg := 9
  log_segs_per_sec := 1
  total_sections := 2
  total_segs_lt := by decide
  START_BLOCK := fun segno => segno * 512

def aged_sit : SitInfo where
  mtime := fun segno => 100 * (segno + 1)
  valid_blocks := fun segno => if segno < 2 then 300 else 700
  ckpt_valid_blocks := fun _ => 0
  min_mtime := 0
  max_mtime := 1000

theorem aged_section_cost_exact :
    f2fs_geometry.log_blocks_per_seg ≤ 25 ∧
    aged_sit.valid_blocks 0 ≤ 2 ^ (f2fs_geometry.log_blocks_per_seg + f2fs_geometry.log_segs_per_sec) ∧
    (∀ i < f2fs_geometry.segs_per_sec,
      aged_sit.mtime (sec_start f2fs_geometry 0 + i) < 2 ^ 64 / (100 * f2fs_geometry.segs_per_sec)) ∧
    (get_cb_cost f2fs_geometry aged_sit 0).1 =
      cb_cost_exact (cb_u f2fs_geometry aged_sit 0) (cb_age f2fs_geometry aged_sit 0) :=
  ⟨by decide, by decide, by decide,
    (get_cb_cost_exact f2fs_geometry aged_sit 0 (by decide) (by decide) (by decide)).2.2.2.2.1⟩

/-- Two one-segment sections of `2^26` blocks, with mtime 0 in the window `[0, 1]`: segment 0
holds 42949672 valid blocks, segment 1 one more, and `42949673 * 100` wraps in 32 bits. -/
def big_seg_geometry : Geometry where
  log_blocks_per_seg := 26
  log_segs_per_sec := 0
  total_sections := 2
  total_segs_lt := by decide
  START_BLOCK := fun segno => segno * 2 ^ 26

def big_seg_sit : SitInfo where
  mtime := fun _ => 0
  valid_blocks := fun segno => 42949672 + segno
  ckpt_valid_blocks := fun _ => 0
  min_mtime := 0
  max_mtime := 1

/-- With `2^26` blocks per segment `u` wraps: segment 1's `u` is 0 where its utilisation is 64%,
and the cost is not the exact formula. -/
theorem big_segment_cost_wraps :
    big_seg_sit.valid_blocks 1 ≤
      2 ^ (big_seg_geometry.log_blocks_per_seg + big_seg_geometry.log_segs_per_sec) ∧
    (∀ i < big_seg_geometry.segs_per_sec, big_seg_sit.mtime (sec_start big_seg_geometry 1 + i) <
      2 ^ 64 / (100 * big_seg_geometry.segs_per_sec)) ∧
    cb_u big_seg_geometry big_seg_sit 1 = 0 ∧
    ((big_seg_sit.valid_blocks 1 >>> big_seg_geometry.log_segs_per_sec) * 100) >>>
      big_seg_geometry.log_blocks_per_seg = 64 ∧
    cb_age big_seg_geometry big_seg_sit 1 = 100 ∧
    (get_cb_cost big_seg_geometry big_seg_sit 1).1 = UINT_MAX - 10000 ∧
    cb_cost_exact 64 100 = UINT_MAX - 2195 := by
  decide

/-- With segments of at most `2^25` blocks, a window with `100 * (max_mtime - min_mtime)` and
`2^s * max_mtime` below `2^64`, and two sections whose segment mtimes lie in the window and whose
valid counts are at most `2^(b+s)`: the section with no more valid blocks and no larger mtime
sum costs no more, so cost-benefit never ranks a fuller or younger section below an emptier,
older one. -/
theorem get_cb_cost_mono (g : Geometry) (sit : SitInfo) (x y : Nat)
    (hb : g.log_blocks_per_seg ≤ 25) (h100 : 100 * (sit.max_mtime - sit.min_mtime) < 2 ^ 64)
    (hmax : g.segs_per_sec * sit.max_mtime < 2 ^ 64)
    (hx : MtimesIn g sit x) (hy : MtimesIn g sit y)
    (hvx : sit.valid_blocks x ≤ 2 ^ (g.log_blocks_per_seg + g.log_segs_per_sec))
    (hvy : sit.valid_blocks y ≤ 2 ^ (g.log_blocks_per_seg + g.log_segs_per_sec))
    (hv : sit.valid_blocks x ≤ sit.valid_blocks y)
    (hm : sec_mtime_total g sit (sec_start g x) ≤ sec_mtime_total g sit (sec_start g y)) :
    (get_cb_cost g sit x).1 ≤ (get_cb_cost g sit y).1 := by
  obtain ⟨hmx, hlox, hhix⟩ := hx.cb_mtime hmax
  obtain ⟨hmy, hloy, hhiy⟩ := hy.cb_mtime hmax
  have hwx := get_cb_cost_snd_of_mem hlox hhix
  have hwy := get_cb_cost_snd_of_mem hloy hhiy
  obtain ⟨hux, hux100⟩ := @cb_u_eq g sit x hb hvx
  obtain ⟨huy, huy100⟩ := @cb_u_eq g sit y hb hvy
  obtain ⟨hagex, hagex100⟩ := @cb_age_eq g sit x (by rw [hwx]; omega)
  obtain ⟨hagey, hagey100⟩ := @cb_age_eq g sit y (by rw [hwy]; omega)
  have hu : cb_u g sit x ≤ cb_u g sit y := by
    simp only [hux, huy, Nat.shiftRight_eq_div_pow]
    exact Nat.div_le_div_right (Nat.mul_le_mul_right 100 (Nat.div_le_div_right hv))
  have hmxy : cb_mtime g sit x ≤ cb_mtime g sit y := by
    rw [hmx, hmy]; exact Nat.div_le_div_right hm
  have hage : cb_age g sit y ≤ cb_age g sit x := by
    rw [hagex, hagey, hwx, hwy]
    split_ifs
    · have := Nat.div_le_div_right (c := sit.max_mtime - sit.min_mtime)
        (Nat.mul_le_mul_left 100 (Nat.sub_le_sub_right hmxy sit.min_mtime))
      omega
    · exact le_rfl
  rw [get_cb_cost_fst, get_cb_cost_fst, (cb_cost_of_le hux100 hagex100).1,
    (cb_cost_of_le huy100 hagey100).1]
  exact cb_cost_exact_mono hu hage

theorem aged_sections_cost_ordered :
    f2fs_geometry.log_blocks_per_seg ≤ 25 ∧
    100 * (aged_sit.max_mtime - aged_sit.min_mtime) < 2 ^ 64 ∧
    f2fs_geometry.segs_per_sec * aged_sit.max_mtime < 2 ^ 64 ∧
    MtimesIn f2fs_geometry aged_sit 0 ∧ MtimesIn f2fs_geometry aged_sit 2 ∧
    aged_sit.valid_blocks 0 ≤ 2 ^ (f2fs_geometry.log_blocks_per_seg + f2fs_geometry.log_segs_per_sec) ∧
    aged_sit.valid_blocks 2 ≤ 2 ^ (f2fs_geometry.log_blocks_per_seg + f2fs_geometry.log_segs_per_sec) ∧
    aged_sit.valid_blocks 0 ≤ aged_sit.valid_blocks 2 ∧
    sec_mtime_total f2fs_geometry aged_sit (sec_start f2fs_geometry 0) ≤
      sec_mtime_total f2fs_geometry aged_sit (sec_start f2fs_geometry 2) ∧
    (get_cb_cost f2fs_geometry aged_sit 0).1 ≤ (get_cb_cost f2fs_geometry aged_sit 2).1 :=
  ⟨by decide, by decide, by decide, by decide, by decide, by decide, by decide, by decide, by decide,
    get_cb_cost_mono f2fs_geometry aged_sit 0 2 (by decide) (by decide) (by decide) (by decide)
      (by decide) (by decide) (by decide) (by decide) (by decide)⟩

/-- With `2^26` blocks per segment the order breaks: segment 1 holds one more valid block than
segment 0 and is as old, yet its wrapped `u` of 0 makes it the cheaper victim. -/
theorem big_segments_break_cb_order :
    100 * (big_seg_sit.max_mtime - big_seg_sit.min_mtime) < 2 ^ 64 ∧
    big_seg_geometry.segs_per_sec * big_seg_sit.max_mtime < 2 ^ 64 ∧
    MtimesIn big_seg_geometry big_seg_sit 0 ∧ MtimesIn big_seg_geometry big_seg_sit 1 ∧
    big_seg_sit.valid_blocks 0 ≤
      2 ^ (big_seg_geometry.log_blocks_per_seg + big_seg_geometry.log_segs_per_sec) ∧
    big_seg_sit.valid_blocks 1 ≤
      2 ^ (big_seg_geometry.log_blocks_per_seg + big_seg_geometry.log_segs_per_sec) ∧
    big_seg_sit.valid_blocks 0 ≤ big_seg_sit.valid_blocks 1 ∧
    sec_mtime_total big_seg_geometry big_seg_sit (sec_start big_seg_geometry 0) ≤
      sec_mtime_total big_seg_geometry big_seg_sit (sec_start big_seg_geometry 1) ∧
    (get_cb_cost big_seg_geometry big_seg_sit 1).1 < (get_cb_cost big_seg_geometry big_seg_sit 0).1 := by
  decide

end f2fs.gc
