import F2fsGc.Segment

open f2fs.segment

namespace f2fs.gc

/-- `blks_per_sec`: `1 << (log_segs_per_sec + log_blocks_per_seg)`, an `unsigned int`. -/
def blks_per_sec (g : Geometry) : Nat := 2 ^ (g.log_segs_per_sec + g.log_blocks_per_seg) % 2 ^ 32

/-- `abs()` of an `unsigned int`, which the macro reads as an `int`. -/
def abs_s32 (x : Nat) : Nat := if x < 2 ^ 31 then x else 2 ^ 32 - x

/-- The accumulators of the loop: `bimodal`, `total_vblocks` and `ndirty`. -/
structure MetricAcc where
  bimodal : Nat
  total_vblocks : Nat
  ndirty : Nat
  deriving DecidableEq, Repr

/-- `si->bimodal` and `si->avg_vblocks` as `f2fs_update_gc_metric` leaves them. -/
structure GcMetric where
  bimodal : Nat
  avg_vblocks : Nat
  deriving DecidableEq, Repr

/-- One turn of the loop, over a section of `vblocks` valid blocks. -/
def metric_step (g : Geometry) (acc : MetricAcc) (vblocks : Nat) : MetricAcc :=
  let dist := abs_s32 ((vblocks + 2 ^ 32 - blks_per_sec g / 2) % 2 ^ 32)
  let bimodal := (acc.bimodal + dist * dist) % 2 ^ 32
  if 0 < vblocks ∧ vblocks < blks_per_sec g then
    ⟨bimodal, (acc.total_vblocks + vblocks) % 2 ^ 32, acc.ndirty + 1⟩
  else { acc with bimodal }

/-- The loop over the first segment of every section, `segno += segs_per_sec`. -/
def metric_loop (g : Geometry) (sit : SitInfo) : MetricAcc :=
  ((List.range g.total_sections).map fun k => sit.valid_blocks (k * g.segs_per_sec)).foldl
    (metric_step g) ⟨0, 0, 0⟩

/-- `dist` after the loop: `total_sections * hblks_per_sec * hblks_per_sec / 100`, the product
taken in `unsigned int`. -/
def metric_dist (g : Geometry) : Nat :=
  g.total_sections * (blks_per_sec g / 2) * (blks_per_sec g / 2) % 2 ^ 32 / 100

/-- `f2fs_update_gc_metric`, given the `si->dirty_count` an earlier `f2fs_update_stat` left;
`none` when it divides by zero, a kernel oops. The average is guarded by `si->dirty_count`, not
by `ndirty`. -/
def f2fs_update_gc_metric (g : Geometry) (sit : SitInfo) (dirty_count : Nat) : Option GcMetric :=
  let acc := metric_loop g sit
  if metric_dist g = 0 then none
  else if dirty_count ≠ 0 then
    if acc.ndirty = 0 then none
    else some ⟨acc.bimodal / metric_dist g, acc.total_vblocks / acc.ndirty⟩
  else some ⟨acc.bimodal / metric_dist g, 0⟩

/-- `f2fs_update_gc_metric` divides by zero exactly when the wrapped `dist` is 0, or when
`dirty_count` is set while no section is partly valid. -/
theorem f2fs_update_gc_metric_eq_none_iff (g : Geometry) (sit : SitInfo) (dirty_count : Nat) :
    f2fs_update_gc_metric g sit dirty_count = none ↔
      metric_dist g = 0 ∨ (dirty_count ≠ 0 ∧ (metric_loop g sit).ndirty = 0) := by
  unfold f2fs_update_gc_metric
  split_ifs <;> simp_all

/-- 65536 one-segment sections of 512 blocks: a 128 GiB device. -/
def gib128_geometry : Geometry where
  log_blocks_per_seg := 9
  log_segs_per_sec := 0
  total_sections := 65536
  total_segs_lt := by decide
  START_BLOCK := fun segno => segno * 512

/-- One section of one 512-block segment. -/
def one_seg_geometry : Geometry where
  log_blocks_per_seg := 9
  log_segs_per_sec := 0
  total_sections := 1
  total_segs_lt := by decide
  START_BLOCK := fun segno => segno * 512

/-- A SIT with no valid block anywhere. -/
def empty_sit : SitInfo where
  mtime := fun _ => 0
  valid_blocks := fun _ => 0
  ckpt_valid_blocks := fun _ => 0
  min_mtime := 0
  max_mtime := 0

/-- On a 128 GiB device of 512-block segments `65536 * 256 * 256` wraps to 0 in 32 bits, so
`bimodal / dist` divides by zero for every SIT state and every `dirty_count`; and on one empty
section a `dirty_count` of 1 makes `total_vblocks / ndirty` divide by `ndirty = 0`. -/
theorem update_gc_metric_divides_by_zero :
    gib128_geometry.total_sections * (blks_per_sec gib128_geometry / 2) *
        (blks_per_sec gib128_geometry / 2) = 2 ^ 32 ∧
    (∀ sit dirty_count, f2fs_update_gc_metric gib128_geometry sit dirty_count = none) ∧
    f2fs_update_gc_metric one_seg_geometry empty_sit 1 = none :=
  ⟨by decide, fun sit dirty_count =>
    (f2fs_update_gc_metric_eq_none_iff _ sit dirty_count).mpr (.inl (by decide)), by decide⟩

/-- The distance of `v` valid blocks from `h`, half a section: `abs(vblocks - hblks_per_sec)`
in unbounded arithmetic. -/
def half_dist (h v : Nat) : Nat := if h ≤ v then v - h else h - v

/-- Whether a section of `v` valid blocks is partly valid, as the loop tests it. -/
def partly_valid (g : Geometry) (v : Nat) : Bool := 0 < v ∧ v < blks_per_sec g

/-- What the loop means to accumulate over the valid counts `vs` of the sections: the sum of the
squared distances from half a section, and the sum and number of the partly valid counts. -/
def metric_exact (g : Geometry) (vs : List Nat) : MetricAcc :=
  ⟨(vs.map fun v => half_dist (blks_per_sec g / 2) v ^ 2).sum,
    (vs.filter (partly_valid g)).sum, (vs.filter (partly_valid g)).length⟩

/-- `f2fs_update_gc_metric` in unbounded arithmetic: the exact sums over the sections, divided
by `total_sections * hblks_per_sec * hblks_per_sec / 100` and by `ndirty`. -/
def gc_metric_exact (g : Geometry) (sit : SitInfo) (dirty_count : Nat) : Option GcMetric :=
  let E := metric_exact g
    ((List.range g.total_sections).map fun k => sit.valid_blocks (k * g.segs_per_sec))
  let dist := g.total_sections * (blks_per_sec g / 2) * (blks_per_sec g / 2) / 100
  if dist = 0 ∨ (dirty_count ≠ 0 ∧ E.ndirty = 0) then none
  else some ⟨E.bimodal / dist, if dirty_count ≠ 0 then E.total_vblocks / E.ndirty else 0⟩

/-- Componentwise sum of two accumulators. -/
def MetricAcc.add (a b : MetricAcc) : MetricAcc :=
  ⟨a.bimodal + b.bimodal, a.total_vblocks + b.total_vblocks, a.ndirty + b.ndirty⟩

theorem MetricAcc.add_assoc (a b c : MetricAcc) : (a.add b).add c = a.add (b.add c) := by
  simp only [MetricAcc.add, Nat.add_assoc]

theorem MetricAcc.zero_add (a : MetricAcc) : (⟨0, 0, 0⟩ : MetricAcc).add a = a := by
  simp only [MetricAcc.add, Nat.zero_add]

section Exact

variable {g : Geometry}

theorem metric_exact_cons (v : Nat) (vs : List Nat) :
    metric_exact g (v :: vs) = (metric_exact g [v]).add (metric_exact g vs) := by
  cases hp : partly_valid g v <;>
    simp [metric_exact, MetricAcc.add, List.filter_cons, hp, Nat.add_comm]

/-- A section of at most `2 * h` valid blocks is at most `h` away from half a section. -/
theorem half_dist_le {h v : Nat} (hv : v ≤ 2 * h) : half_dist h v ≤ h := by
  unfold half_dist; split_ifs <;> omega

/-- `abs(vblocks - hblks_per_sec)`, the difference wrapped in 32 bits and read back as an `int`,
is the distance when half a section is at most `2^30` blocks and the count at most a section. -/
theorem abs_s32_sub_eq {h v : Nat} (hh : h ≤ 2 ^ 30) (hv : v ≤ 2 * h) :
    abs_s32 ((v + 2 ^ 32 - h) % 2 ^ 32) = half_dist h v := by
  unfold abs_s32 half_dist
  by_cases hle : h ≤ v
  · rw [if_pos hle, show v + 2 ^ 32 - h = v - h + 2 ^ 32 by omega, Nat.add_mod_right,
      Nat.mod_eq_of_lt (by omega), if_pos (by omega)]
  · rw [if_neg hle, Nat.mod_eq_of_lt (by omega), if_neg (by omega)]
    omega

/-- With `0 < log_segs_per_sec + log_blocks_per_seg < 32`, a section holds an even number of
blocks, at most `2^31`. -/
theorem blks_per_sec_even (hlog : 0 < g.log_segs_per_sec + g.log_blocks_per_seg ∧
      g.log_segs_per_sec + g.log_blocks_per_seg < 32) :
    blks_per_sec g = 2 * (blks_per_sec g / 2) ∧ blks_per_sec g ≤ 2 ^ 31 := by
  have hlt : 2 ^ (g.log_segs_per_sec + g.log_blocks_per_seg) < 2 ^ 32 :=
    Nat.pow_lt_pow_right (by decide) hlog.2
  have hle : 2 ^ (g.log_segs_per_sec + g.log_blocks_per_seg) ≤ 2 ^ 31 :=
    Nat.pow_le_pow_right (by decide) (by omega)
  have heven : 2 ∣ 2 ^ (g.log_segs_per_sec + g.log_blocks_per_seg) :=
    dvd_pow_self 2 (by omega)
  unfold blks_per_sec
  rw [Nat.mod_eq_of_lt hlt]
  omega

/-- The squared distances of sections of at most `2 * h` valid blocks sum to at most `h * h`
a section. -/
theorem metric_exact_bimodal_le {vs : List Nat} (heven : blks_per_sec g = 2 * (blks_per_sec g / 2))
    (hv : ∀ v ∈ vs, v ≤ blks_per_sec g) :
    (metric_exact g vs).bimodal ≤ vs.length * (blks_per_sec g / 2 * (blks_per_sec g / 2)) := by
  have hsq : ∀ x ∈ vs.map fun v => half_dist (blks_per_sec g / 2) v ^ 2,
      x ≤ blks_per_sec g / 2 * (blks_per_sec g / 2) := by
    simp only [List.mem_map]
    rintro _ ⟨v, hv', rfl⟩
    have hd := half_dist_le (h := blks_per_sec g / 2) (v := v) (by have := hv v hv'; omega)
    rw [Nat.pow_two]
    exact Nat.mul_le_mul hd hd
  simpa using List.sum_le_card_nsmul _ _ hsq

/-- The partly valid counts are each below a section. -/
theorem metric_exact_total_le (vs : List Nat) :
    (metric_exact g vs).total_vblocks ≤ vs.length * (blks_per_sec g - 1) :=
  calc (vs.filter (partly_valid g)).sum
      ≤ (vs.filter (partly_valid g)).length * (blks_per_sec g - 1) := by
        have hle : ∀ v ∈ vs.filter (partly_valid g), v ≤ blks_per_sec g - 1 := fun v hv => by
          have := (List.mem_filter.mp hv).2
          simp only [partly_valid, decide_eq_true_eq] at this
          omega
        simpa using List.sum_le_card_nsmul _ _ hle
    _ ≤ vs.length * (blks_per_sec g - 1) := Nat.mul_le_mul_right _ (List.length_filter_le _ _)

theorem two_mul_sub_one_le_mul_self (h : Nat) : 2 * h - 1 ≤ h * h := by
  cases h with
  | zero => rfl
  | succ h => simp only [Nat.add_mul, Nat.mul_add, Nat.one_mul, Nat.mul_one]; omega

variable (hlog : 0 < g.log_segs_per_sec + g.log_blocks_per_seg ∧
  g.log_segs_per_sec + g.log_blocks_per_seg < 32)
include hlog

/-- One turn of the loop adds the section's exact contribution while the sums stay below
`2^32`. -/
theorem metric_step_eq (acc : MetricAcc) {v : Nat} (hv : v ≤ blks_per_sec g)
    (hb : acc.bimodal + (metric_exact g [v]).bimodal < 2 ^ 32)
    (ht : acc.total_vblocks + (metric_exact g [v]).total_vblocks < 2 ^ 32) :
    metric_step g acc v = acc.add (metric_exact g [v]) := by
  obtain ⟨heven, hle⟩ := blks_per_sec_even hlog
  have hd : abs_s32 ((v + 2 ^ 32 - blks_per_sec g / 2) % 2 ^ 32) =
      half_dist (blks_per_sec g / 2) v := abs_s32_sub_eq (by omega) (by omega)
  have hb' : (acc.bimodal + half_dist (blks_per_sec g / 2) v * half_dist (blks_per_sec g / 2) v) %
      2 ^ 32 = acc.bimodal + half_dist (blks_per_sec g / 2) v * half_dist (blks_per_sec g / 2) v :=
    Nat.mod_eq_of_lt (by simpa [metric_exact, Nat.pow_two] using hb)
  unfold metric_step
  dsimp only
  rw [hd, hb']
  by_cases hp : 0 < v ∧ v < blks_per_sec g
  · have ht' : (acc.total_vblocks + v) % 2 ^ 32 = acc.total_vblocks + v :=
      Nat.mod_eq_of_lt (by simpa [metric_exact, partly_valid, hp] using ht)
    rw [if_pos hp, ht']
    simp [metric_exact, MetricAcc.add, partly_valid, hp, Nat.pow_two]
  · rw [if_neg hp]
    simp [metric_exact, MetricAcc.add, partly_valid, hp, Nat.pow_two]

/-- The loop, from any accumulator, adds the exact sums over the counts it reads while they
stay below `2^32`. -/
theorem metric_fold_eq (vs : List Nat) (hv : ∀ v ∈ vs, v ≤ blks_per_sec g) (acc : MetricAcc)
    (hb : acc.bimodal + (metric_exact g vs).bimodal < 2 ^ 32)
    (ht : acc.total_vblocks + (metric_exact g vs).total_vblocks < 2 ^ 32) :
    vs.foldl (metric_step g) acc = acc.add (metric_exact g vs) := by
  induction vs generalizing acc with
  | nil => cases acc; rfl
  | cons v vs ih =>
    rw [metric_exact_cons] at hb ht ⊢
    simp only [MetricAcc.add] at hb ht
    rw [List.foldl_cons, metric_step_eq hlog acc (hv v (.head _)) (by omega) (by omega),
      ih (fun w hw => hv w (.tail _ hw)) _ (by simp only [MetricAcc.add]; omega)
        (by simp only [MetricAcc.add]; omega), MetricAcc.add_assoc]

/-- While `total_sections * hblks_per_sec * hblks_per_sec` fits in 32 bits and no section
counts more valid blocks than it holds, the loop computes the exact sums. -/
theorem metric_loop_exact {sit : SitInfo}
    (hdist : g.total_sections * (blks_per_sec g / 2) * (blks_per_sec g / 2) < 2 ^ 32)
    (hv : ∀ k < g.total_sections, sit.valid_blocks (k * g.segs_per_sec) ≤ blks_per_sec g) :
    metric_loop g sit = metric_exact g
      ((List.range g.total_sections).map fun k => sit.valid_blocks (k * g.segs_per_sec)) := by
  obtain ⟨heven, -⟩ := blks_per_sec_even hlog
  generalize hvs : (List.range g.total_sections).map (fun k => sit.valid_blocks (k * g.segs_per_sec)) = vs
  have hlen : vs.length = g.total_sections := by rw [← hvs, List.length_map, List.length_range]
  have hvb : ∀ v ∈ vs, v ≤ blks_per_sec g := by
    rw [← hvs]
    simpa only [List.mem_map, List.mem_range, forall_exists_index, and_imp,
      forall_apply_eq_imp_iff₂] using hv
  have hb := metric_exact_bimodal_le heven hvb
  have ht := Nat.mul_le_mul_left g.total_sections
    ((blks_per_sec g).sub_le_sub_right heven.le 1 |>.trans (two_mul_sub_one_le_mul_self _))
  have ht' := metric_exact_total_le (g := g) vs
  rw [hlen] at hb ht'
  rw [Nat.mul_assoc] at hdist
  unfold metric_loop
  rw [hvs, metric_fold_eq hlog vs hvb _ (by dsimp only; omega) (by dsimp only; omega),
    MetricAcc.zero_add]

/-- While `total_sections * hblks_per_sec * hblks_per_sec` fits in 32 bits and no section
counts more valid blocks than it holds, `f2fs_update_gc_metric` computes the metric in unbounded
arithmetic: `si->bimodal` is the sum of the squared distances of the sections from half full
over `total_sections * hblks_per_sec * hblks_per_sec / 100`, and `si->avg_vblocks` the mean valid
count of the partly valid sections, with the same divisions by zero. -/
theorem update_gc_metric_exact (sit : SitInfo) (dirty_count : Nat)
    (hdist : g.total_sections * (blks_per_sec g / 2) * (blks_per_sec g / 2) < 2 ^ 32)
    (hv : ∀ k < g.total_sections, sit.valid_blocks (k * g.segs_per_sec) ≤ blks_per_sec g) :
    f2fs_update_gc_metric g sit dirty_count = gc_metric_exact g sit dirty_count := by
  have hd : metric_dist g = g.total_sections * (blks_per_sec g / 2) * (blks_per_sec g / 2) / 100 :=
    by rw [metric_dist, Nat.mod_eq_of_lt hdist]
  unfold f2fs_update_gc_metric gc_metric_exact
  rw [metric_loop_exact hlog hdist hv, hd]
  by_cases hdc : dirty_count = 0 <;> simp [hdc, ite_or]

end Exact

/-- Four sections of two 512-block segments. -/
def four_sec_geometry : Geometry where
  log_blocks_per_seg := 9
  log_segs_per_sec := 1
  total_sections := 4
  total_segs_lt := by decide
  START_BLOCK := fun segno => segno * 512

/-- A SIT over `four_sec_geometry`: the first section full, the second and fourth partly valid,
the third empty. -/
def mixed_sit : SitInfo where
  mtime := fun _ => 0
  valid_blocks := fun
    | 0 => 1024
    | 2 => 300
    | 6 => 700
    | _ => 0
  ckpt_valid_blocks := fun _ => 0
  min_mtime := 0
  max_mtime := 0

/-- Over four sections of 1024 blocks the product is `4 * 512 * 512`, far below `2^32`, so with
two partly valid sections and `dirty_count = 2` the metric is the exact one. -/
theorem four_sec_gc_metric_exact :
    (0 < four_sec_geometry.log_segs_per_sec + four_sec_geometry.log_blocks_per_seg ∧
      four_sec_geometry.log_segs_per_sec + four_sec_geometry.log_blocks_per_seg < 32) ∧
    four_sec_geometry.total_sections * (blks_per_sec four_sec_geometry / 2) *
      (blks_per_sec four_sec_geometry / 2) < 2 ^ 32 ∧
    (∀ k < four_sec_geometry.total_sections,
      mixed_sit.valid_blocks (k * four_sec_geometry.segs_per_sec) ≤
        blks_per_sec four_sec_geometry) ∧
    f2fs_update_gc_metric four_sec_geometry mixed_sit 2 =
      gc_metric_exact four_sec_geometry mixed_sit 2 :=
  ⟨by decide, by decide, by decide, update_gc_metric_exact (by decide) _ _ (by decide) (by decide)⟩

example : f2fs_update_gc_metric four_sec_geometry mixed_sit 2 = some ⟨57, 500⟩ := by decide

/-- `int` division, truncated toward zero; `none` where it faults: by zero, or `INT_MIN / -1`. -/
def div_s32 (a b : Int) : Option Int :=
  if b = 0 ∨ (a = -2 ^ 31 ∧ b = -1) then none else some (a.tdiv b)

/-- `(int)(blocks >> sbi->log_blocks_per_seg) * 100 /
(int)(sbi->user_block_count >> sbi->log_blocks_per_seg) / 2`: the cells of the bar that
`blocks` user blocks take. -/
def util_share (g : Geometry) (user_block_count blocks : Nat) : Option Int := do
  let q ← div_s32 (wrap_s32 (s32 (blocks >>> g.log_blocks_per_seg) * 100))
    (s32 (user_block_count >>> g.log_blocks_per_seg))
  div_s32 q 2

/-- The fields of `f2fs_stat_info` that `f2fs_update_stat` computes rather than copies. -/
structure UtilStat where
  util_free : Int
  util_valid : Int
  util_invalid : Int
  deriving DecidableEq, Repr

/-- `f2fs_update_stat`, given `free_user_blocks(sbi)`, `written_block_count(sbi)` and
`sbi->user_block_count`: the bar of 50 cells `f2fs_read_gc` draws, split between the free,
valid and invalid user blocks in whole segments and `int` arithmetic; `none` when a division
faults. The other fields it writes are copies of segment.h counters. -/
def f2fs_update_stat (g : Geometry) (free_user_blocks written_block_count user_block_count : Nat) :
    Option UtilStat := do
  let util_free ← util_share g user_block_count free_user_blocks
  let util_valid ← util_share g user_block_count written_block_count
  pure ⟨util_free, util_valid, wrap_s32 (50 - util_free - util_valid)⟩

/-- `for (j = 0; j < n; j++) buf += sprintf(buf, "-");`: no cell when `n ≤ 0`. -/
def dashes (n : Int) : String := ⟨List.replicate n.toNat '-'⟩

/-- The bar `f2fs_read_gc` prints after "Distribution of User Blocks". -/
def distribution_bar (u : UtilStat) : String :=
  " [" ++ dashes u.util_valid ++ "|" ++ dashes u.util_invalid ++ "|" ++ dashes u.util_free ++
    "]\n\n"

section Util

variable {g : Geometry} {U : Nat}

theorem s32_of_lt {x : Nat} (h : x < 2 ^ 31) : s32 x = x := if_pos h

theorem wrap_s32_of_lt {x : Nat} (h : x < 2 ^ 31) : wrap_s32 x = x := by
  have h32 : (x : Int) % 2 ^ 32 = x := Int.emod_eq_of_lt (Int.natCast_nonneg x) (by omega)
  rw [wrap_s32, h32, Int.toNat_ofNat, s32_of_lt h]

theorem div_s32_of_pos {a b : Int} (hb : 0 < b) : div_s32 a b = some (a.tdiv b) :=
  if_neg (by omega)

/-- While `user_block_count >> log_blocks_per_seg` is a positive number of segments whose
hundredfold fits in an `int`, the share of a count of at most as many segments is computed in
`Nat`, without a wrap. -/
theorem util_share_eq {blocks : Nat} (hseg : 0 < U >>> g.log_blocks_per_seg)
    (hfit : (U >>> g.log_blocks_per_seg) * 100 < 2 ^ 31)
    (hle : blocks >>> g.log_blocks_per_seg ≤ U >>> g.log_blocks_per_seg) :
    util_share g U blocks =
      some ((blocks >>> g.log_blocks_per_seg * 100 / (U >>> g.log_blocks_per_seg) / 2 : Nat) : Int) := by
  have hprod : blocks >>> g.log_blocks_per_seg * 100 < 2 ^ 31 := by omega
  have hcast : (blocks >>> g.log_blocks_per_seg : Int) * 100 =
      ((blocks >>> g.log_blocks_per_seg * 100 : Nat) : Int) := by omega
  rw [util_share, s32_of_lt (by omega), s32_of_lt (by omega), hcast, wrap_s32_of_lt hprod,
    div_s32_of_pos (by omega), Option.bind_eq_bind, Option.some_bind, div_s32_of_pos (by omega),
    ← Int.ofNat_tdiv]
  exact congrArg some (Int.ofNat_tdiv _ 2).symm

/-- The shares of two counts that together fit in the user blocks add up to at most 50 cells. -/
theorem util_shares_le {a b d : Nat} (hab : a + b ≤ d) : a * 100 / d / 2 + b * 100 / d / 2 ≤ 50 := by
  calc a * 100 / d / 2 + b * 100 / d / 2
      ≤ (a * 100 / d + b * 100 / d) / 2 := Nat.add_div_le_add_div _ _ _
    _ ≤ (a * 100 + b * 100) / d / 2 := Nat.div_le_div_right (Nat.add_div_le_add_div _ _ _)
    _ ≤ d * 100 / d / 2 := Nat.div_le_div_right (Nat.div_le_div_right (by omega))
    _ ≤ 50 := by
      rcases Nat.eq_zero_or_pos d with rfl | hd
      · simp
      · rw [Nat.mul_div_cancel_left _ hd]

theorem length_dashes (n : Int) : (dashes n).length = n.toNat := by
  simp [dashes]

end Util

/-- While the user blocks make a positive number of segments whose hundredfold fits in an `int`
(always, with 512-block segments and 32-bit block counts), and the free and written blocks
together are at most the user blocks, `f2fs_update_stat` does not fault, computes the valid and
free shares in `Nat` without a wrap, and leaves `util_invalid` non-negative with the three
shares adding up to 50: the bar `f2fs_read_gc` draws always has 50 cells. -/
theorem f2fs_update_stat_fills_bar {F W U : Nat} (g : Geometry)
    (hseg : 0 < U >>> g.log_blocks_per_seg) (hfit : (U >>> g.log_blocks_per_seg) * 100 < 2 ^ 31)
    (hFW : F + W ≤ U) :
    ∃ u, f2fs_update_stat g F W U = some u ∧
      u.util_free = (F >>> g.log_blocks_per_seg * 100 / (U >>> g.log_blocks_per_seg) / 2 : Nat) ∧
      u.util_valid = (W >>> g.log_blocks_per_seg * 100 / (U >>> g.log_blocks_per_seg) / 2 : Nat) ∧
      0 ≤ u.util_invalid ∧ u.util_valid + u.util_invalid + u.util_free = 50 ∧
      (distribution_bar u).length = 57 := by
  have hsum : F >>> g.log_blocks_per_seg + W >>> g.log_blocks_per_seg ≤ U >>> g.log_blocks_per_seg := by
    simp only [Nat.shiftRight_eq_div_pow]
    exact (Nat.add_div_le_add_div _ _ _).trans (Nat.div_le_div_right hFW)
  have hle := util_shares_le (d := U >>> g.log_blocks_per_seg) hsum
  rw [f2fs_update_stat, util_share_eq hseg hfit ((Nat.le_add_right _ _).trans hsum),
    Option.bind_eq_bind, Option.some_bind, util_share_eq hseg hfit
    ((Nat.le_add_left _ _).trans hsum), Option.some_bind]
  generalize F >>> g.log_blocks_per_seg * 100 / (U >>> g.log_blocks_per_seg) / 2 = a at hle ⊢
  generalize W >>> g.log_blocks_per_seg * 100 / (U >>> g.log_blocks_per_seg) / 2 = b at hle ⊢
  have hinv : wrap_s32 (50 - a - b) = ((50 - a - b : Nat) : Int) := by
    rw [show (50 : Int) - a - b = ((50 - a - b : Nat) : Int) by omega, wrap_s32_of_lt (by omega)]
  refine ⟨_, rfl, rfl, rfl, by simp only [hinv]; omega, by simp only [hinv]; omega, ?_⟩
  simp only [distribution_bar, String.length_append, length_dashes, hinv, Int.toNat_ofNat]
  simp only [String.length, List.length]
  omega

/-- On the 128 GiB device, with ten million free and twenty million written of its `2^25` user
blocks, the bar has 29 valid, 7 invalid and 14 free cells. -/
theorem gib128_bar_has_fifty_cells :
    (0 < 33554432 >>> gib128_geometry.log_blocks_per_seg ∧
      (33554432 >>> gib128_geometry.log_blocks_per_seg) * 100 < 2 ^ 31 ∧
      10000000 + 20000000 ≤ 33554432) ∧
    ∃ u, f2fs_update_stat gib128_geometry 10000000 20000000 33554432 = some u ∧
      u.util_free = (10000000 >>> gib128_geometry.log_blocks_per_seg * 100 /
        (33554432 >>> gib128_geometry.log_blocks_per_seg) / 2 : Nat) ∧
      u.util_valid = (20000000 >>> gib128_geometry.log_blocks_per_seg * 100 /
        (33554432 >>> gib128_geometry.log_blocks_per_seg) / 2 : Nat) ∧
      0 ≤ u.util_invalid ∧ u.util_valid + u.util_invalid + u.util_free = 50 ∧
      (distribution_bar u).length = 57 :=
  ⟨⟨by decide, by decide, by decide⟩,
    f2fs_update_stat_fills_bar gib128_geometry (by decide) (by decide) (by decide)⟩

example : distribution_bar ⟨14, 29, 7⟩ =
    " [-----------------------------|-------|--------------]\n\n" := by decide

end f2fs.gc
