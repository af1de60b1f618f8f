import F2fsGc.Segment

open f2fs.segment

namespace f2fs.gc

/-- The part of the superblock and of `dirty_seglist_info` that victim selection reads and
writes. -/
structure VictimState where
  dirty_segmap : DirtyType → Bitmap
  victim_segmap : GcType → Bitmap
  /-- `IS_CURSEC(sbi, secno)`: the section holds one of the current segments. -/
  cursec : Nat → Bool
  sit : SitInfo
  last_victim : GcMode → Nat

/-- The `type` argument of `get_victim`: `NO_CHECK_TYPE` for cleaning, or an SSR request for
one log type (`IS_SSR_TYPE`, `GET_SSR_TYPE`). -/
inductive VictimType
  | NO_CHECK_TYPE
  | SSR_TYPE (t : DirtyType)
  deriving DecidableEq, Repr

/-- `struct victim_sel_policy`; `min_segno = none` is `NULL_SEGNO`. -/
structure VictimSelPolicy where
  alloc_mode : AllocMode
  gc_mode : GcMode
  dirty_segmap : Bitmap
  log_ofs_unit : Nat
  offset : Nat

def UINT_MAX : Nat := 2 ^ 32 - 1

def select_gc_type : GcType → GcMode
  | .BG_GC => .GC_CB
  | .FG_GC => .GC_GREEDY

def select_policy (g : Geometry) (st : VictimState) (gc_type : GcType) :
    VictimType → VictimSelPolicy
  | .SSR_TYPE t =>
    { alloc_mode := .SSR, gc_mode := .GC_GREEDY, dirty_segmap := st.dirty_segmap t,
      log_ofs_unit := 0, offset := st.last_victim .GC_GREEDY }
  | .NO_CHECK_TYPE =>
    { alloc_mode := .LFS, gc_mode := select_gc_type gc_type,
      dirty_segmap := st.dirty_segmap .DIRTY, log_ofs_unit := g.log_segs_per_sec,
      offset := st.last_victim (select_gc_type gc_type) }

def get_max_cost (g : Geometry) (p : VictimSelPolicy) : Nat :=
  match p.gc_mode with
  | .GC_GREEDY => 2 ^ (g.log_blocks_per_seg + p.log_ofs_unit) % 2 ^ 32
  | .GC_CB => UINT_MAX

/-- The section's mtime sum, accumulated in an `unsigned long long`. -/
def sec_mtime_sum (g : Geometry) (sit : SitInfo) (start : Nat) : Nat :=
  ((List.range g.segs_per_sec).map fun i => sit.mtime (start + i)).sum % 2 ^ 64

/-- Cost-benefit cost of the section of `segno`. It widens `min_mtime`/`max_mtime` to the
section's average mtime; `u` and `age` are `unsigned char`, the final expression is `int`
arithmetic converted to `unsigned int`. -/
def get_cb_cost (g : Geometry) (sit : SitInfo) (segno : Nat) : Nat × SitInfo :=
  let secno := g.GET_SECNO segno
  let start := (secno <<< g.log_segs_per_sec) % 2 ^ 32
  let mtime := sec_mtime_sum g sit start >>> g.log_segs_per_sec
  let vblocks := sit.valid_blocks segno >>> g.log_segs_per_sec
  let u : Nat := ((vblocks * 100 % 2 ^ 32) >>> g.log_blocks_per_seg) % 2 ^ 8
  let min_mtime := if mtime < sit.min_mtime then mtime else sit.min_mtime
  let max_mtime := if mtime > sit.max_mtime then mtime else sit.max_mtime
  let age : Nat :=
    if max_mtime ≠ min_mtime then
      (100 + 2 ^ 64 - 100 * (mtime - min_mtime) % 2 ^ 64 / (max_mtime - min_mtime)) % 2 ^ 64
        % 2 ^ 8
    else 0
  let cost : Int :=
    ((UINT_MAX : Int) - Int.tdiv (100 * (100 - (u : Int)) * (age : Int)) (100 + (u : Int))) % 2 ^ 32
  (cost.toNat, { sit with min_mtime := min_mtime, max_mtime := max_mtime })

def get_gc_cost (g : Geometry) (sit : SitInfo) (segno : Nat) (p : VictimSelPolicy) :
    Nat × SitInfo :=
  match p.alloc_mode, p.gc_mode with
  | .SSR, _ => (sit.ckpt_valid_blocks segno, sit)
  | .LFS, .GC_GREEDY => (sit.valid_blocks segno, sit)
  | .LFS, .GC_CB => get_cb_cost g sit segno

@[simp] theorem select_policy_log_ofs_unit_ssr (g : Geometry) (st : VictimState)
    (gc_type : GcType) (t : DirtyType) :
    (select_policy g st gc_type (.SSR_TYPE t)).log_ofs_unit = 0 := rfl

/-- The scan starts from the `last_victim` of the policy's own mode. -/
theorem select_policy_offset (g : Geometry) (st : VictimState) (gc_type : GcType)
    (type : VictimType) : (select_policy g st gc_type type).offset =
      st.last_victim (select_policy g st gc_type type).gc_mode := by
  cases type <;> rfl

/-- Only a cleaning request (`NO_CHECK_TYPE`) is served in LFS mode. -/
theorem select_policy_lfs {g : Geometry} {st : VictimState} {gc_type : GcType}
    {type : VictimType} (h : (select_policy g st gc_type type).alloc_mode = .LFS) :
    type = .NO_CHECK_TYPE := by
  cases type
  · rfl
  · cases h

/-- With one segment per section every policy works segment by segment. -/
theorem select_policy_log_ofs_unit_eq_zero {g : Geometry} (hs : g.log_segs_per_sec = 0)
    (st : VictimState) (gc_type : GcType) (type : VictimType) :
    (select_policy g st gc_type type).log_ofs_unit = 0 := by
  cases type
  · exact hs
  · rfl

/-- The average mtime of the section of `segno`, as `get_cb_cost` computes it. -/
def cb_mtime (g : Geometry) (sit : SitInfo) (segno : Nat) : Nat :=
  sec_mtime_sum g sit ((g.GET_SECNO segno <<< g.log_segs_per_sec) % 2 ^ 32) >>> g.log_segs_per_sec

/-- `get_cb_cost` widens the mtime window to the section's average and changes nothing else. -/
theorem get_cb_cost_snd (g : Geometry) (sit : SitInfo) (segno : Nat) :
    (get_cb_cost g sit segno).2 =
      { sit with
        min_mtime := if cb_mtime g sit segno < sit.min_mtime then cb_mtime g sit segno
          else sit.min_mtime
        max_mtime := if cb_mtime g sit segno > sit.max_mtime then cb_mtime g sit segno
          else sit.max_mtime } := rfl

/-- Only a cost-benefit evaluation touches the SIT, and then only its mtime window. -/
theorem get_gc_cost_sit (g : Geometry) (sit : SitInfo) (segno : Nat) (p : VictimSelPolicy) :
    ∃ lo hi, (get_gc_cost g sit segno p).2 = { sit with min_mtime := lo, max_mtime := hi } := by
  rcases p with ⟨_ | _, _ | _, _, _, _⟩
  · exact ⟨_, _, get_cb_cost_snd g sit segno⟩
  · exact ⟨sit.min_mtime, sit.max_mtime, rfl⟩
  · exact ⟨sit.min_mtime, sit.max_mtime, rfl⟩
  · exact ⟨sit.min_mtime, sit.max_mtime, rfl⟩

/-- The greedy and SSR costs read the SIT without changing it. -/
theorem get_gc_cost_sit_of_ne_cb {g : Geometry} {sit : SitInfo} {segno : Nat}
    {p : VictimSelPolicy} (h : p.alloc_mode = .SSR ∨ p.gc_mode = .GC_GREEDY) :
    (get_gc_cost g sit segno p).2 = sit := by
  unfold get_gc_cost
  rcases p with ⟨_ | _, _ | _, _, _, _⟩ <;> simp_all

/-- The cost does not depend on the mtime window unless the policy is cost-benefit. -/
theorem get_gc_cost_fst_of_window {g : Geometry} {sit : SitInfo} {segno : Nat}
    {p : VictimSelPolicy} (lo hi : Nat) (h : p.alloc_mode = .SSR ∨ p.gc_mode = .GC_GREEDY) :
    (get_gc_cost g { sit with min_mtime := lo, max_mtime := hi } segno p).1 =
      (get_gc_cost g sit segno p).1 := by
  unfold get_gc_cost
  rcases p with ⟨_ | _, _ | _, _, _, _⟩ <;> simp_all

end f2fs.gc
