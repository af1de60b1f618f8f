import F2fsGc.Gc.Collect
import F2fsGc.Victim.Runs

open f2fs.segment

namespace f2fs.gc

section Scan

variable {c : ScanCtx}

/-- What is left of a scan: the turns of the current pass, and a whole second pass while
`last_victim` is set. -/
def ScanCtx.measure (c : ScanCtx) (s : ScanState) : Nat :=
  (if s.st.last_victim c.p.gc_mode = 0 then 0 else c.total + 2) + (c.total + 1 - s.offset)

@[simp] theorem VictimState.set_last_victim_self (st : VictimState) (m : GcMode) (v : Nat) :
    (st.set_last_victim m v).last_victim m = v := by
  simp [VictimState.set_last_victim]

/-- The scan moves past every segment it reaches, when no offset wraps around. -/
theorem ScanCtx.lt_next_offset
    (hunit : ∀ segno < c.total, unit_start c.p.log_ofs_unit segno + 2 ^ c.p.log_ofs_unit < 2 ^ 32)
    {segno : Nat} (h : segno < c.total) : segno < c.next_offset segno := by
  rw [ScanCtx.next_offset, Nat.mod_eq_of_lt (hunit segno h)]
  exact lt_unit_start_add _ _

/-- Every turn that goes on lowers the measure. -/
theorem victim_scan_step_measure
    (hunit : ∀ segno < c.total, unit_start c.p.log_ofs_unit segno + 2 ^ c.p.log_ofs_unit < 2 ^ 32)
    {s s' : ScanState} (h : victim_scan_step c s = .next s') : c.measure s' < c.measure s := by
  have hoff : find_next_bit c.p.dirty_segmap c.total s.offset < c.total →
      c.total + 1 - c.next_offset (find_next_bit c.p.dirty_segmap c.total s.offset) <
        c.total + 1 - s.offset := fun hlt => by
    have h1 := (find_next_bit_of_lt hlt).1
    have h2 := c.lt_next_offset hunit hlt
    omega
  rcases victim_scan_step_cases c s with
    ⟨-, hlv, hs⟩ | ⟨-, -, hs⟩ | ⟨hlt, -, hs⟩ | ⟨hlt, -, -, hs⟩ | ⟨hlt, -, -, -, hs⟩ | ⟨-, -, -, -, hs⟩ <;>
    rw [hs] at h <;> cases h
  · simp only [ScanCtx.measure, VictimState.set_last_victim_self, if_pos, if_neg hlv]
    omega
  all_goals
    have := hoff hlt
    simp only [ScanCtx.measure, ScanCtx.evaluate_offset, ScanCtx.evaluate_last_victim]
    omega

/-- A scan given more turns than its measure breaks out. -/
theorem victim_scan_isSome
    (hunit : ∀ segno < c.total, unit_start c.p.log_ofs_unit segno + 2 ^ c.p.log_ofs_unit < 2 ^ 32) :
    ∀ (fuel : Nat) (s : ScanState), c.measure s < fuel → (victim_scan c fuel s).isSome
  | 0, _, h => absurd h (Nat.not_lt_zero _)
  | fuel + 1, s, h => by
    simp only [victim_scan]
    split
    · rename_i s' hs
      exact victim_scan_isSome hunit fuel s' (by have := victim_scan_step_measure hunit hs; omega)
    · rfl

/-- One turn that goes on either rewinds, which needs `last_victim` set and clears it, or keeps
`last_victim` and moves the offset to the end of the unit of a segment at or after it. -/
theorem victim_scan_step_next
    (hunit : ∀ segno < c.total, unit_start c.p.log_ofs_unit segno + 2 ^ c.p.log_ofs_unit < 2 ^ 32)
    {s s' : ScanState} (h : victim_scan_step c s = .next s') :
    (s.st.last_victim c.p.gc_mode ≠ 0 ∧ s'.st.last_victim c.p.gc_mode = 0 ∧ s'.offset = 0) ∨
    (s'.st.last_victim c.p.gc_mode = s.st.last_victim c.p.gc_mode ∧ ∃ segno, s.offset ≤ segno ∧
      segno < c.total ∧ s'.offset = unit_start c.p.log_ofs_unit segno + 2 ^ c.p.log_ofs_unit) := by
  rcases victim_scan_step_cases c s with
    ⟨-, hlv, hs⟩ | ⟨-, -, hs⟩ | ⟨hlt, -, hs⟩ | ⟨hlt, -, -, hs⟩ | ⟨hlt, -, -, -, hs⟩ | ⟨-, -, -, -, hs⟩ <;>
    rw [hs] at h <;> cases h
  · exact .inl ⟨hlv, VictimState.set_last_victim_self _ _ _, rfl⟩
  all_goals
    refine .inr ⟨by simp, _, (find_next_bit_of_lt hlt).1, hlt, ?_⟩
    simp only [ScanCtx.evaluate_offset, ScanCtx.next_offset]
    exact Nat.mod_eq_of_lt (hunit _ hlt)

/-- For every scan map, every `TOTAL_SEGS` and `log_ofs_unit` with
`TOTAL_SEGS + 2^log_ofs_unit ≤ 2^32` and every start, whatever `last_victim` holds: within a
pass each turn moves `p.offset` past the whole unit of a segment at or after it, so no unit is
examined twice; the rewind to offset 0 needs `last_victim` set and clears it, which no other turn
undoes, so it happens at most once; and the loop breaks out within `2 * TOTAL_SEGS + 4` turns,
two passes over `[0, TOTAL_SEGS)`. -/
theorem victim_scan_terminates (c : ScanCtx) (hc : c.total + 2 ^ c.p.log_ofs_unit ≤ 2 ^ 32) :
    (∀ s s', victim_scan_step c s = .next s' →
      (s.st.last_victim c.p.gc_mode ≠ 0 ∧ s'.st.last_victim c.p.gc_mode = 0 ∧ s'.offset = 0) ∨
      (s'.st.last_victim c.p.gc_mode = s.st.last_victim c.p.gc_mode ∧ ∃ segno, s.offset ≤ segno ∧
        segno < c.total ∧ s'.offset = unit_start c.p.log_ofs_unit segno + 2 ^ c.p.log_ofs_unit)) ∧
    ∀ s, (victim_scan c (2 * c.total + 4) s).isSome := by
  have hunit : ∀ segno < c.total, unit_start c.p.log_ofs_unit segno + 2 ^ c.p.log_ofs_unit < 2 ^ 32 :=
    fun segno h => by have := unit_start_le c.p.log_ofs_unit segno; omega
  refine ⟨fun _ _ => victim_scan_step_next hunit, fun s => victim_scan_isSome hunit _ s ?_⟩
  simp only [ScanCtx.measure]
  split_ifs <;> omega

end Scan

/-- The background scan of the one-section device breaks out within `2 * 2 + 4` turns. -/
theorem one_sec_scan_terminates :
    let c := scan_ctx one_sec_config (select_policy one_sec_geometry one_sec_state .BG_GC
      .NO_CHECK_TYPE) .BG_GC
    c.total + 2 ^ c.p.log_ofs_unit ≤ 2 ^ 32 ∧ (victim_scan c (2 * c.total + 4)
      (scan_start one_sec_geometry one_sec_state c.p)).isSome :=
  ⟨by decide, (victim_scan_terminates _ (by decide)).2 _⟩

/-- The units of a cleaning scan are the sections, and they tile `TOTAL_SEGS`. -/
theorem unit_start_add_le_TOTAL_SEGS (g : Geometry) {segno : Nat} (h : segno < g.TOTAL_SEGS) :
    unit_start g.log_segs_per_sec segno + 2 ^ g.log_segs_per_sec ≤ g.TOTAL_SEGS := by
  have hq : segno / 2 ^ g.log_segs_per_sec < g.total_sections :=
    Nat.div_lt_of_lt_mul (by rwa [Nat.mul_comm])
  calc unit_start g.log_segs_per_sec segno + 2 ^ g.log_segs_per_sec
      = (segno / 2 ^ g.log_segs_per_sec + 1) * 2 ^ g.log_segs_per_sec := by
        rw [unit_start_eq, Nat.succ_mul]
    _ ≤ g.total_sections * 2 ^ g.log_segs_per_sec := Nat.mul_le_mul_right _ hq
    _ = g.TOTAL_SEGS := rfl

/-- A cleaning selection always ends within `scan_fuel` turns of its scan. -/
theorem get_victim_by_default_isSome (cfg : GcConfig) (st : VictimState) (gc_type : GcType) :
    (get_victim_by_default cfg (scan_fuel cfg.g) st gc_type .NO_CHECK_TYPE).isSome := by
  have hscan : ∀ st' : VictimState,
      (victim_scan (scan_ctx cfg (select_policy cfg.g st gc_type .NO_CHECK_TYPE) gc_type)
        (scan_fuel cfg.g) (scan_start cfg.g st' (select_policy cfg.g st gc_type .NO_CHECK_TYPE))).isSome :=
    fun st' => victim_scan_isSome (fun segno h => lt_of_le_of_lt
      (unit_start_add_le_TOTAL_SEGS cfg.g h) cfg.g.TOTAL_SEGS_lt) _ _ (by
        simp only [ScanCtx.measure, scan_ctx, scan_start, scan_fuel]
        split_ifs <;> omega)
  unfold get_victim_by_default
  dsimp only
  split_ifs
  · split
    · rfl
    · simpa using hscan _
  · simpa using hscan _

deriving instance Fintype for DirtyType

/-- What other threads may do to the selection state while a call runs: take segments off dirty
maps and clear victim bits, nothing else to the maps; a victim bit of a segment that stays in
`DIRTY` is cleared only as the segment leaves another dirty map. The current sections, the SIT
and `last_victim` may change freely. -/
def Shrinks (vs vs' : VictimState) : Prop :=
  (∀ t x, vs'.dirty_segmap t x = true → vs.dirty_segmap t x = true) ∧
  (∀ t x, vs'.victim_segmap t x = true → vs.victim_segmap t x = true) ∧
  (∀ t x, vs.victim_segmap t x = true → vs'.victim_segmap t x = false →
    vs'.dirty_segmap .DIRTY x = true → ∃ d, vs.dirty_segmap d x = true ∧ vs'.dirty_segmap d x = false)

/-- The environment of a call: before each victim selection the other threads shrink the maps. -/
def EnvShrinks (O : Collab) : Prop := ∀ n vs, Shrinks vs (O.env n vs)

/-- The dirty maps segment `x` is on. -/
def dirty_entries (vs : VictimState) (x : Nat) : Nat :=
  ∑ d : DirtyType, (vs.dirty_segmap d x).toNat

/-- What segment `x` contributes to the measure. In background mode, whether it is dirty and
unclaimed; in foreground mode, a background claim on it, worth more than every unclaimed
segment together, and whether it is dirty without a foreground claim. -/
def seg_weight (total : Nat) : GcType → VictimState → Nat → Nat
  | .BG_GC, vs, x => dirty_entries vs x +
      (vs.dirty_segmap .DIRTY x && !vs.victim_segmap .BG_GC x && !vs.victim_segmap .FG_GC x).toNat
  | .FG_GC, vs, x => dirty_entries vs x + (total + 1) * (vs.victim_segmap .BG_GC x).toNat +
      (vs.dirty_segmap .DIRTY x && !vs.victim_segmap .FG_GC x).toNat

/-- The progress measure of a call of `f2fs_gc` in mode `gc_type`: background mode stands above
every foreground value. -/
def gc_measure (g : Geometry) (gc_type : GcType) (vs : VictimState) : Nat :=
  (∑ x in Finset.range g.TOTAL_SEGS, seg_weight g.TOTAL_SEGS gc_type vs x) +
    if gc_type = .BG_GC then (g.TOTAL_SEGS + 1) ^ 2 else 0

theorem dirty_entries_le_card (x : Nat) (vs : VictimState) : dirty_entries vs x ≤ 7 :=
  calc dirty_entries vs x ≤ ∑ _d : DirtyType, 1 :=
        Finset.sum_le_sum fun _ _ => Bool.toNat_le _
    _ = 7 := rfl

section Measure

variable {g : Geometry} {t : GcType} {vs vs' : VictimState}

theorem gc_measure_le_of
    (h : ∀ x < g.TOTAL_SEGS, seg_weight g.TOTAL_SEGS t vs' x ≤ seg_weight g.TOTAL_SEGS t vs x) :
    gc_measure g t vs' ≤ gc_measure g t vs :=
  Nat.add_le_add_right (Finset.sum_le_sum fun x hx => h x (Finset.mem_range.mp hx)) _

theorem gc_measure_lt_of
    (h : ∀ x < g.TOTAL_SEGS, seg_weight g.TOTAL_SEGS t vs' x ≤ seg_weight g.TOTAL_SEGS t vs x)
    {m : Nat} (hm : m < g.TOTAL_SEGS)
    (hlt : seg_weight g.TOTAL_SEGS t vs' m < seg_weight g.TOTAL_SEGS t vs m) :
    gc_measure g t vs' < gc_measure g t vs :=
  Nat.add_lt_add_right (Finset.sum_lt_sum (fun x hx => h x (Finset.mem_range.mp hx))
    ⟨m, Finset.mem_range.mpr hm, hlt⟩) _

/-- Every foreground value lies below every background value of the same maps. -/
theorem gc_measure_fg_lt_bg (g : Geometry) (vs : VictimState) :
    gc_measure g .FG_GC vs < gc_measure g .BG_GC vs := by
  have hfg : ∑ x in Finset.range g.TOTAL_SEGS, seg_weight g.TOTAL_SEGS .FG_GC vs x ≤
      ∑ x in Finset.range g.TOTAL_SEGS, (dirty_entries vs x + (g.TOTAL_SEGS + 2)) :=
    Finset.sum_le_sum fun x _ => by
      have h1 := Nat.mul_le_mul_left (g.TOTAL_SEGS + 1) (Bool.toNat_le (vs.victim_segmap .BG_GC x))
      have h2 := Bool.toNat_le (vs.dirty_segmap .DIRTY x && !vs.victim_segmap .FG_GC x)
      simp only [seg_weight]; omega
  have hbg : ∑ x in Finset.range g.TOTAL_SEGS, dirty_entries vs x ≤
      ∑ x in Finset.range g.TOTAL_SEGS, seg_weight g.TOTAL_SEGS .BG_GC vs x :=
    Finset.sum_le_sum fun x _ => Nat.le_add_right _ _
  rw [Finset.sum_add_distrib, Finset.sum_const_nat fun _ _ => rfl, Finset.card_range] at hfg
  have hsq : g.TOTAL_SEGS * (g.TOTAL_SEGS + 2) < (g.TOTAL_SEGS + 1) ^ 2 := by
    rw [sq, Nat.mul_succ, Nat.succ_mul]; omega
  simp only [gc_measure, reduceCtorEq, if_false, if_true, add_zero]
  omega

/-- Switching to foreground mode never raises the measure. -/
theorem gc_measure_fg_le (g : Geometry) (gc_type : GcType) (vs : VictimState) :
    gc_measure g .FG_GC vs ≤ gc_measure g gc_type vs := by
  cases gc_type
  · exact (gc_measure_fg_lt_bg g vs).le
  · exact le_rfl

end Measure

section Shrinks

variable {vs vs' : VictimState} (h : Shrinks vs vs')
include h

theorem Shrinks.dirty_entries_le (x : Nat) : dirty_entries vs' x ≤ dirty_entries vs x :=
  Finset.sum_le_sum fun d _ => Bool.toNat_le_toNat (h.1 d x)

/-- A victim bit cleared costs the segment a dirty map. -/
theorem Shrinks.dirty_entries_lt {t : GcType} {x : Nat} (hv : vs.victim_segmap t x = true)
    (hv' : vs'.victim_segmap t x = false) (hdirty : vs'.dirty_segmap .DIRTY x = true) :
    dirty_entries vs' x < dirty_entries vs x := by
  obtain ⟨d, hd, hd'⟩ := h.2.2 t x hv hv' hdirty
  exact Finset.sum_lt_sum (fun d _ => Bool.toNat_le_toNat (h.1 d x))
    ⟨d, Finset.mem_univ _, by simp [hd, hd']⟩

theorem Shrinks.seg_weight_le (total : Nat) (gc_type : GcType) (x : Nat) :
    seg_weight total gc_type vs' x ≤ seg_weight total gc_type vs x := by
  have hde := h.dirty_entries_le x
  have hb : (vs'.victim_segmap .BG_GC x).toNat ≤ (vs.victim_segmap .BG_GC x).toNat :=
    Bool.toNat_le_toNat (h.2.1 .BG_GC x)
  by_cases hc : ∃ t, vs.victim_segmap t x = true ∧ vs'.victim_segmap t x = false
  · obtain ⟨t, hv, hv'⟩ := hc
    have hmul := Nat.mul_le_mul_left (total + 1) hb
    cases hdirty : vs'.dirty_segmap .DIRTY x
    · -- a claim undone on a segment out of `DIRTY`: it weighs no more than its claims
      cases gc_type <;> simp only [seg_weight, hdirty, Bool.false_and, Bool.toNat_false] <;> omega
    -- a claim undone on a segment in `DIRTY`: it left a dirty map, which outweighs its indicator
    have hlt := h.dirty_entries_lt hv hv' hdirty
    cases gc_type
    · have := Bool.toNat_le (vs'.dirty_segmap .DIRTY x && !vs'.victim_segmap .BG_GC x &&
        !vs'.victim_segmap .FG_GC x)
      simp only [seg_weight]; omega
    · have := Bool.toNat_le (vs'.dirty_segmap .DIRTY x && !vs'.victim_segmap .FG_GC x)
      simp only [seg_weight]; omega
  · -- no claim undone: the maps only lost dirty entries
    have hv : ∀ t, vs'.victim_segmap t x = vs.victim_segmap t x := fun t => by
      cases h1 : vs.victim_segmap t x
      · cases h2 : vs'.victim_segmap t x
        · rfl
        · simpa [h1] using h.2.1 t x h2
      · by_contra h2
        exact hc ⟨t, h1, by simpa using h2⟩
    have hd := h.1 .DIRTY x
    cases gc_type
    · have : (vs'.dirty_segmap .DIRTY x && !vs.victim_segmap .BG_GC x &&
          !vs.victim_segmap .FG_GC x).toNat ≤ (vs.dirty_segmap .DIRTY x &&
          !vs.victim_segmap .BG_GC x && !vs.victim_segmap .FG_GC x).toNat :=
        Bool.toNat_le_toNat fun h' => by
          simp only [Bool.and_eq_true] at h' ⊢; exact ⟨⟨hd h'.1.1, h'.1.2⟩, h'.2⟩
      simp only [seg_weight, hv]; omega
    · have : (vs'.dirty_segmap .DIRTY x && !vs.victim_segmap .FG_GC x).toNat ≤
          (vs.dirty_segmap .DIRTY x && !vs.victim_segmap .FG_GC x).toNat :=
        Bool.toNat_le_toNat fun h' => by
          simp only [Bool.and_eq_true] at h' ⊢; exact ⟨hd h'.1, h'.2⟩
      simp only [seg_weight, hv]; omega

/-- Other threads never raise the measure. -/
theorem Shrinks.gc_measure_le (g : Geometry) (gc_type : GcType) :
    gc_measure g gc_type vs' ≤ gc_measure g gc_type vs :=
  gc_measure_le_of fun x _ => h.seg_weight_le _ gc_type x

end Shrinks

section Select

variable {total : Nat} {t : GcType} {vs : VictimState} {x : Nat}

theorem seg_weight_congr {vs' : VictimState} (hd : vs'.dirty_segmap = vs.dirty_segmap)
    (hv : vs'.victim_segmap = vs.victim_segmap) : seg_weight total t vs' x = seg_weight total t vs x := by
  cases t <;> simp only [seg_weight, dirty_entries, hd, hv]

/-- Claims of its own mode added: a segment's weight does not grow. -/
theorem seg_weight_claim_le {f : Bitmap → Bitmap} (hf : ∀ b y, b y = true → f b y = true) :
    seg_weight total t (vs.update_victim t f) x ≤ seg_weight total t vs x := by
  have hfx := hf (vs.victim_segmap t) x
  cases t <;> simp only [seg_weight, dirty_entries, VictimState.update_victim_dirty_segmap,
    VictimState.update_victim_victim_segmap, if_pos, if_neg, reduceCtorEq] <;>
    refine Nat.add_le_add_left (Bool.toNat_le_toNat fun h' => ?_) _ <;>
    cases hb : vs.victim_segmap _ x <;> simp_all

/-- The claim of a dirty segment no claim of the mode covered lowers its weight. -/
theorem seg_weight_claim_lt {f : Bitmap → Bitmap}
    (hd : vs.dirty_segmap .DIRTY x = true) (hfg : vs.victim_segmap .FG_GC x = false)
    (hown : vs.victim_segmap t x = false) (hclaim : f (vs.victim_segmap t) x = true) :
    seg_weight total t (vs.update_victim t f) x < seg_weight total t vs x := by
  cases t <;> simp [seg_weight, dirty_entries, hd, hfg, hown, hclaim]

/-- Popping a background claim: in foreground mode a segment's weight does not grow, and the
popped segment's drops. -/
theorem seg_weight_pop_le (m : Nat) :
    seg_weight total .FG_GC (vs.update_victim .BG_GC (clear_bit m)) x ≤
      seg_weight total .FG_GC vs x := by
  simp only [seg_weight, dirty_entries, VictimState.update_victim_dirty_segmap,
    VictimState.update_victim_victim_segmap, if_true, if_false, reduceCtorEq, clear_bit_apply]
  have : (decide (x ≠ m) && vs.victim_segmap .BG_GC x).toNat ≤ (vs.victim_segmap .BG_GC x).toNat :=
    Bool.toNat_le_toNat fun h' => by simp_all
  have := Nat.mul_le_mul_left (total + 1) this
  omega

theorem seg_weight_pop_lt (hbg : vs.victim_segmap .BG_GC x = true) :
    seg_weight total .FG_GC (vs.update_victim .BG_GC (clear_bit x)) x <
      seg_weight total .FG_GC vs x := by
  simp [seg_weight, dirty_entries, hbg]

end Select

/-- A cleaning selection that finds no victim leaves the measure as it is; one that finds a
victim lowers it: it takes over a background claim, or claims a dirty segment that no claim of
its mode covered. -/
theorem get_victim_by_default_measure {cfg : GcConfig} {fuel : Nat} {vs vs' : VictimState}
    {gc_type : GcType} {res : Option Nat}
    (h : get_victim_by_default cfg fuel vs gc_type .NO_CHECK_TYPE = some (res, vs')) :
    gc_measure cfg.g gc_type vs' ≤ gc_measure cfg.g gc_type vs ∧
      (res.isSome → gc_measure cfg.g gc_type vs' < gc_measure cfg.g gc_type vs) := by
  have hgrow : ∀ r n, ∀ (b : Bitmap) y, b y = true → set_bits r n b y = true :=
    fun r n b y hy => by simp [set_bits_apply, hy]
  have hunit : ∀ m, set_bits (unit_start cfg.g.log_segs_per_sec m)
      (2 ^ cfg.g.log_segs_per_sec) (vs.victim_segmap gc_type) m = true := fun m => by
    simp [set_bits_apply, unit_start_le, lt_unit_start_add]
  obtain ⟨hd, -, hcase⟩ := get_victim_by_default_cases h
  rcases hcase with ⟨-, rfl, m, hlt, hbg, rfl, hv⟩ | ⟨rfl, hv⟩ | ⟨-, m, hlt, hdm, hpass, rfl, hv⟩
  · -- the hand-off pops the background claim on `m`, then claims its section
    have hw : ∀ x, seg_weight cfg.g.TOTAL_SEGS .FG_GC vs' x ≤
        seg_weight cfg.g.TOTAL_SEGS .FG_GC (vs.update_victim .BG_GC (clear_bit m)) x := fun x => by
      rw [seg_weight_congr (by simpa using hd) hv]
      exact seg_weight_claim_le (hgrow _ _)
    have hle : ∀ x < cfg.g.TOTAL_SEGS, seg_weight cfg.g.TOTAL_SEGS .FG_GC vs' x ≤
        seg_weight cfg.g.TOTAL_SEGS .FG_GC vs x := fun x _ => (hw x).trans (seg_weight_pop_le m)
    exact ⟨gc_measure_le_of hle, fun _ => gc_measure_lt_of hle hlt
      ((hw m).trans_lt (seg_weight_pop_lt hbg))⟩
  · -- no victim: the maps are as they were
    have heq : ∀ x, seg_weight cfg.g.TOTAL_SEGS gc_type vs' x =
        seg_weight cfg.g.TOTAL_SEGS gc_type vs x := fun x => seg_weight_congr hd hv
    exact ⟨gc_measure_le_of fun x _ => (heq x).le, fun h => absurd h (by simp)⟩
  · -- the scan claims the section of `m`
    obtain ⟨hfg, hbg, -⟩ := hpass
    have hw : ∀ x, seg_weight cfg.g.TOTAL_SEGS gc_type vs' x = seg_weight cfg.g.TOTAL_SEGS gc_type
        (vs.update_victim gc_type (set_bits (unit_start cfg.g.log_segs_per_sec m)
          (2 ^ cfg.g.log_segs_per_sec))) x := fun x =>
      seg_weight_congr (by simpa using hd) (by simpa [select_policy] using hv)
    have hle : ∀ x < cfg.g.TOTAL_SEGS, seg_weight cfg.g.TOTAL_SEGS gc_type vs' x ≤
        seg_weight cfg.g.TOTAL_SEGS gc_type vs x := fun x _ =>
      (hw x).trans_le (seg_weight_claim_le (hgrow _ _))
    have hown : vs.victim_segmap gc_type m = false := by
      cases gc_type
      · simpa [scan_ctx] using hbg
      · exact hfg
    exact ⟨gc_measure_le_of hle, fun _ => gc_measure_lt_of hle hlt (by
      rw [hw]
      exact seg_weight_claim_lt (by simpa [select_policy] using hdm) hfg hown (hunit m))⟩

/-- The operations of the rest of f2fs on the selection state, all but adding a segment to a
dirty list, shrink the maps. -/
theorem EnvOp.apply_shrinks {op : EnvOp} (h : ∀ t segno, op ≠ .set_dirty t segno)
    (vs : VictimState) : Shrinks vs (op.apply vs) := by
  cases op with
  | set_dirty t segno => exact absurd rfl (h t segno)
  | remove_dirty t segno =>
    refine ⟨fun t' x => ?_, fun gt x => ?_, fun gt x hv hv' hd => ?_⟩
    · simp only [EnvOp.apply]; split_ifs <;> simp_all
    · simp only [EnvOp.apply]; split_ifs <;> simp_all
    · simp only [EnvOp.apply] at hv' hd
      by_cases ht : t = .DIRTY
      · subst ht; simp_all
      · simp [ht, hv] at hv'
  | close_cursec _ | open_cursec _ =>
    exact ⟨fun _ _ h => h, fun _ _ h => h,
      fun _ _ hv hv' => Bool.noConfusion (hv.symm.trans hv')⟩

section Loop

variable {cfg : GcConfig} {l : NodeLayout} {O : Collab} {nGC old : Int}

theorem gc_loop_head_measure (nfree : Nat) (gc_type : GcType) (s : GcState) (vs : VictimState) :
    gc_measure cfg.g (gc_loop_head O nGC old nfree gc_type s).2.1 vs ≤
      gc_measure cfg.g gc_type vs := by
  rcases @gc_loop_head_cases O nGC old nfree gc_type s with ⟨-, h⟩ | ⟨-, short, _, h⟩ <;>
    simp only [h]
  · exact le_rfl
  · cases short
    · exact le_rfl
    · exact gc_measure_fg_le _ _ _

/-- `__get_victim` returns, and lowers the measure when it finds a victim; the other threads
act first. -/
theorem __get_victim_measure (hO : EnvShrinks O) (gc_type : GcType) (vs : VictimState)
    (s : GcState) :
    ∃ res vs' s', __get_victim cfg O gc_type vs s = some (res, vs', s') ∧
      gc_measure cfg.g gc_type vs' ≤ gc_measure cfg.g gc_type vs ∧
      (res.isSome → gc_measure cfg.g gc_type vs' < gc_measure cfg.g gc_type vs) := by
  obtain ⟨⟨res, vs'⟩, hg⟩ := Option.isSome_iff_exists.mp
    (get_victim_by_default_isSome cfg (O.env s.clock vs) gc_type)
  have henv := (hO s.clock vs).gc_measure_le cfg.g gc_type
  obtain ⟨h1, h2⟩ := get_victim_by_default_measure hg
  exact ⟨res, vs', _, by rw [__get_victim_eq, hg]; rfl, h1.trans henv,
    fun h => (h2 h).trans_le henv⟩

/-- The selection loop returns when it has more fuel than the measure, with the measure no
higher, and lower when it evacuated a segment. -/
theorem gc_loop_terminates (hO : EnvShrinks O) (fuel : Nat) :
    ∀ (gc_type : GcType) (gc_status : GcStatus) (nfree : Nat) (vs : VictimState) (s : GcState),
      gc_measure cfg.g gc_type vs < fuel →
      ∃ r, gc_loop cfg l O nGC old fuel gc_type gc_status nfree vs s = some r ∧
        gc_measure cfg.g r.2.2.1 r.2.2.2.1 ≤ gc_measure cfg.g gc_type vs ∧
        (r.2.1 ≠ nfree → gc_measure cfg.g r.2.2.1 r.2.2.2.1 < gc_measure cfg.g gc_type vs) := by
  induction fuel with
  | zero => exact fun _ _ _ _ _ h => absurd h (Nat.not_lt_zero _)
  | succ fuel ih =>
    intro gc_type gc_status nfree vs s hfuel
    have hhead := @gc_loop_head_measure cfg O nGC old nfree gc_type s vs
    simp only [gc_loop]
    rcases hh : gc_loop_head O nGC old nfree gc_type s with ⟨brk, gc_type', s1⟩
    rw [hh] at hhead
    cases brk with
    | true => exact ⟨_, rfl, hhead, fun h => absurd rfl h⟩
    | false =>
      obtain ⟨res, vs', s2, hv, hle, hlt⟩ := @__get_victim_measure cfg O hO gc_type' vs s1
      cases res with
      | none => simp only [hv]; exact ⟨_, rfl, hle.trans hhead, fun h => absurd rfl h⟩
      | some segno =>
        simp only [hv]
        have hlt' := (hlt rfl).trans_le hhead
        rcases gc_section O l cfg.g gc_type' segno (List.range cfg.g.segs_per_sec) gc_status
          nfree s2 with ⟨_ | _, st, nf, s3⟩
        · obtain ⟨r, hr, hr1, -⟩ := ih gc_type' st nf vs' s3 (by omega)
          exact ⟨r, hr, (hr1.trans_lt hlt').le, fun _ => hr1.trans_lt hlt'⟩
        · exact ⟨_, rfl, hlt'.le, fun _ => hlt'⟩

/-- The retries end: a retry follows a pass that evacuated a segment, which lowered the
measure. -/
theorem gc_more_terminates (hO : EnvShrinks O) (fuel : Nat) :
    ∀ (gc_type : GcType) (vs : VictimState) (s : GcState), gc_measure cfg.g gc_type vs + 1 < fuel →
      ∃ r, gc_more cfg l O nGC fuel gc_type vs s = some r := by
  induction fuel with
  | zero => exact fun _ _ _ h => absurd h (Nat.not_lt_zero _)
  | succ fuel ih =>
    intro gc_type vs s hfuel
    simp only [gc_more]
    rcases gc_more_head O s with ⟨old, s1⟩
    obtain ⟨⟨st, nfree, gc_type', vs', s2⟩, hl, hle, hlt⟩ :=
      @gc_loop_terminates cfg l O nGC old hO fuel gc_type .GC_NONE 0 vs s1 (by omega)
    simp only [hl]
    split_ifs with hc hn
    · have : gc_measure cfg.g gc_type' vs' < gc_measure cfg.g gc_type vs := hlt hn
      exact ih gc_type' vs' _ (by omega)
    · exact ⟨_, rfl⟩
    · exact ⟨_, rfl⟩

end Loop

/-- The measure stays below a bound of the geometry alone. -/
theorem gc_measure_lt_bound (g : Geometry) (gc_type : GcType) (vs : VictimState) :
    gc_measure g gc_type vs + 1 < (g.TOTAL_SEGS + 5) ^ 2 := by
  have hsum : ∑ x in Finset.range g.TOTAL_SEGS, seg_weight g.TOTAL_SEGS .BG_GC vs x ≤
      ∑ _x in Finset.range g.TOTAL_SEGS, 8 := Finset.sum_le_sum fun x _ => by
    have := dirty_entries_le_card x vs
    have := Bool.toNat_le (vs.dirty_segmap .DIRTY x && !vs.victim_segmap .BG_GC x &&
      !vs.victim_segmap .FG_GC x)
    simp only [seg_weight]; omega
  rw [Finset.sum_const_nat fun _ _ => rfl, Finset.card_range] at hsum
  have hbg : gc_measure g gc_type vs ≤ gc_measure g .BG_GC vs := by
    cases gc_type
    · exact le_rfl
    · exact (gc_measure_fg_lt_bg g vs).le
  have hbg_eq : gc_measure g .BG_GC vs =
      (∑ x in Finset.range g.TOTAL_SEGS, seg_weight g.TOTAL_SEGS .BG_GC vs x) +
        (g.TOTAL_SEGS + 1) ^ 2 := rfl
  have hsq : (g.TOTAL_SEGS + 5) ^ 2 = (g.TOTAL_SEGS + 1) ^ 2 + 8 * g.TOTAL_SEGS + 24 := by ring
  omega

/-- Whatever the collaborators answer, and whatever the other threads do to the selection state
as long as they only shrink the maps, every call of `f2fs_gc`, for every `nGC` and every initial
state of the dirty and victim maps, returns: given `(TOTAL_SEGS + 5)^2` turns of its loops, its
selection loop and its `goto gc_more` retries come to an end. -/
theorem f2fs_gc_terminates {cfg : GcConfig} {l : NodeLayout} {O : Collab} (hO : EnvShrinks O)
    (nGC : Int) (vs : VictimState) (trace : List Ev) {fuel : Nat}
    (hfuel : (cfg.g.TOTAL_SEGS + 5) ^ 2 ≤ fuel) :
    ∃ r, f2fs_gc cfg l O nGC fuel vs trace = some r :=
  gc_more_terminates hO fuel .BG_GC vs ⟨trace, []⟩
    ((gc_measure_lt_bound cfg.g .BG_GC vs).trans_le hfuel)

/-- Collaborators of the one-section device under which the other threads take segment 1 off
`DIRTY` before every selection. -/
def shrinking_collab : Collab :=
  { idle_collab false false with env := fun _ vs => (EnvOp.remove_dirty .DIRTY 1).apply vs }

theorem shrinking_collab_shrinks : EnvShrinks shrinking_collab :=
  fun _ vs => @EnvOp.apply_shrinks (.remove_dirty .DIRTY 1) (fun _ _ h => EnvOp.noConfusion h) vs

/-- A background call on the one-section device, with segment 1 leaving `DIRTY` under it,
returns within `(2 + 5)^2` turns. -/
theorem shrinking_call_terminates :
    EnvShrinks shrinking_collab ∧ (one_sec_config.g.TOTAL_SEGS + 5) ^ 2 ≤ 49 ∧
      ∃ r, f2fs_gc one_sec_config ⟨1018, 1018, 923⟩ shrinking_collab 1 49 one_sec_state [] = some r :=
  ⟨shrinking_collab_shrinks, by decide,
    f2fs_gc_terminates shrinking_collab_shrinks 1 one_sec_state [] (by decide)⟩

end f2fs.gc
