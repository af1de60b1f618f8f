import F2fsGc.Victim.Select

open f2fs.segment

namespace f2fs.gc

/-- The cost of `x` against the SIT the call starts from. -/
def ScanCtx.cost0 (c : ScanCtx) (st0 : VictimState) (x : Nat) : Nat :=
  (get_gc_cost c.g st0.sit x c.p).1

/-- `x` is the lowest segment of its unit that is set in the scan map. -/
def ScanCtx.candidate (c : ScanCtx) (x : Nat) : Prop :=
  x < c.total ∧ c.p.dirty_segmap x = true ∧
  ∀ y, unit_start c.p.log_ofs_unit x ≤ y → y < x → c.p.dirty_segmap y = false

/-- A candidate the scan may take: it passes the three tests and costs less than the maximum. -/
def ScanCtx.eligible (c : ScanCtx) (st0 : VictimState) (x : Nat) : Prop :=
  c.passes st0 x ∧ c.cost0 st0 x < get_max_cost c.g c.p

instance (c : ScanCtx) (st0 : VictimState) (x : Nat) : Decidable (c.eligible st0 x) := by
  unfold ScanCtx.eligible; infer_instance

/-- The mtime window of `s` is still the one the call started with. -/
def SameWindow (st0 : VictimState) (s : ScanState) : Prop :=
  s.st.sit.min_mtime = st0.sit.min_mtime ∧ s.st.sit.max_mtime = st0.sit.max_mtime

theorem get_gc_cost_widens (g : Geometry) (sit : SitInfo) (x : Nat) (p : VictimSelPolicy) :
    (get_gc_cost g sit x p).2.min_mtime ≤ sit.min_mtime ∧
      sit.max_mtime ≤ (get_gc_cost g sit x p).2.max_mtime := by
  rcases p with ⟨_ | _, _ | _, _, _, _⟩
  · simp only [get_gc_cost, get_cb_cost_snd]; constructor <;> split_ifs <;> omega
  all_goals exact ⟨le_rfl, le_rfl⟩

theorem ScanFrame.sit_eq {st0 : VictimState} {s : ScanState} (h : ScanFrame st0 s)
    (hw : SameWindow st0 s) : s.st.sit = st0.sit := by
  obtain ⟨-, -, -, lo, hi, hsit⟩ := h
  unfold SameWindow at hw
  rw [hsit] at hw ⊢
  obtain ⟨rfl, rfl⟩ := hw
  rfl

section MinCost

variable {c : ScanCtx} {st0 : VictimState}

/-- The invariant behind the minimum. The running minimum is the cost of the segment it
records, as long as the mtime window is the starting one; and once the scan is in its last
pass (`last_victim` cleared), every candidate below the offset has been compared with it. -/
structure MinInv (c : ScanCtx) (st0 : VictimState) (s : ScanState) : Prop where
  frame : ScanFrame st0 s
  widened : s.st.sit.min_mtime ≤ st0.sit.min_mtime ∧ st0.sit.max_mtime ≤ s.st.sit.max_mtime
  fixed : c.p.alloc_mode = .SSR ∨ c.p.gc_mode = .GC_GREEDY → SameWindow st0 s
  min_le : s.min_cost ≤ get_max_cost c.g c.p
  none_max : s.min_segno = none → s.min_cost = get_max_cost c.g c.p
  some_ok : ∀ m, s.min_segno = some m → m < c.total ∧ c.p.dirty_segmap m = true ∧
    c.passes st0 m ∧ s.min_cost < get_max_cost c.g c.p ∧
    (SameWindow st0 s → s.min_cost = c.cost0 st0 m)
  covered : SameWindow st0 s → s.nsearched ≤ c.MAX_VICTIM_SEARCH →
    s.st.last_victim c.p.gc_mode = 0 →
    ∀ x < s.offset, c.candidate x → c.eligible st0 x → s.min_cost ≤ c.cost0 st0 x

theorem MinInv.start {s : ScanState} (hst : s.st = st0) (hnone : s.min_segno = none)
    (hcost : s.min_cost = get_max_cost c.g c.p) (hoff : s.offset = st0.last_victim c.p.gc_mode) :
    MinInv c st0 s := by
  subst hst
  refine ⟨⟨rfl, rfl, rfl, _, _, rfl⟩, ⟨le_rfl, le_rfl⟩, fun _ => ⟨rfl, rfl⟩, hcost.le,
    fun _ => hcost, fun m hm => by simp [hnone] at hm, fun _ _ h0 x hx => ?_⟩
  omega

/-- A set segment at or past the offset and inside the unit just scanned is the scanned
segment itself. -/
theorem candidate_eq_scanned {s : ScanState} {segno x : Nat}
    (hclear : ∀ y, s.offset ≤ y → y < segno → c.p.dirty_segmap y = false)
    (hset : c.p.dirty_segmap segno = true) (hx : c.candidate x) (hox : s.offset ≤ x)
    (hxn : x < c.next_offset segno) : x = segno := by
  obtain ⟨-, hxset, hxlow⟩ := hx
  have hle : segno ≤ x := by
    by_contra h
    rw [hclear x hox (by omega)] at hxset
    cases hxset
  have hunit : x < unit_start c.p.log_ofs_unit segno + 2 ^ c.p.log_ofs_unit :=
    Nat.lt_of_lt_of_le hxn (Nat.mod_le _ _)
  have hsame := unit_start_of_mem ((unit_start_le _ segno).trans hle) hunit
  by_contra hne
  rw [hxlow segno (by rw [hsame]; exact unit_start_le _ _) (by omega)] at hset
  cases hset

theorem MinInv.skip {s : ScanState} (h : MinInv c st0 s) {segno : Nat}
    (hclear : ∀ y, s.offset ≤ y → y < segno → c.p.dirty_segmap y = false)
    (hset : c.p.dirty_segmap segno = true) (hpass : ¬ c.passes s.st segno) :
    MinInv c st0 { s with offset := c.next_offset segno } := by
  refine ⟨h.frame, h.widened, h.fixed, h.min_le, h.none_max, h.some_ok,
    fun hw hn hlv x hx hcand helig => ?_⟩
  by_cases hox : x < s.offset
  · exact h.covered hw hn hlv x hox hcand helig
  · have := candidate_eq_scanned hclear hset hcand (by omega) hx
    subst this
    obtain ⟨-, hv, hc, -⟩ := h.frame
    have h1 := helig.1
    exact absurd (by unfold ScanCtx.passes at h1 ⊢; rwa [hv, hc]) hpass

theorem MinInv.evaluate {s : ScanState} (h : MinInv c st0 s) {segno : Nat}
    (hlt : segno < c.total) (hclear : ∀ y, s.offset ≤ y → y < segno → c.p.dirty_segmap y = false)
    (hset : c.p.dirty_segmap segno = true) (hpass : c.passes s.st segno) :
    MinInv c st0 (c.evaluate s segno) := by
  obtain ⟨hd, hv, hc, -⟩ := h.frame
  have hpass0 : c.passes st0 segno := by unfold ScanCtx.passes at hpass ⊢; rwa [hv, hc] at hpass
  have hwid := get_gc_cost_widens c.g s.st.sit segno c.p
  have hsit := c.evaluate_sit s segno
  -- a window equal to the starting one after the step was the starting one before it
  have hback : SameWindow st0 (c.evaluate s segno) → SameWindow st0 s := by
    intro hw
    unfold SameWindow at hw ⊢
    rw [hsit] at hw
    have := h.widened
    omega
  have hcost : SameWindow st0 s → (get_gc_cost c.g s.st.sit segno c.p).1 = c.cost0 st0 segno := by
    intro hw; rw [h.frame.sit_eq hw]; rfl
  have hframe := @ScanFrame.evaluate c _ _ h.frame segno
  have hrest : (c.evaluate s segno).offset = c.next_offset segno ∧
      (c.evaluate s segno).nsearched = s.nsearched ∧
      (c.evaluate s segno).st.last_victim = s.st.last_victim :=
    ⟨c.evaluate_offset s segno, c.evaluate_nsearched s segno, c.evaluate_last_victim s segno⟩
  have hwid' : (c.evaluate s segno).st.sit.min_mtime ≤ st0.sit.min_mtime ∧
      st0.sit.max_mtime ≤ (c.evaluate s segno).st.sit.max_mtime := by
    rw [hsit]; have := h.widened; omega
  have hfixed : c.p.alloc_mode = .SSR ∨ c.p.gc_mode = .GC_GREEDY →
      SameWindow st0 (c.evaluate s segno) := by
    intro hm
    have hw := h.fixed hm
    unfold SameWindow at hw ⊢
    rwa [hsit, get_gc_cost_sit_of_ne_cb hm]
  -- what is known of any candidate the step newly covers
  have hnew : ∀ x, x < c.next_offset segno → ¬ x < s.offset → c.candidate x → x = segno :=
    fun x hx hox hcand => candidate_eq_scanned hclear hset hcand (by omega) hx
  unfold ScanCtx.evaluate at hframe hsit hrest hwid' hfixed hback ⊢
  dsimp only at hframe hsit hrest hwid' hfixed hback ⊢
  split_ifs at hframe hsit hrest hwid' hfixed hback ⊢ with hcheap
  · refine ⟨hframe, hwid', hfixed, by have := h.min_le; simp only; omega, by simp,
      fun m hm => ?_, fun hw hn hlv x hx hcand helig => ?_⟩
    · simp only [Option.some.injEq] at hm
      subst hm
      exact ⟨hlt, hset, hpass0, by have := h.min_le; simp only; omega,
        fun hw => (hcost (hback hw)).symm ▸ rfl⟩
    · simp only at hn hlv hx ⊢
      by_cases hox : x < s.offset
      · exact Nat.le_trans (Nat.le_of_lt hcheap) (h.covered (hback hw) hn hlv x hox hcand helig)
      · rw [hnew x hx hox hcand, ← hcost (hback hw)]
  · refine ⟨hframe, hwid', hfixed, h.min_le, h.none_max, fun m hm => ?_,
      fun hw hn hlv x hx hcand helig => ?_⟩
    · obtain ⟨h1, h2, h3, h4, h5⟩ := h.some_ok m hm
      exact ⟨h1, h2, h3, h4, fun hw => h5 (hback hw)⟩
    · simp only at hn hlv hx ⊢
      by_cases hox : x < s.offset
      · exact h.covered (hback hw) hn hlv x hox hcand helig
      · rw [hnew x hx hox hcand, ← hcost (hback hw)]
        omega

theorem MinInv.incr {s : ScanState} (h : MinInv c st0 s) {n : Nat} (hn : s.nsearched ≤ n) :
    MinInv c st0 { s with nsearched := n } :=
  ⟨h.frame, h.widened, h.fixed, h.min_le, h.none_max, h.some_ok,
    fun hw hn' hlv => h.covered hw (by simp only at hn'; omega) hlv⟩

theorem MinInv.rewind {s : ScanState} (h : MinInv c st0 s) :
    MinInv c st0 { s with st := s.st.set_last_victim c.p.gc_mode 0, offset := 0 } :=
  ⟨h.frame, h.widened, h.fixed, h.min_le, h.none_max, h.some_ok,
    fun _ _ _ x hx => absurd hx (Nat.not_lt_zero x)⟩

/-- Past `MAX_VICTIM_SEARCH` the coverage part says nothing. -/
theorem MinInv.over {s : ScanState} (h : MinInv c st0 s) {n : Nat} (hn : c.MAX_VICTIM_SEARCH < n)
    (v : Nat) : MinInv c st0 { s with nsearched := n, st := s.st.set_last_victim c.p.gc_mode v } :=
  ⟨h.frame, h.widened, h.fixed, h.min_le, h.none_max, h.some_ok,
    fun _ hn' => absurd hn' (by simp only; omega)⟩

theorem MinInv.step {s s' : ScanState} (h : MinInv c st0 s)
    (hstep : victim_scan_step c s = .next s' ∨ victim_scan_step c s = .done s') :
    MinInv c st0 s' := by
  have hclear : ∀ y, s.offset ≤ y → y < find_next_bit c.p.dirty_segmap c.total s.offset →
      c.p.dirty_segmap y = false := fun _ h1 h2 => find_next_bit_clear h1 h2
  rcases victim_scan_step_cases c s with
    ⟨-, -, hs⟩ | ⟨-, -, hs⟩ | ⟨hlt, hpass, hs⟩ | ⟨hlt, hpass, -, hs⟩ | ⟨hlt, hpass, -, -, hs⟩ |
      ⟨hlt, hpass, -, hn, hs⟩ <;>
    rw [hs] at hstep <;> rcases hstep with hstep | hstep <;> cases hstep
  · exact h.rewind
  · exact h
  · exact h.skip hclear (find_next_bit_of_lt hlt).2 hpass
  · exact h.evaluate hlt hclear (find_next_bit_of_lt hlt).2 hpass
  · exact (h.evaluate hlt hclear (find_next_bit_of_lt hlt).2 hpass).incr (by rw [ScanCtx.evaluate_nsearched]; omega)
  · exact (h.evaluate hlt hclear (find_next_bit_of_lt hlt).2 hpass).over (by omega) _

theorem victim_scan_mininv {fuel : Nat} {s0 s : ScanState} (hstart : MinInv c st0 s0)
    (hrun : victim_scan c fuel s0 = some s) : MinInv c st0 s :=
  victim_scan_invariant (MinInv c st0) (fun _ _ hs h => hs.step (.inl h))
    (fun _ _ hs h => hs.step (.inr h)) fuel s0 s hstart hrun

/-- A scan that starts from the invariant and ends its last pass without reaching
`MAX_VICTIM_SEARCH` records a segment exactly when some candidate is eligible, and the
segment it records passed the tests and costs no more than any eligible candidate. For the
cost-benefit policy this needs the mtime window to have stayed put. -/
theorem victim_scan_min {fuel : Nat} {s0 s : ScanState} (hstart : MinInv c st0 s0)
    (hrun : victim_scan c fuel s0 = some s) (hmax : s.nsearched ≤ c.MAX_VICTIM_SEARCH)
    (hwin : c.p.alloc_mode = .LFS → c.p.gc_mode = .GC_CB → SameWindow st0 s) :
    ((∃ x, c.candidate x ∧ c.eligible st0 x) → s.min_segno.isSome) ∧
    ∀ m, s.min_segno = some m → m < c.total ∧ c.p.dirty_segmap m = true ∧ c.passes st0 m ∧
      ∀ x, c.candidate x → c.eligible st0 x → c.cost0 st0 m ≤ c.cost0 st0 x := by
  have hinv := victim_scan_mininv hstart hrun
  have hw : SameWindow st0 s := by
    rcases hm : c.p.alloc_mode with _ | _ <;> rcases hg : c.p.gc_mode with _ | _
    · exact hwin hm hg
    all_goals exact hinv.fixed (by simp [hm, hg])
  obtain ⟨hend, hlv⟩ : c.total ≤ find_next_bit c.p.dirty_segmap c.total s.offset ∧
      s.st.last_victim c.p.gc_mode = 0 := by
    rcases victim_scan_exit hrun with h | h
    · exact h
    · omega
  have hall : ∀ x, c.candidate x → c.eligible st0 x → s.min_cost ≤ c.cost0 st0 x := by
    intro x hcand helig
    by_cases hx : x < s.offset
    · exact hinv.covered hw hmax hlv x hx hcand helig
    · have := find_next_bit_eq_size hend (Nat.le_of_not_lt hx) hcand.1
      rw [hcand.2.1] at this
      cases this
  refine ⟨fun ⟨x, hcand, helig⟩ => ?_, fun m hm => ?_⟩
  · cases hmin : s.min_segno with
    | some _ => rfl
    | none =>
      have := hall x hcand helig
      rw [hinv.none_max hmin] at this
      exact absurd helig.2 (Nat.not_lt_of_le this)
  · obtain ⟨h1, h2, h3, -, h5⟩ := hinv.some_ok m hm
    exact ⟨h1, h2, h3, fun x hcand helig => h5 hw ▸ hall x hcand helig⟩

end MinCost

/-- Victim selection by scanning. When the call does not take the foreground hand-off and its
scan ends without reaching `MAX_VICTIM_SEARCH`, and (for cost-benefit) no evaluation widened
the mtime window: some eligible candidate makes the call return 1, and a returned unit starts
at a scanned segment that passed the tests and costs no more than any eligible candidate; an
LFS call claims the whole unit. -/
theorem get_victim_by_default_min_cost (cfg : GcConfig) (fuel : Nat) (st : VictimState)
    (gc_type : GcType) (type : VictimType) (s : ScanState) :
    let p := select_policy cfg.g st gc_type type
    let c := scan_ctx cfg p gc_type
    (p.alloc_mode = .LFS → gc_type = .FG_GC → (check_bg_victims cfg.g st).1 = none) →
    victim_scan c fuel (scan_start cfg.g st p) = some s →
    s.nsearched ≤ cfg.MAX_VICTIM_SEARCH →
    (p.alloc_mode = .LFS → p.gc_mode = .GC_CB → SameWindow st s) →
    ∃ res st', get_victim_by_default cfg fuel st gc_type type = some (res, st') ∧
      ((∃ x, c.candidate x ∧ c.eligible st x) → res.isSome) ∧
      ∀ r, res = some r → ∃ m, r = unit_start p.log_ofs_unit m ∧ m < c.total ∧
        p.dirty_segmap m = true ∧ c.passes st m ∧
        (∀ x, c.candidate x → c.eligible st x → c.cost0 st m ≤ c.cost0 st x) ∧
        (p.alloc_mode = .LFS → ∀ i < 2 ^ p.log_ofs_unit, st'.victim_segmap gc_type (r + i) = true) := by
  intro p c hhand hscan hmax hwin
  have hmin := victim_scan_min (MinInv.start rfl rfl rfl (select_policy_offset ..)) hscan hmax hwin
  refine ⟨_, _, get_victim_by_default_of_scan hhand hscan, fun hex => ?_, fun r hr => ?_⟩
  · obtain ⟨m, hm⟩ := Option.isSome_iff_exists.mp (hmin.1 hex)
    simp [got_it, hm]
  · cases hm : s.min_segno with
    | none => simp [got_it, hm] at hr
    | some m =>
      simp only [got_it, hm, Option.some.injEq] at hr
      obtain ⟨h1, h2, h3, h4⟩ := hmin.2 m hm
      refine ⟨m, hr.symm, h1, h2, h3, h4, fun hlfs i hi => ?_⟩
      rw [← hr]
      exact got_it_claims p gc_type m s.st hlfs hi

/-- A two-segment device with one segment per section and 128 blocks per segment. -/
def two_seg_geometry : Geometry where
  log_blocks_per_seg := 7
  log_segs_per_sec := 0
  total_sections := 2
  total_segs_lt := by decide
  START_BLOCK := fun segno => segno * 128

/-- Both segments dirty, segment 0 full and old, segment 1 one block emptier and young; the
stored mtime window is `[100, 200]`. -/
def two_seg_state : VictimState where
  dirty_segmap := fun _ segno => decide (segno < 2)
  victim_segmap := fun _ _ => false
  cursec := fun _ => false
  sit :=
    { mtime := fun segno => if segno = 1 then 198 else 0
      valid_blocks := fun segno => if segno = 0 then 128 else 127
      ckpt_valid_blocks := fun segno => if segno = 0 then 128 else 127
      min_mtime := 100
      max_mtime := 200 }
  last_victim := fun _ => 0

def two_seg_config : GcConfig := ⟨two_seg_geometry, 20⟩

/-- Segment 1 is the lowest dirty segment of its one-segment unit. -/
theorem two_seg_candidate (gc_type : GcType) :
    (scan_ctx two_seg_config
      (select_policy two_seg_geometry two_seg_state gc_type .NO_CHECK_TYPE) gc_type).candidate 1 :=
  ⟨by cases gc_type <;> decide, rfl, fun y h1 h2 => by
    obtain rfl : y = 0 := by omega
    cases gc_type <;> exact absurd h1 (by decide)⟩

/-- Greedy foreground selection on the two-segment device returns a unit and claims it. -/
theorem two_seg_greedy_claims :
    ∃ res st', get_victim_by_default two_seg_config 8 two_seg_state .FG_GC .NO_CHECK_TYPE =
        some (res, st') ∧ res.isSome ∧ ∀ r, res = some r → st'.victim_segmap .FG_GC r = true := by
  obtain ⟨res, st', h, hsome, hres⟩ := get_victim_by_default_min_cost two_seg_config 8
    two_seg_state .FG_GC .NO_CHECK_TYPE ⟨two_seg_state, 2, some 1, 127, 1⟩
    (fun _ _ => by decide) rfl (by decide) (fun _ h => absurd h (by decide))
  refine ⟨res, st', h, hsome ⟨1, two_seg_candidate .FG_GC, by decide⟩, fun r hr => ?_⟩
  obtain ⟨m, -, -, -, -, -, hclaim⟩ := hres r hr
  simpa using hclaim rfl 0 (by decide)

/-- Background cost-benefit selection on the two-segment device: segment 0 costs `UINT_MAX` and
widens the window to `[0, 200]`, after which segment 1, eligible against `[100, 200]`, costs
`UINT_MAX` as well; the scan ends its only pass with nothing recorded and the call returns 0. -/
theorem get_victim_by_default_cb_widening :
    let c := scan_ctx two_seg_config
      (select_policy two_seg_geometry two_seg_state .BG_GC .NO_CHECK_TYPE) .BG_GC
    c.candidate 1 ∧ c.eligible two_seg_state 1 ∧
    (victim_scan c 8 (scan_start two_seg_geometry two_seg_state
      (select_policy two_seg_geometry two_seg_state .BG_GC .NO_CHECK_TYPE))).map
        ScanState.nsearched = some 0 ∧
    (get_victim_by_default two_seg_config 8 two_seg_state .BG_GC .NO_CHECK_TYPE).map Prod.fst =
      some none := by
  exact ⟨two_seg_candidate .BG_GC, by decide, by decide, by decide⟩

end f2fs.gc
