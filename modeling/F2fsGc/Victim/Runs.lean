import F2fsGc.Victim.MinCost

open f2fs.segment

namespace f2fs.gc

section Call

variable {cfg : GcConfig} {fuel : Nat} {st st' : VictimState} {gc_type : GcType}
  {type : VictimType} {res : Option Nat}

/-- A scan followed by `got_it` reads the dirty maps and the current sections without writing
them; it finds nothing and leaves the victim maps, or it returns the unit of a scanned
segment that passed the tests, which LFS claims. -/
theorem scan_got_it_cases {s : ScanState}
    (hscan : victim_scan (scan_ctx cfg (select_policy cfg.g st gc_type type) gc_type) fuel
      (scan_start cfg.g st (select_policy cfg.g st gc_type type)) = some s)
    (hgot : got_it (select_policy cfg.g st gc_type type) gc_type s.min_segno s.st = (res, st')) :
    let p := select_policy cfg.g st gc_type type
    st'.dirty_segmap = st.dirty_segmap ∧ st'.cursec = st.cursec ∧
    ((res = none ∧ st'.victim_segmap = st.victim_segmap) ∨
      ∃ m, m < cfg.g.TOTAL_SEGS ∧ p.dirty_segmap m = true ∧
        (scan_ctx cfg p gc_type).passes st m ∧ res = some (unit_start p.log_ofs_unit m) ∧
        st'.victim_segmap = if p.alloc_mode = .LFS then (st.update_victim gc_type
          (set_bits (unit_start p.log_ofs_unit m) (2 ^ p.log_ofs_unit))).victim_segmap
          else st.victim_segmap) := by
  intro p
  have hinv := victim_scan_mininv (MinInv.start rfl rfl rfl (select_policy_offset ..)) hscan
  obtain ⟨hd, hv, hc, -⟩ : ScanFrame st s := hinv.frame
  cases hm : s.min_segno with
  | none =>
    simp only [got_it, hm, Prod.mk.injEq] at hgot
    obtain ⟨rfl, rfl⟩ := hgot
    exact ⟨hd, hc, .inl ⟨rfl, hv⟩⟩
  | some m =>
    obtain ⟨h1, h2, h3, -⟩ := hinv.some_ok m hm
    simp only [got_it, hm, Prod.mk.injEq] at hgot
    obtain ⟨rfl, rfl⟩ := hgot
    refine ⟨?_, ?_, .inr ⟨m, h1, h2, h3, rfl, ?_⟩⟩ <;> split_ifs <;>
      simp only [VictimState.update_victim, hd, hv, hc]

/-- `get_victim_by_default` either hands off a background claim, or scans. -/
theorem get_victim_by_default_inv
    (h : get_victim_by_default cfg fuel st gc_type type = some (res, st')) :
    let p := select_policy cfg.g st gc_type type
    (p.alloc_mode = .LFS ∧ gc_type = .FG_GC ∧ ∃ m,
      check_bg_victims cfg.g st = (some m, st.update_victim .BG_GC (clear_bit m)) ∧
      got_it p gc_type (some m) (st.update_victim .BG_GC (clear_bit m)) = (res, st')) ∨
    ((p.alloc_mode = .LFS → gc_type = .FG_GC → (check_bg_victims cfg.g st).1 = none) ∧
      ∃ s, victim_scan (scan_ctx cfg p gc_type) fuel (scan_start cfg.g st p) = some s ∧
        got_it p gc_type s.min_segno s.st = (res, st')) := by
  intro p
  unfold get_victim_by_default at h
  dsimp only at h
  split_ifs at h with hlf
  · rcases Option.eq_none_or_eq_some (check_bg_victims cfg.g st).1 with hr | ⟨m, hr⟩
    · rw [check_bg_victims_of_none hr] at h
      exact .inr ⟨fun _ _ => hr, Option.map_eq_some'.mp h⟩
    · obtain ⟨-, -, hc⟩ := check_bg_victims_of_some hr
      rw [hc] at h
      exact .inl ⟨hlf.1, hlf.2, m, hc, Option.some.inj h⟩
  · exact .inr ⟨fun h1 h2 => absurd ⟨h1, h2⟩ hlf, Option.map_eq_some'.mp h⟩

/-- Everything one call does to the selection state: the dirty maps and the current sections
are only read, and the victim maps change in one of three ways. -/
theorem get_victim_by_default_cases
    (h : get_victim_by_default cfg fuel st gc_type type = some (res, st')) :
    let p := select_policy cfg.g st gc_type type
    st'.dirty_segmap = st.dirty_segmap ∧ st'.cursec = st.cursec ∧
    ((p.alloc_mode = .LFS ∧ gc_type = .FG_GC ∧ ∃ m, m < cfg.g.TOTAL_SEGS ∧
        st.victim_segmap .BG_GC m = true ∧ res = some (unit_start p.log_ofs_unit m) ∧
        st'.victim_segmap = ((st.update_victim .BG_GC (clear_bit m)).update_victim .FG_GC
          (set_bits (unit_start p.log_ofs_unit m) (2 ^ p.log_ofs_unit))).victim_segmap) ∨
      (res = none ∧ st'.victim_segmap = st.victim_segmap) ∨
      ((p.alloc_mode = .LFS → gc_type = .FG_GC →
          ∀ x < cfg.g.TOTAL_SEGS, st.victim_segmap .BG_GC x = false) ∧
        ∃ m, m < cfg.g.TOTAL_SEGS ∧ p.dirty_segmap m = true ∧
          (scan_ctx cfg p gc_type).passes st m ∧ res = some (unit_start p.log_ofs_unit m) ∧
          st'.victim_segmap = if p.alloc_mode = .LFS then (st.update_victim gc_type
            (set_bits (unit_start p.log_ofs_unit m) (2 ^ p.log_ofs_unit))).victim_segmap
            else st.victim_segmap)) := by
  intro p
  rcases get_victim_by_default_inv h with ⟨hl, hf, m, hc, hgot⟩ | ⟨hno, s, hs, hgot⟩
  · obtain ⟨hlt, hbg, -⟩ := check_bg_victims_of_some (by rw [hc])
    simp only [got_it, hl, if_true, Prod.mk.injEq] at hgot
    obtain ⟨rfl, rfl⟩ := hgot
    subst hf
    exact ⟨rfl, rfl, .inl ⟨hl, rfl, m, hlt, hbg, rfl, rfl⟩⟩
  · obtain ⟨hd, hc, hnone | hsome⟩ := scan_got_it_cases hs hgot
    · exact ⟨hd, hc, .inr (.inl hnone)⟩
    · exact ⟨hd, hc, .inr (.inr ⟨fun h1 h2 => check_bg_victims_none_clear (hno h1 h2), hsome⟩)⟩

end Call

/-- What the rest of f2fs does to the selection state between two calls (segment.c, outside
this source): segments join and leave the dirty lists, and sections stop and start being
current. A segment leaving `DIRTY` loses both of its victim bits. -/
inductive EnvOp
  | set_dirty (t : DirtyType) (segno : Nat)
  | remove_dirty (t : DirtyType) (segno : Nat)
  | close_cursec (secno : Nat)
  | open_cursec (secno : Nat)

def EnvOp.apply : EnvOp → VictimState → VictimState
  | .set_dirty t segno, st =>
    { st with dirty_segmap := fun t' =>
        if t' = t then set_bit segno (st.dirty_segmap t') else st.dirty_segmap t' }
  | .remove_dirty t segno, st =>
    { st with
      dirty_segmap := fun t' =>
        if t' = t then clear_bit segno (st.dirty_segmap t') else st.dirty_segmap t'
      victim_segmap := fun gt =>
        if t = .DIRTY then clear_bit segno (st.victim_segmap gt) else st.victim_segmap gt }
  | .close_cursec secno, st => { st with cursec := clear_bit secno st.cursec }
  | .open_cursec secno, st => { st with cursec := set_bit secno st.cursec }

/-- A section is opened as current only when none of its segments is in `DIRTY`. -/
def EnvOp.allowed (g : Geometry) : EnvOp → VictimState → Prop
  | .open_cursec secno, st =>
    ∀ i < g.segs_per_sec, st.dirty_segmap .DIRTY (secno * g.segs_per_sec + i) = false
  | _, _ => True

instance (g : Geometry) (op : EnvOp) (st : VictimState) : Decidable (op.allowed g st) :=
  match op with
  | .set_dirty .. | .remove_dirty .. | .close_cursec _ => isTrue trivial
  | .open_cursec _ => Nat.decidableBallLT _ _

/-- The states a run reaches from empty victim maps: calls of `get_victim_by_default` in any
mode, allowed environment steps, and an SSR call of background GC whose returned section
then becomes current. -/
inductive Reachable (cfg : GcConfig) : VictimState → Prop
  | init {st : VictimState} : (∀ t x, st.victim_segmap t x = false) → Reachable cfg st
  | call {st st' : VictimState} {res : Option Nat} (fuel : Nat) (gc_type : GcType)
      (type : VictimType) : Reachable cfg st →
      get_victim_by_default cfg fuel st gc_type type = some (res, st') → Reachable cfg st'
  | env {st : VictimState} (op : EnvOp) : Reachable cfg st → op.allowed cfg.g st →
      Reachable cfg (op.apply st)
  | ssr_open {st st' : VictimState} {r : Nat} (fuel : Nat) (t : DirtyType) : Reachable cfg st →
      get_victim_by_default cfg fuel st .BG_GC (.SSR_TYPE t) = some (some r, st') →
      Reachable cfg ((EnvOp.open_cursec (cfg.g.GET_SECNO r)).apply st')

/-- One event of a run. -/
inductive Event
  | call (gc_type : GcType) (type : VictimType)
  | env (op : EnvOp)

/-- Executes a run; `none` when a call runs out of `fuel` or an environment step is not
allowed. -/
def run_events (cfg : GcConfig) (fuel : Nat) : List Event → VictimState → Option VictimState
  | [], st => some st
  | .call gc_type type :: es, st =>
    (get_victim_by_default cfg fuel st gc_type type).bind fun r => run_events cfg fuel es r.2
  | .env op :: es, st =>
    if op.allowed cfg.g st then run_events cfg fuel es (op.apply st) else none

theorem run_events_reachable {cfg : GcConfig} {fuel : Nat} :
    ∀ {es : List Event} {st st' : VictimState}, Reachable cfg st →
      run_events cfg fuel es st = some st' → Reachable cfg st'
  | [], _, _, hst, h => Option.some.inj h ▸ hst
  | .call gc_type type :: _, _, _, hst, h => by
    obtain ⟨⟨_, _⟩, h1, h2⟩ := Option.bind_eq_some.mp h
    exact run_events_reachable (.call fuel gc_type type hst h1) h2
  | .env op :: _, _, _, hst, h => by
    simp only [run_events] at h
    split_ifs at h with hop
    exact run_events_reachable (.env op hst hop) h

/-- A call whose returned unit is known, with the state it leaves. -/
private theorem call_eq_of_fst {x : Option (Option Nat × VictimState)} {a : Option Nat}
    (d : Option Nat × VictimState) (h : x.map Prod.fst = some a) :
    x = some (a, (x.getD d).2) := by
  cases x with
  | none => cases h
  | some p => cases h; rfl

/-- A run that ends, with the state it ends in. -/
private theorem run_eq_getD {x : Option VictimState} (d : VictimState) (h : x.isSome = true) :
    x = some (x.getD d) := by
  cases x with
  | none => cases h
  | some _ => rfl

/-- Every background claim is a segment in range, in `DIRTY`, off the current sections, and
not also a foreground claim. -/
def ClaimInv (g : Geometry) (st : VictimState) : Prop :=
  ∀ x, st.victim_segmap .BG_GC x = true →
    st.victim_segmap .FG_GC x = false ∧ st.dirty_segmap .DIRTY x = true ∧ x < g.TOTAL_SEGS ∧
      st.cursec (g.GET_SECNO x) = false

section SingleSegment

variable {cfg : GcConfig} {fuel : Nat} {st st' : VictimState} {gc_type : GcType}
  {type : VictimType} {res : Option Nat}

theorem ClaimInv.env {g : Geometry} (hs : g.log_segs_per_sec = 0) (hinv : ClaimInv g st)
    {op : EnvOp} (hop : op.allowed g st) : ClaimInv g (op.apply st) := by
  intro x hx
  cases op with
  | set_dirty t segno =>
    obtain ⟨h1, h2, h3, h4⟩ := hinv x hx
    refine ⟨h1, ?_, h3, h4⟩
    simp only [EnvOp.apply]
    split_ifs <;> simp [h2]
  | remove_dirty t segno =>
    by_cases ht : t = .DIRTY
    · subst ht
      simp only [EnvOp.apply, if_true, clear_bit_apply, Bool.and_eq_true,
        decide_eq_true_eq] at hx ⊢
      obtain ⟨h1, h2, h3, h4⟩ := hinv x hx.2
      exact ⟨by simp [h1], by simp [hx.1, h2], h3, h4⟩
    · simp only [EnvOp.apply, if_neg ht] at hx ⊢
      obtain ⟨h1, h2, h3, h4⟩ := hinv x hx
      exact ⟨h1, by simp [Ne.symm ht, h2], h3, h4⟩
  | close_cursec secno =>
    obtain ⟨h1, h2, h3, h4⟩ := hinv x hx
    exact ⟨h1, h2, h3, by simp [EnvOp.apply, h4]⟩
  | open_cursec secno =>
    obtain ⟨h1, h2, h3, h4⟩ := hinv x hx
    refine ⟨h1, h2, h3, ?_⟩
    have hne : g.GET_SECNO x ≠ secno := by
      rintro rfl
      have h0 := hop 0 g.segs_per_sec_pos
      simp only [Geometry.segs_per_sec, hs, Geometry.GET_SECNO_of_single hs, Nat.pow_zero, Nat.mul_one,
        Nat.add_zero] at h0
      rw [h0] at h2
      cases h2
    simp [EnvOp.apply, hne, h4]

/-- A call keeps the invariant: a hand-off moves one segment from the background map to the
foreground map, a background claim takes a segment that passed the scan's tests, and a
foreground scan runs only when no background claim is left. -/
theorem ClaimInv.call (hs : cfg.g.log_segs_per_sec = 0) (hinv : ClaimInv cfg.g st)
    (h : get_victim_by_default cfg fuel st gc_type type = some (res, st')) :
    ClaimInv cfg.g st' := by
  have hu := select_policy_log_ofs_unit_eq_zero hs st gc_type type
  obtain ⟨hd, hc, ⟨-, rfl, m, -, -, -, hv⟩ | ⟨-, hv⟩ | ⟨hclear, m, hlt, hmap, hpass, -, hv⟩⟩ :=
    get_victim_by_default_cases h
  · intro x hx
    rw [hv] at hx ⊢
    rw [hd, hc]
    simp only [VictimState.update_victim_victim_segmap, hu, unit_start_zero, set_bits_apply,
      clear_bit_apply, Nat.pow_zero, reduceCtorEq, if_true, if_false, Bool.and_eq_true,
      decide_eq_true_eq] at hx ⊢
    obtain ⟨h1, h2, h3, h4⟩ := hinv x hx.2
    exact ⟨by simp only [h1, Bool.or_false, decide_eq_false_iff_not]; omega, h2, h3, h4⟩
  · intro x hx
    rw [hv] at hx ⊢
    rw [hd, hc]
    exact hinv x hx
  · by_cases hl : (select_policy cfg.g st gc_type type).alloc_mode = .LFS
    · obtain rfl := select_policy_lfs hl
      rw [if_pos hl] at hv
      intro x hx
      rw [hv] at hx ⊢
      rw [hd, hc]
      obtain ⟨hfg, hbg, hcur⟩ := hpass
      cases gc_type with
      | BG_GC =>
        simp only [VictimState.update_victim_victim_segmap, hu, unit_start_zero, set_bits_apply,
          Nat.pow_zero, reduceCtorEq, if_true, if_false, Bool.or_eq_true,
          decide_eq_true_eq] at hx ⊢
        rcases hx with hxm | hx
        · obtain rfl : x = m := by omega
          exact ⟨hfg, hmap, hlt, hcur⟩
        · exact hinv x hx
      | FG_GC =>
        simp only [VictimState.update_victim_victim_segmap, hu, unit_start_zero, set_bits_apply,
          Nat.pow_zero, reduceCtorEq, if_true, if_false] at hx ⊢
        obtain ⟨h1, h2, h3, h4⟩ := hinv x hx
        have hxm : x ≠ m := by
          rintro rfl
          rw [hclear hl rfl x hlt] at hx
          cases hx
        exact ⟨by simp only [h1, Bool.or_false, decide_eq_false_iff_not]; omega, h2, h3, h4⟩
    · rw [if_neg hl] at hv
      intro x hx
      rw [hv] at hx ⊢
      rw [hd, hc]
      exact hinv x hx

/-- An SSR call of background GC never returns a background claim, so opening its section
keeps the invariant. -/
theorem ClaimInv.ssr_open (hs : cfg.g.log_segs_per_sec = 0) (hinv : ClaimInv cfg.g st)
    {t : DirtyType} {r : Nat}
    (h : get_victim_by_default cfg fuel st .BG_GC (.SSR_TYPE t) = some (some r, st')) :
    ClaimInv cfg.g ((EnvOp.open_cursec (cfg.g.GET_SECNO r)).apply st') := by
  have hinv' := hinv.call hs h
  obtain ⟨-, -, ⟨hl, -⟩ | ⟨hr, -⟩ | ⟨-, m, -, -, hpass, hr, hv⟩⟩ := get_victim_by_default_cases h
  · cases hl
  · cases hr
  · simp only [select_policy_log_ofs_unit_ssr, unit_start_zero, Option.some.injEq] at hr
    subst hr
    intro x hx
    replace hx : st'.victim_segmap .BG_GC x = true := hx
    obtain ⟨h1, h2, h3, h4⟩ := hinv' x hx
    refine ⟨h1, h2, h3, ?_⟩
    have hxr : x ≠ r := by
      rintro rfl
      rw [hv, if_neg (by simp [select_policy])] at hx
      exact hpass.2.1 ⟨rfl, hx⟩
    rw [Geometry.GET_SECNO_of_single hs] at h4 ⊢
    simp [EnvOp.apply, Geometry.GET_SECNO_of_single hs, hxr, h4]

theorem claim_inv_of_reachable (hs : cfg.g.log_segs_per_sec = 0) (h : Reachable cfg st) :
    ClaimInv cfg.g st := by
  induction h with
  | init h0 => intro x hx; rw [h0] at hx; cases hx
  | call _ _ _ _ hcall ih => exact ih.call hs hcall
  | env op _ hop ih => exact ih.env hs hop
  | ssr_open _ _ _ hcall ih => exact ih.ssr_open hs hcall

/-- With one segment per section, every segment a call returns, by scan or by hand-off, is in
range, set in the policy's scan map, off the current sections and not claimed by foreground
GC, in every reachable state. -/
theorem single_segment_victim_eligible (hs : cfg.g.log_segs_per_sec = 0)
    (hst : Reachable cfg st) {r : Nat}
    (h : get_victim_by_default cfg fuel st gc_type type = some (some r, st')) :
    r < cfg.g.TOTAL_SEGS ∧ (select_policy cfg.g st gc_type type).dirty_segmap r = true ∧
      st.cursec (cfg.g.GET_SECNO r) = false ∧ st.victim_segmap .FG_GC r = false := by
  have hu := select_policy_log_ofs_unit_eq_zero hs st gc_type type
  obtain ⟨-, -, ⟨hl, -, m, -, hbg, hr, -⟩ | ⟨hr, -⟩ | ⟨-, m, hlt, hmap, hpass, hr, -⟩⟩ :=
    get_victim_by_default_cases h
  · rw [hu, unit_start_zero, Option.some.injEq] at hr
    subst hr
    obtain rfl := select_policy_lfs hl
    obtain ⟨h1, h2, h3, h4⟩ := claim_inv_of_reachable hs hst r hbg
    exact ⟨h3, h2, h4, h1⟩
  · cases hr
  · rw [hu, unit_start_zero, Option.some.injEq] at hr
    subst hr
    exact ⟨hlt, hmap, hpass.2.2, hpass.1⟩

/-- Both segments of `two_seg_geometry` dirty: segment 0 nearly empty and the oldest, segment 1
one block short of full and young; the mtime window is `[100, 200]`. -/
def aged_seg_state : VictimState where
  dirty_segmap := fun _ segno => decide (segno < 2)
  victim_segmap := fun _ _ => false
  cursec := fun _ => false
  sit :=
    { mtime := fun segno => if segno = 1 then 198 else 100
      valid_blocks := fun segno => if segno = 0 then 10 else 127
      ckpt_valid_blocks := fun segno => if segno = 0 then 10 else 127
      min_mtime := 100
      max_mtime := 200 }
  last_victim := fun _ => 0

/-- Background GC claims segment 0 of `aged_seg_state`, and the foreground call that follows
hands that claim off. -/
theorem bg_claim_fg_handoff_eligible :
    ∃ st st', Reachable two_seg_config st ∧ st.victim_segmap .BG_GC 0 = true ∧
      get_victim_by_default two_seg_config 8 st .FG_GC .NO_CHECK_TYPE = some (some 0, st') ∧
      0 < two_seg_geometry.TOTAL_SEGS ∧
      (select_policy two_seg_geometry st .FG_GC .NO_CHECK_TYPE).dirty_segmap 0 = true ∧
      st.cursec (two_seg_geometry.GET_SECNO 0) = false ∧ st.victim_segmap .FG_GC 0 = false :=
  have hst := run_events_reachable (.init fun _ _ => rfl) (run_eq_getD aged_seg_state
    (x := run_events two_seg_config 8 [.call .BG_GC .NO_CHECK_TYPE] aged_seg_state) (by decide))
  have h := call_eq_of_fst (none, aged_seg_state) (a := some 0)
    (x := get_victim_by_default two_seg_config 8 ((run_events two_seg_config 8
      [.call .BG_GC .NO_CHECK_TYPE] aged_seg_state).getD aged_seg_state) .FG_GC .NO_CHECK_TYPE)
    (by decide)
  ⟨_, _, hst, by decide, h, single_segment_victim_eligible rfl hst h⟩

end SingleSegment

/-- Two sections of two segments, four blocks each. -/
def two_sec_geometry : Geometry where
  log_blocks_per_seg := 2
  log_segs_per_sec := 1
  total_sections := 2
  total_segs_lt := by decide
  START_BLOCK := fun segno => segno * 4

/-- Only segment 0 is dirty; no segment has valid blocks; the mtime window is `[0, 100]`. -/
def two_sec_state : VictimState where
  dirty_segmap := fun t segno => decide (t = .DIRTY ∧ segno = 0)
  victim_segmap := fun _ _ => false
  cursec := fun _ => false
  sit :=
    { mtime := fun _ => 0
      valid_blocks := fun _ => 0
      ckpt_valid_blocks := fun _ => 0
      min_mtime := 0
      max_mtime := 100 }
  last_victim := fun _ => 0

def two_sec_config : GcConfig := ⟨two_sec_geometry, 20⟩

/-- Background GC claims section 0 for its one dirty segment and sets the bits of both of its
segments; segment 0 then leaves `DIRTY`, and section 0, now clean, becomes current. The next
foreground call hands off the claim left on segment 1 and returns section 0: a current section
with no dirty segment. -/
theorem handoff_returns_current_clean_section :
    ∃ st r st', Reachable two_sec_config st ∧
      get_victim_by_default two_sec_config 8 st .FG_GC .NO_CHECK_TYPE = some (some r, st') ∧
      st.cursec (two_sec_geometry.GET_SECNO r) = true ∧
      ∀ i < two_sec_geometry.segs_per_sec, st.dirty_segmap .DIRTY (r + i) = false := by
  exact ⟨_, 0, _, run_events_reachable (.init fun _ _ => rfl) (run_eq_getD two_sec_state
      (x := run_events two_sec_config 8 [.call .BG_GC .NO_CHECK_TYPE,
        .env (.remove_dirty .DIRTY 0), .env (.open_cursec 0)] two_sec_state) (by decide)),
    call_eq_of_fst (none, two_sec_state) (by decide), by decide, by decide⟩

/-- Background GC claims section 0 (both bits); a foreground call hands off segment 0 and
claims section 0 for itself; the next foreground call hands off segment 1 and returns
section 0 again while the first foreground claim stands. -/
theorem handoff_returns_fg_claimed_section :
    ∃ st r st', Reachable two_sec_config st ∧
      get_victim_by_default two_sec_config 8 st .FG_GC .NO_CHECK_TYPE = some (some r, st') ∧
      st.victim_segmap .FG_GC r = true := by
  exact ⟨_, 0, _, run_events_reachable (.init fun _ _ => rfl) (run_eq_getD two_sec_state
      (x := run_events two_sec_config 8 [.call .BG_GC .NO_CHECK_TYPE,
        .call .FG_GC .NO_CHECK_TYPE] two_sec_state) (by decide)),
    call_eq_of_fst (none, two_sec_state) (by decide), by decide⟩

end f2fs.gc
