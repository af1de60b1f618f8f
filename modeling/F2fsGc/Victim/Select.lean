import F2fsGc.Victim.Scan

open f2fs.segment

namespace f2fs.gc

/-- The mount-time constants victim selection reads. -/
structure GcConfig where
  g : Geometry
  /-- `MAX_VICTIM_SEARCH` (gc.h) -/
  MAX_VICTIM_SEARCH : Nat

def VictimState.update_victim (st : VictimState) (t : GcType) (f : Bitmap → Bitmap) :
    VictimState :=
  { st with victim_segmap := fun t' => if t' = t then f (st.victim_segmap t) else st.victim_segmap t' }

@[simp] theorem VictimState.update_victim_victim_segmap (st : VictimState) (t t' : GcType)
    (f : Bitmap → Bitmap) :
    (st.update_victim t f).victim_segmap t' =
      if t' = t then f (st.victim_segmap t) else st.victim_segmap t' := rfl

@[simp] theorem VictimState.update_victim_dirty_segmap (st : VictimState) (t : GcType)
    (f : Bitmap → Bitmap) : (st.update_victim t f).dirty_segmap = st.dirty_segmap := rfl

@[simp] theorem VictimState.update_victim_cursec (st : VictimState) (t : GcType)
    (f : Bitmap → Bitmap) : (st.update_victim t f).cursec = st.cursec := rfl

/-- Pops the first segment that background GC claimed, for foreground GC to reuse. -/
def check_bg_victims (g : Geometry) (st : VictimState) : Option Nat × VictimState :=
  let segno := find_next_bit (st.victim_segmap .BG_GC) g.TOTAL_SEGS 0
  if segno < g.TOTAL_SEGS then (some segno, st.update_victim .BG_GC (clear_bit segno))
  else (none, st)

theorem check_bg_victims_of_none {g : Geometry} {st : VictimState}
    (h : (check_bg_victims g st).1 = none) : check_bg_victims g st = (none, st) := by
  unfold check_bg_victims at h ⊢
  dsimp only at h ⊢
  split_ifs at h ⊢
  rfl

/-- The hand-off pops the first background claim below `TOTAL_SEGS`. -/
theorem check_bg_victims_of_some {g : Geometry} {st : VictimState} {m : Nat}
    (h : (check_bg_victims g st).1 = some m) :
    m < g.TOTAL_SEGS ∧ st.victim_segmap .BG_GC m = true ∧
      check_bg_victims g st = (some m, st.update_victim .BG_GC (clear_bit m)) := by
  unfold check_bg_victims at h ⊢
  dsimp only at h ⊢
  split_ifs at h ⊢ with hlt
  obtain rfl := Option.some.inj h
  exact ⟨hlt, (find_next_bit_of_lt hlt).2, rfl⟩

/-- No hand-off means no background claim below `TOTAL_SEGS`. -/
theorem check_bg_victims_none_clear {g : Geometry} {st : VictimState}
    (h : (check_bg_victims g st).1 = none) :
    ∀ x < g.TOTAL_SEGS, st.victim_segmap .BG_GC x = false := by
  unfold check_bg_victims at h
  dsimp only at h
  split_ifs at h with hlt
  exact fun x hx => find_next_bit_eq_size (Nat.le_of_not_lt hlt) (Nat.zero_le x) hx

/-- The claim loop: `set_bit(*result + i, victim_segmap[gc_type])` for `i < n`. -/
def set_bits (result n : Nat) (addr : Bitmap) : Bitmap :=
  (List.range n).foldl (fun m i => set_bit (result + i) m) addr

theorem set_bits_apply (result n : Nat) (addr : Bitmap) (j : Nat) :
    set_bits result n addr j = (decide (result ≤ j ∧ j < result + n) || addr j) := by
  induction n with
  | zero => simp [set_bits]
  | succ n ih =>
    simp only [set_bits, List.range_succ, List.foldl_append, List.foldl_cons, List.foldl_nil,
      set_bit_apply] at ih ⊢
    rw [ih]
    by_cases h : j = result + n
    · subst h; simp
    · have hiff : (result ≤ j ∧ j < result + (n + 1)) ↔ (result ≤ j ∧ j < result + n) := by omega
      simp [h, hiff]

/-- The initial scan state: `p.min_segno = NULL_SEGNO`, `p.min_cost = get_max_cost`. -/
def scan_start (g : Geometry) (st : VictimState) (p : VictimSelPolicy) : ScanState :=
  { st := st, offset := p.offset, min_segno := none, min_cost := get_max_cost g p, nsearched := 0 }

/-- The `got_it` label: align the minimum to its unit and, for LFS, claim the unit. -/
def got_it (p : VictimSelPolicy) (gc_type : GcType) : Option Nat → VictimState →
    Option Nat × VictimState
  | none, st => (none, st)
  | some m, st =>
    let result := unit_start p.log_ofs_unit m
    (some result,
      if p.alloc_mode = .LFS then st.update_victim gc_type (set_bits result (2 ^ p.log_ofs_unit))
      else st)

/-- An LFS claim sets all `2^log_ofs_unit` bits of the unit it returns. -/
theorem got_it_claims (p : VictimSelPolicy) (gc_type : GcType) (m : Nat) (st : VictimState)
    (hlfs : p.alloc_mode = .LFS) {i : Nat} (hi : i < 2 ^ p.log_ofs_unit) :
    (got_it p gc_type (some m) st).2.victim_segmap gc_type (unit_start p.log_ofs_unit m + i) =
      true := by
  simp [got_it, hlfs, set_bits_apply, hi]

def scan_ctx (cfg : GcConfig) (p : VictimSelPolicy) (gc_type : GcType) : ScanCtx :=
  ⟨cfg.g, gc_type, p, cfg.g.TOTAL_SEGS, cfg.MAX_VICTIM_SEARCH⟩

/-- `get_victim_by_default`: `some (some r, st')` is a return of 1 with `*result = r`,
`some (none, st')` a return of 0, and `none` a scan still running after `fuel` turns. -/
def get_victim_by_default (cfg : GcConfig) (fuel : Nat) (st : VictimState) (gc_type : GcType)
    (type : VictimType) : Option (Option Nat × VictimState) :=
  let p := select_policy cfg.g st gc_type type
  let scan (st : VictimState) :=
    (victim_scan (scan_ctx cfg p gc_type) fuel (scan_start cfg.g st p)).map
      fun s => got_it p gc_type s.min_segno s.st
  if p.alloc_mode = .LFS ∧ gc_type = .FG_GC then
    match check_bg_victims cfg.g st with
    | (some segno, st) => some (got_it p gc_type (some segno) st)
    | (none, st) => scan st
  else scan st

/-- Without the hand-off, `get_victim_by_default` is its scan followed by `got_it`. -/
theorem get_victim_by_default_of_scan {cfg : GcConfig} {fuel : Nat} {st : VictimState}
    {gc_type : GcType} {type : VictimType} {s : ScanState}
    (hhand : (select_policy cfg.g st gc_type type).alloc_mode = .LFS → gc_type = .FG_GC →
      (check_bg_victims cfg.g st).1 = none)
    (hscan : victim_scan (scan_ctx cfg (select_policy cfg.g st gc_type type) gc_type) fuel
      (scan_start cfg.g st (select_policy cfg.g st gc_type type)) = some s) :
    get_victim_by_default cfg fuel st gc_type type =
      some (got_it (select_policy cfg.g st gc_type type) gc_type s.min_segno s.st) := by
  unfold get_victim_by_default
  dsimp only
  split_ifs with h
  · rw [check_bg_victims_of_none (hhand h.1 h.2)]
    simp only [hscan, Option.map_some']
  · simp only [hscan, Option.map_some']

section ScanRun

variable {c : ScanCtx}

/-- An invariant of every turn holds of the state the scan breaks out with. -/
theorem victim_scan_invariant (I : ScanState → Prop)
    (hnext : ∀ s s', I s → victim_scan_step c s = .next s' → I s')
    (hdone : ∀ s s', I s → victim_scan_step c s = .done s' → I s') :
    ∀ fuel s s', I s → victim_scan c fuel s = some s' → I s'
  | 0, _, _, _, h => by simp [victim_scan] at h
  | fuel + 1, s, s', hs, h => by
    simp only [victim_scan] at h
    split at h
    · exact victim_scan_invariant I hnext hdone fuel _ _ (hnext _ _ hs ‹_›) h
    · cases h; exact hdone _ _ hs ‹_›

/-- The scan breaks out either at the end of its last pass, or past `MAX_VICTIM_SEARCH`. -/
theorem victim_scan_exit : ∀ {fuel : Nat} {s s' : ScanState}, victim_scan c fuel s = some s' →
    (c.total ≤ find_next_bit c.p.dirty_segmap c.total s'.offset ∧
      s'.st.last_victim c.p.gc_mode = 0) ∨ c.MAX_VICTIM_SEARCH < s'.nsearched
  | 0, _, _, h => by simp [victim_scan] at h
  | fuel + 1, s, s', h => by
    simp only [victim_scan] at h
    split at h
    · exact victim_scan_exit h
    · rename_i s'' hstep
      cases h
      rcases victim_scan_step_cases c s with
        ⟨-, -, hs⟩ | ⟨hend, hlv, hs⟩ | ⟨-, -, hs⟩ | ⟨-, -, -, hs⟩ | ⟨-, -, -, -, hs⟩ |
          ⟨-, -, -, hn, hs⟩ <;> rw [hs] at hstep <;> cases hstep
      · exact .inl ⟨hend, hlv⟩
      · exact .inr (by simp only; omega)

/-- The scan reads the dirty map, the victim maps and the current sections without writing
them, and writes only the mtime window of the SIT. -/
def ScanFrame (st0 : VictimState) (s : ScanState) : Prop :=
  s.st.dirty_segmap = st0.dirty_segmap ∧ s.st.victim_segmap = st0.victim_segmap ∧
  s.st.cursec = st0.cursec ∧
  ∃ lo hi, s.st.sit = { st0.sit with min_mtime := lo, max_mtime := hi }

theorem ScanFrame.evaluate {st0 : VictimState} {s : ScanState} (h : ScanFrame st0 s)
    (segno : Nat) : ScanFrame st0 (c.evaluate s segno) := by
  obtain ⟨hd, hv, hc, lo, hi, hsit⟩ := h
  obtain ⟨lo', hi', hsit'⟩ := get_gc_cost_sit c.g s.st.sit segno c.p
  unfold ScanCtx.evaluate
  dsimp only
  split_ifs <;> exact ⟨hd, hv, hc, lo', hi', by rw [hsit', hsit]⟩

theorem ScanFrame.step {st0 : VictimState} {s s' : ScanState} (h : ScanFrame st0 s)
    (hstep : victim_scan_step c s = .next s' ∨ victim_scan_step c s = .done s') :
    ScanFrame st0 s' := by
  have hev := @ScanFrame.evaluate c _ _ h (find_next_bit c.p.dirty_segmap c.total s.offset)
  obtain ⟨hd, hv, hc, hsit⟩ := h
  rcases victim_scan_step_cases c s with
    ⟨-, -, hs⟩ | ⟨-, -, hs⟩ | ⟨-, -, hs⟩ | ⟨-, -, -, hs⟩ | ⟨-, -, -, -, hs⟩ | ⟨-, -, -, -, hs⟩ <;>
    rw [hs] at hstep <;> rcases hstep with hstep | hstep <;> cases hstep
  · exact ⟨hd, hv, hc, hsit⟩
  · exact ⟨hd, hv, hc, hsit⟩
  · exact ⟨hd, hv, hc, hsit⟩
  · exact hev
  · exact hev
  · exact ⟨hev.1, hev.2.1, hev.2.2.1, hev.2.2.2⟩

end ScanRun

end f2fs.gc
