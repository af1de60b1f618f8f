import F2fsGc.Policy

open f2fs.segment

namespace f2fs.gc

/-- One iteration of a `while (1)` loop either continues or breaks. -/
inductive LoopStep (α : Type)
  | next (a : α)
  | done (a : α)

/-- What stays fixed while `get_victim_by_default` scans. -/
structure ScanCtx where
  g : Geometry
  gc_type : GcType
  p : VictimSelPolicy
  /-- `TOTAL_SEGS(sbi)` -/
  total : Nat
  MAX_VICTIM_SEARCH : Nat

/-- The loop-carried state: `p.offset`, `p.min_segno`, `p.min_cost`, `nsearched`, and the
superblock, whose `last_victim[p.gc_mode]` and SIT window the loop writes. -/
structure ScanState where
  st : VictimState
  offset : Nat
  min_segno : Option Nat
  min_cost : Nat
  nsearched : Nat

def VictimState.set_last_victim (st : VictimState) (m : GcMode) (v : Nat) : VictimState :=
  { st with last_victim := fun m' => if m' = m then v else st.last_victim m' }

/-- The first segment of the unit holding `segno`: `(segno >> u) << u`. -/
def unit_start (u segno : Nat) : Nat := segno >>> u <<< u

theorem unit_start_eq (u x : Nat) : unit_start u x = x / 2 ^ u * 2 ^ u := by
  simp [unit_start, Nat.shiftLeft_eq, Nat.shiftRight_eq_div_pow]

theorem unit_start_le (u x : Nat) : unit_start u x ≤ x := by
  rw [unit_start_eq]; exact Nat.div_mul_le_self x _

theorem lt_unit_start_add (u x : Nat) : x < unit_start u x + 2 ^ u := by
  rw [unit_start_eq]
  have := @Nat.lt_div_mul_add x (2 ^ u) (Nat.two_pow_pos u)
  omega

@[simp] theorem unit_start_zero (x : Nat) : unit_start 0 x = x := by simp [unit_start]

/-- Segments of one unit share its start. -/
theorem unit_start_of_mem {u x y : Nat} (h1 : unit_start u x ≤ y)
    (h2 : y < unit_start u x + 2 ^ u) : unit_start u y = unit_start u x := by
  rw [unit_start_eq] at h1 h2
  rw [unit_start_eq u y, unit_start_eq u x, Nat.div_eq_of_lt_le h1 (by rw [Nat.succ_mul]; exact h2)]

/-- One turn of the scan loop of `get_victim_by_default`. -/
def victim_scan_step (c : ScanCtx) (s : ScanState) : LoopStep ScanState :=
  let segno := find_next_bit c.p.dirty_segmap c.total s.offset
  if c.total ≤ segno then
    if s.st.last_victim c.p.gc_mode ≠ 0 then
      .next { s with st := s.st.set_last_victim c.p.gc_mode 0, offset := 0 }
    else .done s
  else
    let s := { s with offset := (unit_start c.p.log_ofs_unit segno + 2 ^ c.p.log_ofs_unit) % 2 ^ 32 }
    if s.st.victim_segmap .FG_GC segno then .next s
    else if c.gc_type = .BG_GC ∧ s.st.victim_segmap .BG_GC segno then .next s
    else if s.st.cursec (c.g.GET_SECNO segno) then .next s
    else
      let r := get_gc_cost c.g s.st.sit segno c.p
      let cost := r.1
      let s := { s with st := { s.st with sit := r.2 } }
      let s := if cost < s.min_cost then { s with min_segno := some segno, min_cost := cost } else s
      if cost = get_max_cost c.g c.p then .next s
      else if c.MAX_VICTIM_SEARCH ≤ s.nsearched then
        .done { s with nsearched := s.nsearched + 1,
                       st := s.st.set_last_victim c.p.gc_mode segno }
      else .next { s with nsearched := s.nsearched + 1 }

/-- The scan loop, run for at most `fuel` turns; `none` when it has not broken out by then. -/
def victim_scan (c : ScanCtx) : Nat → ScanState → Option ScanState
  | 0, _ => none
  | fuel + 1, s =>
    match victim_scan_step c s with
    | .next s' => victim_scan c fuel s'
    | .done s' => some s'

/-- The three tests a scanned segment must pass before its cost is computed. -/
def ScanCtx.passes (c : ScanCtx) (st : VictimState) (segno : Nat) : Prop :=
  st.victim_segmap .FG_GC segno = false ∧
  ¬ (c.gc_type = .BG_GC ∧ st.victim_segmap .BG_GC segno = true) ∧
  st.cursec (c.g.GET_SECNO segno) = false

instance (c : ScanCtx) (st : VictimState) (segno : Nat) : Decidable (c.passes st segno) := by
  unfold ScanCtx.passes; infer_instance

/-- The offset after scanning `segno`. -/
def ScanCtx.next_offset (c : ScanCtx) (segno : Nat) : Nat :=
  (unit_start c.p.log_ofs_unit segno + 2 ^ c.p.log_ofs_unit) % 2 ^ 32

/-- The state after evaluating `segno`'s cost, before the `nsearched` test. -/
def ScanCtx.evaluate (c : ScanCtx) (s : ScanState) (segno : Nat) : ScanState :=
  let r := get_gc_cost c.g s.st.sit segno c.p
  let s := { s with offset := c.next_offset segno, st := { s.st with sit := r.2 } }
  if r.1 < s.min_cost then { s with min_segno := some segno, min_cost := r.1 } else s

@[simp] theorem ScanCtx.evaluate_nsearched (c : ScanCtx) (s : ScanState) (segno : Nat) :
    (c.evaluate s segno).nsearched = s.nsearched := by
  unfold ScanCtx.evaluate; dsimp only; split_ifs <;> rfl

@[simp] theorem ScanCtx.evaluate_offset (c : ScanCtx) (s : ScanState) (segno : Nat) :
    (c.evaluate s segno).offset = c.next_offset segno := by
  unfold ScanCtx.evaluate; dsimp only; split_ifs <;> rfl

@[simp] theorem ScanCtx.evaluate_last_victim (c : ScanCtx) (s : ScanState) (segno : Nat) :
    (c.evaluate s segno).st.last_victim = s.st.last_victim := by
  unfold ScanCtx.evaluate; dsimp only; split_ifs <;> rfl

/-- Evaluating a segment leaves the SIT window `get_gc_cost` returns. -/
theorem ScanCtx.evaluate_sit (c : ScanCtx) (s : ScanState) (segno : Nat) :
    (c.evaluate s segno).st.sit = (get_gc_cost c.g s.st.sit segno c.p).2 := by
  unfold ScanCtx.evaluate; dsimp only; split_ifs <;> rfl

/-- Everything one turn of the scan can do. -/
theorem victim_scan_step_cases (c : ScanCtx) (s : ScanState) :
    let segno := find_next_bit c.p.dirty_segmap c.total s.offset
    let cost := (get_gc_cost c.g s.st.sit segno c.p).1
    (c.total ≤ segno ∧ s.st.last_victim c.p.gc_mode ≠ 0 ∧
      victim_scan_step c s = .next { s with st := s.st.set_last_victim c.p.gc_mode 0, offset := 0 }) ∨
    (c.total ≤ segno ∧ s.st.last_victim c.p.gc_mode = 0 ∧ victim_scan_step c s = .done s) ∨
    (segno < c.total ∧ ¬ c.passes s.st segno ∧
      victim_scan_step c s = .next { s with offset := c.next_offset segno }) ∨
    (segno < c.total ∧ c.passes s.st segno ∧ cost = get_max_cost c.g c.p ∧
      victim_scan_step c s = .next (c.evaluate s segno)) ∨
    (segno < c.total ∧ c.passes s.st segno ∧ cost ≠ get_max_cost c.g c.p ∧
      s.nsearched < c.MAX_VICTIM_SEARCH ∧
      victim_scan_step c s = .next { c.evaluate s segno with nsearched := s.nsearched + 1 }) ∨
    (segno < c.total ∧ c.passes s.st segno ∧ cost ≠ get_max_cost c.g c.p ∧
      c.MAX_VICTIM_SEARCH ≤ s.nsearched ∧
      victim_scan_step c s = .done { c.evaluate s segno with
        nsearched := s.nsearched + 1,
        st := (c.evaluate s segno).st.set_last_victim c.p.gc_mode segno }) := by
  intro segno cost
  by_cases hend : c.total ≤ segno
  · by_cases hlv : s.st.last_victim c.p.gc_mode = 0
    · exact .inr (.inl ⟨hend, hlv, by simp [victim_scan_step, segno, hend, hlv]⟩)
    · exact .inl ⟨hend, hlv, by simp [victim_scan_step, segno, hend, hlv]⟩
  · have hlt : segno < c.total := Nat.lt_of_not_le hend
    by_cases hpass : c.passes s.st segno
    · have hrun : victim_scan_step c s =
          if cost = get_max_cost c.g c.p then .next (c.evaluate s segno)
          else if c.MAX_VICTIM_SEARCH ≤ (c.evaluate s segno).nsearched then
            .done { c.evaluate s segno with
              nsearched := (c.evaluate s segno).nsearched + 1
              st := (c.evaluate s segno).st.set_last_victim c.p.gc_mode segno }
          else .next { c.evaluate s segno with nsearched := (c.evaluate s segno).nsearched + 1 } := by
        obtain ⟨hfg, hbg, hcur⟩ := hpass
        have hbg' : ¬ (c.gc_type = .BG_GC ∧ s.st.victim_segmap .BG_GC segno = true) := hbg
        simp only [victim_scan_step, segno, hend, hfg, hcur, hbg', Bool.false_eq_true, if_false]
        rfl
      rw [ScanCtx.evaluate_nsearched] at hrun
      by_cases hmax : cost = get_max_cost c.g c.p
      · exact .inr (.inr (.inr (.inl ⟨hlt, hpass, hmax, by rw [hrun, if_pos hmax]⟩)))
      by_cases hn : c.MAX_VICTIM_SEARCH ≤ s.nsearched
      · exact .inr (.inr (.inr (.inr (.inr ⟨hlt, hpass, hmax, hn, by rw [hrun, if_neg hmax, if_pos hn]⟩))))
      · exact .inr (.inr (.inr (.inr (.inl ⟨hlt, hpass, hmax, by omega,
          by rw [hrun, if_neg hmax, if_neg hn]⟩))))
    · refine .inr (.inr (.inl ⟨hlt, hpass, ?_⟩))
      simp only [victim_scan_step, segno, hend, if_false, ScanCtx.next_offset]
      cases hfg : s.st.victim_segmap .FG_GC segno with
      | true => rfl
      | false =>
        by_cases hbg : c.gc_type = .BG_GC ∧ s.st.victim_segmap .BG_GC segno = true
        · simp only [hbg, and_self, Bool.false_eq_true, if_true, if_false]
        have hcur : s.st.cursec (c.g.GET_SECNO segno) = true := by
          by_contra hc
          exact hpass ⟨hfg, hbg, Bool.eq_false_iff.mpr hc⟩
        simp only [hbg, hcur, Bool.false_eq_true, if_true, if_false]

end f2fs.gc
