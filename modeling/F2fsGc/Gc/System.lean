import F2fsGc.Gc.Locks
import F2fsGc.Gc.Refs
import F2fsGc.Victim.Runs

open f2fs.segment

namespace f2fs.gc

theorem Steps.replay_trace {σ : Type} {step : σ → Ev → Option σ} {s s' : GcState} {m0 m m' : σ}
    (h0 : replay step m0 s.trace = some m) (h : Steps step s s' m m') :
    replay step m0 s'.trace = some m' := by
  obtain ⟨E, hE, hr⟩ := h
  rw [hE, replay_append, h0]
  exact hr

section Claims

variable {cfg : GcConfig} {l : NodeLayout} {P : SleepPolicy} {O : Collab} {fuel : Nat}
  {nGC old : Int}

/-- With one segment per section, a selection from a state that keeps the claim invariant
returns a segment in range, set in the policy's scan map, off the current sections and not a
foreground claim. -/
theorem ClaimInv.victim_eligible (hs : cfg.g.log_segs_per_sec = 0) {st st' : VictimState}
    (hinv : ClaimInv cfg.g st) {gc_type : GcType} {type : VictimType} {r : Nat}
    (h : get_victim_by_default cfg fuel st gc_type type = some (some r, st')) :
    r < cfg.g.TOTAL_SEGS ∧ (select_policy cfg.g st gc_type type).dirty_segmap r = true ∧
      st.cursec (cfg.g.GET_SECNO r) = false ∧ st.victim_segmap .FG_GC r = false := by
  have hu := select_policy_log_ofs_unit_eq_zero hs st gc_type type
  obtain ⟨-, -, ⟨hl, -, m, -, hbg, hr, -⟩ | ⟨hr, -⟩ | ⟨-, m, hlt, hmap, hpass, hr, -⟩⟩ :=
    get_victim_by_default_cases h
  · rw [hu, unit_start_zero, Option.some.injEq] at hr
    subst hr
    obtain rfl := select_policy_lfs hl
    obtain ⟨h1, h2, h3, h4⟩ := hinv r hbg
    exact ⟨h3, h2, h4, h1⟩
  · cases hr
  · rw [hu, unit_start_zero, Option.some.injEq] at hr
    subst hr
    exact ⟨hlt, hmap, hpass.2.2, hpass.1⟩

variable (hs : cfg.g.log_segs_per_sec = 0)
  (hO : ∀ n vs, ClaimInv cfg.g vs → ClaimInv cfg.g (O.env n vs))
include hs hO

/-- `__get_victim` changes the maps only by the other threads' steps and its own selection. -/
theorem __get_victim_claim_inv {gc_type : GcType} {vs : VictimState} {s : GcState}
    {r : Option Nat × VictimState × GcState} (hinv : ClaimInv cfg.g vs)
    (h : __get_victim cfg O gc_type vs s = some r) : ClaimInv cfg.g r.2.1 := by
  rw [__get_victim_eq] at h
  obtain ⟨⟨res, vs'⟩, hg, rfl⟩ := Option.map_eq_some'.mp h
  exact (hO _ _ hinv).call hs hg

theorem gc_loop_claim_inv : ∀ {fuel : Nat} {gc_type : GcType} {gc_status : GcStatus}
    {nfree : Nat} {vs : VictimState} {s : GcState}
    {r : GcStatus × Nat × GcType × VictimState × GcState}, ClaimInv cfg.g vs →
      gc_loop cfg l O nGC old fuel gc_type gc_status nfree vs s = some r →
        ClaimInv cfg.g r.2.2.2.1 := by
  intro fuel
  induction fuel with
  | zero => intro _ _ _ _ _ _ _ h; simp [gc_loop] at h
  | succ fuel ih =>
    intro gc_type gc_status nfree vs s r hinv h
    obtain ⟨fuel', hf, brk, gc_type', s1, -, ⟨-, rfl⟩ | ⟨-, res, vs', s2, hv, ⟨-, rfl⟩ |
      ⟨segno, -, stop, st, nf, s3, -, ⟨-, rfl⟩ | ⟨-, hrec⟩⟩⟩⟩ := gc_loop_cases h
    · exact hinv
    · exact __get_victim_claim_inv hs hO hinv hv
    · exact __get_victim_claim_inv hs hO hinv hv
    · obtain rfl := Nat.succ.inj hf
      exact ih (__get_victim_claim_inv hs hO hinv hv) hrec

theorem gc_more_claim_inv : ∀ {fuel : Nat} {gc_type : GcType} {vs : VictimState} {s : GcState}
    {r : GcStatus × VictimState × GcState}, ClaimInv cfg.g vs →
      gc_more cfg l O nGC fuel gc_type vs s = some r → ClaimInv cfg.g r.2.1 := by
  intro fuel
  induction fuel with
  | zero => intro _ _ _ _ _ h; simp [gc_more] at h
  | succ fuel ih =>
    intro gc_type vs s r hinv h
    obtain ⟨fuel', hf, old', s1, -, st, nfree, gc_type', vs', s2, hl, hcase⟩ := gc_more_cases h
    obtain rfl := Nat.succ.inj hf
    have hl' := gc_loop_claim_inv hs hO hinv hl
    dsimp only at hcase
    rcases hcase with ⟨-, -, hrec⟩ | ⟨-, -, rfl⟩ | ⟨-, rfl⟩
    · exact ih hl' hrec
    · exact hl'
    · exact hl'

theorem f2fs_balance_fs_claim_inv {vs : VictimState} {s : GcState} {r : VictimState × GcState}
    (hinv : ClaimInv cfg.g vs) (h : f2fs_balance_fs cfg l O fuel vs s = some r) :
    ClaimInv cfg.g r.1 := by
  rcases f2fs_balance_fs_cases h with rfl | ⟨st, hg⟩
  · exact hinv
  · exact gc_more_claim_inv hs hO hinv hg

theorem gc_thread_tick_claim_inv {w : Int} {vs : VictimState} {s : GcState}
    {r : Bool × Int × VictimState × GcState} (hinv : ClaimInv cfg.g vs)
    (h : gc_thread_tick cfg l P O fuel w vs s = some r) : ClaimInv cfg.g r.2.2.1 := by
  rcases gc_thread_tick_cases h with rfl | rfl | ⟨vs1, s1, hb, hcase⟩
  · exact hinv
  · exact hinv
  have h1 : ClaimInv cfg.g vs1 := f2fs_balance_fs_claim_inv hs hO hinv hb
  rcases hcase with rfl | rfl | rfl | ⟨enough, st, vs2, s2, hg, rfl⟩
  iterate 3 exact h1
  exact gc_more_claim_inv hs hO h1 hg

end Claims

section Refs

variable {cfg : GcConfig} {l : NodeLayout} {P : SleepPolicy} {O : Collab} {fuel : Nat}

/-- A writer's `f2fs_balance_fs` drops every reference it takes. -/
theorem f2fs_balance_fs_refs {vs : VictimState} {s : GcState} {r : VictimState × GcState}
    (hil : s.ilist = []) (h : f2fs_balance_fs cfg l O fuel vs s = some r) :
    Steps ref_step s r.2 RefLedger.empty RefLedger.empty ∧ r.2.ilist = [] := by
  rcases f2fs_balance_fs_cases h with rfl | ⟨st, hg⟩
  · exact ⟨.emits (by rfl), hil⟩
  · obtain ⟨hsteps, hil'⟩ := gc_more_refs hg
    exact ⟨(Steps.emits (by rfl)).trans
      (show Steps ref_step (s.emits .top _) _ _ _ from hsteps), hil'⟩

theorem gc_thread_while_refs (w : Int) (vs : VictimState) (s : GcState) :
    Steps ref_step s (gc_thread_while O w vs s).2.2.2 RefLedger.empty RefLedger.empty ∧
      (gc_thread_while O w vs s).2.2.2.ilist = s.ilist :=
  ⟨.emit (by rfl), rfl⟩

/-- A tick of the GC thread, entered with no inode pinned, drops every reference it takes and
pins no inode. -/
theorem gc_thread_tick_refs {w : Int} {vs : VictimState} {s : GcState}
    {r : Bool × Int × VictimState × GcState} (hil : s.ilist = [])
    (h : gc_thread_tick cfg l P O fuel w vs s = some r) :
    Steps ref_step s r.2.2.2 RefLedger.empty RefLedger.empty ∧ r.2.2.2.ilist = [] := by
  rcases gc_thread_tick_cases h with rfl | rfl | ⟨vs1, s1, hb, hcase⟩
  · obtain ⟨h2, h3⟩ := gc_thread_while_refs (O := O) w vs (s.emits .top [.try_to_freeze true])
    exact ⟨(Steps.emits (by rfl)).trans h2, h3.trans hil⟩
  · exact ⟨.emits (by rfl), hil⟩
  obtain ⟨h1, hil1⟩ := f2fs_balance_fs_refs (hil ▸ rfl : (s.emits .top _).ilist = []) hb
  have h1' : Steps ref_step s s1 RefLedger.empty RefLedger.empty := (Steps.emits (by rfl)).trans h1
  rcases hcase with rfl | rfl | rfl | ⟨enough, st, vs2, s2, hg, rfl⟩
  iterate 3
    obtain ⟨h2, h3⟩ := gc_thread_while_refs (O := O) _ vs1 (s1.emits .top _)
    exact ⟨h1'.trans ((Steps.emits (by rfl)).trans h2), h3.trans hil1⟩
  obtain ⟨h2, hil2⟩ := gc_more_refs hg
  obtain ⟨h3, h4⟩ := gc_thread_while_refs (O := O) _ vs2 s2
  exact ⟨h1'.trans ((Steps.emits (by rfl)).trans ((show Steps ref_step (s1.emits .top _) _ _ _ from
    h2).trans h3)), h4.trans hil2⟩

end Refs

/-- The state of f2fs as the collector sees it: the selection state, the history of events with
the inodes GC pinned, and the GC thread's `wait_ms` while it runs its loop (`none` once it has
left it). -/
structure SysState where
  vs : VictimState
  s : GcState
  thread : Option Int

/-- One step of f2fs, at the grain `gc_mutex` and `seglist_lock` serialise: a tick of the GC
thread (`gc_thread_func`), a call of `f2fs_balance_fs` by a writer that finds free sections
short, a step of the segment manager (the dirty lists and the current sections), or a selection
of another thread (`get_victim_by_default` for SSR) that opens the section it gets. The events
of the calls make one history, in the order the locks serialise them. -/
inductive SysStep (cfg : GcConfig) (l : NodeLayout) (P : SleepPolicy) (O : Collab) (fuel : Nat) :
    SysState → SysState → Prop
  /-- An iteration of the loop of `gc_thread_func`; the thread leaves when the loop test fails. -/
  | tick {vs vs' : VictimState} {s s' : GcState} {w w' : Int} {more : Bool} :
      gc_thread_tick cfg l P O fuel w vs s = some (more, w', vs', s') →
      SysStep cfg l P O fuel ⟨vs, s, some w⟩ ⟨vs', s', if more then some w' else none⟩
  /-- A writer's `f2fs_balance_fs`. -/
  | balance {vs vs' : VictimState} {s s' : GcState} {th : Option Int} :
      f2fs_balance_fs cfg l O fuel vs s = some (vs', s') →
      SysStep cfg l P O fuel ⟨vs, s, th⟩ ⟨vs', s', th⟩
  /-- A step of the segment manager. -/
  | segment {vs : VictimState} {s : GcState} {th : Option Int} (op : EnvOp) :
      op.allowed cfg.g vs → SysStep cfg l P O fuel ⟨vs, s, th⟩ ⟨op.apply vs, s, th⟩
  /-- A selection by another thread, in any mode. -/
  | select {vs vs' : VictimState} {s : GcState} {th : Option Int} {res : Option Nat}
      (gc_type : GcType) (type : VictimType) :
      get_victim_by_default cfg (scan_fuel cfg.g) vs gc_type type = some (res, vs') →
      SysStep cfg l P O fuel ⟨vs, s, th⟩ ⟨vs', s, th⟩
  /-- An SSR allocation: the allocator's selection, then the section it got becomes current. -/
  | ssr_open {vs vs' : VictimState} {s : GcState} {th : Option Int} {r : Nat} (t : DirtyType) :
      get_victim_by_default cfg (scan_fuel cfg.g) vs .BG_GC (.SSR_TYPE t) = some (some r, vs') →
      SysStep cfg l P O fuel ⟨vs, s, th⟩ ⟨(EnvOp.open_cursec (cfg.g.GET_SECNO r)).apply vs', s, th⟩

/-- A mounted file system before any step: no victim claimed, no event, no inode pinned. -/
def SysInit (x : SysState) : Prop :=
  (∀ t segno, x.vs.victim_segmap t segno = false) ∧ x.s = ⟨[], []⟩

/-- The invariant of the system: every background claim is a dirty segment in range, off the
current sections and not a foreground claim; GC pins no inode between calls; the whole history
keeps the lock order and the checkpoint handshake, and drops every inode and page reference it
takes. -/
def SysInv (g : Geometry) (x : SysState) : Prop :=
  ClaimInv g x.vs ∧ x.s.ilist = [] ∧ replay lock_step .free x.s.trace = some .free ∧
    replay ref_step RefLedger.empty x.s.trace = some RefLedger.empty

section System

variable {cfg : GcConfig} {l : NodeLayout} {P : SleepPolicy} {O : Collab} {fuel : Nat}

theorem SysInv.init {x : SysState} (h : SysInit x) : SysInv cfg.g x := by
  obtain ⟨h0, hs⟩ := h
  refine ⟨fun y hy => ?_, by rw [hs], by rw [hs]; rfl, by rw [hs]; rfl⟩
  rw [h0] at hy
  cases hy

/-- Every step of the system keeps its invariant. -/
theorem SysInv.step (hs : cfg.g.log_segs_per_sec = 0)
    (hO : ∀ n vs, ClaimInv cfg.g vs → ClaimInv cfg.g (O.env n vs)) {x y : SysState}
    (hinv : SysInv cfg.g x) (h : SysStep cfg l P O fuel x y) : SysInv cfg.g y := by
  obtain ⟨hc, hil, hlk, hrf⟩ := hinv
  cases h with
  | tick ht =>
    obtain ⟨hr, hil'⟩ := gc_thread_tick_refs hil ht
    exact ⟨gc_thread_tick_claim_inv hs hO hc ht, hil',
      Steps.replay_trace hlk (gc_thread_tick_locks ht), Steps.replay_trace hrf hr⟩
  | balance hb =>
    obtain ⟨hr, hil'⟩ := f2fs_balance_fs_refs hil hb
    exact ⟨f2fs_balance_fs_claim_inv hs hO hc hb, hil',
      Steps.replay_trace hlk (f2fs_balance_fs_locks hb), Steps.replay_trace hrf hr⟩
  | segment op hop => exact ⟨hc.env hs hop, hil, hlk, hrf⟩
  | select gc_type type hg => exact ⟨hc.call hs hg, hil, hlk, hrf⟩
  | ssr_open t hg => exact ⟨hc.ssr_open hs hg, hil, hlk, hrf⟩

/-- With one segment per section, and other threads that keep the claim invariant when they
act inside a call: in every state f2fs reaches from a mounted file system, by any interleaving
of ticks of the GC thread, writers' `f2fs_balance_fs`, steps of the segment manager and other
threads' selections, every background claim is eligible, GC pins no inode, the whole history
keeps the lock order and the checkpoint handshake and has dropped every reference it took, and
the next selection of any thread, in any mode, returns a segment in range, in its scan map, off
the current sections and not claimed by foreground GC. -/
theorem gc_system_invariant (hs : cfg.g.log_segs_per_sec = 0)
    (hO : ∀ n vs, ClaimInv cfg.g vs → ClaimInv cfg.g (O.env n vs)) {x0 x : SysState}
    (h0 : SysInit x0) (h : Relation.ReflTransGen (SysStep cfg l P O fuel) x0 x) :
    SysInv cfg.g x ∧
      ∀ fuel' gc_type type r vs', get_victim_by_default cfg fuel' x.vs gc_type type =
          some (some r, vs') →
        r < cfg.g.TOTAL_SEGS ∧ (select_policy cfg.g x.vs gc_type type).dirty_segmap r = true ∧
          x.vs.cursec (cfg.g.GET_SECNO r) = false ∧ x.vs.victim_segmap .FG_GC r = false := by
  have hinv : SysInv cfg.g x := by
    induction h with
    | refl => exact .init h0
    | tail _ hstep ih => exact ih.step hs hO hstep
  exact ⟨hinv, fun _ _ _ _ _ hg => hinv.1.victim_eligible hs hg⟩

end System

/-- Two segments of one block, each its own section. -/
def two_unit_geometry : Geometry where
  log_blocks_per_seg := 0
  log_segs_per_sec := 0
  total_sections := 2
  total_segs_lt := by decide
  START_BLOCK := fun segno => segno

def two_unit_config : GcConfig := ⟨two_unit_geometry, 20⟩

/-- Collaborators of `idle_collab` under which five sections are free from the twentieth event
on, so that a background collection stops after its first section. -/
def freeing_collab : Collab :=
  { idle_collab false false with free_sections := fun t => if t < 20 then 0 else 5 }

/-- On the two-unit device with both segments dirty, a tick of the GC thread runs a background
collection of segment 0, and the invariant holds after it. -/
theorem gc_tick_keeps_system_invariant :
    ∃ x, two_unit_config.g.log_segs_per_sec = 0 ∧
      (∀ n vs, ClaimInv two_unit_config.g vs →
        ClaimInv two_unit_config.g (freeing_collab.env n vs)) ∧
      SysInit ⟨one_sec_state, ⟨[], []⟩, some 10000⟩ ∧
      Relation.ReflTransGen (SysStep two_unit_config ⟨1018, 1018, 923⟩ stepped_sleep
        freeing_collab 10) ⟨one_sec_state, ⟨[], []⟩, some 10000⟩ x ∧
      x.s.trace.filterMap Ev.victim? = [some 0] ∧ SysInv two_unit_config.g x := by
  obtain ⟨⟨more, w', vs', s'⟩, hr⟩ := Option.isSome_iff_exists.mp (by decide :
    (gc_thread_tick two_unit_config ⟨1018, 1018, 923⟩ stepped_sleep freeing_collab 10 10000
      one_sec_state ⟨[], []⟩).isSome)
  have hv : ((gc_thread_tick two_unit_config ⟨1018, 1018, 923⟩ stepped_sleep freeing_collab 10
      10000 one_sec_state ⟨[], []⟩).map fun r => r.2.2.2.trace.filterMap Ev.victim?) =
      some [some 0] := by decide
  rw [hr] at hv
  have hrun := Relation.ReflTransGen.single (SysStep.tick hr)
  exact ⟨_, rfl, fun _ _ h => h, ⟨fun _ _ => rfl, rfl⟩, hrun, Option.some.inj hv,
    (gc_system_invariant rfl (fun _ _ h => h) ⟨fun _ _ => rfl, rfl⟩ hrun).1⟩

end f2fs.gc
