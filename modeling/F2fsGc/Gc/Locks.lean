import F2fsGc.Gc.Thread

open f2fs.segment

namespace f2fs.gc

/-- Where the checkpoint handshake of a blocked evacuation stands. -/
inductive CpPhase
  | idle | taken | blocked
  deriving DecidableEq, Repr

/-- The locks held, innermost first, and the phase of the handshake. -/
structure LockState where
  held : List Lock
  cp : CpPhase
  deriving DecidableEq, Repr

/-- No lock held, no handshake open. -/
def LockState.free : LockState := ⟨[], .idle⟩

/-- `gc_mutex` held: the state `f2fs_gc` is entered in. -/
def LockState.gc : LockState := ⟨[.gc_mutex], .idle⟩

/-- After an evacuator returned `err`: an evacuator that returns `GC_BLOCKED` holds `cp_mutex`. -/
def LockState.evacuated (err : GcStatus) : LockState :=
  if err = .GC_BLOCKED then ⟨[.cp_mutex, .gc_mutex], .taken⟩ else .gc

/-- After a segment's result `st`. -/
def LockState.after (st : GcStatus) : LockState :=
  if st = .GC_BLOCKED then ⟨[.cp_mutex, .gc_mutex], .blocked⟩ else .gc

/-- Take `l`, if every lock held comes before it. -/
def acquire (held : List Lock) (l : Lock) : Option (List Lock) :=
  if held.all fun k => k.rank < l.rank then some (l :: held) else none

/-- The lock-order discipline, one call at a time. -/
def held_step (held : List Lock) : Act → Option (List Lock)
  | .lock l => acquire held l
  | .mutex_trylock true => acquire held .gc_mutex
  | .unlock l => if l ∈ held then some (held.erase l) else none
  | _ => some held

/-- The checkpoint handshake, one event at a time: an evacuator that meets
`should_do_checkpoint` takes `cp_mutex` and blocks operations (phase `taken`). Until its
segment's result, which must be `GC_BLOCKED` (phase `blocked`), only the release of the summary
page and the submission of the foreground bios may follow; after it, only the free-space test of
`stop:` may come before `write_checkpoint(sbi, true, false)`, which closes the handshake. A
blocked checkpoint or a `GC_BLOCKED` result anywhere else is refused. A `cp_mutex` taken at the
top level is `write_checkpoint(sbi, false, false)`'s own. -/
def cp_step (c : CpPhase) (e : Ev) : Option CpPhase :=
  match c, e.act with
  | .idle, .lock .cp_mutex => some (if e.site = .top then .idle else .taken)
  | .idle, .write_checkpoint true => none
  | .idle, .gc_result .GC_BLOCKED => none
  | .idle, _ => some .idle
  | .taken, .block_operations => some .taken
  | .taken, .put_page (.sum _) => some .taken
  | .taken, .submit_bio => some .taken
  | .taken, .gc_result .GC_BLOCKED => some .blocked
  | .taken, _ => none
  | .blocked, .has_not_enough_free_secs _ => some .blocked
  | .blocked, .write_checkpoint true => some .idle
  | .blocked, _ => none

/-- The monitor of the two disciplines GC keeps over the events of a run: lock order over
`gc_mutex`, `cp_mutex`, `sentry_lock` and `seglist_lock` (`held_step`), and the checkpoint
handshake (`cp_step`). -/
def lock_step (m : LockState) (e : Ev) : Option LockState :=
  (held_step m.held e.act).bind fun held => (cp_step m.cp e).map fun cp => ⟨held, cp⟩

/-- The calls the monitor looks at outside a handshake. -/
@[simp] def Act.locking : Act → Bool
  | .lock _ | .unlock _ | .mutex_trylock _ | .write_checkpoint _ | .gc_result _ => true
  | _ => false

/-- Outside a handshake, a call the monitor does not look at changes nothing. -/
@[simp] theorem lock_step_quiet (held : List Lock) (site : Site) {a : Act}
    (h : a.locking = false) : lock_step ⟨held, .idle⟩ ⟨site, a⟩ = some ⟨held, .idle⟩ := by
  cases a <;> first | rfl | simp at h

@[simp] theorem lock_step_lock (held : List Lock) (site : Site) (l : Lock) :
    lock_step ⟨held, .idle⟩ ⟨site, .lock l⟩ =
      (acquire held l).map (⟨·, if l = .cp_mutex ∧ site ≠ .top then .taken else .idle⟩) := by
  simp only [lock_step, held_step]
  cases acquire held l <;> cases l <;> cases site <;> rfl

@[simp] theorem lock_step_unlock (held : List Lock) (site : Site) (l : Lock) :
    lock_step ⟨held, .idle⟩ ⟨site, .unlock l⟩ =
      if l ∈ held then some ⟨held.erase l, .idle⟩ else none := by
  by_cases hl : l ∈ held <;> simp only [lock_step, held_step, hl, if_true, if_false] <;> rfl

theorem replay_lock_quiet (held : List Lock) (site : Site) {acts : List Act}
    (h : ∀ a ∈ acts, a.locking = false) :
    replay lock_step ⟨held, .idle⟩ (acts.map (Ev.mk site)) = some ⟨held, .idle⟩ := by
  induction acts with
  | nil => rfl
  | cons a acts ih =>
    simp only [List.map_cons, replay_cons, lock_step_quiet held site (h a (.head _)),
      Option.some_bind]
    exact ih fun b hb => h b (.tail _ hb)

theorem Act.locking_of_writeback {a : Act} (h : a.writeback) : a.locking = false := by
  cases a <;> first | rfl | exact absurd h Bool.false_ne_true

theorem DnodeStale.quiet {nid blkaddr : Nat} {D : List Act} (h : DnodeStale nid blkaddr D) :
    ∀ a ∈ D, a.locking = false := by
  have hall : D.all (fun a => !a.locking) = true := by
    rcases h with rfl | ⟨_, rfl⟩ | ⟨_, _, _, _, rfl⟩ <;> rfl
  simpa using List.all_eq_true.mp hall

section Evacuation

variable {O : Collab} {site : Site} {s : GcState} {held : List Lock}

theorem add_gc_inode_locks (ino : Nat) :
    Steps lock_step s (add_gc_inode site ino s) ⟨held, .idle⟩ ⟨held, .idle⟩ := by
  rcases @add_gc_inode_cases site s ino with ⟨-, h⟩ | ⟨-, h⟩ <;> rw [h]
  · exact .emits (by simp [Act.locking])
  · exact ⟨_, rfl, by simp [Act.locking]⟩

theorem pin_data_inode_locks (ino bidx : Nat) :
    Steps lock_step s (pin_data_inode O site ino bidx s) ⟨held, .idle⟩ ⟨held, .idle⟩ := by
  rcases @pin_data_inode_cases O site s ino bidx with h | h | h <;> rw [h]
  · exact .emits (by simp [Act.locking])
  · exact .emits (by simp [Act.locking])
  · exact (Steps.emits (by simp [Act.locking])).trans (add_gc_inode_locks ino)

theorem move_pinned_page_locks (ino bidx : Nat) (gc_type : GcType) :
    Steps lock_step s (move_pinned_page O site ino bidx gc_type s) ⟨held, .idle⟩
      ⟨held, .idle⟩ := by
  rcases @move_pinned_page_cases O site s ino bidx gc_type with ⟨-, h⟩ | ⟨-, h⟩ | ⟨-, h⟩ <;>
    rw [h]
  · exact .emits (by simp [Act.locking])
  · exact .emits (by simp [Act.locking])
  · obtain ⟨acts, hacts, hmv⟩ := @move_data_page_cases O site
      (s.emits site [.find_gc_inode ino true, .get_page (.data ino bidx) true]) ino bidx gc_type
    rw [hmv, GcState.emits_emits]
    refine .emits (replay_lock_quiet _ _ fun a ha => ?_)
    simp only [List.cons_append, List.singleton_append, List.mem_cons, List.mem_append,
      List.mem_singleton, List.nil_append, List.not_mem_nil, or_false] at ha
    rcases ha with rfl | rfl | rfl | ha | rfl
    iterate 3 rfl
    · exact Act.locking_of_writeback (hacts a ha)
    · rfl

/-- An iteration of `gc_node_segment` that goes on leaves the locks as it found them; one that
leaves the function returns `GC_BLOCKED` exactly when it took `cp_mutex`. -/
theorem gc_node_entry_locks (sum : SummaryBlock) (segno : Nat) (initial : Bool) (off : Nat) :
    (gc_node_entry O sum segno initial off s).Ends (fun s' => Steps lock_step s s' .gc .gc)
      (fun err s' => Steps lock_step s s' .gc (.evacuated err)) := by
  rcases gc_node_entry_cases (O := O) (s := s) sum segno initial off with
    h | h | ⟨-, h⟩ | ⟨-, h⟩ | ⟨-, wb, h⟩ <;> rw [h] <;> refine .emits ?_
  all_goals first | rfl | cases wb <;> rfl

/-- An iteration of `gc_data_segment` that goes on leaves the locks as it found them; one that
leaves the function returns `GC_BLOCKED` exactly when it took `cp_mutex`. -/
theorem gc_data_entry_locks (l : NodeLayout) (g : Geometry) (sum : SummaryBlock) (segno : Nat)
    (gc_type : GcType) (phase off : Nat) :
    (gc_data_entry O l g sum segno gc_type phase off s).Ends
      (fun s' => Steps lock_step s s' .gc .gc)
      (fun err s' => Steps lock_step s s' .gc (.evacuated err)) := by
  rcases gc_data_entry_cases (O := O) (s := s) l g sum segno gc_type phase off with
    h | h | ⟨-, h⟩ | ⟨-, D, hD, h⟩ | ⟨-, dni, nofs, -, ⟨-, h⟩ | ⟨-, h⟩ | ⟨-, -, h⟩⟩ <;> rw [h]
  · exact .emits rfl
  · exact .emits rfl
  · exact .emits rfl
  · exact .emits (by rw [List.map_append, replay_append]; exact replay_lock_quiet _ _ hD.quiet)
  · exact .emits rfl
  · exact (Steps.emits (by rfl)).trans (pin_data_inode_locks _ _)
  · exact (Steps.emits (by rfl)).trans (move_pinned_page_locks _ _ _)

theorem gc_node_segment_locks (g : Geometry) (sum : SummaryBlock) (segno : Nat)
    (gc_type : GcType) :
    Steps lock_step s (gc_node_segment O g sum segno gc_type s).2 .gc
      (.evacuated (gc_node_segment O g sum segno gc_type s).1) := by
  have hloop := @for_each_steps_ends _ _ lock_step .gc LockState.evacuated _ [true, false]
    (fun initial _ s1 => for_each_steps_ends (List.range g.blocks_per_seg)
      (fun off _ s2 => gc_node_entry_locks (O := O) (s := s2) sum segno initial off) s1) s
  rw [gc_node_segment_eq]
  generalize for_each _ _ s = f at hloop ⊢
  cases f with
  | stop => exact hloop
  | next =>
    dsimp only
    split_ifs
    · exact hloop.trans (.emit (by simp [LockState.gc, LockState.evacuated]))
    · exact hloop

theorem gc_data_segment_locks (l : NodeLayout) (g : Geometry) (sum : SummaryBlock) (segno : Nat)
    (gc_type : GcType) :
    Steps lock_step s (gc_data_segment O l g sum segno gc_type s).2 .gc
      (.evacuated (gc_data_segment O l g sum segno gc_type s).1) := by
  have hloop := @for_each_steps_ends _ _ lock_step .gc LockState.evacuated _ (List.range 4)
    (fun phase _ s1 => for_each_steps_ends (List.range g.blocks_per_seg)
      (fun off _ s2 => gc_data_entry_locks (O := O) (s := s2) l g sum segno gc_type phase off) s1) s
  rw [gc_data_segment_eq]
  generalize for_each _ _ s = f at hloop ⊢
  dsimp only
  split_ifs
  · cases f with
    | stop err => exact hloop.trans (.emit (by cases err <;> rfl))
    | next => exact hloop.trans (.emit (by simp [LockState.gc, LockState.evacuated]))
  · cases f <;> exact hloop

/-- The release of the summary page and the segment's result: the handshake an evacuator opened
goes on to `blocked`. -/
theorem replay_gc_result (segno : Nat) (st : GcStatus) :
    replay lock_step (.evacuated st) ([.put_page (.sum segno), .gc_result st].map (Ev.mk .top)) =
      some (.after st) := by
  cases st <;> rfl

/-- A segment's evacuation leaves `cp_mutex` held, with the handshake `blocked`, exactly when
its result is `GC_BLOCKED`. -/
theorem do_garbage_collect_locks (l : NodeLayout) (g : Geometry) (segno : Nat)
    (gc_type : GcType) :
    Steps lock_step s (do_garbage_collect O l g segno gc_type s).2 .gc
      (.after (do_garbage_collect O l g segno gc_type s).1) := by
  rw [do_garbage_collect_eq]
  cases O.get_sum_page s.clock segno with
  | none => exact .emits rfl
  | some sum =>
    dsimp only
    have hev : ∀ r : GcStatus × GcState,
        Steps lock_step (s.emits .top [.get_page (.sum segno) true]) r.2 .gc (.evacuated r.1) →
        Steps lock_step s (r.2.emits .top [.put_page (.sum segno), .gc_result r.1]) .gc
          (.after r.1) := fun r hr =>
      (Steps.emits (by rfl)).trans (hr.trans (.emits (replay_gc_result _ _)))
    cases sum.sum_type
    · exact hev _ (gc_node_segment_locks g sum segno gc_type)
    · exact hev _ (gc_data_segment_locks l g sum segno gc_type)

/-- The segments of a victim section: the loop leaves with the locks as it found them, unless
a segment returned `GC_BLOCKED`. -/
theorem gc_section_locks (l : NodeLayout) (g : Geometry) (gc_type : GcType) (segno : Nat) :
    ∀ (is : List Nat) (status : GcStatus) (nfree : Nat) (s : GcState),
      status ≠ .GC_BLOCKED →
      Steps lock_step s (gc_section O l g gc_type segno is status nfree s).2.2.2 .gc
        (.after (gc_section O l g gc_type segno is status nfree s).2.1) ∧
      ((gc_section O l g gc_type segno is status nfree s).1 = false →
        (gc_section O l g gc_type segno is status nfree s).2.1 ≠ .GC_BLOCKED)
  | [], status, _, s, hst => ⟨by simpa [gc_section, LockState.after, hst] using .refl _ _,
      fun _ => hst⟩
  | i :: is, _, nfree, s, _ => by
    have h1 := do_garbage_collect_locks (O := O) (s := s) l g (segno + i) gc_type
    simp only [gc_section]
    generalize do_garbage_collect O l g (segno + i) gc_type s = r at h1 ⊢
    split_ifs with hdone
    · exact ⟨h1, nofun⟩
    · have hst : r.1 = .GC_DONE := not_not.mp hdone
      obtain ⟨h2, h3⟩ := gc_section_locks l g gc_type segno is r.1 (nfree + 1) r.2
        (by simp [hst])
      refine ⟨h1.trans ?_, h3⟩
      simpa [hst, LockState.after] using h2

end Evacuation

section Collect

variable {cfg : GcConfig} {l : NodeLayout} {O : Collab} {nGC old : Int}

theorem LockState.after_of_ne {st : GcStatus} (h : st ≠ .GC_BLOCKED) :
    LockState.after st = .gc := if_neg h

theorem __get_victim_locks {gc_type : GcType} {vs vs' : VictimState} {s s' : GcState}
    {r : Option Nat} (h : __get_victim cfg O gc_type vs s = some (r, vs', s')) :
    Steps lock_step s s' .gc .gc := by
  rw [__get_victim_eq] at h
  obtain ⟨_, -, h⟩ := Option.map_eq_some'.mp h
  cases h
  exact .emits (by simp [acquire, Lock.rank, LockState.gc])

theorem gc_loop_head_locks (nfree : Nat) (gc_type : GcType) (s : GcState) :
    Steps lock_step s (gc_loop_head O nGC old nfree gc_type s).2.2 .gc .gc := by
  rcases @gc_loop_head_cases O nGC old nfree gc_type s with ⟨-, h⟩ | ⟨-, _, _, h⟩ <;> rw [h] <;>
    exact .emits (by simp [LockState.gc])

/-- The selection loop holds `gc_mutex` throughout, and leaves with `cp_mutex` held and the
handshake `blocked` exactly when a segment returned `GC_BLOCKED`. -/
theorem gc_loop_locks {fuel : Nat} {gc_type : GcType} {gc_status : GcStatus} {nfree : Nat}
    {vs : VictimState} {s : GcState} {r : GcStatus × Nat × GcType × VictimState × GcState}
    (hst : gc_status ≠ .GC_BLOCKED)
    (h : gc_loop cfg l O nGC old fuel gc_type gc_status nfree vs s = some r) :
    Steps lock_step s r.2.2.2.2 .gc (.after r.1) := by
  induction fuel generalizing gc_type gc_status nfree vs s with
  | zero => simp [gc_loop] at h
  | succ fuel ih =>
    obtain ⟨fuel', hf, brk, gc_type', s1, hh, hcase⟩ := gc_loop_cases h
    obtain rfl := Nat.succ.inj hf
    have h1 := @gc_loop_head_locks O nGC old nfree gc_type s
    rw [hh] at h1
    rcases hcase with ⟨-, rfl⟩ | ⟨-, res, vs', s2, hv, ⟨-, rfl⟩ | ⟨segno, -, stop, st, nf, s3, hs,
      hstop⟩⟩
    · rwa [LockState.after_of_ne hst]
    · rw [LockState.after_of_ne hst]
      exact h1.trans (__get_victim_locks hv)
    have h2 := gc_section_locks (O := O) l cfg.g gc_type' segno
      (List.range cfg.g.segs_per_sec) gc_status nfree s2 hst
    rw [hs] at h2
    have h12 := h1.trans ((__get_victim_locks hv).trans h2.1)
    rcases hstop with ⟨-, rfl⟩ | ⟨rfl, hrec⟩
    · exact h12
    · have hst' : st ≠ .GC_BLOCKED := h2.2 rfl
      rw [LockState.after_of_ne hst'] at h12
      exact h12.trans (ih hst' hrec)

/-- `write_checkpoint` at `stop:`: blocked after a `GC_BLOCKED` segment, which closes the
handshake, and a checkpoint of its own otherwise. -/
theorem write_checkpoint_locks (st : GcStatus) (s : GcState) :
    Steps lock_step s (write_checkpoint (st = .GC_BLOCKED) s) (.after st) .gc := by
  rw [write_checkpoint_eq]
  exact .emits (by cases st <;> rfl)

/-- The end of `f2fs_gc` releases `gc_mutex`. -/
theorem gc_finish_locks (st : GcStatus) (s : GcState) :
    Steps lock_step s (gc_finish st s).2 .gc .free := by
  have hq : ∀ a ∈ iput_acts s.ilist, a.locking = false := by
    simp only [iput_acts, List.mem_flatMap, List.mem_cons, List.mem_singleton,
      List.not_mem_nil, or_false]
    rintro a ⟨ino, -, rfl | rfl⟩ <;> rfl
  rw [gc_finish_eq]
  refine ⟨_, rfl, ?_⟩
  simp only [List.map_append, replay_append]
  simp [LockState.gc, LockState.free, replay_lock_quiet _ _ hq]

/-- A pass of `f2fs_gc` from `gc_more` releases `gc_mutex`, and every handshake it opens is
closed by a blocked checkpoint before the next pass or the return. -/
theorem gc_more_locks {fuel : Nat} {gc_type : GcType} {vs : VictimState} {s : GcState}
    {r : GcStatus × VictimState × GcState} (h : gc_more cfg l O nGC fuel gc_type vs s = some r) :
    Steps lock_step s r.2.2 .gc .free := by
  induction fuel generalizing gc_type vs s with
  | zero => simp [gc_more] at h
  | succ fuel ih =>
    obtain ⟨fuel', hf, old', s1, hh, st, nfree, gc_type', vs', s2, hl, hcase⟩ := gc_more_cases h
    obtain rfl := Nat.succ.inj hf
    have h1 : Steps lock_step s s1 .gc .gc := by
      obtain ⟨short, n, h⟩ := gc_more_head_cases (O := O) s
      rw [hh] at h
      cases h
      exact .emits (by cases short <;> rfl)
    have h2 : Steps lock_step s (s2.emit .top (.has_not_enough_free_secs
        (O.has_not_enough_free_secs s2.clock))) .gc (.after st) :=
      h1.trans ((gc_loop_locks (by decide) hl).trans (.emit (by cases st <;> rfl)))
    dsimp only at hcase
    rcases hcase with ⟨-, -, hrec⟩ | ⟨-, -, rfl⟩ | ⟨hc, rfl⟩
    · exact h2.trans ((write_checkpoint_locks st _).trans (ih hrec))
    · exact h2.trans ((write_checkpoint_locks st _).trans (gc_finish_locks st _))
    · rw [LockState.after_of_ne fun hb => hc (.inr hb)] at h2
      exact h2.trans (gc_finish_locks st _)

theorem f2fs_gc_locks {fuel : Nat} {vs : VictimState} {trace : List Ev}
    {r : GcStatus × VictimState × GcState} (h : f2fs_gc cfg l O nGC fuel vs trace = some r) :
    ∃ E, r.2.2.trace = trace ++ E ∧ replay lock_step .gc E = some .free :=
  gc_more_locks h

end Collect

section Thread

variable {cfg : GcConfig} {l : NodeLayout} {P : SleepPolicy} {O : Collab} {fuel : Nat}

/-- `f2fs_balance_fs` takes `gc_mutex` only to run a collection, which releases it. -/
theorem f2fs_balance_fs_locks {vs : VictimState} {s : GcState} {r : VictimState × GcState}
    (h : f2fs_balance_fs cfg l O fuel vs s = some r) : Steps lock_step s r.2 .free .free := by
  rcases f2fs_balance_fs_cases h with rfl | ⟨st, hg⟩
  · exact .emits rfl
  · exact (Steps.emits (by rfl)).trans (f2fs_gc_locks hg)

theorem gc_thread_while_locks (wait_ms : Int) (vs : VictimState) (s : GcState) :
    Steps lock_step s (gc_thread_while O wait_ms vs s).2.2.2 .free .free :=
  .emit rfl

/-- A tick of the GC thread leaves no lock held: the `gc_mutex` it gets from
`mutex_trylock` is released by the tick itself when the device is busy, and by `f2fs_gc`
otherwise. -/
theorem gc_thread_tick_locks {wait_ms : Int} {vs : VictimState} {s : GcState}
    {r : Bool × Int × VictimState × GcState}
    (h : gc_thread_tick cfg l P O fuel wait_ms vs s = some r) :
    Steps lock_step s r.2.2.2 .free .free := by
  rcases gc_thread_tick_cases h with rfl | rfl | ⟨vs1, s1, hb, hcase⟩
  · exact (Steps.emits (by rfl)).trans (gc_thread_while_locks _ _ _)
  · exact .emits rfl
  have h1 : Steps lock_step s s1 .free .free :=
    (Steps.emits (by rfl)).trans (f2fs_balance_fs_locks hb)
  rcases hcase with rfl | rfl | rfl | ⟨enough, st, vs2, s2, hg, rfl⟩
  iterate 3 exact h1.trans ((Steps.emits (by rfl)).trans (gc_thread_while_locks _ _ _))
  have h2 : Steps lock_step _ s2 .gc .free := f2fs_gc_locks hg
  exact h1.trans ((Steps.emits (by rfl)).trans (h2.trans (gc_thread_while_locks _ _ _)))

end Thread

/-- Under every behaviour of the collaborators, of the victim selector and of the evacuators:
a call of `f2fs_gc`, entered with `gc_mutex` held, and a tick of `gc_thread_func`, entered with
no lock held, end with no lock held; on the way no lock is taken while a lock after it in the
order `gc_mutex`, `cp_mutex`, `sentry_lock`, `seglist_lock` is held, none is released unless
held, and every `cp_mutex` an evacuator takes is followed by its segment's `GC_BLOCKED` and,
before any other evacuation, victim selection or return, by exactly one
`write_checkpoint(sbi, true, false)`, the only blocked checkpoint of the run. -/
theorem gc_lock_discipline :
    (∀ (cfg : GcConfig) (l : NodeLayout) (O : Collab) (nGC : Int) (fuel : Nat)
        (vs : VictimState) (trace : List Ev) (r : GcStatus × VictimState × GcState),
      f2fs_gc cfg l O nGC fuel vs trace = some r →
        ∃ E, r.2.2.trace = trace ++ E ∧ replay lock_step .gc E = some .free) ∧
    (∀ (cfg : GcConfig) (l : NodeLayout) (P : SleepPolicy) (O : Collab) (fuel : Nat)
        (wait_ms : Int) (vs : VictimState) (s : GcState) (r : Bool × Int × VictimState × GcState),
      gc_thread_tick cfg l P O fuel wait_ms vs s = some r →
        ∃ E, r.2.2.2.trace = s.trace ++ E ∧ replay lock_step .free E = some .free) :=
  ⟨fun _ _ _ _ _ _ _ _ h => f2fs_gc_locks h, fun _ _ _ _ _ _ _ _ _ h => gc_thread_tick_locks h⟩

/-- Sleep times that move by steps of 10 s between 10 s and 30 s. -/
def stepped_sleep : SleepPolicy where
  GC_THREAD_MIN_SLEEP_TIME := 10000
  GC_THREAD_MAX_SLEEP_TIME := 30000
  GC_THREAD_NOGC_SLEEP_TIME := 10000
  increase_sleep_time := fun w => min (w + 10000) 30000
  decrease_sleep_time := fun w => max (w - 10000) 10000

/-- Collaborators under which free sections stay short and every evacuation iteration meets
`should_do_checkpoint`, with the `BG_GC` option off. -/
def blocking_collab : Collab := { idle_collab true true with test_opt_BG_GC := fun _ => false }

/-- On the one-section device a foreground call blocks in its victim's first segment, and a tick
runs such a call from `f2fs_balance_fs`: the evacuator opens the handshake, the blocked
checkpoint closes it, and both end with no lock held. -/
theorem blocked_runs_keep_lock_discipline :
    (∃ r, f2fs_gc one_sec_config ⟨1018, 1018, 923⟩ (idle_collab true true) 0 10 one_sec_state
        [] = some r ∧ ∃ E, r.2.2.trace = [] ++ E ∧ replay lock_step .gc E = some .free) ∧
    (∃ r, gc_thread_tick one_sec_config ⟨1018, 1018, 923⟩ stepped_sleep blocking_collab 10 10000
        one_sec_state ⟨[], []⟩ = some r ∧
      ∃ E, r.2.2.2.trace = [] ++ E ∧ replay lock_step .free E = some .free) := by
  obtain ⟨r, hr⟩ := Option.isSome_iff_exists.mp (by decide :
    (f2fs_gc one_sec_config ⟨1018, 1018, 923⟩ (idle_collab true true) 0 10 one_sec_state
      []).isSome)
  obtain ⟨t, ht⟩ := Option.isSome_iff_exists.mp (by decide :
    (gc_thread_tick one_sec_config ⟨1018, 1018, 923⟩ stepped_sleep blocking_collab 10 10000
      one_sec_state ⟨[], []⟩).isSome)
  exact ⟨⟨r, hr, gc_lock_discipline.1 _ _ _ _ _ _ _ _ hr⟩,
    ⟨t, ht, gc_lock_discipline.2 _ _ _ _ _ _ _ _ _ ht⟩⟩

end f2fs.gc
