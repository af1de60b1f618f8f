import F2fsGc.Gc.Evacuate

open f2fs.segment

namespace f2fs.gc

/-- Turns to give the victim scan: two passes over every segment, and a rewind. -/
def scan_fuel (g : Geometry) : Nat := 2 * g.TOTAL_SEGS + 4

/-- `__get_victim`: the victim selector under `sentry_lock`, for a cleaning request. Other
threads may change the selection state `vs` before the locks are taken. -/
def __get_victim (cfg : GcConfig) (O : Collab) (gc_type : GcType) (vs : VictimState)
    (s : GcState) : Option (Option Nat × VictimState × GcState) :=
  let vs := O.env s.clock vs
  let s := (s.emit .top (.lock .sentry_lock)).emit .top (.lock .seglist_lock)
  match get_victim_by_default cfg (scan_fuel cfg.g) vs gc_type .NO_CHECK_TYPE with
  | none => none
  | some (r, vs) =>
    some (r, vs, ((s.emit .top (.get_victim gc_type r)).emit .top (.unlock .seglist_lock)).emit
      .top (.unlock .sentry_lock))

/-- `do_garbage_collect`: evacuate one segment with the evacuator its summary names. -/
def do_garbage_collect (O : Collab) (l : NodeLayout) (g : Geometry) (segno : Nat)
    (gc_type : GcType) (s : GcState) : GcStatus × GcState :=
  let sum_page := O.get_sum_page s.clock segno
  let s := s.emit .top (.get_page (.sum segno) sum_page.isSome)
  match sum_page with
  | none => (.GC_ERROR, s.emit .top (.gc_result .GC_ERROR))
  | some sum =>
    let (ret, s) :=
      match sum.sum_type with
      | .SUM_TYPE_NODE => gc_node_segment O g sum segno gc_type s
      | .SUM_TYPE_DATA => gc_data_segment O l g sum segno gc_type s
    (ret, (s.emit .top (.put_page (.sum segno))).emit .top (.gc_result ret))

/-- Modelled from the spec: `write_checkpoint(sbi, is_blocked, false)` (checkpoint.c is not
part of this source). Unless the caller already holds `cp_mutex` with operations blocked, it
takes the mutex and blocks operations; it writes the checkpoint and releases the mutex. -/
def write_checkpoint (blocked : Bool) (s : GcState) : GcState :=
  let s := if blocked then s else (s.emit .top (.lock .cp_mutex)).emit .top .block_operations
  (s.emit .top (.write_checkpoint blocked)).emit .top (.unlock .cp_mutex)

/-- An `unsigned int` read into an `int`. -/
def to_int (x : Nat) : Int := if x % 2 ^ 32 < 2 ^ 31 then x % 2 ^ 32 else x % 2 ^ 32 - 2 ^ 32

/-- The `for (i = 0; i < segs_per_sec; i++)` loop of `f2fs_gc` over the segments of the victim
section: `(true, status, nfree, s)` when a segment ends with another status than `GC_DONE`
(`goto stop`). -/
def gc_section (O : Collab) (l : NodeLayout) (g : Geometry) (gc_type : GcType) (segno : Nat) :
    List Nat → GcStatus → Nat → GcState → Bool × GcStatus × Nat × GcState
  | [], status, nfree, s => (false, status, nfree, s)
  | i :: is, _, nfree, s =>
    let (status, s) := do_garbage_collect O l g (segno + i) gc_type s
    if status ≠ .GC_DONE then (true, status, nfree, s)
    else gc_section O l g gc_type segno is status (nfree + 1) s

/-- The head of an iteration of the `while (sbi->sb->s_flags & MS_ACTIVE)` loop of `f2fs_gc`:
the loop test, the switch to foreground GC when free sections are short, and the success test;
`true` leaves the loop. -/
def gc_loop_head (O : Collab) (nGC old_free_secs : Int) (nfree : Nat) (gc_type : GcType)
    (s : GcState) : Bool × GcType × GcState :=
  let active := O.MS_ACTIVE s.clock
  let s := s.emit .top (.MS_ACTIVE active)
  if !active then (true, gc_type, s)
  else
  let short := O.has_not_enough_free_secs s.clock
  let s := s.emit .top (.has_not_enough_free_secs short)
  let gc_type := if short then .FG_GC else gc_type
  let free := O.free_sections s.clock
  let s := s.emit .top (.free_sections free)
  let cur_free_secs := to_int (free + nfree)
  let s := s.emit .top (.success_test nfree cur_free_secs old_free_secs)
  (decide (nGC < wrap_s32 (cur_free_secs - old_free_secs)), gc_type, s)

/-- The selection loop of `f2fs_gc`, from the top of an iteration, with the state it reaches
`stop:` in; `none` when `fuel` runs out. -/
def gc_loop (cfg : GcConfig) (l : NodeLayout) (O : Collab) (nGC old_free_secs : Int) :
    Nat → GcType → GcStatus → Nat → VictimState → GcState →
      Option (GcStatus × Nat × GcType × VictimState × GcState)
  | 0, _, _, _, _, _ => none
  | fuel + 1, gc_type, gc_status, nfree, vs, s =>
    match gc_loop_head O nGC old_free_secs nfree gc_type s with
    | (true, gc_type, s) => some (gc_status, nfree, gc_type, vs, s)
    | (false, gc_type, s) =>
      match __get_victim cfg O gc_type vs s with
      | none => none
      | some (none, vs, s) => some (gc_status, nfree, gc_type, vs, s)
      | some (some segno, vs, s) =>
        match gc_section O l cfg.g gc_type segno (List.range cfg.g.segs_per_sec) gc_status nfree
            s with
        | (true, gc_status, nfree, s) => some (gc_status, nfree, gc_type, vs, s)
        | (false, gc_status, nfree, s) =>
          gc_loop cfg l O nGC old_free_secs fuel gc_type gc_status nfree vs s

/-- The end of `f2fs_gc`: release `gc_mutex` and the pinned inodes, and return. -/
def gc_finish (gc_status : GcStatus) (s : GcState) : GcStatus × GcState :=
  (gc_status, (put_gc_inode (s.emit .top (.unlock .gc_mutex))).emit .top (.gc_return gc_status))

/-- The head of `gc_more`: `old_free_secs` is the number of reserved sections when free
sections are short, of free sections otherwise. -/
def gc_more_head (O : Collab) (s : GcState) : Int × GcState :=
  let short := O.has_not_enough_free_secs s.clock
  let s := s.emit .top (.has_not_enough_free_secs short)
  if short then
    let r := O.reserved_sections s.clock
    (to_int r, s.emit .top (.reserved_sections r))
  else
    let f := O.free_sections s.clock
    (to_int f, s.emit .top (.free_sections f))

/-- `f2fs_gc` from the label `gc_more`; `none` when `fuel` runs out. -/
def gc_more (cfg : GcConfig) (l : NodeLayout) (O : Collab) (nGC : Int) :
    Nat → GcType → VictimState → GcState → Option (GcStatus × VictimState × GcState)
  | 0, _, _, _ => none
  | fuel + 1, gc_type, vs, s =>
    let (old_free_secs, s) := gc_more_head O s
    match gc_loop cfg l O nGC old_free_secs fuel gc_type .GC_NONE 0 vs s with
    | none => none
    | some (gc_status, nfree, gc_type, vs, s) =>
      let short := O.has_not_enough_free_secs s.clock
      let s := s.emit .top (.has_not_enough_free_secs short)
      if short ∨ gc_status = .GC_BLOCKED then
        let s := write_checkpoint (gc_status = .GC_BLOCKED) s
        if nfree ≠ 0 then gc_more cfg l O nGC fuel gc_type vs s
        else
          let (st, s) := gc_finish gc_status s
          some (st, vs, s)
      else
        let (st, s) := gc_finish gc_status s
        some (st, vs, s)

section Emits

variable {cfg : GcConfig} {l : NodeLayout} {O : Collab} {nGC old : Int}

theorem write_checkpoint_eq (blocked : Bool) (s : GcState) :
    write_checkpoint blocked s = s.emits .top
      ((if blocked then [] else [.lock .cp_mutex, .block_operations]) ++
        [.write_checkpoint blocked, .unlock .cp_mutex]) := by
  cases blocked <;> simp [write_checkpoint, GcState.emit_eq_emits]

/-- The calls `put_gc_inode` makes for the pinned inodes `inos`. -/
def iput_acts (inos : List Nat) : List Act := inos.flatMap fun ino => [.iput ino, .ilist_del ino]

theorem put_gc_inode_eq (s : GcState) :
    put_gc_inode s = { s.emits .top (iput_acts s.ilist) with ilist := [] } := by
  have key : ∀ (inos : List Nat) (s : GcState), inos.foldl
      (fun s ino => (s.emit .top (.iput ino)).emit .top (.ilist_del ino)) s =
        s.emits .top (iput_acts inos) := by
    intro inos
    induction inos with
    | nil => simp [iput_acts]
    | cons ino inos ih =>
      intro s
      rw [List.foldl_cons, ih]
      simp [iput_acts, GcState.emit_eq_emits]
  simp only [put_gc_inode, key]

theorem gc_finish_eq (st : GcStatus) (s : GcState) :
    gc_finish st s = (st, { s.emits .top ([.unlock .gc_mutex] ++ iput_acts s.ilist ++
      [.gc_return st]) with ilist := [] }) := by
  simp [gc_finish, put_gc_inode_eq, GcState.emit_eq_emits, GcState.emits]

theorem __get_victim_eq (gc_type : GcType) (vs : VictimState) (s : GcState) :
    __get_victim cfg O gc_type vs s =
      (get_victim_by_default cfg (scan_fuel cfg.g) (O.env s.clock vs) gc_type .NO_CHECK_TYPE).map
        fun r => (r.1, r.2, s.emits .top [.lock .sentry_lock, .lock .seglist_lock,
          .get_victim gc_type r.1, .unlock .seglist_lock, .unlock .sentry_lock]) := by
  simp only [__get_victim]
  split <;> rename_i h <;> simp [h, GcState.emit_eq_emits]

theorem do_garbage_collect_eq (g : Geometry) (segno : Nat) (gc_type : GcType) (s : GcState) :
    do_garbage_collect O l g segno gc_type s =
      match O.get_sum_page s.clock segno with
      | none => (.GC_ERROR, s.emits .top [.get_page (.sum segno) false, .gc_result .GC_ERROR])
      | some sum =>
        let s1 := s.emits .top [.get_page (.sum segno) true]
        let r := match sum.sum_type with
          | .SUM_TYPE_NODE => gc_node_segment O g sum segno gc_type s1
          | .SUM_TYPE_DATA => gc_data_segment O l g sum segno gc_type s1
        (r.1, r.2.emits .top [.put_page (.sum segno), .gc_result r.1]) := by
  simp only [do_garbage_collect, GcState.emit_eq_emits, GcState.emits_emits]
  cases O.get_sum_page s.clock segno with
  | none => rfl
  | some sum => cases sum.sum_type <;> rfl

/-- Everything the head of an iteration of the selection loop can do. -/
theorem gc_loop_head_cases (nfree : Nat) (gc_type : GcType) (s : GcState) :
    (O.MS_ACTIVE s.clock = false ∧
      gc_loop_head O nGC old nfree gc_type s = (true, gc_type, s.emits .top [.MS_ACTIVE false])) ∨
    (O.MS_ACTIVE s.clock = true ∧ ∃ short free,
      gc_loop_head O nGC old nfree gc_type s =
        (decide (nGC < wrap_s32 (to_int (free + nfree) - old)), if short then .FG_GC else gc_type,
          s.emits .top [.MS_ACTIVE true, .has_not_enough_free_secs short, .free_sections free,
            .success_test nfree (to_int (free + nfree)) old])) := by
  simp only [gc_loop_head, GcState.emit_eq_emits, GcState.emits_emits]
  cases O.MS_ACTIVE s.clock
  · exact .inl ⟨rfl, rfl⟩
  · exact .inr ⟨rfl, _, _, rfl⟩

theorem gc_more_head_cases (s : GcState) :
    ∃ short n, gc_more_head O s = (to_int n, s.emits .top [.has_not_enough_free_secs short,
      if short then .reserved_sections n else .free_sections n]) := by
  simp only [gc_more_head, GcState.emit_eq_emits, GcState.emits_emits]
  cases O.has_not_enough_free_secs s.clock
  · exact ⟨false, _, rfl⟩
  · exact ⟨true, _, rfl⟩

/-- Everything an iteration of the selection loop can do: leave at its head, find no victim,
leave after a victim's segment ends with another status than `GC_DONE`, or go on. -/
theorem gc_loop_cases {fuel : Nat} {gc_type : GcType} {gc_status : GcStatus} {nfree : Nat}
    {vs : VictimState} {s : GcState} {r : GcStatus × Nat × GcType × VictimState × GcState}
    (h : gc_loop cfg l O nGC old fuel gc_type gc_status nfree vs s = some r) :
    ∃ fuel', fuel = fuel' + 1 ∧ ∃ brk gc_type' s1,
      gc_loop_head O nGC old nfree gc_type s = (brk, gc_type', s1) ∧
      ((brk = true ∧ r = (gc_status, nfree, gc_type', vs, s1)) ∨
       (brk = false ∧ ∃ res vs' s2, __get_victim cfg O gc_type' vs s1 = some (res, vs', s2) ∧
        ((res = none ∧ r = (gc_status, nfree, gc_type', vs', s2)) ∨
         ∃ segno, res = some segno ∧ ∃ stop st nf s3,
          gc_section O l cfg.g gc_type' segno (List.range cfg.g.segs_per_sec) gc_status nfree s2 =
            (stop, st, nf, s3) ∧
          ((stop = true ∧ r = (st, nf, gc_type', vs', s3)) ∨
           (stop = false ∧ gc_loop cfg l O nGC old fuel' gc_type' st nf vs' s3 = some r))))) := by
  cases fuel with
  | zero => simp [gc_loop] at h
  | succ fuel =>
    refine ⟨fuel, rfl, ?_⟩
    simp only [gc_loop] at h
    rcases hh : gc_loop_head O nGC old nfree gc_type s with ⟨brk, gc_type', s1⟩
    rw [hh] at h
    refine ⟨brk, gc_type', s1, rfl, ?_⟩
    cases brk with
    | true => exact .inl ⟨rfl, (Option.some.inj h).symm⟩
    | false =>
      dsimp only at h
      refine .inr ⟨rfl, ?_⟩
      rcases hv : __get_victim cfg O gc_type' vs s1 with _ | ⟨res, vs', s2⟩
      · simp [hv] at h
      rw [hv] at h
      refine ⟨res, vs', s2, rfl, ?_⟩
      cases res with
      | none => exact .inl ⟨rfl, (Option.some.inj h).symm⟩
      | some segno =>
        dsimp only at h
        refine .inr ⟨segno, rfl, ?_⟩
        rcases hs : gc_section O l cfg.g gc_type' segno (List.range cfg.g.segs_per_sec) gc_status
          nfree s2 with ⟨stop, st, nf, s3⟩
        rw [hs] at h
        refine ⟨stop, st, nf, s3, rfl, ?_⟩
        cases stop with
        | true => exact .inl ⟨rfl, (Option.some.inj h).symm⟩
        | false => exact .inr ⟨rfl, h⟩

/-- Everything a pass of `f2fs_gc` from `gc_more` can do: go back to `gc_more` after a
checkpoint, or return. -/
theorem gc_more_cases {fuel : Nat} {gc_type : GcType} {vs : VictimState} {s : GcState}
    {r : GcStatus × VictimState × GcState} (h : gc_more cfg l O nGC fuel gc_type vs s = some r) :
    ∃ fuel', fuel = fuel' + 1 ∧ ∃ old s1, gc_more_head O s = (old, s1) ∧
      ∃ st nfree gc_type' vs' s2,
        gc_loop cfg l O nGC old fuel' gc_type .GC_NONE 0 vs s1 = some (st, nfree, gc_type', vs', s2) ∧
        let short := O.has_not_enough_free_secs s2.clock
        let s3 := s2.emit .top (.has_not_enough_free_secs short)
        ((short = true ∨ st = .GC_BLOCKED) ∧ nfree ≠ 0 ∧
          gc_more cfg l O nGC fuel' gc_type' vs' (write_checkpoint (st = .GC_BLOCKED) s3) = some r) ∨
        ((short = true ∨ st = .GC_BLOCKED) ∧ nfree = 0 ∧
          r = (st, vs', (gc_finish st (write_checkpoint (st = .GC_BLOCKED) s3)).2)) ∨
        (¬(short = true ∨ st = .GC_BLOCKED) ∧ r = (st, vs', (gc_finish st s3).2)) := by
  cases fuel with
  | zero => simp [gc_more] at h
  | succ fuel =>
    refine ⟨fuel, rfl, ?_⟩
    simp only [gc_more] at h
    rcases hh : gc_more_head O s with ⟨old, s1⟩
    rw [hh] at h
    dsimp only at h
    refine ⟨old, s1, rfl, ?_⟩
    rcases hl : gc_loop cfg l O nGC old fuel gc_type .GC_NONE 0 vs s1 with
      _ | ⟨st, nfree, gc_type', vs', s2⟩
    · simp [hl] at h
    rw [hl] at h
    refine ⟨st, nfree, gc_type', vs', s2, rfl, ?_⟩
    dsimp only at h ⊢
    split_ifs at h with hc hn
    · exact .inl ⟨hc, hn, h⟩
    · exact .inr (.inl ⟨hc, not_not.mp hn, (Option.some.inj h).symm⟩)
    · exact .inr (.inr ⟨hc, (Option.some.inj h).symm⟩)

end Emits

/-- `f2fs_gc(sbi, nGC)`, called with `gc_mutex` held, after the events `trace`; it releases
the mutex. `ilist` is its own list, empty at the start. -/
def f2fs_gc (cfg : GcConfig) (l : NodeLayout) (O : Collab) (nGC : Int) (fuel : Nat)
    (vs : VictimState) (trace : List Ev) : Option (GcStatus × VictimState × GcState) :=
  gc_more cfg l O nGC fuel .BG_GC vs ⟨trace, []⟩

/-- One section of two segments of one block each. -/
def one_sec_geometry : Geometry where
  log_blocks_per_seg := 0
  log_segs_per_sec := 1
  total_sections := 1
  total_segs_lt := by decide
  START_BLOCK := fun segno => segno

def one_sec_config : GcConfig := ⟨one_sec_geometry, 20⟩

/-- Both segments dirty, no valid block, nothing claimed, no current section. -/
def one_sec_state : VictimState where
  dirty_segmap := fun t segno => decide (t = .DIRTY ∧ segno < 2)
  victim_segmap := fun _ _ => false
  cursec := fun _ => false
  sit :=
    { mtime := fun _ => 0
      valid_blocks := fun _ => 0
      ckpt_valid_blocks := fun _ => 0
      min_mtime := 0
      max_mtime := 100 }
  last_victim := fun _ => 0

/-- Collaborators of a device without valid blocks: every summary is a node summary, every
block invalid, no section free or reserved, the file system mounted and no other thread
running; `should_do_checkpoint` answers `cp` and `has_not_enough_free_secs` answers `short`. -/
def idle_collab (cp short : Bool) : Collab where
  should_do_checkpoint := fun _ => cp
  f2fs_test_bit := fun _ _ _ => false
  get_node_page := fun _ _ => false
  get_node_info := fun _ _ => ⟨0, 0⟩
  ofs_of_node := fun _ _ => 0
  datablock_addr := fun _ _ _ => 0
  PageWriteback := fun _ _ => false
  f2fs_iget_nowait := fun _ _ => false
  find_data_page := fun _ _ _ => false
  get_lock_data_page := fun _ _ _ => false
  page_mapped := fun _ _ _ => false
  clear_page_dirty_for_io := fun _ _ _ => false
  S_ISDIR := fun _ _ => false
  get_sum_page := fun _ _ => some ⟨fun _ => ⟨0, 0, 0⟩, .SUM_TYPE_NODE⟩
  has_not_enough_free_secs := fun _ => short
  free_sections := fun _ => 0
  reserved_sections := fun _ => 0
  MS_ACTIVE := fun _ => true
  env := fun _ vs => vs
  try_to_freeze := fun _ => false
  kthread_should_stop := fun _ => false
  test_opt_BG_GC := fun _ => true
  mutex_trylock := fun _ => true
  is_idle := fun _ => true
  has_enough_invalid_blocks := fun _ => true

/-- With two segments per section `nfree` counts segments: `f2fs_gc(sbi, 1)` selects the
section, evacuates both its segments, and its next success test sees `nfree = 2` for one
evacuated section and stops. -/
theorem nfree_counts_segments :
    (f2fs_gc one_sec_config ⟨1018, 1018, 923⟩ (idle_collab false false) 1 10 one_sec_state
      []).map (fun r => (r.2.2.trace.filterMap Ev.victim?, r.2.2.trace.filterMap Ev.success_test?)) =
      some ([some 0], [(0, 0, 0), (2, 2, 0)]) := by
  decide

/-- A foreground call that meets `should_do_checkpoint` in its victim returns `GC_BLOCKED` with
the victim's claim standing: the section is dirty and holds no current segment, yet both its
bits stay set in `victim_segmap[FG_GC]`. -/
theorem blocked_victim_keeps_claim :
    (f2fs_gc one_sec_config ⟨1018, 1018, 923⟩ (idle_collab true true) 0 10 one_sec_state
      []).map (fun r => (r.1, r.2.2.trace.filterMap Ev.victim?, r.2.1.victim_segmap .FG_GC 0,
        r.2.1.victim_segmap .FG_GC 1, r.2.1.dirty_segmap .DIRTY 0, r.2.1.cursec 0)) =
      some (.GC_BLOCKED, [some 0], true, true, true, false) := by
  decide

end f2fs.gc
