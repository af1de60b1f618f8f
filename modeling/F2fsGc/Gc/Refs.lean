import F2fsGc.Gc.Collect

open f2fs.segment

namespace f2fs.gc

/-- `f` with one more at `a`. -/
def inc {α : Type} [DecidableEq α] (f : α → Nat) (a : α) : α → Nat :=
  fun x => if x = a then f x + 1 else f x

/-- `f` with one less at `a`. -/
def dec {α : Type} [DecidableEq α] (f : α → Nat) (a : α) : α → Nat :=
  fun x => if x = a then f x - 1 else f x

@[simp] theorem inc_apply_self {α : Type} [DecidableEq α] (f : α → Nat) (a : α) :
    inc f a a = f a + 1 := by
  simp [inc]

@[simp] theorem dec_inc {α : Type} [DecidableEq α] (f : α → Nat) (a : α) : dec (inc f a) a = f := by
  funext x
  by_cases h : x = a <;> simp [inc, dec, h]

/-- Who owns the references GC holds. -/
structure RefLedger where
  /-- Inode references the current iteration took and still owns, by inode. -/
  inodes : Nat → Nat
  /-- The inodes whose `ilist` entry owns a reference, in list order. -/
  entries : List Nat
  /-- Entries whose reference `put_gc_inode` dropped and that it has not deleted yet. -/
  released : List Nat
  /-- Page references held. -/
  pages : Page → Nat

/-- The ledger between two iterations, with the page references `pages` held. -/
def RefLedger.at (pages : Page → Nat) (s : GcState) : RefLedger :=
  ⟨fun _ => 0, s.ilist, [], pages⟩

/-- No reference held. -/
def RefLedger.empty : RefLedger := ⟨fun _ => 0, [], [], fun _ => 0⟩

/-- The ledger at the top level of `f2fs_gc`, where no page is held. -/
def RefLedger.idle (s : GcState) : RefLedger := RefLedger.at (fun _ => 0) s

/-- The ownership discipline of references, one event at a time. An inode reference
(`f2fs_iget_nowait`) belongs to the iteration that took it until the iteration drops it with
`iput` or hands it to a new `ilist` entry (`add_gc_inode`); each entry owns one reference until
`put_gc_inode` drops it with `iput` at the top level; a page reference is held from a successful
`get_page` to its `put_page`. The monitor fails on a drop of a reference nobody holds and on a
second entry for an inode. -/
def ref_step (m : RefLedger) (e : Ev) : Option RefLedger :=
  match e.act with
  | .iget ino true => some { m with inodes := inc m.inodes ino }
  | .iput ino =>
    if e.site = .top then
      if ino ∈ m.entries then
        some { m with entries := m.entries.erase ino, released := ino :: m.released }
      else none
    else if 0 < m.inodes ino then some { m with inodes := dec m.inodes ino } else none
  | .ilist_add ino =>
    if 0 < m.inodes ino ∧ ino ∉ m.entries then
      some { m with inodes := dec m.inodes ino, entries := m.entries ++ [ino] }
    else none
  | .ilist_del ino =>
    if ino ∈ m.released then some { m with released := m.released.erase ino } else none
  | .get_page pg true => some { m with pages := inc m.pages pg }
  | .put_page pg => if 0 < m.pages pg then some { m with pages := dec m.pages pg } else none
  | _ => some m

@[simp] theorem RefLedger.at_emit (p : Page → Nat) (s : GcState) (site : Site) (a : Act) :
    RefLedger.at p (s.emit site a) = RefLedger.at p s := rfl

@[simp] theorem RefLedger.at_emits (p : Page → Nat) (s : GcState) (site : Site)
    (acts : List Act) : RefLedger.at p (s.emits site acts) = RefLedger.at p s := rfl

@[simp] theorem RefLedger.idle_emits (s : GcState) (site : Site) (acts : List Act) :
    RefLedger.idle (s.emits site acts) = RefLedger.idle s := rfl

theorem ref_step_writeback (m : RefLedger) (site : Site) {a : Act} (h : a.writeback) :
    ref_step m ⟨site, a⟩ = some m := by
  cases a <;> first | rfl | exact absurd h Bool.false_ne_true

theorem replay_ref_writeback (m : RefLedger) (site : Site) {acts : List Act}
    (h : ∀ a ∈ acts, a.writeback) : replay ref_step m (acts.map (Ev.mk site)) = some m := by
  induction acts with
  | nil => rfl
  | cons a acts ih =>
    simp only [List.map_cons, replay_cons, ref_step_writeback m site (h a (.head _)),
      Option.some_bind]
    exact ih fun b hb => h b (.tail _ hb)

/-- The three ways `check_dnode` can reject a block each release the dnode they read. -/
theorem DnodeStale.replay_ref {nid blkaddr : Nat} {D : List Act} (h : DnodeStale nid blkaddr D)
    (m : RefLedger) (site : Site) : replay ref_step m (D.map (Ev.mk site)) = some m := by
  rcases h with rfl | ⟨_, rfl⟩ | ⟨_, _, _, _, rfl⟩ <;> simp [ref_step, dnode_reads]

section Evacuation

variable {O : Collab} {p : Page → Nat}

/-- An iteration of `gc_node_segment` releases the node page it takes. -/
theorem gc_node_entry_refs (sum : SummaryBlock) (segno : Nat) (initial : Bool) (off : Nat)
    (s : GcState) : Steps ref_step s (gc_node_entry O sum segno initial off s).state
      (RefLedger.at p s) (RefLedger.at p (gc_node_entry O sum segno initial off s).state) := by
  rcases gc_node_entry_cases (O := O) (s := s) sum segno initial off with
    h | h | ⟨-, h⟩ | ⟨-, h⟩ | ⟨-, wb, h⟩ <;> rw [h] <;> refine .emits ?_
  · simp [ref_step, blocked_acts]
  · simp [ref_step, valid_reads]
  · simp [ref_step, valid_reads]
  · simp [ref_step, valid_reads]
  · cases wb <;> simp [ref_step, valid_reads, RefLedger.at]

/-- Pinning an inode: its reference is dropped, or handed to a new `ilist` entry. -/
theorem pin_data_inode_refs {site : Site} (hsite : site ≠ .top) (ino bidx : Nat) (s : GcState) :
    Steps ref_step s (pin_data_inode O site ino bidx s) (RefLedger.at p s)
      (RefLedger.at p (pin_data_inode O site ino bidx s)) := by
  rcases @pin_data_inode_cases O site s ino bidx with h | h | h <;> rw [h]
  · exact .emits (by simp [ref_step])
  · exact .emits (by simp [ref_step, hsite, RefLedger.at])
  · rcases @add_gc_inode_cases site
      (s.emits site [.iget ino true, .get_page (.data ino bidx) true, .put_page (.data ino bidx)])
      ino with ⟨-, h'⟩ | ⟨hin, h'⟩ <;> rw [h']
    · rw [GcState.emits_emits]
      exact .emits (by simp [ref_step, hsite, RefLedger.at])
    · simp only [GcState.emits_ilist] at hin
      refine ⟨[.iget ino true, .get_page (.data ino bidx) true, .put_page (.data ino bidx),
        .ilist_add ino].map (Ev.mk site), by simp, ?_⟩
      simp [ref_step, hin, RefLedger.at]

/-- Moving a page releases it. -/
theorem move_pinned_page_refs (site : Site) (ino bidx : Nat) (gc_type : GcType) (s : GcState) :
    Steps ref_step s (move_pinned_page O site ino bidx gc_type s) (RefLedger.at p s)
      (RefLedger.at p (move_pinned_page O site ino bidx gc_type s)) := by
  rcases @move_pinned_page_cases O site s ino bidx gc_type with ⟨-, h⟩ | ⟨-, h⟩ | ⟨-, h⟩ <;>
    rw [h]
  · exact .emits (by simp [ref_step])
  · exact .emits (by simp [ref_step])
  · obtain ⟨acts, hacts, hmv⟩ := @move_data_page_cases O site
      (s.emits site [.find_gc_inode ino true, .get_page (.data ino bidx) true]) ino bidx gc_type
    rw [hmv, GcState.emits_emits]
    refine .emits ?_
    simp [replay_append, ref_step, replay_ref_writeback _ site hacts, RefLedger.at]

/-- An iteration of `gc_data_segment` releases every page it takes, and hands every inode
reference it keeps to a new `ilist` entry. -/
theorem gc_data_entry_refs (l : NodeLayout) (g : Geometry) (sum : SummaryBlock) (segno : Nat)
    (gc_type : GcType) (phase off : Nat) (s : GcState) :
    Steps ref_step s (gc_data_entry O l g sum segno gc_type phase off s).state (RefLedger.at p s)
      (RefLedger.at p (gc_data_entry O l g sum segno gc_type phase off s).state) := by
  have hsite : Site.entry segno phase off ≠ .top := Site.noConfusion
  rcases gc_data_entry_cases (O := O) (s := s) l g sum segno gc_type phase off with
    h | h | ⟨-, h⟩ | ⟨-, D, hD, h⟩ | ⟨-, dni, nofs, -, ⟨-, h⟩ | ⟨-, h⟩ | ⟨-, -, h⟩⟩ <;>
    rw [h] <;> simp only [Flow.state_next, Flow.state_stop]
  · exact .emits (by simp [ref_step, blocked_acts])
  · exact .emits (by simp [ref_step, valid_reads])
  · exact .emits (by simp [ref_step, valid_reads])
  · exact .emits (by simp [replay_append, ref_step, valid_reads, hD.replay_ref])
  · exact .emits (by simp [ref_step, valid_reads, dnode_reads, RefLedger.at])
  · exact (Steps.emits (by simp [ref_step, valid_reads, dnode_reads, RefLedger.at])).trans
      (pin_data_inode_refs hsite _ _ _)
  · exact (Steps.emits (by simp [ref_step, valid_reads, dnode_reads, RefLedger.at])).trans
      (move_pinned_page_refs _ _ _ _ _)

theorem gc_node_segment_refs (g : Geometry) (sum : SummaryBlock) (segno : Nat)
    (gc_type : GcType) (s : GcState) :
    Steps ref_step s (gc_node_segment O g sum segno gc_type s).2 (RefLedger.at p s)
      (RefLedger.at p (gc_node_segment O g sum segno gc_type s).2) := by
  have hloop := @for_each_steps _ _ _ (RefLedger.at p)
    (fun initial => for_each (gc_node_entry O sum segno initial) (List.range g.blocks_per_seg))
    [true, false] (fun initial _ s1 => for_each_steps (List.range g.blocks_per_seg)
      (fun off _ s2 => gc_node_entry_refs (O := O) sum segno initial off s2) s1) s
  rw [gc_node_segment_eq]
  generalize for_each _ _ s = f at hloop ⊢
  cases f with
  | stop => exact hloop
  | next =>
    dsimp only
    split_ifs
    · exact hloop.trans (.emit (by simp [ref_step]))
    · exact hloop

theorem gc_data_segment_refs (l : NodeLayout) (g : Geometry) (sum : SummaryBlock) (segno : Nat)
    (gc_type : GcType) (s : GcState) :
    Steps ref_step s (gc_data_segment O l g sum segno gc_type s).2 (RefLedger.at p s)
      (RefLedger.at p (gc_data_segment O l g sum segno gc_type s).2) := by
  have hloop := @for_each_steps _ _ _ (RefLedger.at p)
    (fun phase => for_each (gc_data_entry O l g sum segno gc_type phase)
      (List.range g.blocks_per_seg)) (List.range 4) (fun phase _ s1 => for_each_steps
        (List.range g.blocks_per_seg) (fun off _ s2 =>
          gc_data_entry_refs (O := O) l g sum segno gc_type phase off s2) s1) s
  rw [gc_data_segment_eq]
  dsimp only
  split_ifs
  · exact hloop.trans (.emit (by simp [ref_step]))
  · exact hloop

/-- A segment's evacuation releases its summary page and everything its evacuator took. -/
theorem do_garbage_collect_refs (l : NodeLayout) (g : Geometry) (segno : Nat) (gc_type : GcType)
    (s : GcState) :
    Steps ref_step s (do_garbage_collect O l g segno gc_type s).2 (RefLedger.at p s)
      (RefLedger.at p (do_garbage_collect O l g segno gc_type s).2) := by
  rw [do_garbage_collect_eq]
  cases O.get_sum_page s.clock segno with
  | none => exact .emits (by simp [ref_step])
  | some sum =>
    dsimp only
    have hev : ∀ r : GcStatus × GcState,
        Steps ref_step (s.emits .top [.get_page (.sum segno) true]) r.2
          (RefLedger.at (inc p (.sum segno)) s) (RefLedger.at (inc p (.sum segno)) r.2) →
        Steps ref_step s (r.2.emits .top [.put_page (.sum segno), .gc_result r.1])
          (RefLedger.at p s) (RefLedger.at p r.2) := fun r hr =>
      (Steps.emits (by simp [ref_step, RefLedger.at])).trans
        (hr.trans (.emits (by simp [ref_step, RefLedger.at])))
    cases sum.sum_type
    · exact hev _ (gc_node_segment_refs g sum segno gc_type _)
    · exact hev _ (gc_data_segment_refs l g sum segno gc_type _)

theorem gc_section_refs (l : NodeLayout) (g : Geometry) (gc_type : GcType) (segno : Nat) :
    ∀ (is : List Nat) (status : GcStatus) (nfree : Nat) (s : GcState),
      Steps ref_step s (gc_section O l g gc_type segno is status nfree s).2.2.2 (RefLedger.at p s)
        (RefLedger.at p (gc_section O l g gc_type segno is status nfree s).2.2.2)
  | [], _, _, s => .refl _ _
  | i :: is, _, nfree, s => by
    have h1 := do_garbage_collect_refs (O := O) (p := p) l g (segno + i) gc_type s
    simp only [gc_section]
    generalize do_garbage_collect O l g (segno + i) gc_type s = r at h1 ⊢
    split_ifs
    · exact h1
    · exact h1.trans (gc_section_refs l g gc_type segno is _ _ _)

end Evacuation

section Collect

variable {cfg : GcConfig} {l : NodeLayout} {O : Collab} {nGC old : Int}

theorem replay_iput_acts (p : Page → Nat) : ∀ inos : List Nat,
    replay ref_step ⟨fun _ => 0, inos, [], p⟩ ((iput_acts inos).map (Ev.mk .top)) =
      some ⟨fun _ => 0, [], [], p⟩
  | [] => rfl
  | ino :: inos => by
    simpa [iput_acts, ref_step] using replay_iput_acts p inos

/-- The end of `f2fs_gc` drops the reference of every entry and empties `ilist`. -/
theorem gc_finish_refs (st : GcStatus) (s : GcState) :
    Steps ref_step s (gc_finish st s).2 (RefLedger.idle s) RefLedger.empty ∧
      (gc_finish st s).2.ilist = [] := by
  rw [gc_finish_eq]
  refine ⟨⟨_, rfl, ?_⟩, rfl⟩
  simp only [List.map_append, replay_append, List.map_cons, List.map_nil, replay_cons,
    replay_nil]
  simp [ref_step, RefLedger.idle, RefLedger.at, replay_iput_acts, RefLedger.empty]

theorem __get_victim_refs {gc_type : GcType} {vs vs' : VictimState} {s s' : GcState}
    {r : Option Nat} (h : __get_victim cfg O gc_type vs s = some (r, vs', s')) :
    Steps ref_step s s' (RefLedger.idle s) (RefLedger.idle s') := by
  rw [__get_victim_eq] at h
  obtain ⟨_, -, h⟩ := Option.map_eq_some'.mp h
  cases h
  exact .emits (by simp [ref_step])

theorem gc_loop_head_refs (nfree : Nat) (gc_type : GcType) (s : GcState) :
    Steps ref_step s (gc_loop_head O nGC old nfree gc_type s).2.2 (RefLedger.idle s)
      (RefLedger.idle (gc_loop_head O nGC old nfree gc_type s).2.2) := by
  rcases @gc_loop_head_cases O nGC old nfree gc_type s with
    ⟨-, h⟩ | ⟨-, _, _, h⟩ <;> rw [h] <;> exact .emits (by simp [ref_step])

/-- The selection loop leaves the ledger as it found it. -/
theorem gc_loop_refs : ∀ {fuel : Nat} {gc_type : GcType} {gc_status : GcStatus} {nfree : Nat}
    {vs : VictimState} {s : GcState} {r : GcStatus × Nat × GcType × VictimState × GcState},
    gc_loop cfg l O nGC old fuel gc_type gc_status nfree vs s = some r →
      Steps ref_step s r.2.2.2.2 (RefLedger.idle s) (RefLedger.idle r.2.2.2.2) := by
  intro fuel
  induction fuel with
  | zero => intro _ _ _ _ _ _ h; simp [gc_loop] at h
  | succ fuel ih =>
    intro gc_type gc_status nfree vs s r h
    obtain ⟨fuel', hf, brk, gc_type', s1, hh, hcase⟩ := gc_loop_cases h
    obtain rfl := Nat.succ.inj hf
    have h1 := @gc_loop_head_refs O nGC old nfree gc_type s
    rw [hh] at h1
    rcases hcase with ⟨-, rfl⟩ | ⟨-, res, vs', s2, hv, ⟨-, rfl⟩ | ⟨segno, -, stop, st, nf, s3, hs,
      ⟨-, rfl⟩ | ⟨-, hrec⟩⟩⟩
    · exact h1
    · exact h1.trans (__get_victim_refs hv)
    all_goals
      have h3 := gc_section_refs (O := O) (p := fun _ => 0) l cfg.g gc_type' segno
        (List.range cfg.g.segs_per_sec) gc_status nfree s2
      rw [hs] at h3
      have h13 := h1.trans ((__get_victim_refs hv).trans h3)
    · exact h13
    · exact h13.trans (ih hrec)

theorem write_checkpoint_refs (blocked : Bool) (s : GcState) :
    Steps ref_step s (write_checkpoint blocked s) (RefLedger.idle s)
      (RefLedger.idle (write_checkpoint blocked s)) := by
  rw [write_checkpoint_eq]
  exact .emits (by cases blocked <;> simp [ref_step])

/-- Every pass of `f2fs_gc` ends with every reference dropped and `ilist` empty. -/
theorem gc_more_refs : ∀ {fuel : Nat} {gc_type : GcType} {vs : VictimState} {s : GcState}
    {r : GcStatus × VictimState × GcState}, gc_more cfg l O nGC fuel gc_type vs s = some r →
      Steps ref_step s r.2.2 (RefLedger.idle s) RefLedger.empty ∧ r.2.2.ilist = [] := by
  intro fuel
  induction fuel with
  | zero => intro _ _ _ _ h; simp [gc_more] at h
  | succ fuel ih =>
    intro gc_type vs s r h
    obtain ⟨fuel', hf, old', s1, hh, st, nfree, gc_type', vs', s2, hl, hcase⟩ := gc_more_cases h
    obtain rfl := Nat.succ.inj hf
    have h1 : Steps ref_step s s1 (RefLedger.idle s) (RefLedger.idle s1) := by
      obtain ⟨short, n, h⟩ := gc_more_head_cases (O := O) s
      rw [hh] at h
      cases h
      exact .emits (by cases short <;> simp [ref_step])
    have h2 : Steps ref_step s (s2.emit .top (.has_not_enough_free_secs
        (O.has_not_enough_free_secs s2.clock))) (RefLedger.idle s) (RefLedger.idle s2) :=
      h1.trans ((gc_loop_refs hl).trans (.emit (by simp [ref_step])))
    dsimp only at hcase
    rcases hcase with ⟨-, -, hrec⟩ | ⟨-, -, rfl⟩ | ⟨-, rfl⟩
    · obtain ⟨h4, h5⟩ := ih hrec
      exact ⟨h2.trans ((write_checkpoint_refs _ _).trans h4), h5⟩
    · obtain ⟨h4, h5⟩ := gc_finish_refs st (write_checkpoint (st = .GC_BLOCKED) _)
      exact ⟨h2.trans ((write_checkpoint_refs _ _).trans h4), h5⟩
    · obtain ⟨h4, h5⟩ := gc_finish_refs st _
      exact ⟨h2.trans h4, h5⟩

/-- Whatever the collaborators answer, a call of `f2fs_gc` that returns has dropped, exactly
once, every inode reference `f2fs_iget_nowait` gave it and every page reference it took: the
ledger of its events ends empty, and no event dropped a reference nobody held or added a second
`ilist` entry for an inode. Every entry it added owned one inode reference until the end, and
`ilist` is empty on return. -/
theorem f2fs_gc_drops_references {cfg : GcConfig} {l : NodeLayout} {O : Collab} {nGC : Int}
    {fuel : Nat} {vs : VictimState} {trace : List Ev} {r : GcStatus × VictimState × GcState}
    (h : f2fs_gc cfg l O nGC fuel vs trace = some r) :
    r.2.2.ilist = [] ∧
      ∃ E, r.2.2.trace = trace ++ E ∧ replay ref_step RefLedger.empty E = some RefLedger.empty := by
  obtain ⟨⟨E, hE, hrep⟩, hil⟩ := gc_more_refs h
  exact ⟨hil, E, hE, hrep⟩

/-- Collaborators under which every block of a data segment is owned by block 0 of inode 7
through dnode 5, and every page and inode is found. -/
def data_collab : Collab :=
  { idle_collab false false with
    f2fs_test_bit := fun _ _ _ => true
    get_node_page := fun _ _ => true
    get_node_info := fun _ _ => ⟨7, 0⟩
    get_sum_page := fun _ _ => some ⟨fun _ => ⟨5, 0, 0⟩, .SUM_TYPE_DATA⟩
    f2fs_iget_nowait := fun _ _ => true
    find_data_page := fun _ _ _ => true
    get_lock_data_page := fun _ _ _ => true
    page_mapped := fun _ _ _ => true
    clear_page_dirty_for_io := fun _ _ _ => true }

/-- A background call that moves the block of segment 0: inode 7 enters `ilist` with the
reference its `f2fs_iget_nowait` took, and `put_gc_inode` drops it at the end. -/
theorem data_pass_drops_references : ∃ r,
    f2fs_gc one_sec_config ⟨1018, 1018, 923⟩ data_collab 1 10 one_sec_state [] = some r ∧
      r.2.2.ilist = [] ∧
        ∃ E, r.2.2.trace = [] ++ E ∧ replay ref_step RefLedger.empty E = some RefLedger.empty := by
  obtain ⟨r, hr⟩ := Option.isSome_iff_exists.mp (by decide :
    (f2fs_gc one_sec_config ⟨1018, 1018, 923⟩ data_collab 1 10 one_sec_state []).isSome)
  exact ⟨r, hr, f2fs_gc_drops_references hr⟩

end Collect

end f2fs.gc
