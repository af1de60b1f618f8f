import F2fsGc.Gc.Evacuate

open f2fs.segment

namespace f2fs.gc

def Act.isMove : Act → Bool
  | .move_data_page _ _ => true
  | _ => false

/-- The file block index `gc_data_segment` computes for summary entry `e` under a dnode at
node offset `nofs`: `start_bidx_of_node(nofs) + ofs_in_node`, as an `unsigned int`. -/
def data_bidx (l : NodeLayout) (nofs : Nat) (e : Summary) : Nat :=
  (start_bidx_of_node l nofs + e.ofs_in_node) % 2 ^ 32

/-- The calls of the iteration of phase 3 over entry `off` of `segno` that lead to a move: the
checkpoint test, `check_valid_map` finding the block valid, `check_dnode` reading the dnode
`dni`/`nofs` that maps `START_BLOCK(segno) + off`, then `find_gc_inode` finding the inode
pinned and the page of the block locked. -/
def move_checks (l : NodeLayout) (g : Geometry) (sum : SummaryBlock) (segno off : Nat)
    (dni : NodeInfo) (nofs : Nat) : List Act :=
  let e := sum.entries off
  valid_reads true ++ dnode_reads e.nid dni nofs ((g.START_BLOCK segno + off) % 2 ^ 32) ++
    [.find_gc_inode dni.ino true, .get_page (.data dni.ino (data_bidx l nofs e)) true]

section Checked

variable (l : NodeLayout) (g : Geometry) (sum : SummaryBlock) (segno : Nat)

/-- The event `e`, preceded by `pre`, moves a page only as the last step of a phase-3 iteration
whose checks all passed: the calls right before it are `move_checks` at its own site, for a
NAT entry with the summary's version, and the page is `data_bidx` of that entry's inode. -/
def MoveChecked (pre : List Ev) (e : Ev) : Prop :=
  ∀ ino bidx, e.act = .move_data_page ino bidx →
    ∃ off dni nofs pre', e.site = .entry segno 3 off ∧ dni.version = (sum.entries off).version ∧
      ino = dni.ino ∧ bidx = data_bidx l nofs (sum.entries off) ∧
      pre = pre' ++ (move_checks l g sum segno off dni nofs).map (Ev.mk e.site)

/-- Every move event of `E` is justified by the events of `E` before it. -/
def MovesChecked (E : List Ev) : Prop :=
  ∀ pre e post, E = pre ++ e :: post → MoveChecked l g sum segno pre e

variable {l g sum segno}

theorem MoveChecked.append_left {pre : List Ev} {e : Ev} (h : MoveChecked l g sum segno pre e)
    (A : List Ev) : MoveChecked l g sum segno (A ++ pre) e := by
  intro ino bidx hmove
  obtain ⟨off, dni, nofs, pre', hsite, hver, hino, hbidx, rfl⟩ := h ino bidx hmove
  exact ⟨off, dni, nofs, A ++ pre', hsite, hver, hino, hbidx, by simp⟩

theorem MovesChecked.nil : MovesChecked l g sum segno [] := Justified.nil

theorem MovesChecked.append {A B : List Ev} (hA : MovesChecked l g sum segno A)
    (hB : MovesChecked l g sum segno B) : MovesChecked l g sum segno (A ++ B) :=
  Justified.append (fun A _ _ h => h.append_left A) hA hB

theorem MoveChecked.of_not_move {pre : List Ev} {e : Ev} (h : e.act.isMove = false) :
    MoveChecked l g sum segno pre e := by
  intro ino bidx hmove
  simp [hmove, Act.isMove] at h

theorem MovesChecked.of_no_move {E : List Ev} (h : ∀ e ∈ E, e.act.isMove = false) :
    MovesChecked l g sum segno E :=
  Justified.of_forall fun e he _ => .of_not_move (h e he)

/-- An iteration whose one move comes right after the calls that justify it. -/
theorem MovesChecked.single {X Y : List Ev} {m : Ev} (hX : ∀ e ∈ X, e.act.isMove = false)
    (hY : ∀ e ∈ Y, e.act.isMove = false) (hm : MoveChecked l g sum segno X m) :
    MovesChecked l g sum segno (X ++ m :: Y) :=
  Justified.single (fun e he _ => .of_not_move (hX e he)) (fun e he _ => .of_not_move (hY e he)) hm

theorem MovesChecked.of_map {acts : List Act} (h : acts.any Act.isMove = false) (site : Site) :
    MovesChecked l g sum segno (acts.map (Ev.mk site)) :=
  .of_no_move (by simpa using h)

theorem MovesChecked.emits {acts : List Act} (h : acts.any Act.isMove = false) (s : GcState)
    (site : Site) : ∃ E, (s.emits site acts).trace = s.trace ++ E ∧ MovesChecked l g sum segno E :=
  ⟨_, rfl, .of_map h site⟩

end Checked

theorem Act.isMove_of_writeback {a : Act} (h : a.writeback) : a.isMove = false := by
  cases a <;> first | rfl | exact absurd h Bool.false_ne_true

theorem DnodeStale.no_move {nid blkaddr : Nat} {D : List Act} (h : DnodeStale nid blkaddr D) :
    D.any Act.isMove = false := by
  rcases h with rfl | ⟨_, rfl⟩ | ⟨_, _, _, _, rfl⟩ <;> rfl

theorem pin_data_inode_no_move (O : Collab) (site : Site) (ino bidx : Nat) (s : GcState) :
    ∃ acts : List Act, acts.any Act.isMove = false ∧ (pin_data_inode O site ino bidx s).trace =
      s.trace ++ acts.map (Ev.mk site) := by
  rcases @pin_data_inode_cases O site s ino bidx with h | h | h <;> rw [h]
  · exact ⟨_, by rfl, rfl⟩
  · exact ⟨_, by rfl, rfl⟩
  · rcases @add_gc_inode_cases site
      (s.emits site [.iget ino true, .get_page (.data ino bidx) true, .put_page (.data ino bidx)])
      ino with ⟨-, h⟩ | ⟨-, h⟩ <;> rw [h]
    · exact ⟨[.iget ino true, .get_page (.data ino bidx) true, .put_page (.data ino bidx), .iput ino],
        by rfl, by simp⟩
    · exact ⟨[.iget ino true, .get_page (.data ino bidx) true, .put_page (.data ino bidx),
        .ilist_add ino], by rfl, by simp⟩

variable {l : NodeLayout} {g : Geometry} {sum : SummaryBlock} {segno : Nat}

/-- One iteration of `gc_data_segment` moves at most one page, right after the calls that
justify it. -/
theorem gc_data_entry_moves_checked (O : Collab) (gc_type : GcType) {phase : Nat}
    (hphase : phase < 4) (off : Nat) (s : GcState) :
    ∃ E, (gc_data_entry O l g sum segno gc_type phase off s).state.trace = s.trace ++ E ∧
      MovesChecked l g sum segno E := by
  rcases gc_data_entry_cases (O := O) (s := s) l g sum segno gc_type phase off with
    h | h | ⟨-, h⟩ | ⟨-, D, hD, h⟩ | ⟨h0, dni, nofs, hver, ⟨-, h⟩ | ⟨-, h⟩ | ⟨h1, h2, h⟩⟩ <;>
    rw [h] <;> simp only [Flow.state_next, Flow.state_stop]
  · exact MovesChecked.emits (by rfl) _ _
  · exact MovesChecked.emits (by rfl) _ _
  · exact MovesChecked.emits (by rfl) _ _
  · exact MovesChecked.emits (by rw [List.any_append, hD.no_move]; rfl) _ _
  · exact MovesChecked.emits (by rfl) _ _
  · obtain ⟨acts, hacts, htr⟩ := pin_data_inode_no_move O (.entry segno phase off) dni.ino
      (data_bidx l nofs (sum.entries off))
      (s.emits (.entry segno phase off) (valid_reads true ++
        dnode_reads (sum.entries off).nid dni nofs ((g.START_BLOCK segno + off) % 2 ^ 32)))
    rw [data_bidx] at htr
    exact ⟨_, by rw [htr, GcState.emits_trace, List.append_assoc, ← List.map_append],
      .of_map (by rw [List.any_append, hacts]; rfl) _⟩
  · obtain rfl : phase = 3 := by omega
    let site := Site.entry segno 3 off
    let e := sum.entries off
    let checked := valid_reads true ++ dnode_reads e.nid dni nofs ((g.START_BLOCK segno + off) % 2 ^ 32)
    rcases @move_pinned_page_cases O site (s.emits site checked) dni.ino
      (data_bidx l nofs e) gc_type with ⟨-, h⟩ | ⟨-, h⟩ | ⟨-, h⟩ <;>
      simp only [data_bidx] at h <;> rw [h]
    · rw [GcState.emits_emits]
      exact MovesChecked.emits (by rfl) _ _
    · rw [GcState.emits_emits]
      exact MovesChecked.emits (by rfl) _ _
    · obtain ⟨acts, hacts, hmv⟩ := @move_data_page_cases O site
        ((s.emits site checked).emits site
          [.find_gc_inode dni.ino true, .get_page (.data dni.ino (data_bidx l nofs e)) true])
        dni.ino (data_bidx l nofs e) gc_type
      simp only [data_bidx] at hmv
      rw [hmv, GcState.emits_emits, GcState.emits_emits]
      refine ⟨(move_checks l g sum segno off dni nofs).map (Ev.mk site) ++
        Ev.mk site (.move_data_page dni.ino (data_bidx l nofs e)) ::
          (acts ++ [Act.put_page (.data dni.ino (data_bidx l nofs e))]).map (Ev.mk site),
        by simp [move_checks, checked, data_bidx], MovesChecked.single ?_ ?_ ?_⟩
      · simp [move_checks, valid_reads, dnode_reads, Act.isMove]
      · simp only [List.map_append, List.mem_append, List.mem_map, List.mem_singleton]
        rintro _ (⟨a, ha, rfl⟩ | ⟨_, rfl, rfl⟩)
        exacts [Act.isMove_of_writeback (hacts a ha), rfl]
      · rintro ino bidx ⟨⟩
        exact ⟨off, dni, nofs, [], rfl, hver, rfl, rfl, by simp⟩

/-- `gc_data_segment` moves a page only as the last step of a phase-3 iteration over a block
that the SIT marks valid and whose summary entry its dnode and the NAT confirm, and the page it
moves is the block's page of the inode that NAT entry names. -/
theorem gc_data_segment_moves_checked (O : Collab) (gc_type : GcType) (s : GcState) :
    ∃ E, (gc_data_segment O l g sum segno gc_type s).2.trace = s.trace ++ E ∧
      MovesChecked l g sum segno E := by
  obtain ⟨E, hE, hM⟩ := for_each_appends (MovesChecked l g sum segno) .nil (fun _ _ => .append)
    (List.range 4) (fun phase hphase s => for_each_appends _ .nil (fun _ _ => .append)
      (List.range g.blocks_per_seg) (fun off _ s => gc_data_entry_moves_checked O gc_type (List.mem_range.mp hphase) off s) s) s
  rw [gc_data_segment_eq]
  split_ifs
  · exact ⟨E ++ [⟨.top, .submit_bio⟩], by simp [hE], hM.append (.of_no_move (by simp [Act.isMove]))⟩
  · exact ⟨E, hE, hM⟩

section Unmoved

variable {O : Collab} {site : Site} {s : GcState}

theorem no_move_of_any {acts : List Act} (h : acts.any Act.isMove = false) :
    ∀ e ∈ acts.map (Ev.mk site), e.act.isMove = false := by
  intro e he
  obtain ⟨a, ha, rfl⟩ := List.mem_map.1 he
  exact Bool.eq_false_iff.2 (List.any_eq_false.1 h a ha)

/-- Phase 3 of a block when `get_lock_data_page` fails: whether or not the inode is pinned, no
page moves. -/
theorem move_pinned_page_of_no_lock (hlock : ∀ c ino bidx, O.get_lock_data_page c ino bidx = false)
    (site : Site) (ino bidx : Nat) (gc_type : GcType) (s : GcState) :
    ∃ acts : List Act, acts.any Act.isMove = false ∧
      move_pinned_page O site ino bidx gc_type s = s.emits site acts := by
  unfold move_pinned_page
  cases find_gc_inode ino s.ilist with
  | none => exact ⟨[.find_gc_inode ino false], rfl, rfl⟩
  | some inode =>
    simp only [hlock, Bool.not_false, if_true]
    exact ⟨[.find_gc_inode ino true, .get_page (.data inode bidx) false], rfl,
      by simp only [GcState.emit_eq_emits, GcState.emits_emits, List.singleton_append]⟩

theorem Flow.ite_next {c : Prop} [Decidable c] (a b : GcState) :
    (if c then Flow.next a else Flow.next b) = Flow.next (if c then a else b) := by
  split <;> rfl

/-- `check_dnode` rejects or accepts a block; it never fails the pass. -/
theorem check_dnode_ne_error (e : Summary) (blkaddr : Nat) :
    (check_dnode O site e blkaddr s).1.1 ≠ .GC_ERROR := by
  rcases check_dnode_cases (rfl : check_dnode O site e blkaddr s = _) with
    ⟨h, -⟩ | ⟨h, -⟩ <;> rw [h] <;> nofun

/-- With no checkpoint due, an iteration of the data pass always goes on to the next block. -/
theorem gc_data_entry_goes_on (hcp : O.should_do_checkpoint s.clock = false) (l : NodeLayout)
    (g : Geometry) (sum : SummaryBlock) (segno : Nat) (gc_type : GcType) (phase off : Nat) :
    ∃ s', gc_data_entry O l g sum segno gc_type phase off s = .next s' := by
  simp only [gc_data_entry, hcp, check_valid_map_eq, Bool.false_eq_true, if_false,
    check_dnode_ne_error]
  cases O.f2fs_test_bit _ segno off <;>
    simp only [Bool.false_eq_true, if_false, if_true, reduceCtorEq, Flow.ite_next] <;> exact ⟨_, rfl⟩

/-- One iteration of the data pass, with no checkpoint due and no page to lock, goes on and
moves nothing. -/
theorem gc_data_entry_unmoved (hcp : ∀ c, O.should_do_checkpoint c = false)
    (hlock : ∀ c ino bidx, O.get_lock_data_page c ino bidx = false) (l : NodeLayout) (g : Geometry)
    (sum : SummaryBlock) (segno : Nat) (gc_type : GcType) (phase off : Nat) :
    ∃ s', gc_data_entry O l g sum segno gc_type phase off s = .next s' ∧
      ∃ E, s'.trace = s.trace ++ E ∧ ∀ e ∈ E, e.act.isMove = false := by
  obtain ⟨s', hs'⟩ := gc_data_entry_goes_on (hcp s.clock) l g sum segno gc_type phase off
  refine ⟨s', hs', ?_⟩
  rcases gc_data_entry_cases (O := O) (s := s) l g sum segno gc_type phase off with
    h | h | ⟨-, h⟩ | ⟨-, D, hD, h⟩ | ⟨-, dni, nofs, -, ⟨-, h⟩ | ⟨-, h⟩ | ⟨-, -, h⟩⟩ <;>
    rw [h] at hs' <;> cases hs'
  · exact ⟨_, rfl, no_move_of_any (by rfl)⟩
  · exact ⟨_, rfl, no_move_of_any (by rfl)⟩
  · exact ⟨_, rfl, no_move_of_any (by rw [List.any_append, hD.no_move]; rfl)⟩
  · exact ⟨_, rfl, no_move_of_any (by rfl)⟩
  · obtain ⟨acts, hacts, htr⟩ := pin_data_inode_no_move O (.entry segno phase off) dni.ino
      (data_bidx l nofs (sum.entries off)) (s.emits _ _)
    refine ⟨_, htr.trans (by rw [GcState.emits_trace, List.append_assoc, ← List.map_append]),
      no_move_of_any (by rw [List.any_append, hacts, Bool.or_false]; rfl)⟩
  · obtain ⟨acts, hacts, heq⟩ := move_pinned_page_of_no_lock hlock (.entry segno phase off) dni.ino
      ((start_bidx_of_node l nofs + (sum.entries off).ofs_in_node) % 2 ^ 32) gc_type (s.emits _ _)
    rw [heq, GcState.emits_emits]
    exact ⟨_, rfl, no_move_of_any (by rw [List.any_append, hacts, Bool.or_false]; rfl)⟩

/-- The rest of f2fs as a data pass meets it when no page can be locked: no checkpoint is due,
every block is valid in the SIT and, by its dnode and the NAT, owned by the summary entry `e` at
`blkaddr`; inodes and cached pages are found, but `get_lock_data_page` fails. -/
def lock_failing_collab (e : Summary) (blkaddr : Nat) : Collab where
  should_do_checkpoint _ := false
  f2fs_test_bit _ _ _ := true
  get_node_page _ _ := true
  get_node_info _ _ := ⟨0, e.version⟩
  ofs_of_node _ _ := 0
  datablock_addr _ _ _ := blkaddr
  PageWriteback _ _ := false
  f2fs_iget_nowait _ _ := true
  find_data_page _ _ _ := true
  get_lock_data_page _ _ _ := false
  page_mapped _ _ _ := true
  clear_page_dirty_for_io _ _ _ := true
  S_ISDIR _ _ := false
  get_sum_page _ _ := none
  has_not_enough_free_secs _ := false
  free_sections _ := 0
  reserved_sections _ := 0
  MS_ACTIVE _ := true
  env _ vs := vs
  try_to_freeze _ := false
  kthread_should_stop _ := false
  test_opt_BG_GC _ := true
  mutex_trylock _ := true
  is_idle _ := true
  has_enough_invalid_blocks _ := true

/-- `GC_DONE` from `gc_data_segment` does not mean its valid blocks moved. On every segment,
summary block and state, when no checkpoint is due and block `off` is, at every moment, valid in
the SIT and owned by its summary entry in its dnode and the NAT, but `get_lock_data_page` fails,
the pass runs its four phases to `GC_DONE` without one `move_data_page`. -/
theorem gc_data_segment_done_unmoved (l : NodeLayout) (g : Geometry) (sum : SummaryBlock)
    (segno : Nat) (gc_type : GcType) (off : Nat) (s : GcState) :
    ∃ O : Collab, (∀ c, O.should_do_checkpoint c = false ∧ O.f2fs_test_bit c segno off = true ∧
        O.get_node_page c (sum.entries off).nid = true ∧
        (O.get_node_info c (sum.entries off).nid).version = (sum.entries off).version ∧
        O.datablock_addr c (sum.entries off).nid (sum.entries off).ofs_in_node =
          (g.START_BLOCK segno + off) % 2 ^ 32 ∧
        ∀ ino bidx, O.get_lock_data_page c ino bidx = false) ∧
      ∃ s', gc_data_segment O l g sum segno gc_type s = (.GC_DONE, s') ∧
        ∃ E, s'.trace = s.trace ++ E ∧ ∀ e ∈ E, e.act.isMove = false := by
  let O := lock_failing_collab (sum.entries off) ((g.START_BLOCK segno + off) % 2 ^ 32)
  refine ⟨O, fun _ => ⟨rfl, rfl, rfl, rfl, rfl, fun _ _ => rfl⟩, ?_⟩
  let P := fun s1 : GcState => ∃ E, s1.trace = s.trace ++ E ∧ ∀ e ∈ E, e.act.isMove = false
  have hstep : ∀ phase off' s1, P s1 →
      (gc_data_entry O l g sum segno gc_type phase off' s1).Ends P fun _ _ => False := by
    rintro phase off' s1 ⟨E, hE, hno⟩
    obtain ⟨s2, h2, E', hE', hno'⟩ := gc_data_entry_unmoved (O := O) (s := s1) (fun _ => rfl)
      (fun _ _ _ => rfl) l g sum segno gc_type phase off'
    rw [h2]
    exact ⟨E ++ E', by rw [hE', hE, List.append_assoc], fun e he =>
      (List.mem_append.1 he).elim (hno e) (hno' e)⟩
  have hloop := for_each_ends P _ (List.range 4) (fun phase _ s1 hs1 =>
    for_each_ends P _ (List.range g.blocks_per_seg) (fun off' _ => hstep phase off') s1 hs1) s
    ⟨[], by simp, by simp⟩
  rw [gc_data_segment_eq]
  generalize for_each _ (List.range 4) s = f at hloop
  cases f with
  | stop err s1 => exact hloop.elim
  | next s1 =>
    obtain ⟨E, hE, hno⟩ := hloop
    refine ⟨_, rfl, ?_⟩
    split_ifs
    · exact ⟨E ++ [⟨.top, .submit_bio⟩], by simp [hE], fun e he =>
        (List.mem_append.1 he).elim (hno e) fun h => (List.mem_singleton.1 h) ▸ rfl⟩
    · exact ⟨E, hE, hno⟩

end Unmoved

end f2fs.gc
