import F2fsGc.Gc.Trace
import F2fsGc.NodeOffset

open f2fs.segment

namespace f2fs.gc

/-- How one iteration of an evacuation loop ends: `continue`, or leaving the function with a
status (`return` or `goto stop`). -/
inductive Flow
  | next (s : GcState)
  | stop (err : GcStatus) (s : GcState)

namespace Flow

def state : Flow → GcState
  | .next s => s
  | .stop _ s => s

@[simp] theorem state_next (s : GcState) : (Flow.next s).state = s := rfl

@[simp] theorem state_stop (err : GcStatus) (s : GcState) : (Flow.stop err s).state = s := rfl

end Flow

/-- A `for` loop whose body may leave the function. -/
def for_each {α : Type} (body : α → GcState → Flow) : List α → GcState → Flow
  | [], s => .next s
  | a :: as, s =>
    match body a s with
    | .next s => for_each body as s
    | .stop err s => .stop err s

/-- How an iteration or a loop ends: `P` of the state it goes on from, `Q` of the status and
the state it leaves the function with. -/
def Flow.Ends (P : GcState → Prop) (Q : GcStatus → GcState → Prop) : Flow → Prop
  | .next s => P s
  | .stop err s => Q err s

theorem Flow.ends_iff_state {P : GcState → Prop} {f : Flow} :
    f.Ends P (fun _ => P) ↔ P f.state := by
  cases f <;> rfl

/-- A loop ends as its iterations do: it goes on from what they go on from, and leaves as the
one that leaves it. -/
theorem for_each_ends {α : Type} (P : GcState → Prop) (Q : GcStatus → GcState → Prop)
    {body : α → GcState → Flow} :
    ∀ as : List α, (∀ a ∈ as, ∀ s, P s → (body a s).Ends P Q) →
      ∀ s, P s → (for_each body as s).Ends P Q
  | [], _, _, hs => hs
  | a :: as, h, s, hs => by
    have ha := h a (.head _) s hs
    simp only [for_each]
    split <;> rename_i heq <;> rw [heq] at ha
    · exact for_each_ends P Q as (fun b hb => h b (.tail _ hb)) _ ha
    · exact ha

theorem Flow.Ends.mono {P P' : GcState → Prop} {Q Q' : GcStatus → GcState → Prop} {f : Flow}
    (hP : ∀ s, P s → P' s) (hQ : ∀ err s, Q err s → Q' err s) (h : f.Ends P Q) : f.Ends P' Q' := by
  cases f
  · exact hP _ h
  · exact hQ _ _ h

/-- What holds of every state a body leaves holds of the state the loop leaves. -/
theorem for_each_inv {α : Type} (P : GcState → Prop) {body : α → GcState → Flow}
    (as : List α) (h : ∀ a ∈ as, ∀ s, P s → P (body a s).state) (s : GcState) (hs : P s) :
    P (for_each body as s).state :=
  Flow.ends_iff_state.mp (for_each_ends P _ as (fun a ha s hs => Flow.ends_iff_state.mpr
    (h a ha s hs)) s hs)

/-- A monitor that goes from the ledger `inv s` to `inv s'` over every iteration does so over
the loop. -/
theorem for_each_steps {α σ : Type} {step : σ → Ev → Option σ} {inv : GcState → σ}
    {body : α → GcState → Flow} (as : List α)
    (h : ∀ a ∈ as, ∀ s, Steps step s (body a s).state (inv s) (inv (body a s).state))
    (s : GcState) : Steps step s (for_each body as s).state (inv s) (inv (for_each body as s).state) :=
  for_each_inv (fun s' => Steps step s s' (inv s) (inv s')) as
    (fun a ha _ hs => hs.trans (h a ha _)) s (.refl _ _)

/-- A monitor that goes from `m` back to `m` over every iteration that goes on, and to
`ends err` over one that leaves with `err`, does so over the loop. -/
theorem for_each_steps_ends {α σ : Type} {step : σ → Ev → Option σ} {m : σ}
    {ends : GcStatus → σ} {body : α → GcState → Flow} (as : List α)
    (h : ∀ a ∈ as, ∀ s, (body a s).Ends (fun s' => Steps step s s' m m)
      (fun err s' => Steps step s s' m (ends err))) (s : GcState) :
    (for_each body as s).Ends (fun s' => Steps step s s' m m)
      (fun err s' => Steps step s s' m (ends err)) :=
  for_each_ends _ _ as (fun a ha _ hs => (h a ha _).mono (fun _ => hs.trans) (fun _ _ => hs.trans))
    s (.refl _ _)

/-- A loop appends to the trace what its iterations append; a property of appended calls that
holds of no call and is closed under concatenation holds of the loop's when it holds of each
iteration's. -/
theorem for_each_appends {α : Type} (P : List Ev → Prop) (hnil : P [])
    (happ : ∀ A B, P A → P B → P (A ++ B)) {body : α → GcState → Flow} (as : List α)
    (h : ∀ a ∈ as, ∀ s, ∃ E, (body a s).state.trace = s.trace ++ E ∧ P E) (s : GcState) :
    ∃ E, (for_each body as s).state.trace = s.trace ++ E ∧ P E := by
  refine for_each_inv (fun s' => ∃ E, s'.trace = s.trace ++ E ∧ P E) as ?_ s ⟨[], by simp, hnil⟩
  rintro a ha s1 ⟨E, hE, hP⟩
  obtain ⟨E', hE', hP'⟩ := h a ha s1
  exact ⟨E ++ E', by rw [hE', hE, List.append_assoc], happ _ _ hP hP'⟩

/-- `check_valid_map`: the block's bit in `cur_valid_map`, read under `sentry_lock`. -/
def check_valid_map (O : Collab) (site : Site) (segno off : Nat) (s : GcState) :
    GcStatus × GcState :=
  let s := s.emit site (.lock .sentry_lock)
  let r := O.f2fs_test_bit s.clock segno off
  let s := s.emit site (.test_valid_bit r)
  (if r then .GC_OK else .GC_NEXT, s.emit site (.unlock .sentry_lock))

/-- One iteration of the loop of `gc_node_segment`, in its read-ahead pass (`initial`) or in
its second pass. -/
def gc_node_entry (O : Collab) (sum : SummaryBlock) (segno : Nat) (initial : Bool) (off : Nat)
    (s : GcState) : Flow :=
  let site := Site.entry segno (if initial then 0 else 1) off
  let nid := (sum.entries off).nid
  let r := O.should_do_checkpoint s.clock
  let s := s.emit site (.should_do_checkpoint r)
  if r then .stop .GC_BLOCKED ((s.emit site (.lock .cp_mutex)).emit site .block_operations)
  else
    let (err, s) := check_valid_map O site segno off s
    if err = .GC_ERROR then .stop err s
    else if err = .GC_NEXT then .next s
    else if initial then .next (s.emit site (.ra_node_page nid))
    else
      let ok := O.get_node_page s.clock nid
      let s := s.emit site (.get_page (.node nid) ok)
      if !ok then .next s
      else
        let wb := O.PageWriteback s.clock (.node nid)
        let s := s.emit site (.page_writeback wb)
        let s := if !wb then s.emit site .set_page_dirty else s
        .next (s.emit site (.put_page (.node nid)))

/-- `gc_node_segment`: dirty every valid node block of the segment, so that the node writer
moves it; in two passes, read-ahead first. -/
def gc_node_segment (O : Collab) (g : Geometry) (sum : SummaryBlock) (segno : Nat)
    (gc_type : GcType) (s : GcState) : GcStatus × GcState :=
  match for_each (fun initial => for_each (gc_node_entry O sum segno initial)
      (List.range g.blocks_per_seg)) [true, false] s with
  | .stop err s => (err, s)
  | .next s => (.GC_DONE, if gc_type = .FG_GC then s.emit .top .sync_node_pages else s)

/-- `check_dnode`: whether the summary entry still owns `blkaddr`, judged from its parent
dnode and the NAT. Also returns the NAT entry and the dnode's node offset, which the caller
reads on `GC_OK` only (`⟨0, 0⟩` and `0` stand for fields left unset). -/
def check_dnode (O : Collab) (site : Site) (sum : Summary) (blkaddr : Nat) (s : GcState) :
    (GcStatus × NodeInfo × Nat) × GcState :=
  let ok := O.get_node_page s.clock sum.nid
  let s := s.emit site (.get_page (.node sum.nid) ok)
  if !ok then ((.GC_NEXT, ⟨0, 0⟩, 0), s)
  else
    let dni := O.get_node_info s.clock sum.nid
    let s := s.emit site (.get_node_info sum.nid dni)
    if sum.version ≠ dni.version then ((.GC_NEXT, dni, 0), s.emit site (.put_page (.node sum.nid)))
    else
      let nofs := O.ofs_of_node s.clock sum.nid
      let s := s.emit site (.ofs_of_node nofs)
      let source_blkaddr := O.datablock_addr s.clock sum.nid sum.ofs_in_node
      let s := (s.emit site (.datablock_addr source_blkaddr)).emit site (.put_page (.node sum.nid))
      ((if source_blkaddr ≠ blkaddr then .GC_NEXT else .GC_OK, dni, nofs), s)

/-- `move_data_page`: write the page back cold, in the background by dirtying it, in the
foreground synchronously; then drop the page reference. -/
def move_data_page (O : Collab) (site : Site) (ino bidx : Nat) (gc_type : GcType)
    (s : GcState) : GcState :=
  let s := s.emit site (.move_data_page ino bidx)
  let m := O.page_mapped s.clock ino bidx
  let s := s.emit site (.page_mapped m)
  let s :=
    if !m then s
    else
      let wb := O.PageWriteback s.clock (.data ino bidx)
      let s := s.emit site (.page_writeback wb)
      if wb then s
      else if gc_type = .BG_GC then (s.emit site .set_page_dirty).emit site .set_cold_data
      else
        let s := s.emit site .lock_op
        let c := O.clear_page_dirty_for_io s.clock ino bidx
        let s := s.emit site (.clear_page_dirty_for_io c)
        let s :=
          if c then
            let d := O.S_ISDIR s.clock ino
            let s := s.emit site (.S_ISDIR d)
            if d then s.emit site .dec_dirty_dents else s
          else s
        (((s.emit site .set_cold_data).emit site .do_write_data_page).emit site .unlock_op).emit
          site .clear_cold_data
  s.emit site (.put_page (.data ino bidx))

/-- `find_gc_inode`: the pinned inode numbered `ino`. -/
def find_gc_inode (ino : Nat) (ilist : List Nat) : Option Nat := ilist.find? (· = ino)

/-- `add_gc_inode`: pin the inode, or drop the extra reference if it is pinned already. The
allocation retry loop only yields, so it is one successful allocation here. -/
def add_gc_inode (site : Site) (ino : Nat) (s : GcState) : GcState :=
  if ino ∈ s.ilist then s.emit site (.iput ino)
  else { s with ilist := s.ilist ++ [ino] }.emit site (.ilist_add ino)

/-- `put_gc_inode`: drop the reference of every pinned inode and empty the list. -/
def put_gc_inode (s : GcState) : GcState :=
  { s.ilist.foldl (fun s ino => (s.emit .top (.iput ino)).emit .top (.ilist_del ino)) s with
    ilist := [] }

/-- Phase 2 of `gc_data_segment` for a block whose dnode checked out: pin its inode if the
page is in the page cache. -/
def pin_data_inode (O : Collab) (site : Site) (ino bidx : Nat) (s : GcState) : GcState :=
  let ok := O.f2fs_iget_nowait s.clock ino
  let s := s.emit site (.iget ino ok)
  if !ok then s
  else
    let found := O.find_data_page s.clock ino bidx
    let s := s.emit site (.get_page (.data ino bidx) found)
    if !found then s.emit site (.iput ino)
    else add_gc_inode site ino (s.emit site (.put_page (.data ino bidx)))

/-- Phase 3 of `gc_data_segment` for a block whose dnode checked out: move its page if the
inode is pinned. -/
def move_pinned_page (O : Collab) (site : Site) (ino bidx : Nat) (gc_type : GcType)
    (s : GcState) : GcState :=
  match find_gc_inode ino s.ilist with
  | none => s.emit site (.find_gc_inode ino false)
  | some inode =>
    let s := s.emit site (.find_gc_inode ino true)
    let ok := O.get_lock_data_page s.clock inode bidx
    let s := s.emit site (.get_page (.data inode bidx) ok)
    if !ok then s else move_data_page O site inode bidx gc_type s

/-- One iteration of the loop of `gc_data_segment`, in phase `phase`. -/
def gc_data_entry (O : Collab) (l : NodeLayout) (g : Geometry) (sum : SummaryBlock)
    (segno : Nat) (gc_type : GcType) (phase off : Nat) (s : GcState) : Flow :=
  let site := Site.entry segno phase off
  let entry := sum.entries off
  let r := O.should_do_checkpoint s.clock
  let s := s.emit site (.should_do_checkpoint r)
  if r then .stop .GC_BLOCKED ((s.emit site (.lock .cp_mutex)).emit site .block_operations)
  else
  let (err, s) := check_valid_map O site segno off s
  if err = .GC_ERROR then .stop err s
  else if err = .GC_NEXT then .next s
  else if phase = 0 then .next (s.emit site (.ra_node_page entry.nid))
  else
  let ((err, dni, nofs), s) := check_dnode O site entry ((g.START_BLOCK segno + off) % 2 ^ 32) s
  if err = .GC_ERROR then .stop err s
  else if err = .GC_NEXT then .next s
  else if phase = 1 then .next (s.emit site (.ra_node_page dni.ino))
  else
  let bidx := (start_bidx_of_node l nofs + entry.ofs_in_node) % 2 ^ 32
  if phase = 2 then .next (pin_data_inode O site dni.ino bidx s)
  else .next (move_pinned_page O site dni.ino bidx gc_type s)

/-- `gc_data_segment`: move every valid data block of the segment, in four passes over its
summary: node read-ahead, inode read-ahead, pinning the inodes, moving the pages. -/
def gc_data_segment (O : Collab) (l : NodeLayout) (g : Geometry) (sum : SummaryBlock)
    (segno : Nat) (gc_type : GcType) (s : GcState) : GcStatus × GcState :=
  let (err, s) :=
    match for_each (fun phase => for_each (gc_data_entry O l g sum segno gc_type phase)
        (List.range g.blocks_per_seg)) (List.range 4) s with
    | .stop err s => (err, s)
    | .next s => (.GC_DONE, s)
  (err, if gc_type = .FG_GC then s.emit .top .submit_bio else s)

/-- The calls `check_dnode` makes when it reads the dnode: the NAT entry, the node offset and
the block address, then the release of the page. -/
def dnode_reads (nid : Nat) (dni : NodeInfo) (nofs addr : Nat) : List Act :=
  [.get_page (.node nid) true, .get_node_info nid dni, .ofs_of_node nofs, .datablock_addr addr,
    .put_page (.node nid)]

/-- The calls of a `check_dnode` that rejects the block at `blkaddr`: the dnode cannot be read,
its NAT version is another, or it maps the block elsewhere. -/
def DnodeStale (nid blkaddr : Nat) (D : List Act) : Prop :=
  D = [.get_page (.node nid) false] ∨
  (∃ dni, D = [.get_page (.node nid) true, .get_node_info nid dni, .put_page (.node nid)]) ∨
  ∃ dni nofs addr, addr ≠ blkaddr ∧ D = dnode_reads nid dni nofs addr

/-- The calls `move_data_page` makes on the page between moving it and dropping it. -/
def Act.writeback : Act → Bool
  | .page_mapped _ | .page_writeback _ | .set_page_dirty | .set_cold_data | .clear_cold_data
  | .lock_op | .unlock_op | .clear_page_dirty_for_io _ | .S_ISDIR _ | .dec_dirty_dents
  | .do_write_data_page => true
  | _ => false

/-- The checkpoint test and `check_valid_map` at the head of an evacuation iteration. -/
def valid_reads (r : Bool) : List Act :=
  [.should_do_checkpoint false, .lock .sentry_lock, .test_valid_bit r, .unlock .sentry_lock]

/-- The calls of an iteration that meets `should_do_checkpoint` and returns `GC_BLOCKED`. -/
def blocked_acts : List Act := [.should_do_checkpoint true, .lock .cp_mutex, .block_operations]

section Emits

variable {O : Collab} {site : Site} {s : GcState}

theorem check_valid_map_eq (segno off : Nat) :
    check_valid_map O site segno off s =
      (if O.f2fs_test_bit (s.clock + 1) segno off then .GC_OK else .GC_NEXT,
        s.emits site [.lock .sentry_lock, .test_valid_bit (O.f2fs_test_bit (s.clock + 1) segno off),
          .unlock .sentry_lock]) := by
  simp [check_valid_map, GcState.emit_eq_emits]

/-- Everything `check_dnode` can do: reject the block, or read the dnode, find the summary's
version in the NAT and `blkaddr` in the dnode, and accept it. -/
theorem check_dnode_cases {sum : Summary} {blkaddr : Nat} {r : (GcStatus × NodeInfo × Nat) × GcState}
    (h : check_dnode O site sum blkaddr s = r) :
    (r.1.1 = .GC_NEXT ∧ ∃ D, DnodeStale sum.nid blkaddr D ∧ r.2 = s.emits site D) ∨
    (r.1.1 = .GC_OK ∧ r.1.2.1.version = sum.version ∧
      r.2 = s.emits site (dnode_reads sum.nid r.1.2.1 r.1.2.2 blkaddr)) := by
  subst h
  simp only [check_dnode, GcState.emit_eq_emits, GcState.emits_emits, List.singleton_append,
    List.cons_append]
  cases O.get_node_page s.clock sum.nid
  · exact .inl ⟨rfl, _, .inl rfl, rfl⟩
  · simp only [Bool.not_true, Bool.false_eq_true, if_false]
    split_ifs with hver haddr
    · exact .inl ⟨rfl, _, .inr (.inl ⟨_, rfl⟩), rfl⟩
    · exact .inl ⟨rfl, _, .inr (.inr ⟨_, _, _, haddr, rfl⟩), rfl⟩
    · exact .inr ⟨rfl, (not_not.mp hver).symm, by rw [not_not.mp haddr]; rfl⟩

/-- `move_data_page` emits the move, write-back calls on the page, and the page's release. -/
theorem move_data_page_cases (ino bidx : Nat) (gc_type : GcType) :
    ∃ acts, (∀ a ∈ acts, a.writeback) ∧ move_data_page O site ino bidx gc_type s =
      s.emits site (.move_data_page ino bidx :: acts ++ [.put_page (.data ino bidx)]) := by
  have : ∃ s1, (s.emit site (.move_data_page ino bidx)).Emits site Act.writeback s1 ∧
      move_data_page O site ino bidx gc_type s = s1.emit site (.put_page (.data ino bidx)) := by
    refine ⟨_, ?_, rfl⟩
    dsimp only
    split_ifs <;> repeat' first | refine .emit ?_ rfl | exact .refl ..
  obtain ⟨_, ⟨acts, hacts, rfl⟩, h⟩ := this
  exact ⟨acts, hacts, by simp [h, GcState.emit_eq_emits]⟩

/-- `add_gc_inode` drops the new reference of a pinned inode, or pins it. -/
theorem add_gc_inode_cases (ino : Nat) :
    (ino ∈ s.ilist ∧ add_gc_inode site ino s = s.emits site [.iput ino]) ∨
    (ino ∉ s.ilist ∧
      add_gc_inode site ino s = { s with ilist := s.ilist ++ [ino] }.emits site [.ilist_add ino]) := by
  simp only [add_gc_inode]
  split_ifs with h
  · exact .inl ⟨h, rfl⟩
  · exact .inr ⟨h, rfl⟩

/-- Everything `pin_data_inode` can do. -/
theorem pin_data_inode_cases (ino bidx : Nat) :
    pin_data_inode O site ino bidx s = s.emits site [.iget ino false] ∨
    pin_data_inode O site ino bidx s =
      s.emits site [.iget ino true, .get_page (.data ino bidx) false, .iput ino] ∨
    pin_data_inode O site ino bidx s = add_gc_inode site ino
      (s.emits site [.iget ino true, .get_page (.data ino bidx) true, .put_page (.data ino bidx)]) := by
  simp only [pin_data_inode, GcState.emit_eq_emits, GcState.emits_emits, GcState.emits_clock,
    List.length_singleton, List.singleton_append, List.cons_append, List.nil_append]
  cases O.f2fs_iget_nowait s.clock ino
  · exact .inl rfl
  · cases O.find_data_page (s.clock + 1) ino bidx
    · exact .inr (.inl rfl)
    · exact .inr (.inr rfl)

/-- Everything `move_pinned_page` can do. -/
theorem move_pinned_page_cases (ino bidx : Nat) (gc_type : GcType) :
    (ino ∉ s.ilist ∧ move_pinned_page O site ino bidx gc_type s =
      s.emits site [.find_gc_inode ino false]) ∨
    (ino ∈ s.ilist ∧ move_pinned_page O site ino bidx gc_type s =
      s.emits site [.find_gc_inode ino true, .get_page (.data ino bidx) false]) ∨
    (ino ∈ s.ilist ∧ move_pinned_page O site ino bidx gc_type s = move_data_page O site ino bidx
      gc_type (s.emits site [.find_gc_inode ino true, .get_page (.data ino bidx) true])) := by
  simp only [move_pinned_page, GcState.emit_eq_emits, GcState.emits_emits, GcState.emits_clock,
    List.length_singleton, List.singleton_append]
  split <;> rename_i h <;> simp only [find_gc_inode] at h
  · refine .inl ⟨fun hin => ?_, rfl⟩
    simp only [List.find?_eq_none, decide_eq_true_eq] at h
    exact h ino hin rfl
  · obtain ⟨rfl, hin⟩ : _ = ino ∧ _ :=
      ⟨by simpa using List.find?_some h, List.mem_of_find?_eq_some h⟩
    cases O.get_lock_data_page (s.clock + 1) _ bidx
    · exact .inr (.inl ⟨hin, rfl⟩)
    · exact .inr (.inr ⟨hin, rfl⟩)

/-- Everything one iteration of `gc_node_segment` can do. -/
theorem gc_node_entry_cases (sum : SummaryBlock) (segno : Nat) (initial : Bool) (off : Nat) :
    let site := Site.entry segno (if initial then 0 else 1) off
    let nid := (sum.entries off).nid
    let f := gc_node_entry O sum segno initial off s
    f = .stop .GC_BLOCKED (s.emits site blocked_acts) ∨
    f = .next (s.emits site (valid_reads false)) ∨
    (initial ∧ f = .next (s.emits site (valid_reads true ++ [.ra_node_page nid]))) ∨
    (initial = false ∧ f = .next (s.emits site (valid_reads true ++ [.get_page (.node nid) false]))) ∨
    (initial = false ∧ ∃ wb, f = .next (s.emits site (valid_reads true ++
      [.get_page (.node nid) true, .page_writeback wb] ++ (if wb then [] else [.set_page_dirty]) ++
      [.put_page (.node nid)]))) := by
  simp only [gc_node_entry, GcState.emit_eq_emits, check_valid_map_eq, GcState.emits_emits,
    GcState.emits_clock, List.length_singleton, List.length_cons, List.length_nil]
  cases O.should_do_checkpoint s.clock
  · cases O.f2fs_test_bit _ segno off
    · exact .inr (.inl rfl)
    · cases initial
      · cases O.get_node_page _ (sum.entries off).nid
        · exact .inr (.inr (.inr (.inl ⟨rfl, rfl⟩)))
        · generalize O.PageWriteback _ _ = wb
          exact .inr (.inr (.inr (.inr ⟨rfl, wb, by cases wb <;> simp [valid_reads]⟩)))
      · exact .inr (.inr (.inl ⟨rfl, rfl⟩))
  · exact .inl rfl

/-- Everything one iteration of `gc_data_segment` can do. -/
theorem gc_data_entry_cases (l : NodeLayout) (g : Geometry) (sum : SummaryBlock) (segno : Nat)
    (gc_type : GcType) (phase off : Nat) :
    let site := Site.entry segno phase off
    let e := sum.entries off
    let blkaddr := (g.START_BLOCK segno + off) % 2 ^ 32
    let f := gc_data_entry O l g sum segno gc_type phase off s
    f = .stop .GC_BLOCKED (s.emits site blocked_acts) ∨
    f = .next (s.emits site (valid_reads false)) ∨
    (phase = 0 ∧ f = .next (s.emits site (valid_reads true ++ [.ra_node_page e.nid]))) ∨
    (phase ≠ 0 ∧ ∃ D, DnodeStale e.nid blkaddr D ∧ f = .next (s.emits site (valid_reads true ++ D))) ∨
    (phase ≠ 0 ∧ ∃ dni nofs, dni.version = e.version ∧
      let checked := valid_reads true ++ dnode_reads e.nid dni nofs blkaddr
      let bidx := (start_bidx_of_node l nofs + e.ofs_in_node) % 2 ^ 32
      (phase = 1 ∧ f = .next (s.emits site (checked ++ [.ra_node_page dni.ino]))) ∨
      (phase = 2 ∧ f = .next (pin_data_inode O site dni.ino bidx (s.emits site checked))) ∨
      (phase ≠ 1 ∧ phase ≠ 2 ∧
        f = .next (move_pinned_page O site dni.ino bidx gc_type (s.emits site checked)))) := by
  simp only [gc_data_entry, GcState.emit_eq_emits, check_valid_map_eq, GcState.emits_emits,
    GcState.emits_clock, List.length_singleton, List.singleton_append, List.cons_append,
    List.nil_append]
  cases O.should_do_checkpoint s.clock
  · cases O.f2fs_test_bit _ segno off
    · exact .inr (.inl rfl)
    · by_cases h0 : phase = 0
      · exact .inr (.inr (.inl ⟨h0, by simp [h0, valid_reads]⟩))
      simp only [Bool.false_eq_true, if_false, if_true, reduceCtorEq, if_neg h0]
      generalize hd : check_dnode O _ _ _ _ = r
      rcases check_dnode_cases hd with ⟨h1, D, hD, h2⟩ | ⟨h1, hv, h2⟩
      · exact .inr (.inr (.inr (.inl ⟨h0, D, hD, by simp [h1, h2, valid_reads]⟩)))
      refine .inr (.inr (.inr (.inr ⟨h0, r.1.2.1, r.1.2.2, hv, ?_⟩)))
      simp only [h1, h2, reduceCtorEq, if_false, GcState.emits_emits, GcState.emits_clock]
      by_cases h1 : phase = 1
      · exact .inl ⟨h1, by simp [h1, valid_reads]⟩
      by_cases h2 : phase = 2
      · exact .inr (.inl ⟨h2, by simp [h2, valid_reads]⟩)
      · exact .inr (.inr ⟨h1, h2, by simp [h1, h2, valid_reads]⟩)
  · exact .inl rfl

/-- The status a loop of an evacuator ends with: `GC_DONE` when it ran to the end. -/
def Flow.status : Flow → GcStatus
  | .next _ => .GC_DONE
  | .stop err _ => err

@[simp] theorem Flow.status_next (s : GcState) : (Flow.next s).status = .GC_DONE := rfl

@[simp] theorem Flow.status_stop (err : GcStatus) (s : GcState) : (Flow.stop err s).status = err :=
  rfl

theorem gc_data_segment_eq (l : NodeLayout) (g : Geometry) (sum : SummaryBlock) (segno : Nat)
    (gc_type : GcType) :
    let f := for_each (fun phase => for_each (gc_data_entry O l g sum segno gc_type phase)
      (List.range g.blocks_per_seg)) (List.range 4) s
    gc_data_segment O l g sum segno gc_type s =
      (f.status, if gc_type = .FG_GC then f.state.emit .top .submit_bio else f.state) := by
  simp only [gc_data_segment]
  split <;> rename_i heq <;> rw [heq] <;> rfl

theorem gc_node_segment_eq (g : Geometry) (sum : SummaryBlock) (segno : Nat) (gc_type : GcType) :
    let f := for_each (fun initial => for_each (gc_node_entry O sum segno initial)
      (List.range g.blocks_per_seg)) [true, false] s
    gc_node_segment O g sum segno gc_type s =
      (f.status, match f with
        | .stop _ s => s
        | .next s => if gc_type = .FG_GC then s.emit .top .sync_node_pages else s) := by
  simp only [gc_node_segment]
  split <;> rename_i heq <;> rw [heq] <;> rfl

end Emits

end f2fs.gc
