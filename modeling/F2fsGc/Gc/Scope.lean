import F2fsGc.Gc.Collect

open f2fs.segment

namespace f2fs.gc

/-- Whether a call is a victim selection. -/
def Act.isSelect : Act → Bool
  | .get_victim _ _ => true
  | _ => false

theorem Ev.victim?_eq_none {e : Ev} (h : e.act.isSelect = false) : e.victim? = none := by
  obtain ⟨site, a⟩ := e
  cases a <;> first | rfl | cases h

theorem Act.isSelect_of_writeback {a : Act} (h : a.writeback) : a.isSelect = false := by
  cases a <;> first | rfl | cases h

/-- Whether a site is the top level or an iteration over a block of the segments `[v, v + n)`. -/
def Site.within (v n : Nat) : Site → Bool
  | .top => true
  | .entry seg _ _ => v ≤ seg ∧ seg < v + n

@[simp] theorem Site.within_top (v n : Nat) : Site.top.within v n = true := rfl

/-- Events of evacuations of the segments `[v, v + n)`: none is a selection, and every
iteration step among them is over a block of one of those segments. -/
def Scoped (v n : Nat) (E : List Ev) : Prop :=
  ∀ e ∈ E, e.act.isSelect = false ∧ e.site.within v n = true

section Scoped

variable {v n : Nat}

theorem Scoped.nil : Scoped v n [] := fun _ h => absurd h (List.not_mem_nil _)

theorem Scoped.append {A B : List Ev} (hA : Scoped v n A) (hB : Scoped v n B) :
    Scoped v n (A ++ B) :=
  fun e he => (List.mem_append.mp he).elim (hA e) (hB e)

theorem Scoped.mono {v' n' : Nat} {E : List Ev} (h : Scoped v n E) (hlo : v' ≤ v)
    (hhi : v + n ≤ v' + n') : Scoped v' n' E := by
  intro e he
  obtain ⟨h1, h2⟩ := h e he
  refine ⟨h1, ?_⟩
  cases hs : e.site with
  | top => rfl
  | entry seg p off =>
    rw [hs] at h2
    simp only [Site.within, decide_eq_true_eq] at h2 ⊢
    omega

/-- Calls none of which is a selection, made at a site within `[v, v + n)`. -/
theorem Scoped.of_acts {acts : List Act} (h : acts.all (fun a => !a.isSelect) = true)
    {site : Site} (hs : site.within v n = true) : Scoped v n (acts.map (Ev.mk site)) := by
  intro e he
  obtain ⟨a, ha, rfl⟩ := List.mem_map.mp he
  exact ⟨by simpa using List.all_eq_true.mp h a ha, hs⟩

theorem Scoped.emits {acts : List Act} (h : acts.all (fun a => !a.isSelect) = true)
    {site : Site} (hs : site.within v n = true) (s : GcState) :
    ∃ E, (s.emits site acts).trace = s.trace ++ E ∧ Scoped v n E :=
  ⟨_, rfl, .of_acts h hs⟩

theorem Scoped.filterMap_victim {E : List Ev} (h : Scoped v n E) : E.filterMap Ev.victim? = [] :=
  List.filterMap_eq_nil_iff.mpr fun e he => Ev.victim?_eq_none (h e he).1

end Scoped

section Segment

variable {O : Collab} {site : Site} {v n : Nat}

theorem pin_data_inode_scoped (hs : site.within v n = true) (ino bidx : Nat) (s : GcState) :
    ∃ E, (pin_data_inode O site ino bidx s).trace = s.trace ++ E ∧ Scoped v n E := by
  rcases @pin_data_inode_cases O site s ino bidx with h | h | h <;> rw [h]
  · exact Scoped.emits (by rfl) hs s
  · exact Scoped.emits (by rfl) hs s
  · let pinned := [Act.iget ino true, .get_page (.data ino bidx) true, .put_page (.data ino bidx)]
    rcases @add_gc_inode_cases site (s.emits site pinned) ino with ⟨-, h'⟩ | ⟨-, h'⟩ <;> rw [h']
    · exact ⟨(pinned ++ [Act.iput ino]).map (Ev.mk site), by simp [pinned],
        Scoped.of_acts (by rfl) hs⟩
    · exact ⟨(pinned ++ [Act.ilist_add ino]).map (Ev.mk site), by simp [pinned],
        Scoped.of_acts (by rfl) hs⟩

theorem move_pinned_page_scoped (hs : site.within v n = true) (ino bidx : Nat) (gc_type : GcType)
    (s : GcState) :
    ∃ E, (move_pinned_page O site ino bidx gc_type s).trace = s.trace ++ E ∧ Scoped v n E := by
  rcases @move_pinned_page_cases O site s ino bidx gc_type with ⟨-, h⟩ | ⟨-, h⟩ | ⟨-, h⟩ <;>
    rw [h]
  · exact Scoped.emits (by rfl) hs s
  · exact Scoped.emits (by rfl) hs s
  · let found := [Act.find_gc_inode ino true, .get_page (.data ino bidx) true]
    obtain ⟨acts, hacts, hmv⟩ := @move_data_page_cases O site (s.emits site found) ino bidx gc_type
    have hall : acts.all (fun a => !a.isSelect) = true :=
      List.all_eq_true.mpr fun a ha => by simp [Act.isSelect_of_writeback (hacts a ha)]
    rw [hmv]
    exact ⟨(found ++ (Act.move_data_page ino bidx :: acts ++ [Act.put_page (.data ino bidx)])).map
      (Ev.mk site), by simp [found], Scoped.of_acts
        (by simp only [found, List.all_append, List.all_cons, List.all_nil, hall]; rfl) hs⟩

theorem gc_node_entry_scoped (sum : SummaryBlock) (segno : Nat) (initial : Bool) (off : Nat)
    (s : GcState) :
    ∃ E, (gc_node_entry O sum segno initial off s).state.trace = s.trace ++ E ∧
      Scoped segno 1 E := by
  have hs : (Site.entry segno (if initial then 0 else 1) off).within segno 1 = true := by
    simp [Site.within]
  rcases @gc_node_entry_cases O s sum segno initial off with
    h | h | ⟨-, h⟩ | ⟨-, h⟩ | ⟨-, wb, h⟩ <;> rw [h] <;> simp only [Flow.state_next, Flow.state_stop]
  iterate 4 exact Scoped.emits (by rfl) hs s
  cases wb <;> exact Scoped.emits (by rfl) hs s

theorem gc_data_entry_scoped (l : NodeLayout) (g : Geometry) (sum : SummaryBlock) (segno : Nat)
    (gc_type : GcType) (phase off : Nat) (s : GcState) :
    ∃ E, (gc_data_entry O l g sum segno gc_type phase off s).state.trace = s.trace ++ E ∧
      Scoped segno 1 E := by
  have hs : (Site.entry segno phase off).within segno 1 = true := by simp [Site.within]
  rcases gc_data_entry_cases (O := O) (s := s) l g sum segno gc_type phase off with
    h | h | ⟨-, h⟩ | ⟨-, D, hD, h⟩ | ⟨-, dni, nofs, -, ⟨-, h⟩ | ⟨-, h⟩ | ⟨-, -, h⟩⟩ <;>
    rw [h] <;> simp only [Flow.state_next, Flow.state_stop]
  iterate 3 exact Scoped.emits (by rfl) hs s
  · exact Scoped.emits (by rcases hD with rfl | ⟨_, rfl⟩ | ⟨_, _, _, _, rfl⟩ <;> rfl) hs s
  · exact Scoped.emits (by rfl) hs s
  · obtain ⟨E, hE, hsc⟩ := pin_data_inode_scoped (O := O) hs dni.ino
      ((start_bidx_of_node l nofs + (sum.entries off).ofs_in_node) % 2 ^ 32)
      (s.emits (.entry segno phase off) (valid_reads true ++
        dnode_reads (sum.entries off).nid dni nofs ((g.START_BLOCK segno + off) % 2 ^ 32)))
    exact ⟨_, by rw [hE, GcState.emits_trace, List.append_assoc],
      (Scoped.of_acts (by rfl) hs).append hsc⟩
  · obtain ⟨E, hE, hsc⟩ := move_pinned_page_scoped (O := O) hs dni.ino
      ((start_bidx_of_node l nofs + (sum.entries off).ofs_in_node) % 2 ^ 32) gc_type
      (s.emits (.entry segno phase off) (valid_reads true ++
        dnode_reads (sum.entries off).nid dni nofs ((g.START_BLOCK segno + off) % 2 ^ 32)))
    exact ⟨_, by rw [hE, GcState.emits_trace, List.append_assoc],
      (Scoped.of_acts (by rfl) hs).append hsc⟩

theorem gc_node_segment_scoped (g : Geometry) (sum : SummaryBlock) (segno : Nat)
    (gc_type : GcType) (s : GcState) :
    ∃ E, (gc_node_segment O g sum segno gc_type s).2.trace = s.trace ++ E ∧ Scoped segno 1 E := by
  obtain ⟨E, hE, hsc⟩ := for_each_appends (Scoped segno 1) .nil (fun _ _ => .append)
    [true, false] (fun initial _ s => for_each_appends _ .nil (fun _ _ => .append)
      (List.range g.blocks_per_seg)
        (fun off _ s => gc_node_entry_scoped (O := O) sum segno initial off s) s) s
  rw [gc_node_segment_eq]
  generalize for_each _ _ s = f at hE ⊢
  cases f with
  | stop => exact ⟨E, hE, hsc⟩
  | next s' =>
    dsimp only
    split_ifs
    · rw [Flow.state_next] at hE
      exact ⟨E ++ [Act.sync_node_pages].map (Ev.mk .top), by simp [hE],
        hsc.append (.of_acts (by rfl) (Site.within_top _ _))⟩
    · exact ⟨E, hE, hsc⟩

theorem gc_data_segment_scoped (l : NodeLayout) (g : Geometry) (sum : SummaryBlock) (segno : Nat)
    (gc_type : GcType) (s : GcState) :
    ∃ E, (gc_data_segment O l g sum segno gc_type s).2.trace = s.trace ++ E ∧ Scoped segno 1 E := by
  obtain ⟨E, hE, hsc⟩ := for_each_appends (Scoped segno 1) .nil (fun _ _ => .append)
    (List.range 4) (fun phase _ s => for_each_appends _ .nil (fun _ _ => .append)
      (List.range g.blocks_per_seg)
        (fun off _ s => gc_data_entry_scoped (O := O) l g sum segno gc_type phase off s) s) s
  rw [gc_data_segment_eq]
  split_ifs
  · exact ⟨E ++ [Act.submit_bio].map (Ev.mk .top), by simp [hE],
      hsc.append (.of_acts (by rfl) (Site.within_top _ _))⟩
  · exact ⟨E, hE, hsc⟩

/-- `do_garbage_collect(sbi, segno, ..)` makes its iteration steps over blocks of `segno`
only, and selects nothing. -/
theorem do_garbage_collect_scoped (l : NodeLayout) (g : Geometry) (segno : Nat)
    (gc_type : GcType) (s : GcState) :
    ∃ E, (do_garbage_collect O l g segno gc_type s).2.trace = s.trace ++ E ∧ Scoped segno 1 E := by
  rw [do_garbage_collect_eq]
  cases O.get_sum_page s.clock segno with
  | none => exact Scoped.emits (by rfl) (Site.within_top _ _) s
  | some sum =>
    let s1 := s.emits .top [.get_page (.sum segno) true]
    have wrap : ∀ r : GcStatus × GcState, (∃ E, r.2.trace = s1.trace ++ E ∧ Scoped segno 1 E) →
        ∃ E, (r.2.emits .top [.put_page (.sum segno), .gc_result r.1]).trace = s.trace ++ E ∧
          Scoped segno 1 E := by
      rintro r ⟨E, hE, hsc⟩
      let top := List.map (Ev.mk .top)
      exact ⟨top [.get_page (.sum segno) true] ++ E ++ top [.put_page (.sum segno), .gc_result r.1],
        by simp [hE, s1, top], ((Scoped.of_acts (by rfl) (Site.within_top _ _)).append hsc).append
          (.of_acts (by rfl) (Site.within_top _ _))⟩
    dsimp only
    cases sum.sum_type
    · exact wrap _ (gc_node_segment_scoped g sum segno gc_type s1)
    · exact wrap _ (gc_data_segment_scoped l g sum segno gc_type s1)

theorem gc_section_scoped (l : NodeLayout) (g : Geometry) (gc_type : GcType) (segno n : Nat) :
    ∀ (is : List Nat), (∀ i ∈ is, i < n) → ∀ (status : GcStatus) (nfree : Nat) (s : GcState),
      ∃ E, (gc_section O l g gc_type segno is status nfree s).2.2.2.trace = s.trace ++ E ∧
        Scoped segno n E
  | [], _, _, _, s => ⟨[], by simp [gc_section], .nil⟩
  | i :: is, his, _, nfree, s => by
    obtain ⟨E, hE, hsc⟩ := do_garbage_collect_scoped (O := O) l g (segno + i) gc_type s
    have hi := his i (List.mem_cons_self i is)
    have hsc' : Scoped segno n E := hsc.mono (by omega) (by omega)
    simp only [gc_section]
    generalize do_garbage_collect O l g (segno + i) gc_type s = r at hE ⊢
    split_ifs
    · exact ⟨E, hE, hsc'⟩
    · obtain ⟨E', hE', hsc''⟩ := gc_section_scoped l g gc_type segno n is
        (fun j hj => his j (List.mem_cons_of_mem i hj)) _ _ _
      exact ⟨E ++ E', by rw [hE', hE, List.append_assoc], hsc'.append hsc''⟩

end Segment

/-- What the last victim selection of `E` returned, if `E` has one. -/
def last_selection (E : List Ev) : Option (Option Nat) := (E.filterMap Ev.victim?).getLast?

/-- Whether an event at `site` may come after the selections that returned `m`. -/
def Site.in_victim (n : Nat) : Option Nat → Site → Bool
  | some v, site => site.within v n
  | none, site => site = .top

/-- The victim discipline of `f2fs_gc`: the monitor keeps what the last selection returned, and
fails on an event at a site outside the segments `[v, v + n)` of that victim `v`; before any
victim, and after a selection that found none, every event must be at the top level. -/
def victim_step (n : Nat) (m : Option Nat) (e : Ev) : Option (Option Nat) :=
  if e.site.in_victim n m then some (e.victim?.getD m) else none

theorem victim_step_eq {n : Nat} {m m' : Option Nat} {e : Ev} (h : victim_step n m e = some m') :
    e.site.in_victim n m = true ∧ m' = e.victim?.getD m := by
  unfold victim_step at h
  split_ifs at h with hin
  exact ⟨hin, (Option.some.inj h).symm⟩

theorem last_selection_cons (e : Ev) (E : List Ev) (m : Option Nat) :
    (last_selection (e :: E)).getD m = (last_selection E).getD (e.victim?.getD m) := by
  unfold last_selection
  cases h : e.victim? <;> simp [List.filterMap_cons, h, List.getLast?_cons]

/-- The monitor's state is what the last selection returned. -/
theorem replay_victim_state {n : Nat} : ∀ {m m' : Option Nat} {E : List Ev},
    replay (victim_step n) m E = some m' → m' = (last_selection E).getD m
  | _, _, [], h => by simpa [last_selection] using h.symm
  | _, _, e :: E, h => by
    obtain ⟨m1, he, hE⟩ := Option.bind_eq_some.mp h
    rw [last_selection_cons, ← (victim_step_eq he).2]
    exact replay_victim_state hE

/-- A run the monitor accepts from "no victim yet" makes each iteration step over a block of
the section the last selection before it returned. -/
theorem in_victim_of_replay {n : Nat} {E : List Ev} {m' : Option Nat}
    (h : replay (victim_step n) none E = some m') (pre : List Ev) (e : Ev) (post : List Ev)
    (seg phase off : Nat) (hE : E = pre ++ e :: post) (hsite : e.site = .entry seg phase off) :
    ∃ v, last_selection pre = some (some v) ∧ v ≤ seg ∧ seg < v + n := by
  rw [hE, replay_append] at h
  obtain ⟨m0, hpre, h⟩ := Option.bind_eq_some.mp h
  obtain ⟨m1, he, -⟩ := Option.bind_eq_some.mp h
  have hin := (victim_step_eq he).1
  rw [replay_victim_state hpre, hsite] at hin
  rcases hl : last_selection pre with _ | _ | v <;> rw [hl] at hin
  · simp [Site.in_victim] at hin
  · simp [Site.in_victim] at hin
  · simpa [Site.in_victim, Site.within] using hin

theorem replay_const {σ : Type} {step : σ → Ev → Option σ} {m : σ} :
    ∀ {E : List Ev}, (∀ e ∈ E, step m e = some m) → replay step m E = some m
  | [], _ => rfl
  | e :: E, h => by
    rw [replay_cons, h e (List.mem_cons_self e E)]
    exact replay_const fun e' he' => h e' (List.mem_cons_of_mem e he')

/-- Top-level calls other than selections keep the victim. -/
theorem replay_victim_top (n : Nat) (m : Option Nat) {acts : List Act}
    (h : acts.all (fun a => !a.isSelect) = true) :
    replay (victim_step n) m (acts.map (Ev.mk .top)) = some m :=
  replay_const fun e he => by
    obtain ⟨a, ha, rfl⟩ := List.mem_map.mp he
    have hsel : a.isSelect = false := by simpa using List.all_eq_true.mp h a ha
    cases m <;> simp [victim_step, Site.in_victim, Ev.victim?_eq_none (e := ⟨.top, a⟩) hsel]

theorem Scoped.replay_victim {v n : Nat} {E : List Ev} (h : Scoped v n E) :
    replay (victim_step n) (some v) E = some (some v) :=
  replay_const fun e he => by
    obtain ⟨hsel, hin⟩ := h e he
    simp [victim_step, Site.in_victim, hin, Ev.victim?_eq_none hsel]

section Collect

variable {cfg : GcConfig} {l : NodeLayout} {O : Collab} {nGC old : Int}

theorem gc_loop_head_victim (n : Nat) (m : Option Nat) (nfree : Nat) (gc_type : GcType)
    (s : GcState) :
    Steps (victim_step n) s (gc_loop_head O nGC old nfree gc_type s).2.2 m m := by
  rcases @gc_loop_head_cases O nGC old nfree gc_type s with
    ⟨-, h⟩ | ⟨-, _, _, h⟩ <;> rw [h] <;> exact .emits (replay_victim_top n m (by rfl))

/-- A selection sets the victim to what it returned. -/
theorem __get_victim_victim (n : Nat) (m : Option Nat) {gc_type : GcType} {vs vs' : VictimState}
    {s s' : GcState} {r : Option Nat} (h : __get_victim cfg O gc_type vs s = some (r, vs', s')) :
    Steps (victim_step n) s s' m r := by
  rw [__get_victim_eq] at h
  obtain ⟨⟨r0, _⟩, -, h⟩ := Option.map_eq_some'.mp h
  cases h
  exact .emits (by cases m <;> cases r0 <;> rfl)

theorem gc_loop_victim : ∀ {fuel : Nat} {gc_type : GcType} {gc_status : GcStatus} {nfree : Nat}
    {vs : VictimState} {s : GcState} {r : GcStatus × Nat × GcType × VictimState × GcState}
    (m : Option Nat), gc_loop cfg l O nGC old fuel gc_type gc_status nfree vs s = some r →
      ∃ m', Steps (victim_step cfg.g.segs_per_sec) s r.2.2.2.2 m m' := by
  intro fuel
  induction fuel with
  | zero => intro _ _ _ _ _ _ _ h; simp [gc_loop] at h
  | succ fuel ih =>
    intro gc_type gc_status nfree vs s r m h
    obtain ⟨fuel', hf, brk, gc_type', s1, hh, hcase⟩ := gc_loop_cases h
    obtain rfl := Nat.succ.inj hf
    have h1 := @gc_loop_head_victim O nGC old cfg.g.segs_per_sec m nfree gc_type s
    rw [hh] at h1
    rcases hcase with ⟨-, rfl⟩ | ⟨-, res, vs', s2, hv, ⟨-, rfl⟩ | ⟨segno, rfl, stop, st, nf, s3, hs,
      ⟨-, rfl⟩ | ⟨-, hrec⟩⟩⟩
    · exact ⟨m, h1⟩
    · exact ⟨_, h1.trans (__get_victim_victim _ m hv)⟩
    all_goals
      obtain ⟨E, hE, hsc⟩ := gc_section_scoped (O := O) l cfg.g gc_type' segno cfg.g.segs_per_sec
        (List.range cfg.g.segs_per_sec) (fun i hi => List.mem_range.mp hi) gc_status nfree s2
      rw [hs] at hE
      have h13 := h1.trans ((__get_victim_victim _ m hv).trans ⟨E, hE, hsc.replay_victim⟩)
    · exact ⟨_, h13⟩
    · obtain ⟨m', h4⟩ := ih _ hrec
      exact ⟨m', h13.trans h4⟩

theorem iput_acts_all (inos : List Nat) : (iput_acts inos).all (fun a => !a.isSelect) = true :=
  List.all_eq_true.mpr fun a ha => by
    obtain ⟨ino, -, ha⟩ := List.mem_flatMap.mp ha
    rcases List.mem_pair.mp ha with rfl | rfl <;> rfl

theorem gc_more_victim : ∀ {fuel : Nat} {gc_type : GcType} {vs : VictimState} {s : GcState}
    {r : GcStatus × VictimState × GcState} (m : Option Nat),
    gc_more cfg l O nGC fuel gc_type vs s = some r →
      ∃ m', Steps (victim_step cfg.g.segs_per_sec) s r.2.2 m m' := by
  intro fuel
  induction fuel with
  | zero => intro _ _ _ _ _ h; simp [gc_more] at h
  | succ fuel ih =>
    intro gc_type vs s r m h
    obtain ⟨fuel', hf, old', s1, hh, st, nfree, gc_type', vs', s2, hl, hcase⟩ := gc_more_cases h
    obtain rfl := Nat.succ.inj hf
    let n := cfg.g.segs_per_sec
    have h1 : Steps (victim_step n) s s1 m m := by
      obtain ⟨short, k, h⟩ := gc_more_head_cases (O := O) s
      rw [hh] at h
      cases h
      exact .emits (replay_victim_top n m (by cases short <;> rfl))
    obtain ⟨m1, hl'⟩ := gc_loop_victim m hl
    have h2 : Steps (victim_step n) s (s2.emit .top (.has_not_enough_free_secs
        (O.has_not_enough_free_secs s2.clock))) m m1 :=
      h1.trans (hl'.trans (.emit (by cases m1 <;> rfl)))
    have hcp : ∀ s, Steps (victim_step n) s (write_checkpoint (st = .GC_BLOCKED) s) m1 m1 :=
      fun s => by
        rw [write_checkpoint_eq]
        exact .emits (replay_victim_top n m1 (by split_ifs <;> rfl))
    have hfin : ∀ s, Steps (victim_step n) s (gc_finish st s).2 m1 m1 := fun s => by
      rw [gc_finish_eq]
      exact ⟨_, rfl, replay_victim_top n m1
        (by rw [List.all_append, List.all_append, iput_acts_all]; rfl)⟩
    dsimp only at hcase
    rcases hcase with ⟨-, -, hrec⟩ | ⟨-, -, rfl⟩ | ⟨-, rfl⟩
    · obtain ⟨m', h4⟩ := ih m1 hrec
      exact ⟨m', h2.trans ((hcp _).trans h4)⟩
    · exact ⟨m1, h2.trans ((hcp _).trans (hfin _))⟩
    · exact ⟨m1, h2.trans (hfin _)⟩

/-- Whatever the collaborators answer, a call of `f2fs_gc` that returns makes every step of
its evacuation loops over a block of the section the last selection before the step
returned: `segno + i` for `i < segs_per_sec` in `do_garbage_collect(sbi, segno + i, ..)`. No
block of another segment is tested, read, pinned, moved or dirtied, across every victim and
every pass back to `gc_more`. -/
theorem f2fs_gc_evacuates_only_victims {fuel : Nat} {vs : VictimState} {trace : List Ev}
    {r : GcStatus × VictimState × GcState} (h : f2fs_gc cfg l O nGC fuel vs trace = some r) :
    ∃ E, r.2.2.trace = trace ++ E ∧
      ∀ pre e post seg phase off, E = pre ++ e :: post → e.site = .entry seg phase off →
        ∃ v, last_selection pre = some (some v) ∧ v ≤ seg ∧ seg < v + cfg.g.segs_per_sec := by
  obtain ⟨_, E, hE, hrep⟩ := gc_more_victim none h
  exact ⟨E, hE, in_victim_of_replay hrep⟩

/-- A background call on the two-segment section evacuates both segments of its victim. -/
theorem one_section_run_evacuates_only_victims : ∃ r,
    f2fs_gc one_sec_config ⟨1018, 1018, 923⟩ (idle_collab false false) 1 10 one_sec_state [] =
      some r ∧ ∃ E, r.2.2.trace = [] ++ E ∧
      ∀ pre e post seg phase off, E = pre ++ e :: post → e.site = .entry seg phase off →
        ∃ v, last_selection pre = some (some v) ∧ v ≤ seg ∧
          seg < v + one_sec_config.g.segs_per_sec := by
  obtain ⟨r, hr⟩ := Option.isSome_iff_exists.mp (by decide :
    (f2fs_gc one_sec_config ⟨1018, 1018, 923⟩ (idle_collab false false) 1 10 one_sec_state
      []).isSome)
  exact ⟨r, hr, f2fs_gc_evacuates_only_victims hr⟩

end Collect

end f2fs.gc
