import F2fsGc.Gc.Collect

open f2fs.segment

namespace f2fs.gc

/-- The nid an event looks up in the NAT (`get_node_info`). -/
def Ev.nat_lookup? (e : Ev) : Option Nat :=
  match e.act with
  | .get_node_info nid _ => some nid
  | _ => none

/-- Where an event dirties a page (`set_page_dirty`). -/
def Ev.dirtied? (e : Ev) : Option Site :=
  match e.act with
  | .set_page_dirty => some e.site
  | _ => none

/-- Events that look nothing up in the NAT. -/
def NoNatLookup (E : List Ev) : Prop := E.filterMap Ev.nat_lookup? = []

theorem NoNatLookup.append {A B : List Ev} (hA : NoNatLookup A) (hB : NoNatLookup B) :
    NoNatLookup (A ++ B) := by
  unfold NoNatLookup at *
  rw [List.filterMap_append, hA, hB, List.nil_append]

/-- One iteration of either pass of `gc_node_segment` reads the SIT, never the NAT. -/
theorem gc_node_entry_skips_nat (O : Collab) (sum : SummaryBlock) (segno : Nat) (initial : Bool)
    (off : Nat) (s : GcState) :
    ∃ E, (gc_node_entry O sum segno initial off s).state.trace = s.trace ++ E ∧ NoNatLookup E := by
  rcases @gc_node_entry_cases O s sum segno initial off with
    h | h | ⟨-, h⟩ | ⟨-, h⟩ | ⟨-, wb, h⟩ <;> rw [h]
  all_goals refine ⟨_, rfl, ?_⟩
  · rfl
  · rfl
  · rfl
  · rfl
  · cases wb <;> rfl

/-- `gc_node_segment` never looks a node up in the NAT, whatever its collaborators answer: what
it dirties is decided by the SIT bit and the page cache alone. -/
theorem gc_node_segment_skips_nat (O : Collab) (g : Geometry) (sum : SummaryBlock) (segno : Nat)
    (gc_type : GcType) (s : GcState) :
    ∃ E, (gc_node_segment O g sum segno gc_type s).2.trace = s.trace ++ E ∧ NoNatLookup E := by
  obtain ⟨E, hE, hN⟩ := for_each_appends NoNatLookup rfl (fun _ _ => .append) [true, false]
    (fun initial _ s => for_each_appends NoNatLookup rfl (fun _ _ => .append) (List.range g.blocks_per_seg)
      (fun off _ s => gc_node_entry_skips_nat O sum segno initial off s) s) s
  rw [gc_node_segment_eq]
  generalize for_each _ _ s = f at hE ⊢
  cases f with
  | stop => exact ⟨E, hE, hN⟩
  | next s' =>
    dsimp only
    split_ifs
    · rw [Flow.state_next] at hE
      exact ⟨E ++ [⟨.top, .sync_node_pages⟩], by simp [hE], hN.append (by rfl)⟩
    · exact ⟨E, hE, hN⟩

/-- Whether a call dirties a page. -/
def Act.isDirty : Act → Bool
  | .set_page_dirty => true
  | _ => false

/-- The calls of a second-pass iteration over entry `off` before it dirties the node page: the
checkpoint test, `check_valid_map` finding the block valid, and `get_node_page` returning the page
of the entry's nid, not under writeback. -/
def dirty_checks (sum : SummaryBlock) (off : Nat) : List Act :=
  valid_reads true ++ [.get_page (.node (sum.entries off).nid) true, .page_writeback false]

/-- The event `e`, after `pre`, dirties a page only as a step of a second-pass iteration over
`segno` whose checks passed: the calls right before it are `dirty_checks` at its own site. -/
def DirtyChecked (sum : SummaryBlock) (segno : Nat) (pre : List Ev) (e : Ev) : Prop :=
  e.act = .set_page_dirty →
    ∃ off pre', e.site = .entry segno 1 off ∧ pre = pre' ++ (dirty_checks sum off).map (Ev.mk e.site)

section Dirty

variable {sum : SummaryBlock} {segno : Nat}

theorem DirtyChecked.append_left {pre : List Ev} {e : Ev} (h : DirtyChecked sum segno pre e)
    (A : List Ev) : DirtyChecked sum segno (A ++ pre) e := fun hd => by
  obtain ⟨off, pre', hsite, rfl⟩ := h hd
  exact ⟨off, A ++ pre', hsite, by simp⟩

/-- Calls none of which dirties a page need no justification. -/
theorem justified_of_clean_acts {acts : List Act} (h : acts.all (fun a => !a.isDirty) = true)
    (site : Site) : Justified (DirtyChecked sum segno) (acts.map (Ev.mk site)) := by
  refine .of_forall fun e he pre hd => ?_
  obtain ⟨a, ha, rfl⟩ := List.mem_map.mp he
  have := List.all_eq_true.mp h a ha
  simp only at hd
  simp [hd, Act.isDirty] at this

/-- One iteration of either pass dirties at most the entry's node page, right after the checks
of the second pass. -/
theorem gc_node_entry_dirties_checked (O : Collab) (initial : Bool) (off : Nat) (s : GcState) :
    ∃ E, (gc_node_entry O sum segno initial off s).state.trace = s.trace ++ E ∧
      Justified (DirtyChecked sum segno) E := by
  rcases @gc_node_entry_cases O s sum segno initial off with
    h | h | ⟨-, h⟩ | ⟨-, h⟩ | ⟨rfl, wb, h⟩ <;> rw [h] <;>
    simp only [Flow.state_next, Flow.state_stop, GcState.emits_trace]
  · exact ⟨_, rfl, justified_of_clean_acts (by rfl) _⟩
  · exact ⟨_, rfl, justified_of_clean_acts (by rfl) _⟩
  · exact ⟨_, rfl, justified_of_clean_acts (by rfl) _⟩
  · exact ⟨_, rfl, justified_of_clean_acts (by rfl) _⟩
  · cases wb
    · let site := Site.entry segno 1 off
      refine ⟨(dirty_checks sum off).map (Ev.mk site) ++
        ⟨site, .set_page_dirty⟩ :: [⟨site, .put_page (.node (sum.entries off).nid)⟩],
        by simp [site, dirty_checks, valid_reads], .single ?_ ?_ ?_⟩
      · intro e he pre hd
        obtain ⟨a, ha, rfl⟩ := List.mem_map.mp he
        simp only at hd
        simp [hd, dirty_checks, valid_reads] at ha
      · intro e he pre hd
        simp only [List.mem_singleton] at he
        simp [he] at hd
      · exact fun _ => ⟨off, [], rfl, by simp⟩
    · exact ⟨_, rfl, justified_of_clean_acts (by rfl) _⟩

end Dirty

/-- Whatever the collaborators answer, `gc_node_segment` dirties a node page only in its second
pass, right after the calls of that iteration found the block valid in the SIT
(`check_valid_map` returned `GC_OK`) and `get_node_page` returned the entry's node page, not
under writeback. -/
theorem gc_node_segment_dirties_checked (O : Collab) (g : Geometry) (sum : SummaryBlock)
    (segno : Nat) (gc_type : GcType) (s : GcState) :
    ∃ E, (gc_node_segment O g sum segno gc_type s).2.trace = s.trace ++ E ∧
      Justified (DirtyChecked sum segno) E := by
  have happ : ∀ A B : List Ev, Justified (DirtyChecked sum segno) A →
      Justified (DirtyChecked sum segno) B → Justified (DirtyChecked sum segno) (A ++ B) :=
    fun _ _ => .append fun A _ _ h => h.append_left A
  obtain ⟨E, hE, hJ⟩ := for_each_appends _ .nil happ [true, false]
    (fun initial _ s => for_each_appends _ .nil happ (List.range g.blocks_per_seg)
      (fun off _ s => gc_node_entry_dirties_checked O initial off s) s) s
  rw [gc_node_segment_eq]
  generalize for_each _ _ s = f at hE ⊢
  cases f with
  | stop => exact ⟨E, hE, hJ⟩
  | next s' =>
    dsimp only
    split_ifs
    · rw [Flow.state_next] at hE
      exact ⟨E ++ [Act.sync_node_pages].map (Ev.mk .top), by simp [hE],
        happ _ _ hJ (justified_of_clean_acts (by rfl) _)⟩
    · exact ⟨E, hE, hJ⟩

/-- A node summary whose every entry is nid 7. -/
def nid7_sum : SummaryBlock := ⟨fun _ => ⟨7, 0, 0⟩, .SUM_TYPE_NODE⟩

/-- Collaborators under which every block is valid in the SIT and every node page is in the
cache, not under writeback. -/
def valid_node_collab : Collab :=
  { idle_collab false false with
    f2fs_test_bit := fun _ _ _ => true
    get_node_page := fun _ _ => true }

/-- A background node pass over segment 0 of the one-section device, whose one block holds nid 7:
the second pass dirties nid 7's page, and the pass looks nothing up in the NAT, so it does so
even when the NAT records nid 7 at another block than `START_BLOCK(0) + 0`. -/
theorem node_pass_dirties_without_nat_check :
    ∃ s, gc_node_segment valid_node_collab one_sec_geometry nid7_sum 0 .BG_GC ⟨[], []⟩ =
        (.GC_DONE, s) ∧
      s.trace.filterMap Ev.dirtied? = [.entry 0 1 0] ∧ s.trace.filterMap Ev.nat_lookup? = [] := by
  obtain ⟨E, hE, hN⟩ :=
    gc_node_segment_skips_nat valid_node_collab one_sec_geometry nid7_sum 0 .BG_GC ⟨[], []⟩
  refine ⟨(gc_node_segment valid_node_collab one_sec_geometry nid7_sum 0 .BG_GC ⟨[], []⟩).2, rfl,
    by decide, ?_⟩
  rw [hE, List.nil_append]
  exact hN

end f2fs.gc
