import F2fsGc.Victim.Select

open f2fs.segment

namespace f2fs.gc

/-- The four mutexes GC takes, listed outermost first. -/
inductive Lock
  | gc_mutex | cp_mutex | sentry_lock | seglist_lock
  deriving DecidableEq, Repr

/-- Position in the nesting order: a lock is never taken while a later one is held. -/
def Lock.rank : Lock → Nat
  | .gc_mutex => 0
  | .cp_mutex => 1
  | .sentry_lock => 2
  | .seglist_lock => 3

/-- A page GC holds a reference to: a node page by nid, a data page by inode number and file
block index, a summary page by segment. -/
inductive Page
  | node (nid : Nat)
  | data (ino bidx : Nat)
  | sum (segno : Nat)
  deriving DecidableEq, Repr

/-- `struct node_info`: the NAT fields GC reads. -/
structure NodeInfo where
  ino : Nat
  version : Nat
  deriving DecidableEq, Repr

/-- `struct f2fs_summary`: the owner of one block of a segment. -/
structure Summary where
  nid : Nat
  version : Nat
  ofs_in_node : Nat
  deriving DecidableEq, Repr

inductive SumType
  | SUM_TYPE_NODE | SUM_TYPE_DATA
  deriving DecidableEq, Repr

/-- `struct f2fs_summary_block`: one entry per block, and the type in its footer. -/
structure SummaryBlock where
  entries : Nat → Summary
  sum_type : SumType

/-- The results of the GC functions (gc.h). -/
inductive GcStatus
  | GC_NONE | GC_ERROR | GC_OK | GC_NEXT | GC_BLOCKED | GC_DONE
  deriving DecidableEq, Repr

/-- Where an event happens: in the iteration `(phase, off)` of an evacuation loop over the
summary of `segno`, or outside those loops. -/
inductive Site
  | top
  | entry (segno phase off : Nat)
  deriving DecidableEq, Repr

/-- A call GC makes, with what it returned. `gc_result`, `success_test` and `gc_return` record
the value a function of this file returns or tests at that point. -/
inductive Act
  | lock (l : Lock)
  | unlock (l : Lock)
  | should_do_checkpoint (r : Bool)
  | block_operations
  | test_valid_bit (r : Bool)
  | ra_node_page (nid : Nat)
  | get_page (pg : Page) (ok : Bool)
  | put_page (pg : Page)
  | get_node_info (nid : Nat) (ni : NodeInfo)
  | ofs_of_node (nofs : Nat)
  | datablock_addr (addr : Nat)
  | page_writeback (r : Bool)
  | set_page_dirty
  | sync_node_pages
  | iget (ino : Nat) (ok : Bool)
  | iput (ino : Nat)
  | find_gc_inode (ino : Nat) (found : Bool)
  | ilist_add (ino : Nat)
  | ilist_del (ino : Nat)
  | move_data_page (ino bidx : Nat)
  | page_mapped (r : Bool)
  | set_cold_data
  | clear_cold_data
  | lock_op
  | unlock_op
  | clear_page_dirty_for_io (r : Bool)
  | S_ISDIR (r : Bool)
  | dec_dirty_dents
  | do_write_data_page
  | submit_bio
  | gc_result (st : GcStatus)
  | get_victim (gc_type : GcType) (r : Option Nat)
  | has_not_enough_free_secs (r : Bool)
  | free_sections (n : Nat)
  | reserved_sections (n : Nat)
  | MS_ACTIVE (r : Bool)
  | success_test (nfree : Nat) (cur old : Int)
  | write_checkpoint (blocked : Bool)
  | gc_return (st : GcStatus)
  | try_to_freeze (r : Bool)
  | wait_event_interruptible_timeout (wait_ms : Int)
  | kthread_should_stop (r : Bool)
  | test_opt_BG_GC (r : Bool)
  | mutex_trylock (r : Bool)
  | is_idle (r : Bool)
  | has_enough_invalid_blocks (r : Bool)

structure Ev where
  site : Site
  act : Act

/-- What a victim selection of the event returned. -/
def Ev.victim? (e : Ev) : Option (Option Nat) :=
  match e.act with
  | .get_victim _ r => some r
  | _ => none

/-- `nfree`, `cur_free_secs` and `old_free_secs` at a success test. -/
def Ev.success_test? (e : Ev) : Option (Nat × Int × Int) :=
  match e.act with
  | .success_test nfree cur old => some (nfree, cur, old)
  | _ => none

/-- What the rest of f2fs answers GC. Every answer may depend on the clock, the number of
events so far, so that one value of each field stands for one behaviour of its collaborator
over a whole run. `env` is what other threads do to the selection state before each victim
selection. -/
structure Collab where
  should_do_checkpoint : Nat → Bool
  /-- `f2fs_test_bit(off, get_seg_entry(sbi, segno)->cur_valid_map)` -/
  f2fs_test_bit : Nat → Nat → Nat → Bool
  /-- whether `get_node_page(sbi, nid)` succeeds -/
  get_node_page : Nat → Nat → Bool
  get_node_info : Nat → Nat → NodeInfo
  ofs_of_node : Nat → Nat → Nat
  /-- `datablock_addr(node_page of nid, ofs_in_node)` -/
  datablock_addr : Nat → Nat → Nat → Nat
  PageWriteback : Nat → Page → Bool
  f2fs_iget_nowait : Nat → Nat → Bool
  find_data_page : Nat → Nat → Nat → Bool
  get_lock_data_page : Nat → Nat → Nat → Bool
  /-- `page->mapping == inode->i_mapping && inode == page->mapping->host` -/
  page_mapped : Nat → Nat → Nat → Bool
  clear_page_dirty_for_io : Nat → Nat → Nat → Bool
  S_ISDIR : Nat → Nat → Bool
  get_sum_page : Nat → Nat → Option SummaryBlock
  has_not_enough_free_secs : Nat → Bool
  free_sections : Nat → Nat
  reserved_sections : Nat → Nat
  /-- `sbi->sb->s_flags & MS_ACTIVE` -/
  MS_ACTIVE : Nat → Bool
  env : Nat → VictimState → VictimState
  try_to_freeze : Nat → Bool
  kthread_should_stop : Nat → Bool
  /-- `test_opt(sbi, BG_GC)` -/
  test_opt_BG_GC : Nat → Bool
  mutex_trylock : Nat → Bool
  is_idle : Nat → Bool
  has_enough_invalid_blocks : Nat → Bool

/-- The state the evacuators thread through a call of `f2fs_gc`: the events so far, and
`ilist`, the inodes `add_gc_inode` pinned, by `i_ino`. The selection state is not part of it:
only the victim selector and the other threads change it. -/
structure GcState where
  trace : List Ev
  ilist : List Nat

namespace GcState

def clock (s : GcState) : Nat := s.trace.length

def emit (s : GcState) (site : Site) (a : Act) : GcState :=
  { s with trace := s.trace ++ [⟨site, a⟩] }

@[simp] theorem emit_trace (s : GcState) (site : Site) (a : Act) :
    (s.emit site a).trace = s.trace ++ [⟨site, a⟩] := rfl

@[simp] theorem emit_ilist (s : GcState) (site : Site) (a : Act) :
    (s.emit site a).ilist = s.ilist := rfl

/-- `s` followed by the calls `acts`, all made at `site`: the form every inversion lemma of the
collector states its traces in. -/
def emits (s : GcState) (site : Site) (acts : List Act) : GcState :=
  { s with trace := s.trace ++ acts.map (Ev.mk site) }

@[simp] theorem emits_trace (s : GcState) (site : Site) (acts : List Act) :
    (s.emits site acts).trace = s.trace ++ acts.map (Ev.mk site) := rfl

@[simp] theorem emits_ilist (s : GcState) (site : Site) (acts : List Act) :
    (s.emits site acts).ilist = s.ilist := rfl

@[simp] theorem emits_clock (s : GcState) (site : Site) (acts : List Act) :
    (s.emits site acts).clock = s.clock + acts.length := by
  simp [clock]

@[simp] theorem emits_nil (s : GcState) (site : Site) : s.emits site [] = s := by
  simp [emits]

@[simp] theorem emits_emits (s : GcState) (site : Site) (as bs : List Act) :
    (s.emits site as).emits site bs = s.emits site (as ++ bs) := by
  simp [emits]

theorem emit_eq_emits (s : GcState) (site : Site) (a : Act) : s.emit site a = s.emits site [a] :=
  rfl

@[simp] theorem emits_emit (s : GcState) (site : Site) (as : List Act) (a : Act) :
    (s.emits site as).emit site a = s.emits site (as ++ [a]) := by
  simp [emit, emits]

/-- `s'` is `s` followed by calls at `site` that `P` admits, with nothing else changed. -/
def Emits (site : Site) (P : Act → Bool) (s s' : GcState) : Prop :=
  ∃ acts : List Act, (∀ a ∈ acts, P a) ∧ s' = s.emits site acts

theorem Emits.refl (site : Site) (P : Act → Bool) (s : GcState) : Emits site P s s :=
  ⟨[], by simp, by simp⟩

theorem Emits.emit {site : Site} {P : Act → Bool} {s s' : GcState} {a : Act}
    (h : Emits site P s s') (ha : P a) : Emits site P s (s'.emit site a) := by
  obtain ⟨acts, hP, rfl⟩ := h
  exact ⟨acts ++ [a], by simpa [or_imp, forall_and] using ⟨hP, ha⟩, by simp⟩

end GcState

/-- Feed the events `E` to the monitor `step` from state `m`. -/
def replay {σ : Type} (step : σ → Ev → Option σ) : σ → List Ev → Option σ
  | m, [] => some m
  | m, e :: E => (step m e).bind fun m' => replay step m' E

section Replay

variable {σ : Type} (step : σ → Ev → Option σ)

@[simp] theorem replay_nil (m : σ) : replay step m [] = some m := rfl

@[simp] theorem replay_cons (m : σ) (e : Ev) (E : List Ev) :
    replay step m (e :: E) = (step m e).bind fun m' => replay step m' E := rfl

theorem replay_append (m : σ) (A B : List Ev) :
    replay step m (A ++ B) = (replay step m A).bind fun m' => replay step m' B := by
  induction A generalizing m with
  | nil => rfl
  | cons e A ih =>
    simp only [List.cons_append, replay_cons, ih]
    cases step m e <;> rfl

/-- The monitor goes from `m` to `m'` over the events that lead from `s` to `s'`. -/
def Steps (s s' : GcState) (m m' : σ) : Prop :=
  ∃ E, s'.trace = s.trace ++ E ∧ replay step m E = some m'

variable {step}

theorem Steps.refl (s : GcState) (m : σ) : Steps step s s m m := ⟨[], by simp, rfl⟩

theorem Steps.trans {s1 s2 s3 : GcState} {m1 m2 m3 : σ} (h12 : Steps step s1 s2 m1 m2)
    (h23 : Steps step s2 s3 m2 m3) : Steps step s1 s3 m1 m3 := by
  obtain ⟨A, hA, hmA⟩ := h12
  obtain ⟨B, hB, hmB⟩ := h23
  exact ⟨A ++ B, by rw [hB, hA, List.append_assoc], by rw [replay_append, hmA]; exact hmB⟩

theorem Steps.emits {s : GcState} {site : Site} {acts : List Act} {m m' : σ}
    (h : replay step m (acts.map (Ev.mk site)) = some m') : Steps step s (s.emits site acts) m m' :=
  ⟨_, rfl, h⟩

theorem Steps.emit {s : GcState} {site : Site} {a : Act} {m m' : σ}
    (h : step m ⟨site, a⟩ = some m') : Steps step s (s.emit site a) m m' :=
  ⟨[⟨site, a⟩], rfl, by simp [h]⟩

theorem Steps.of_trace {s s' : GcState} {m m' : σ} (htr : s'.trace = s.trace)
    (h : m' = m) : Steps step s s' m m' :=
  ⟨[], by simp [htr], by simp [h]⟩

end Replay

/-- Every event of `E` is justified by the events of `E` before it. -/
def Justified (J : List Ev → Ev → Prop) (E : List Ev) : Prop :=
  ∀ pre e post, E = pre ++ e :: post → J pre e

section Justified

variable {J : List Ev → Ev → Prop}

theorem Justified.nil : Justified J [] := by
  intro pre e post h
  simp at h

/-- Traces whose judgement survives more events in front concatenate. -/
theorem Justified.append (hJ : ∀ A pre e, J pre e → J (A ++ pre) e) {A B : List Ev}
    (hA : Justified J A) (hB : Justified J B) : Justified J (A ++ B) := by
  intro pre e post h
  rcases List.append_eq_append_iff.mp h with ⟨a', rfl, hb⟩ | ⟨c', hc, he⟩
  · exact hJ A _ e (hB a' e post hb)
  · cases c' with
    | nil =>
      rw [List.append_nil] at hc
      subst hc
      simpa using hJ A [] e (hB [] e post (by simpa using he.symm))
    | cons c cs =>
      obtain ⟨rfl, rfl⟩ := List.cons.inj he
      exact hA pre e cs (by simp [hc])

theorem Justified.of_forall {E : List Ev} (h : ∀ e ∈ E, ∀ pre, J pre e) : Justified J E := by
  rintro pre e post rfl
  exact h e (by simp) pre

/-- A trace whose one event that needs it comes right after its justification. -/
theorem Justified.single {X Y : List Ev} {m : Ev} (hX : ∀ e ∈ X, ∀ pre, J pre e)
    (hY : ∀ e ∈ Y, ∀ pre, J pre e) (hm : J X m) : Justified J (X ++ m :: Y) := by
  intro pre e post h
  rcases List.append_eq_append_iff.mp h with ⟨a', rfl, hb⟩ | ⟨c', rfl, he⟩
  · cases a' with
    | nil =>
      obtain ⟨rfl, -⟩ := List.cons.inj hb
      simpa using hm
    | cons a as =>
      obtain ⟨-, rfl⟩ := List.cons.inj hb
      exact hY e (by simp) _
  · cases c' with
    | nil =>
      obtain ⟨rfl, -⟩ := List.cons.inj he
      simpa using hm
    | cons c cs =>
      obtain ⟨rfl, -⟩ := List.cons.inj he
      exact hX e (by simp) _

end Justified

end f2fs.gc
