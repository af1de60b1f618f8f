import F2fsGc.StatList

namespace f2fs.gc

/-- A cell of the heap of `f2fs_gc_kthread` records. -/
inductive GcKthread
  /-- a record and its `f2fs_gc_task`: a started kthread, or `none` for an error pointer or a
  field not yet written -/
  | live (f2fs_gc_task : Option Nat)
  | freed
  deriving DecidableEq, Repr

/-- What `start_gc_thread` and `stop_gc_thread` read and write: the heap of records (addresses
are indices, `kmalloc` appends, `kfree` writes a `freed` cell, as for the statistics objects),
`sbi->gc_thread`, and the kthreads running `gc_thread_func`. `init_waitqueue_head` writes a field
nothing here reads and is left out. -/
structure Worker where
  mem : List GcKthread
  /-- `sbi->gc_thread` -/
  gc_thread : Option Nat
  /-- the kthreads running `gc_thread_func`, by the number `kthread_run` gave them -/
  running : List Nat
  /-- how many kthreads `kthread_run` has started -/
  started : Nat
  deriving DecidableEq, Repr

/-- `kthread_run(gc_thread_func, sbi, GC_THREAD_NAME)`: a new running kthread, or an error pointer
when it fails (`ok = false`). -/
def kthread_run (ok : Bool) (w : Worker) : Option Nat × Worker :=
  if ok then (some w.started, { w with running := w.running ++ [w.started], started := w.started + 1 })
  else (none, w)

/-- `start_gc_thread`, under the answers of `kmalloc` (`ok_alloc`) and `kthread_run` (`ok_run`).
Every access goes through the record it has just allocated, so it never faults. -/
def start_gc_thread (ok_alloc ok_run : Bool) (w : Worker) : Worker × Int :=
  if ok_alloc = false then (w, -ENOMEM)
  else
    let gc_th := w.mem.length
    let w := { w with mem := w.mem ++ [.live none], gc_thread := some gc_th }
    let (task, w) := kthread_run ok_run w
    let w := { w with mem := w.mem.set gc_th (.live task) }
    if task.isNone then ({ w with mem := w.mem.set gc_th .freed }, -ENOMEM)
    else (w, 0)

/-- `stop_gc_thread`: nothing when `sbi->gc_thread` is NULL; otherwise `kthread_stop` of the
record's task, `kfree` of the record, and `sbi->gc_thread = NULL`. -/
def stop_gc_thread (w : Worker) : Except Fault Worker :=
  match w.gc_thread with
  | none => pure w
  | some gc_th =>
    match w.mem[gc_th]? with
    | some (.live (some t)) =>
      pure { w with mem := w.mem.set gc_th .freed, gc_thread := none, running := w.running.erase t }
    | some (.live none) => throw .bad_pointer
    | some .freed => throw .use_after_free
    | none => throw .bad_pointer

/-- A call of the lifecycle, with the answers of the allocators it makes. -/
inductive WorkerCall
  | start (ok_alloc ok_run : Bool)
  | stop
  deriving DecidableEq, Repr

def worker_call : WorkerCall → Worker → Except Fault Worker
  | .start ok_alloc ok_run, w => pure (start_gc_thread ok_alloc ok_run w).1
  | .stop, w => stop_gc_thread w

/-- The calls one after another, stopping at the first fault. -/
def worker_run : List WorkerCall → Worker → Except Fault Worker
  | [], w => pure w
  | c :: cs, w => worker_call c w >>= worker_run cs

/-- The worker of a superblock before any call: `sbi` is zeroed. -/
def Worker.init (mem : List GcKthread) (running : List Nat) (started : Nat) : Worker :=
  ⟨mem, none, running, started⟩

/-- What the lifecycle keeps when no `kthread_run` fails: the running kthreads are distinct
numbers below `started`, and `sbi->gc_thread`, when set, names a live record whose task runs. -/
structure Worker.Sound (w : Worker) : Prop where
  nodup : w.running.Nodup
  lt_started : ∀ t ∈ w.running, t < w.started
  gc_thread : ∀ p, w.gc_thread = some p → ∃ t, w.mem[p]? = some (.live (some t)) ∧ t ∈ w.running

/-- What `sbi->gc_thread` is, abstractly: NULL or a live record whose task runs (`sound`), or a
record that has been freed (`dangling`). -/
inductive GcThreadRef
  | sound
  | dangling
  deriving DecidableEq, Repr

/-- The abstract step of a call: a start whose `kmalloc` fails changes nothing, a start makes
`sbi->gc_thread` sound when `kthread_run` succeeds and dangling when it fails, and a stop keeps
a sound state sound and reads freed memory from a dangling one (`none`). -/
def lifecycle_step : GcThreadRef → WorkerCall → Option GcThreadRef
  | r, .start false _ => some r
  | _, .start true true => some .sound
  | _, .start true false => some .dangling
  | .sound, .stop => some .sound
  | .dangling, .stop => none

def lifecycle_run : List WorkerCall → GcThreadRef → Option GcThreadRef
  | [], r => some r
  | c :: cs, r => (lifecycle_step r c).bind (lifecycle_run cs)

/-- A worker whose `sbi->gc_thread` names a freed record. -/
structure Worker.Dangling (w : Worker) : Prop where
  nodup : w.running.Nodup
  lt_started : ∀ t ∈ w.running, t < w.started
  gc_thread : ∃ p, w.gc_thread = some p ∧ w.mem[p]? = some .freed

/-- The workers that represent an abstract state. -/
def Worker.Refines (w : Worker) : GcThreadRef → Prop
  | .sound => w.Sound
  | .dangling => w.Dangling

/-- A result of the calls answers the abstract run: the use of a freed record where the abstract
run stops, and otherwise a worker that represents where it ends. -/
def Worker.Follows (x : Except Fault Worker) : Option GcThreadRef → Prop
  | none => x = throw .use_after_free
  | some r => ∃ w, x = pure w ∧ w.Refines r

section Calls

variable {w : Worker}

@[simp] theorem start_gc_thread_no_alloc (ok_run : Bool) (w : Worker) :
    start_gc_thread false ok_run w = (w, -ENOMEM) := rfl

/-- A start whose `kmalloc` and `kthread_run` succeed: the record at the end of the heap holds
the new task, and `sbi->gc_thread` names it. -/
theorem start_gc_thread_ok (w : Worker) :
    start_gc_thread true true w = (⟨w.mem ++ [.live (some w.started)], some w.mem.length,
      w.running ++ [w.started], w.started + 1⟩, 0) := by
  simp only [start_gc_thread, kthread_run, Bool.true_eq_false, ↓reduceIte, Option.isNone_some,
    Bool.false_eq_true, List.set_append_right _ _ (le_refl _), Nat.sub_self, List.set_cons_zero]

/-- A start whose `kthread_run` fails: the record is freed, and `sbi->gc_thread` still names it. -/
theorem start_gc_thread_no_run (w : Worker) :
    start_gc_thread true false w = (⟨w.mem ++ [.freed], some w.mem.length, w.running, w.started⟩,
      -ENOMEM) := by
  simp only [start_gc_thread, kthread_run, Bool.true_eq_false, ↓reduceIte, Option.isNone_none,
    Bool.false_eq_true, List.set_append_right _ _ (le_refl _), Nat.sub_self, List.set_cons_zero]

theorem stop_gc_thread_live {p t : Nat} (hg : w.gc_thread = some p)
    (hp : w.mem[p]? = some (.live (some t))) :
    stop_gc_thread w = pure ⟨w.mem.set p .freed, none, w.running.erase t, w.started⟩ := by
  simp only [stop_gc_thread, hg, hp]

/-- A successful start makes the lifecycle sound from any state whose kthreads are distinct and
numbered below `started`: the new task is fresh. The record `sbi->gc_thread` named before, if
any, is left behind with its task still running. -/
theorem start_ok_sound (hn : w.running.Nodup) (hl : ∀ t ∈ w.running, t < w.started) :
    (start_gc_thread true true w).1.Sound := by
  rw [start_gc_thread_ok]
  refine ⟨List.nodup_append.2 ⟨hn, List.nodup_singleton _, ?_⟩, fun t ht => ?_, ?_⟩
  · exact List.disjoint_singleton.2 fun hs => Nat.lt_irrefl _ (hl _ hs)
  · rcases List.mem_append.1 ht with ht | ht
    · exact Nat.lt_succ_of_lt (hl t ht)
    · exact (List.mem_singleton.1 ht) ▸ Nat.lt_succ_self _
  · rintro p ⟨⟩
    exact ⟨w.started, by simp, by simp⟩

theorem start_no_run_dangling (hn : w.running.Nodup) (hl : ∀ t ∈ w.running, t < w.started) :
    (start_gc_thread true false w).1.Dangling := by
  rw [start_gc_thread_no_run]
  refine ⟨hn, hl, _, rfl, ?_⟩
  rw [List.getElem?_append_right (le_refl _), Nat.sub_self]
  rfl

/-- `stop_gc_thread` from a sound state does not fault: it stops the task of the record, frees
the record and clears `sbi->gc_thread`, and no other kthread stops. -/
theorem Worker.Sound.stop (h : w.Sound) :
    ∃ w', stop_gc_thread w = pure w' ∧ w'.gc_thread = none ∧ w'.Sound ∧
      ∀ p t, w.gc_thread = some p → w.mem[p]? = some (.live (some t)) →
        w'.mem[p]? = some .freed ∧ w'.running = w.running.erase t ∧ t ∉ w'.running := by
  cases hg : w.gc_thread with
  | none =>
    refine ⟨w, by simp only [stop_gc_thread, hg], hg, h, fun p t hp => ?_⟩
    cases hp
  | some p =>
    obtain ⟨t, hp, ht⟩ := h.gc_thread p hg
    refine ⟨_, stop_gc_thread_live hg hp, rfl, ⟨h.nodup.erase t, fun u hu =>
      h.lt_started u (List.mem_of_mem_erase hu), fun _ h => nomatch h⟩, ?_⟩
    rintro p' t' ⟨⟩ hp'
    obtain rfl : t' = t := by
      rw [hp] at hp'
      cases hp'
      rfl
    have hlt : p < w.mem.length := (List.getElem?_eq_some_iff.1 hp).1
    exact ⟨List.getElem?_set_self hlt, rfl, h.nodup.not_mem_erase⟩

theorem Worker.Dangling.stop (h : w.Dangling) : stop_gc_thread w = throw .use_after_free := by
  obtain ⟨p, hg, hp⟩ := h.gc_thread
  simp only [stop_gc_thread, hg, hp]

theorem Worker.Refines.nodup {r : GcThreadRef} (h : w.Refines r) : w.running.Nodup := by
  cases r with
  | sound => exact Worker.Sound.nodup h
  | dangling => exact Worker.Dangling.nodup h

theorem Worker.Refines.lt_started {r : GcThreadRef} (h : w.Refines r) :
    ∀ t ∈ w.running, t < w.started := by
  cases r with
  | sound => exact Worker.Sound.lt_started h
  | dangling => exact Worker.Dangling.lt_started h

/-- One call simulates the abstract step. -/
theorem Worker.Refines.call {r : GcThreadRef} (h : w.Refines r) (c : WorkerCall) :
    Worker.Follows (worker_call c w) (lifecycle_step r c) := by
  cases c with
  | start ok_alloc ok_run =>
    cases ok_alloc
    · cases r <;> exact ⟨w, rfl, h⟩
    cases ok_run
    · cases r <;> exact ⟨_, rfl, start_no_run_dangling h.nodup h.lt_started⟩
    · cases r <;> exact ⟨_, rfl, start_ok_sound h.nodup h.lt_started⟩
  | stop =>
    cases r with
    | sound =>
      obtain ⟨w', hs, -, h', -⟩ := Worker.Sound.stop h
      exact ⟨w', hs, h'⟩
    | dangling => exact Worker.Dangling.stop h

end Calls

theorem worker_run_append : ∀ (pre post : List WorkerCall) (w : Worker),
    worker_run (pre ++ post) w = worker_run pre w >>= worker_run post
  | [], _, w => (pure_bind w _).symm
  | c :: pre, post, w => by
    show worker_call c w >>= worker_run (pre ++ post) =
      (worker_call c w >>= worker_run pre) >>= worker_run post
    rw [bind_assoc]
    exact congrArg _ (funext fun w1 => worker_run_append pre post w1)

theorem worker_run_keeps_sound :
    ∀ (cs : List WorkerCall) (w : Worker), w.Sound → (∀ c ∈ cs, c ≠ .start true false) →
      ∃ w', worker_run cs w = pure w' ∧ w'.Sound
  | [], w, h, _ => ⟨w, rfl, h⟩
  | c :: cs, w, h, hc => by
    have hstep : ∃ w1, worker_call c w = pure w1 ∧ w1.Sound := by
      cases c with
      | start ok_alloc ok_run =>
        cases ok_alloc
        · exact ⟨w, rfl, h⟩
        cases ok_run
        · exact absurd rfl (hc _ (List.mem_cons_self _ _))
        exact ⟨_, rfl, start_ok_sound h.nodup h.lt_started⟩
      | stop =>
        obtain ⟨w1, hs, -, h1, -⟩ := h.stop
        exact ⟨w1, hs, h1⟩
    obtain ⟨w1, hw1, h1⟩ := hstep
    obtain ⟨w', hw', h'⟩ :=
      worker_run_keeps_sound cs w1 h1 fun c' hc' => hc c' (List.mem_cons_of_mem c hc')
    exact ⟨w', by rw [worker_run, hw1]; exact hw', h'⟩

/-- Every run of `start_gc_thread` and `stop_gc_thread` calls in which `kthread_run` never
fails, from a sound state, runs without a fault and ends sound: `sbi->gc_thread` is NULL or
names a live record whose task runs. Every `stop_gc_thread` of the run, reached in a state
`w1`, stops the task of the record `sbi->gc_thread` names and only that task, frees that record
and clears `sbi->gc_thread`, and the run goes on from the state it leaves. -/
theorem worker_run_sound :
    ∀ (cs : List WorkerCall) (w : Worker), w.Sound → (∀ c ∈ cs, c ≠ .start true false) →
      (∃ w', worker_run cs w = pure w' ∧ w'.Sound) ∧
      ∀ pre post, cs = pre ++ .stop :: post → ∃ w1 w2, worker_run pre w = pure w1 ∧
        stop_gc_thread w1 = pure w2 ∧ worker_run cs w = worker_run post w2 ∧
        w2.gc_thread = none ∧ ∀ p t, w1.gc_thread = some p → w1.mem[p]? = some (.live (some t)) →
          w2.mem[p]? = some .freed ∧ w2.running = w1.running.erase t ∧ t ∉ w2.running := by
  intro cs w h hc
  refine ⟨worker_run_keeps_sound cs w h hc, ?_⟩
  rintro pre post rfl
  obtain ⟨w1, hw1, h1⟩ :=
    worker_run_keeps_sound pre w h fun c hc' => hc c (List.mem_append_left _ hc')
  obtain ⟨w2, hs, hnull, -, hstop⟩ := h1.stop
  refine ⟨w1, w2, hw1, hs, ?_, hnull, hstop⟩
  rw [worker_run_append, hw1, pure_bind, worker_run, worker_call, hs, pure_bind]

/-- A superblock whose worker is started and then stopped, every allocation answered. -/
theorem start_stop_runs_clean :
    (Worker.init [] [] 0).Sound ∧
      ((∃ w', worker_run [.start true true, .stop] (Worker.init [] [] 0) = pure w' ∧ w'.Sound) ∧
      ∀ pre post, [.start true true, .stop] = pre ++ .stop :: post → ∃ w1 w2,
        worker_run pre (Worker.init [] [] 0) = pure w1 ∧ stop_gc_thread w1 = pure w2 ∧
        worker_run [.start true true, .stop] (Worker.init [] [] 0) = worker_run post w2 ∧
        w2.gc_thread = none ∧ ∀ p t, w1.gc_thread = some p →
          w1.mem[p]? = some (.live (some t)) →
            w2.mem[p]? = some .freed ∧ w2.running = w1.running.erase t ∧ t ∉ w2.running) :=
  have h : (Worker.init [] [] 0).Sound :=
    ⟨List.nodup_nil, fun _ h => (nomatch h), fun _ h => (nomatch h)⟩
  ⟨h, worker_run_sound _ _ h (by decide)⟩

/-- The worker refines the abstract lifecycle: from a worker that represents an abstract state,
every run of calls faults with a use after free exactly where the abstract run stops, and
otherwise ends in a worker that represents where the abstract run ends. In particular a
`start_gc_thread` whose `kmalloc` succeeds and whose `kthread_run` fails returns `-ENOMEM`
having freed the record while `sbi->gc_thread` still names it, and the next `stop_gc_thread`
reads the freed record (`gc_th->f2fs_gc_task`), which it would then free a second time. -/
theorem worker_run_refines_lifecycle :
    ∀ (cs : List WorkerCall) (w : Worker) (r : GcThreadRef), w.Refines r →
      Worker.Follows (worker_run cs w) (lifecycle_run cs r)
  | [], w, _, h => ⟨w, rfl, h⟩
  | c :: cs, w, r, h => by
    have hc := h.call c
    rw [worker_run, lifecycle_run]
    cases hr : lifecycle_step r c with
    | none =>
      rw [hr] at hc
      show worker_call c w >>= worker_run cs = throw .use_after_free
      rw [show worker_call c w = throw .use_after_free from hc]
      rfl
    | some r1 =>
      rw [hr] at hc
      obtain ⟨w1, hw1, h1⟩ := hc
      rw [hw1, pure_bind]
      exact worker_run_refines_lifecycle cs w1 r1 h1

/-- Started and then stopped once, a worker whose `kthread_run` failed on a second start reads
the freed record at the stop. -/
theorem failed_restart_stop_faults :
    (Worker.init [] [] 0).Refines .sound ∧
      Worker.Follows (worker_run [.start true true, .start true false, .stop] (Worker.init [] [] 0))
        (lifecycle_run [.start true true, .start true false, .stop] .sound) :=
  have h : (Worker.init [] [] 0).Refines .sound :=
    ⟨List.nodup_nil, fun _ h => (nomatch h), fun _ h => (nomatch h)⟩
  ⟨h, worker_run_refines_lifecycle _ _ _ h⟩

end f2fs.gc
