import F2fsGc.Gc.Collect

open f2fs.segment

namespace f2fs.gc

/-- The sleep times of gc.h, which this source does not include: the three constants and the
two helpers that move `wait_ms` between them. -/
structure SleepPolicy where
  GC_THREAD_MIN_SLEEP_TIME : Int
  GC_THREAD_MAX_SLEEP_TIME : Int
  GC_THREAD_NOGC_SLEEP_TIME : Int
  increase_sleep_time : Int → Int
  decrease_sleep_time : Int → Int

/-- Modelled from the spec: `f2fs_balance_fs` (segment.h, not part of this source). When free
sections are short, take `gc_mutex` and run a foreground `f2fs_gc(sbi, 1)`, which releases it;
`none` when that call runs out of fuel. -/
def f2fs_balance_fs (cfg : GcConfig) (l : NodeLayout) (O : Collab) (fuel : Nat)
    (vs : VictimState) (s : GcState) : Option (VictimState × GcState) :=
  let short := O.has_not_enough_free_secs s.clock
  let s := s.emit .top (.has_not_enough_free_secs short)
  if !short then some (vs, s)
  else (f2fs_gc cfg l O 1 fuel vs (s.emit .top (.lock .gc_mutex)).trace).map fun r => r.2

/-- The test of the loop, `while (!kthread_should_stop())`: `true` goes round again. -/
def gc_thread_while (O : Collab) (wait_ms : Int) (vs : VictimState) (s : GcState) :
    Bool × Int × VictimState × GcState :=
  let stop := O.kthread_should_stop s.clock
  (!stop, wait_ms, vs, s.emit .top (.kthread_should_stop stop))

/-- One iteration of the loop of `gc_thread_func`, the loop test included: whether the thread
goes on, with what `wait_ms`; `none` when a call of `f2fs_gc` runs out of fuel. A `continue` goes
to the loop test. -/
def gc_thread_tick (cfg : GcConfig) (l : NodeLayout) (P : SleepPolicy) (O : Collab) (fuel : Nat)
    (wait_ms : Int) (vs : VictimState) (s : GcState) :
    Option (Bool × Int × VictimState × GcState) :=
  let frozen := O.try_to_freeze s.clock
  let s := s.emit .top (.try_to_freeze frozen)
  if frozen then some (gc_thread_while O wait_ms vs s)
  else
  let s := s.emit .top (.wait_event_interruptible_timeout wait_ms)
  let stop := O.kthread_should_stop s.clock
  let s := s.emit .top (.kthread_should_stop stop)
  if stop then some (false, wait_ms, vs, s)
  else
  match f2fs_balance_fs cfg l O fuel vs s with
  | none => none
  | some (vs, s) =>
    let bg := O.test_opt_BG_GC s.clock
    let s := s.emit .top (.test_opt_BG_GC bg)
    if !bg then some (gc_thread_while O wait_ms vs s)
    else
    let got := O.mutex_trylock s.clock
    let s := s.emit .top (.mutex_trylock got)
    if !got then some (gc_thread_while O wait_ms vs s)
    else
    let idle := O.is_idle s.clock
    let s := s.emit .top (.is_idle idle)
    if !idle then
      some (gc_thread_while O (P.increase_sleep_time wait_ms) vs (s.emit .top (.unlock .gc_mutex)))
    else
    let enough := O.has_enough_invalid_blocks s.clock
    let s := s.emit .top (.has_enough_invalid_blocks enough)
    let wait_ms := if enough then P.decrease_sleep_time wait_ms else P.increase_sleep_time wait_ms
    match f2fs_gc cfg l O 1 fuel vs s.trace with
    | none => none
    | some (st, vs, s) =>
      let wait_ms :=
        if st = .GC_NONE then P.GC_THREAD_NOGC_SLEEP_TIME
        else if wait_ms = P.GC_THREAD_NOGC_SLEEP_TIME then P.GC_THREAD_MAX_SLEEP_TIME
        else wait_ms
      some (gc_thread_while O wait_ms vs s)

/-- The loop of `gc_thread_func` for at most `ticks` iterations; `none` when it has not stopped
by then or a call of `f2fs_gc` runs out of fuel. -/
def gc_thread_loop (cfg : GcConfig) (l : NodeLayout) (P : SleepPolicy) (O : Collab)
    (fuel : Nat) : Nat → Int → VictimState → GcState → Option (VictimState × GcState)
  | 0, _, _, _ => none
  | ticks + 1, wait_ms, vs, s =>
    match gc_thread_tick cfg l P O fuel wait_ms vs s with
    | none => none
    | some (true, wait_ms, vs, s) => gc_thread_loop cfg l P O fuel ticks wait_ms vs s
    | some (false, _, vs, s) => some (vs, s)

/-- `gc_thread_func`: the loop, from `wait_ms = GC_THREAD_MIN_SLEEP_TIME`. -/
def gc_thread_func (cfg : GcConfig) (l : NodeLayout) (P : SleepPolicy) (O : Collab) (fuel ticks : Nat)
    (vs : VictimState) (s : GcState) : Option (VictimState × GcState) :=
  gc_thread_loop cfg l P O fuel ticks P.GC_THREAD_MIN_SLEEP_TIME vs s

section Cases

variable {cfg : GcConfig} {l : NodeLayout} {P : SleepPolicy} {O : Collab} {fuel : Nat}

/-- Everything `f2fs_balance_fs` can do. -/
theorem f2fs_balance_fs_cases {vs : VictimState} {s : GcState} {r : VictimState × GcState}
    (h : f2fs_balance_fs cfg l O fuel vs s = some r) :
    r = (vs, s.emits .top [.has_not_enough_free_secs false]) ∨
    ∃ st, f2fs_gc cfg l O 1 fuel vs
      (s.emits .top [.has_not_enough_free_secs true, .lock .gc_mutex]).trace = some (st, r) := by
  revert h
  simp only [f2fs_balance_fs, GcState.emit_eq_emits, GcState.emits_emits]
  cases O.has_not_enough_free_secs s.clock
  · exact fun h => .inl (Option.some.inj h).symm
  · intro h
    obtain ⟨⟨st, r'⟩, h1, rfl⟩ := Option.map_eq_some'.mp h
    exact .inr ⟨st, h1⟩

/-- Everything a tick can do: be frozen, stop, or after `f2fs_balance_fs` skip the background
collection (option off, `gc_mutex` busy, device busy) or run it. -/
theorem gc_thread_tick_cases {wait_ms : Int} {vs : VictimState} {s : GcState}
    {r : Bool × Int × VictimState × GcState}
    (h : gc_thread_tick cfg l P O fuel wait_ms vs s = some r) :
    r = gc_thread_while O wait_ms vs (s.emits .top [.try_to_freeze true]) ∨
    r = (false, wait_ms, vs, s.emits .top
      [.try_to_freeze false, .wait_event_interruptible_timeout wait_ms, .kthread_should_stop true]) ∨
    ∃ vs1 s1, f2fs_balance_fs cfg l O fuel vs (s.emits .top
      [.try_to_freeze false, .wait_event_interruptible_timeout wait_ms,
        .kthread_should_stop false]) = some (vs1, s1) ∧
      (r = gc_thread_while O wait_ms vs1 (s1.emits .top [.test_opt_BG_GC false]) ∨
       r = gc_thread_while O wait_ms vs1 (s1.emits .top [.test_opt_BG_GC true, .mutex_trylock false]) ∨
       r = gc_thread_while O (P.increase_sleep_time wait_ms) vs1 (s1.emits .top
        [.test_opt_BG_GC true, .mutex_trylock true, .is_idle false, .unlock .gc_mutex]) ∨
       ∃ enough st vs2 s2, f2fs_gc cfg l O 1 fuel vs1 (s1.emits .top [.test_opt_BG_GC true,
          .mutex_trylock true, .is_idle true, .has_enough_invalid_blocks enough]).trace =
            some (st, vs2, s2) ∧
         let wait_ms := if enough then P.decrease_sleep_time wait_ms else P.increase_sleep_time wait_ms
         r = gc_thread_while O (if st = .GC_NONE then P.GC_THREAD_NOGC_SLEEP_TIME
           else if wait_ms = P.GC_THREAD_NOGC_SLEEP_TIME then P.GC_THREAD_MAX_SLEEP_TIME
           else wait_ms) vs2 s2) := by
  revert h
  simp only [gc_thread_tick, GcState.emit_eq_emits, GcState.emits_emits, GcState.emits_clock,
    List.length_cons, List.length_nil, List.singleton_append, List.cons_append, List.nil_append]
  cases O.try_to_freeze s.clock
  case true => exact fun h => .inl (Option.some.inj h).symm
  simp only [Bool.false_eq_true, if_false]
  generalize O.kthread_should_stop _ = stop
  cases stop
  case true => exact fun h => .inr (.inl (Option.some.inj h).symm)
  simp only [Bool.false_eq_true, if_false]
  split
  · exact fun h => nomatch h
  rename_i vs1 s1 hb
  refine fun h => .inr (.inr ⟨vs1, s1, hb, ?_⟩)
  revert h
  cases O.test_opt_BG_GC s1.clock
  case false => exact fun h => .inl (Option.some.inj h).symm
  simp only [Bool.not_true, Bool.false_eq_true, if_false]
  generalize O.mutex_trylock _ = got
  cases got
  case false => exact fun h => .inr (.inl (Option.some.inj h).symm)
  simp only [Bool.not_true, Bool.false_eq_true, if_false]
  generalize O.is_idle _ = idle
  cases idle
  case false => exact fun h => .inr (.inr (.inl (Option.some.inj h).symm))
  simp only [Bool.not_true, Bool.false_eq_true, if_false]
  split
  · exact fun h => nomatch h
  rename_i st vs2 s2 hg
  exact fun h => .inr (.inr (.inr ⟨_, st, vs2, s2, hg, (Option.some.inj h).symm⟩))

end Cases

end f2fs.gc
