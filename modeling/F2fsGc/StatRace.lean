import F2fsGc.StatList

namespace f2fs.gc

theorem bind_eq_pure {ε α β : Type} {x : Except ε α} {f : α → Except ε β} {b : β}
    (h : x >>= f = pure b) : ∃ a, x = pure a ∧ f a = pure b := by
  cases x with
  | error e => cases h
  | ok a => exact ⟨a, rfl, h⟩

namespace Registry

variable {r r' : Registry} {p q tid : Nat}

theorem gc_info_at_eq {s : Option Nat} {l : Link} (h : r.gc_info_at p = pure (s, l)) :
    r.mem[p]? = some (.gc_info s l) := by
  unfold gc_info_at at h
  split at h <;> cases h
  assumption

theorem stat_info_at_eq {b hd : Option Nat} (h : r.stat_info_at p = pure (b, hd)) :
    r.mem[p]? = some (.stat_info b hd) := by
  unfold stat_info_at at h
  split at h <;> cases h
  assumption

/-- The statistics functions write nothing but `si->dirty_count`. -/
theorem update_stats_eq {k : Nat} {gc : Bool} (h : r.update_stats k gc = pure r') :
    ∃ d, r' = { r with dirty_count := d } := by
  obtain ⟨_, -, h⟩ := bind_eq_pure h
  obtain ⟨⟨_, _⟩, -, h⟩ := bind_eq_pure h
  obtain ⟨_, -, h⟩ := bind_eq_pure h
  obtain ⟨⟨_, _⟩, -, h⟩ := bind_eq_pure h
  dsimp only at h
  revert h
  split <;> split <;> intro h
  · cases h
  · exact ⟨_, (Except.ok.inj h).symm⟩
  · cases h
  · exact ⟨r.dirty_count, (Except.ok.inj h).symm⟩

theorem mutex_lock_eq (h : r.mutex_lock tid q = pure (some r')) :
    ∃ b, r.mem[q]? = some (.stat_info b none) ∧ r' = r.write q (.stat_info b (some tid)) := by
  obtain ⟨⟨b, hd⟩, hq, h⟩ := bind_eq_pure h
  cases hd with
  | none => exact ⟨b, stat_info_at_eq hq, (Option.some.inj (Except.ok.inj h)).symm⟩
  | some _ => cases h

theorem mutex_unlock_eq (h : r.mutex_unlock q = pure r') :
    ∃ b hd, r.mem[q]? = some (.stat_info b hd) ∧ r' = r.write q (.stat_info b none) := by
  obtain ⟨⟨b, hd⟩, hq, h⟩ := bind_eq_pure h
  exact ⟨b, hd, stat_info_at_eq hq, (Except.ok.inj h).symm⟩

end Registry

/-- What one step of a reader does: it writes the mutexes only at `mutex_lock` and
`mutex_unlock` and nothing else of the registry but `si->dirty_count` in its body, and it
reaches `check`, `use` and `unlock` only from the step before each. -/
inductive ReadMove (tid : Nat) (r : Registry) (si : Option Nat) :
    ReaderPc → Registry → ReaderPc → Option Nat → Prop
  | lock {q : Nat} {b : Option Nat} (hsi : si = some q)
      (hq : r.mem[q]? = some (.stat_info b none)) :
      ReadMove tid r si .lock (r.write q (.stat_info b (some tid))) .check si
  | check {q : Nat} {b hd : Option Nat} (hsi : si = some q)
      (hq : r.mem[q]? = some (.stat_info b hd)) :
      ReadMove tid r si .check r (if b.isNone then .unlock else .use) si
  | use (d : Nat → Nat) : ReadMove tid r si .use { r with dirty_count := d } .unlock si
  | unlock {q : Nat} {b hd : Option Nat} (hsi : si = some q)
      (hq : r.mem[q]? = some (.stat_info b hd)) :
      ReadMove tid r si .unlock (r.write q (.stat_info b none)) .advance si
  | walk {pc pc' : ReaderPc} {si' : Option Nat}
      (hpc : pc' = .test ∨ pc' = .stale ∨ pc' = .load ∨ pc' = .lock ∨ pc' = .done) :
      ReadMove tid r si pc r pc' si'

theorem read_step_cases {tid : Nat} {r r' : Registry} {t' : Thread} {kind : ReaderKind}
    {pc : ReaderPc} {pos n : Cursor} {si sbi : Option Nat}
    (h : thread_step tid r (.read kind pc pos n si sbi) = pure (some (r', t'))) :
    ∃ pc' pos' n' si' sbi', t' = .read kind pc' pos' n' si' sbi' ∧
      ReadMove tid r si pc r' pc' si' := by
  cases pc with
  | start =>
    dsimp only [thread_step, read_step] at h
    split at h <;> obtain ⟨c, -, h⟩ := bind_eq_pure h <;> cases h <;>
      exact ⟨_, _, _, _, _, rfl, .walk (.inl rfl)⟩
  | test =>
    cases h
    refine ⟨_, _, _, _, _, rfl, .walk ?_⟩
    split <;> [simp; split <;> simp]
  | stale =>
    obtain ⟨p, -, h⟩ := bind_eq_pure h
    obtain ⟨⟨s, l⟩, -, h⟩ := bind_eq_pure h
    obtain ⟨q, -, h⟩ := bind_eq_pure h
    obtain ⟨⟨b, hd⟩, -, h⟩ := bind_eq_pure h
    cases h
    exact ⟨_, _, _, _, _, rfl, .walk (by simp)⟩
  | load =>
    obtain ⟨p, -, h⟩ := bind_eq_pure h
    obtain ⟨⟨s, l⟩, -, h⟩ := bind_eq_pure h
    cases h
    exact ⟨_, _, _, _, _, rfl, .walk (by simp)⟩
  | lock =>
    obtain ⟨q, hq, h⟩ := bind_eq_pure h
    obtain ⟨o, ho, h⟩ := bind_eq_pure h
    cases o with
    | none => cases h
    | some r'' =>
      cases h
      obtain ⟨b, hb, rfl⟩ := Registry.mutex_lock_eq ho
      exact ⟨_, _, _, _, _, rfl, .lock (by cases si <;> cases hq; rfl) hb⟩
  | check =>
    obtain ⟨q, hq, h⟩ := bind_eq_pure h
    obtain ⟨⟨b, hd⟩, hb, h⟩ := bind_eq_pure h
    cases h
    exact ⟨_, _, _, _, _, rfl, .check (by cases si <;> cases hq; rfl) (Registry.stat_info_at_eq hb)⟩
  | use =>
    obtain ⟨q, hq, h⟩ := bind_eq_pure h
    obtain ⟨⟨b, hd⟩, hb, h⟩ := bind_eq_pure h
    cases kind with
    | mem =>
      obtain ⟨_, -, h⟩ := bind_eq_pure h
      cases h
      exact ⟨_, _, _, _, _, rfl, .use r.dirty_count⟩
    | gc | sit =>
      obtain ⟨_, -, h⟩ := bind_eq_pure h
      obtain ⟨r'', hr, h⟩ := bind_eq_pure h
      cases h
      obtain ⟨d, rfl⟩ := Registry.update_stats_eq hr
      exact ⟨_, _, _, _, _, rfl, .use d⟩
  | unlock =>
    obtain ⟨q, hq, h⟩ := bind_eq_pure h
    obtain ⟨r'', hr, h⟩ := bind_eq_pure h
    cases h
    obtain ⟨b, hd, hb, rfl⟩ := Registry.mutex_unlock_eq hr
    exact ⟨_, _, _, _, _, rfl, .unlock (by cases si <;> cases hq; rfl) hb⟩
  | advance =>
    dsimp only [thread_step, read_step] at h
    split at h
    · cases h
      exact ⟨_, _, _, _, _, rfl, .walk (.inl rfl)⟩
    · obtain ⟨p, -, h⟩ := bind_eq_pure h
      obtain ⟨c, -, h⟩ := bind_eq_pure h
      cases h
      exact ⟨_, _, _, _, _, rfl, .walk (.inl rfl)⟩
  | done => cases h

/-- What one step of `build_gc_manager(sbi)` does. -/
inductive BuildMove (r : Registry) (sbi : Nat) (ok1 ok2 : Bool) (gp sp : Nat) :
    BuildPc → Registry → Thread → Prop
  | alloc_gc_info_fail (h : ok1 = false) :
      BuildMove r sbi ok1 ok2 gp sp .alloc_gc_info r (.build sbi ok1 ok2 (.done (-ENOMEM)) gp sp)
  | alloc_gc_info (h : ok1 = true) :
      BuildMove r sbi ok1 ok2 gp sp .alloc_gc_info
        ⟨r.mem ++ [.gc_info none .zero], Function.update r.gc_info sbi (some r.mem.length),
          r.stat_list, r.sb, Function.update r.dirty_count r.mem.length 0⟩
        (.build sbi ok1 ok2 .alloc_stat_info r.mem.length sp)
  | alloc_stat_info_fail (h : ok2 = false) :
      BuildMove r sbi ok1 ok2 gp sp .alloc_stat_info r (.build sbi ok1 ok2 (.done (-ENOMEM)) gp sp)
  | alloc_stat_info {s : Option Nat} {l : Link} (h : ok2 = true)
      (hp : r.mem[gp]? = some (.gc_info s l)) :
      BuildMove r sbi ok1 ok2 gp sp .alloc_stat_info
        ((⟨r.mem ++ [.stat_info none none], r.gc_info, r.stat_list, r.sb,
          Function.update r.dirty_count r.mem.length 0⟩ : Registry).write gp
          (.gc_info (some r.mem.length) l)) (.build sbi ok1 ok2 .link gp r.mem.length)
  | link {s : Option Nat} {l : Link} (hp : r.mem[gp]? = some (.gc_info s l)) :
      BuildMove r sbi ok1 ok2 gp sp .link
        { r.write gp (.gc_info s .linked) with stat_list := r.stat_list ++ [gp] }
        (.build sbi ok1 ok2 .set_sbi gp sp)
  | set_sbi {b hd : Option Nat} (hs : r.mem[sp]? = some (.stat_info b hd)) :
      BuildMove r sbi ok1 ok2 gp sp .set_sbi (r.write sp (.stat_info (some sbi) hd))
        (.build sbi ok1 ok2 (.done 0) gp sp)

theorem build_step_cases {tid sbi gp sp : Nat} {ok1 ok2 : Bool} {pc : BuildPc} {r r' : Registry}
    {t' : Thread} (h : thread_step tid r (.build sbi ok1 ok2 pc gp sp) = pure (some (r', t'))) :
    BuildMove r sbi ok1 ok2 gp sp pc r' t' := by
  cases pc with
  | alloc_gc_info =>
    cases ok1 <;> cases h
    exacts [.alloc_gc_info_fail rfl, .alloc_gc_info rfl]
  | alloc_stat_info =>
    cases ok2
    · cases h
      exact .alloc_stat_info_fail rfl
    · obtain ⟨⟨s, l⟩, hp, h⟩ := bind_eq_pure h
      cases h
      have hp := Registry.gc_info_at_eq hp
      have hlt : gp < r.mem.length := by
        by_contra hge
        rw [List.getElem?_append_right (by omega)] at hp
        cases hk : gp - r.mem.length <;> simp [hk] at hp
      rw [List.getElem?_append_left hlt] at hp
      exact .alloc_stat_info rfl hp
  | link =>
    obtain ⟨r'', hr, h⟩ := bind_eq_pure h
    cases h
    obtain ⟨⟨s, l⟩, hp, hr⟩ := bind_eq_pure hr
    cases hr
    exact .link (Registry.gc_info_at_eq hp)
  | set_sbi =>
    obtain ⟨⟨b, hd⟩, hs, h⟩ := bind_eq_pure h
    cases h
    exact .set_sbi (Registry.stat_info_at_eq hs)
  | done => cases h

/-- The registry and the threads running on it, each at its index. -/
structure StatSys where
  reg : Registry
  threads : List Thread

/-- One step of one thread. A step that faults, that waits for a mutex, or that follows the
thread's return is not a step of the system. -/
inductive StatStep : StatSys → StatSys → Prop
  | step {x : StatSys} (tid : Nat) {t t' : Thread} {r' : Registry} (ht : x.threads[tid]? = some t)
      (hs : thread_step tid x.reg t = pure (some (r', t'))) : StatStep x ⟨r', x.threads.set tid t'⟩

/-- The next step of thread `tid` faults. -/
def StatSys.Faults (x : StatSys) (tid : Nat) (f : Fault) : Prop :=
  ∃ t, x.threads[tid]? = some t ∧ thread_step tid x.reg t = throw f

/-- The threads stepped in the order `sched` names them: the state reached, or `none` when one
of them faults or cannot move. -/
def StatSys.run (x : StatSys) : List Nat → Option StatSys
  | [] => some x
  | tid :: sched =>
    match x.threads[tid]? with
    | none => none
    | some t =>
      match thread_step tid x.reg t with
      | .ok (some (r', t')) => StatSys.run ⟨r', x.threads.set tid t'⟩ sched
      | _ => none

theorem StatSys.run_reaches {x y : StatSys} (sched : List Nat) (h : x.run sched = some y) :
    Relation.ReflTransGen StatStep x y := by
  induction sched generalizing x with
  | nil => cases h; exact .refl
  | cons tid sched ih =>
    unfold StatSys.run at h
    split at h
    · cases h
    · split at h
      · exact .head (.step tid ‹_› ‹_›) (ih h)
      · cases h

/-- A thread running alone is a run of the system. -/
theorem run_alone_reaches (tid : Nat) :
    ∀ {n : Nat} {x : StatSys} {t t' : Thread} {r' : Registry}, x.threads[tid]? = some t →
      run_alone tid n x.reg t = pure (r', t') →
      Relation.ReflTransGen StatStep x ⟨r', x.threads.set tid t'⟩
  | 0, x, t, t', r', ht, h => by
    cases h
    rw [set_self_of_getElem? ht]
  | n + 1, x, t, t', r', ht, h => by
    rcases hs : thread_step tid x.reg t with f | _ | ⟨r1, t1⟩
    · rw [run_alone, hs] at h
      cases h
    · rw [run_alone, hs] at h
      cases h
      rw [set_self_of_getElem? ht]
    · rw [run_alone, hs] at h
      have hlt := (List.getElem?_eq_some_iff.1 ht).1
      have hrest := run_alone_reaches tid (x := ⟨r1, x.threads.set tid t1⟩)
        (List.getElem?_set_self hlt) h
      rw [List.set_set] at hrest
      exact .head (.step tid ht hs) hrest

/-- The superblock a thread runs `destroy_gc_manager` on. -/
def Thread.destroys : Thread → Option Nat
  | .destroy k _ _ _ => some k
  | _ => none

/-- A thread at its start, over a registry that tracks the mounts `m`. -/
def Thread.Starts (m : List Nat) : Thread → Prop
  | .read _ pc _ _ _ _ => pc = .start
  | .destroy k pc g s => k ∈ m ∧ pc = .load ∧ g = none ∧ s = none
  | .build k _ _ pc _ _ => k ∉ m ∧ pc = .alloc_gc_info

/-- The states a run starts from: a registry that tracks the mounts `m`, readers, the
`destroy_gc_manager` of mounted superblocks, at most one each, and the `build_gc_manager` of
superblocks not mounted. -/
structure Start (m : List Nat) (x : StatSys) : Prop where
  tracks : x.reg.Tracks m
  starts : ∀ (u : Nat) (t : Thread), x.threads[u]? = some t → t.Starts m
  destroys_inj : ∀ i j k : Nat, x.threads[i]?.bind Thread.destroys = some k →
    x.threads[j]?.bind Thread.destroys = some k → i = j

/-- Where superblock `k`'s `gc_info` and `stat_info` were when the run started. -/
def MountedAt (r : Registry) (k p q : Nat) : Prop :=
  r.gc_info k = some p ∧ q ≠ p ∧ r.mem[p]? = some (.gc_info (some q) .linked) ∧
    r.mem[q]? = some (.stat_info (some k) none)

/-- `gc_i` while `destroy_gc_manager` is at `pc`. -/
def gc_cell (q : Nat) : DestroyPc → Obj
  | .load | .unlink => .gc_info (some q) .linked
  | .done => .freed
  | _ => .gc_info (some q) .poisoned

/-- `si` while thread `u`'s `destroy_gc_manager(k)` is at `pc`: `si->sbi` is `k` until `u`
clears it under the mutex, and the cell is freed after `kfree`. Readers may hold the mutex
outside `u`'s critical section. -/
def StatCell (k u : Nat) : DestroyPc → Option Obj → Prop
  | .load, o | .unlink, o | .lock, o => ∃ hd, o = some (.stat_info (some k) hd)
  | .clear, o => o = some (.stat_info (some k) (some u))
  | .unlock, o => o = some (.stat_info none (some u))
  | .free_stat_info, o => ∃ hd, o = some (.stat_info none hd)
  | .free_gc_info, o | .done, o => o = some .freed

/-- The locals `gc_i` and `si` of `destroy_gc_manager(k)`: not yet loaded at `load`, where
`sbi->gc_info` is still `p`. -/
def DestroyLocals (r : Registry) (k p q : Nat) : DestroyPc → Option Nat → Option Nat → Prop
  | .load, g, s => g = none ∧ s = none ∧ r.gc_info k = some p
  | _, g, s => g = some p ∧ s = some q

/-- Thread `u` running `destroy_gc_manager(k)` on the objects `p` and `q` of `k`. -/
def Destroying (r : Registry) (u k p q : Nat) (pc : DestroyPc) (g s : Option Nat) : Prop :=
  DestroyLocals r k p q pc g s ∧ r.mem[p]? = some (gc_cell q pc) ∧ StatCell k u pc r.mem[q]?

/-- What reader `u` knows of `si` while it holds `si->stat_list`: the mutex is still `u`'s, unless
a `destroy_gc_manager` freed the object under it; at `use`, `si` is live and `si->sbi` is set. -/
def Holds (r : Registry) (u : Nat) (si : Option Nat) : ReaderPc → Prop
  | .check | .unlock => ∃ q, si = some q ∧
      ((∃ b, r.mem[q]? = some (.stat_info b (some u))) ∨ r.mem[q]? = some .freed)
  | .use => ∃ q k, si = some q ∧ r.mem[q]? = some (.stat_info (some k) (some u))
  | _ => True

/-- What each thread knows, given the registry `r0` the run started from and its mounts `m`. -/
def ThreadInv (r0 : Registry) (m : List Nat) (r : Registry) (u : Nat) : Thread → Prop
  | .read _ pc _ _ si _ => Holds r u si pc
  | .destroy k pc g s => k ∈ m ∧ ∃ p q, MountedAt r0 k p q ∧ Destroying r u k p q pc g s
  | .build k _ _ pc gp sp => k ∉ m ∧
      (pc = .alloc_stat_info ∨ pc = .link ∨ pc = .set_sbi → r0.mem.length ≤ gp) ∧
      (pc = .link ∨ pc = .set_sbi → r0.mem.length ≤ sp)

/-- The invariant of every state a run from `r0` reaches. -/
structure Inv (r0 : Registry) (m : List Nat) (x : StatSys) : Prop where
  length : r0.mem.length ≤ x.reg.mem.length
  thread : ∀ (u : Nat) (t : Thread), x.threads[u]? = some t → ThreadInv r0 m x.reg u t
  destroys_inj : ∀ i j k : Nat, x.threads[i]?.bind Thread.destroys = some k →
    x.threads[j]?.bind Thread.destroys = some k → i = j

/-- Another thread's step keeps what reader `u` knows of a cell whose mutex it holds: the mutex
stays `u`'s and a set `si->sbi` stays set, or the object is freed while `si->sbi` is NULL. -/
def KeepsHeld (u : Nat) (o o' : Option Obj) : Prop :=
  (∀ b, o = some (.stat_info b (some u)) →
    (∃ b', o' = some (.stat_info b' (some u)) ∧ (b.isSome → b'.isSome)) ∨
      (b = none ∧ o' = some .freed)) ∧
  (o = some .freed → o' = some .freed)

namespace KeepsHeld

variable {u : Nat} {r : Registry}

theorem refl (u : Nat) (o : Option Obj) : KeepsHeld u o o :=
  ⟨fun b h => .inl ⟨b, h, id⟩, id⟩

theorem of_none (o' : Option Obj) : KeepsHeld u none o' :=
  ⟨fun _ h => (by cases h), fun h => (by cases h)⟩

theorem of_gc_info {s : Option Nat} {l : Link} (o' : Option Obj) :
    KeepsHeld u (some (.gc_info s l)) o' :=
  ⟨fun _ h => (by cases h), fun h => (by cases h)⟩

/-- A write keeps every cell but the one written. -/
theorem write {q : Nat} {o : Obj} (hq : KeepsHeld u r.mem[q]? (some o)) (a : Nat) :
    KeepsHeld u r.mem[a]? (r.write q o).mem[a]? := by
  by_cases haq : a = q
  · subst haq
    by_cases hlt : a < r.mem.length
    · rwa [Registry.getElem?_write_self hlt]
    · rw [List.getElem?_eq_none (by omega)]
      exact of_none _
  · rw [Registry.getElem?_write_ne haq]
    exact refl u _

/-- `kzalloc` keeps every cell. -/
theorem append (l : List Obj) (a : Nat) : KeepsHeld u r.mem[a]? (r.mem ++ l)[a]? := by
  by_cases hlt : a < r.mem.length
  · rw [List.getElem?_append_left hlt]
    exact refl u _
  · rw [List.getElem?_eq_none (by omega)]
    exact of_none _

theorem trans {o1 o2 o3 : Option Obj} (h12 : KeepsHeld u o1 o2)
    (h23 : KeepsHeld u o2 o3) : KeepsHeld u o1 o3 := by
  refine ⟨fun b hb => ?_, fun hf => h23.2 (h12.2 hf)⟩
  rcases h12.1 b hb with ⟨b', hb', hs⟩ | ⟨rfl, hf⟩
  · rcases h23.1 b' hb' with ⟨b'', hb'', hs'⟩ | ⟨rfl, hf⟩
    · exact .inl ⟨b'', hb'', hs' ∘ hs⟩
    · cases b
      · exact .inr ⟨rfl, hf⟩
      · simp at hs
  · exact .inr ⟨rfl, h23.2 hf⟩

end KeepsHeld

theorem Holds.keep {r r' : Registry} {u : Nat} {si : Option Nat} {pc : ReaderPc}
    (hk : ∀ a : Nat, KeepsHeld u r.mem[a]? r'.mem[a]?) (h : Holds r u si pc) : Holds r' u si pc := by
  cases pc
  case check | unlock =>
    obtain ⟨q, rfl, ⟨b, hb⟩ | hf⟩ := h
    · rcases (hk q).1 b hb with ⟨b', hb', -⟩ | ⟨-, hf'⟩
      exacts [⟨q, rfl, .inl ⟨b', hb'⟩⟩, ⟨q, rfl, .inr hf'⟩]
    · exact ⟨q, rfl, .inr ((hk q).2 hf)⟩
  case use =>
    obtain ⟨q, k, rfl, hq⟩ := h
    rcases (hk q).1 (some k) hq with ⟨b', hb', hs⟩ | ⟨h, -⟩
    · obtain ⟨k', rfl⟩ := Option.isSome_iff_exists.1 (hs rfl)
      exact ⟨q, k', rfl, hb'⟩
    · cases h
  all_goals trivial

/-- How a reader's step changes a cell: `mutex_lock` of a free mutex, or `mutex_unlock` of its
own. -/
def ReaderCell (tid : Nat) (o o' : Option Obj) : Prop :=
  o' = o ∨ (∃ b, o = some (.stat_info b none) ∧ o' = some (.stat_info b (some tid))) ∨
    (∃ b, o = some (.stat_info b (some tid)) ∧ o' = some (.stat_info b none))

namespace ReaderCell

variable {tid : Nat} {o o' : Option Obj}

theorem keepsHeld {u : Nat} (h : ReaderCell tid o o') (hu : u ≠ tid) : KeepsHeld u o o' := by
  rcases h with rfl | ⟨b, rfl, rfl⟩ | ⟨b, rfl, rfl⟩
  · exact .refl u _
  · exact ⟨fun _ h => (by cases h), fun h => (by cases h)⟩
  · refine ⟨fun _ h => ?_, fun h => (by cases h)⟩
    cases h
    exact absurd rfl hu

/-- A reader writes no `gc_info` and no freed object. -/
theorem eq_of_not_stat_info (h : ReaderCell tid o o') (ho : ∀ b hd, o ≠ some (.stat_info b hd)) :
    o' = o := by
  rcases h with h | ⟨b, rfl, -⟩ | ⟨b, rfl, -⟩
  exacts [h, absurd rfl (ho _ _), absurd rfl (ho _ _)]

theorem stat_cell {k u : Nat} {pc : DestroyPc} (h : ReaderCell tid o o') (hu : u ≠ tid)
    (hs : StatCell k u pc o) : StatCell k u pc o' := by
  rcases h with rfl | ⟨b, rfl, rfl⟩ | ⟨b, rfl, rfl⟩
  · exact hs
  all_goals cases pc <;> simp_all [StatCell]

end ReaderCell

theorem ReaderCell.write {tid q : Nat} {r : Registry} {o o' : Obj} (hq : r.mem[q]? = some o)
    (h : ReaderCell tid (some o) (some o')) (a : Nat) :
    ReaderCell tid r.mem[a]? (r.write q o').mem[a]? := by
  by_cases haq : a = q
  · subst haq
    rwa [Registry.getElem?_write_self (Registry.lt_length_of_getElem? hq), hq]
  · rw [Registry.getElem?_write_ne haq]
    exact .inl rfl

section Reader

variable {tid : Nat} {r r' : Registry} {si si' : Option Nat} {pc pc' : ReaderPc}

/-- A reader's step changes no `sbi->gc_info`, and each cell by `mutex_lock` of a free mutex or
`mutex_unlock` of one it holds. -/
theorem ReadMove.footprint (hm : ReadMove tid r si pc r' pc' si') (hh : Holds r tid si pc) :
    r'.gc_info = r.gc_info ∧ r'.mem.length = r.mem.length ∧
      ∀ a : Nat, ReaderCell tid r.mem[a]? r'.mem[a]? := by
  cases hm with
  | lock _ hq => exact ⟨rfl, Registry.length_write, ReaderCell.write hq (.inr (.inl ⟨_, rfl, rfl⟩))⟩
  | @unlock q b hd hsi hq =>
    obtain ⟨q', hq', ⟨b', hb⟩ | hf⟩ := hh
    · obtain rfl : q' = q := Option.some.inj (hq'.symm.trans hsi)
      obtain ⟨rfl, rfl⟩ : b = b' ∧ hd = some tid := by simpa [hq] using hb
      exact ⟨rfl, Registry.length_write, ReaderCell.write hq (.inr (.inr ⟨_, rfl, rfl⟩))⟩
    · obtain rfl : q' = q := Option.some.inj (hq'.symm.trans hsi)
      simp [hq] at hf
  | check | use | walk => exact ⟨rfl, rfl, fun _ => .inl rfl⟩

/-- The reader's own step keeps what it knows of the mutex it holds. -/
theorem ReadMove.holds (hm : ReadMove tid r si pc r' pc' si') (hh : Holds r tid si pc) :
    Holds r' tid si' pc' := by
  cases hm with
  | @lock q b hsi hq =>
    exact ⟨q, hsi, .inl ⟨b, Registry.getElem?_write_self (Registry.lt_length_of_getElem? hq)⟩⟩
  | @check q b hd hsi hq =>
    obtain ⟨q', hq', ⟨b', hb⟩ | hf⟩ := hh
    · obtain rfl : q' = q := Option.some.inj (hq'.symm.trans hsi)
      obtain ⟨rfl, rfl⟩ : b = b' ∧ hd = some tid := by simpa [hq] using hb
      cases b with
      | none => exact ⟨_, hsi, .inl ⟨none, hq⟩⟩
      | some k => exact ⟨_, k, hsi, hq⟩
    · obtain rfl : q' = q := Option.some.inj (hq'.symm.trans hsi)
      simp [hq] at hf
  | use _ =>
    obtain ⟨q, k, hsi, hq⟩ := hh
    exact ⟨q, hsi, .inl ⟨some k, hq⟩⟩
  | unlock => trivial
  | walk hpc => rcases hpc with rfl | rfl | rfl | rfl | rfl <;> trivial

end Reader

section Destroyer

variable {r r' : Registry} {u k p q : Nat} {pc : DestroyPc} {g s : Option Nat} {t' : Thread}

theorem StatCell.ne_gc_info {k u : Nat} {pc : DestroyPc} {o : Option Obj} (h : StatCell k u pc o)
    {s : Option Nat} {l : Link} : o ≠ some (.gc_info s l) := by
  rintro rfl
  cases pc <;> simp [StatCell] at h

theorem gc_cell_eq_gc_info {q : Nat} {pc : DestroyPc} (h : pc ≠ .done) :
    ∃ l, gc_cell q pc = .gc_info (some q) l := by
  cases pc <;> simp_all [gc_cell]

/-- `Destroying` reads only `gc_i`, `si` and `sbi->gc_info`. -/
theorem Destroying.frame (h : Destroying r u k p q pc g s) (hp : r'.mem[p]? = r.mem[p]?)
    (hq : r'.mem[q]? = r.mem[q]?) (hk : r'.gc_info k = r.gc_info k) :
    Destroying r' u k p q pc g s := by
  obtain ⟨hl, h1, h2⟩ := h
  refine ⟨?_, hp ▸ h1, hq ▸ h2⟩
  cases pc <;> simpa [DestroyLocals, hk] using hl

/-- A reader's step keeps what `Destroying` says of another thread. -/
theorem Destroying.of_reader {tid : Nat} (h : Destroying r u k p q pc g s)
    (hg : r'.gc_info = r.gc_info) (hc : ∀ a : Nat, ReaderCell tid r.mem[a]? r'.mem[a]?) (hu : u ≠ tid) :
    Destroying r' u k p q pc g s := by
  obtain ⟨hl, h1, h2⟩ := h
  refine ⟨?_, ?_, (hc q).stat_cell hu h2⟩
  · cases pc <;> simpa [DestroyLocals, hg] using hl
  · rw [(hc p).eq_of_not_stat_info (by intro b hd; rw [h1]; cases pc <;> simp [gc_cell])]
    exact h1

/-- One step of `destroy_gc_manager`: it moves on with `gc_i = p` and `si = q`, and it changes
only `p`, `q` and its own `sbi->gc_info`, keeping what readers holding a mutex know. -/
theorem Destroying.step (hd : Destroying r u k p q pc g s)
    (h : thread_step u r (.destroy k pc g s) = pure (some (r', t'))) :
    ∃ pc', t' = .destroy k pc' (some p) (some q) ∧ Destroying r' u k p q pc' (some p) (some q) ∧
      r'.mem.length = r.mem.length ∧ (∀ a : Nat, a ≠ p → a ≠ q → r'.mem[a]? = r.mem[a]?) ∧
      (∀ k', k' ≠ k → r'.gc_info k' = r.gc_info k') ∧
      ∀ u', u' ≠ u → ∀ a : Nat, KeepsHeld u' r.mem[a]? r'.mem[a]? := by
  obtain ⟨hl, hp, hq⟩ := hd
  have hpl := Registry.lt_length_of_getElem? hp
  have hqp (hpc : pc ≠ .done) : q ≠ p := by
    rintro rfl
    obtain ⟨l, hl⟩ := gc_cell_eq_gc_info (q := q) hpc
    exact hq.ne_gc_info (hp.trans (by rw [hl]))
  have hfr {o : Obj} (a : Nat) (hap : a ≠ p) : (r.write p o).mem[a]? = r.mem[a]? :=
    Registry.getElem?_write_ne hap
  cases pc with
  | load =>
    obtain ⟨rfl, rfl, hk⟩ := hl
    rw [destroy_load (some q) .linked hk hp] at h
    cases h
    exact ⟨.unlink, rfl, ⟨⟨rfl, rfl⟩, hp, hq⟩, rfl, fun _ _ _ => rfl, fun _ _ => rfl,
      fun u' _ _ => .refl u' _⟩
  | unlink =>
    obtain ⟨rfl, rfl⟩ := hl
    rw [destroy_unlink (some q) hp] at h
    cases h
    refine ⟨.lock, rfl, ⟨⟨rfl, rfl⟩, Registry.getElem?_write_self hpl, ?_⟩, Registry.length_write,
      fun a hap _ => hfr a hap, fun _ _ => rfl, fun u' _ => KeepsHeld.write (hp ▸ .of_gc_info _)⟩
    rw [hfr q (hqp (by decide))]
    exact hq
  | lock =>
    obtain ⟨rfl, rfl⟩ := hl
    obtain ⟨q', hq', h⟩ := bind_eq_pure h
    cases hq'
    obtain ⟨o, ho, h⟩ := bind_eq_pure h
    cases o with
    | none => cases h
    | some r'' =>
      cases h
      obtain ⟨b, hb, rfl⟩ := Registry.mutex_lock_eq ho
      obtain ⟨hd, hd'⟩ := hq
      obtain ⟨rfl, rfl⟩ : b = some k ∧ none = hd := by simpa [hb] using hd'
      have hql := Registry.lt_length_of_getElem? hb
      refine ⟨.clear, rfl, ⟨⟨rfl, rfl⟩, ?_, Registry.getElem?_write_self hql⟩, Registry.length_write,
        fun a _ haq => Registry.getElem?_write_ne haq, fun _ _ => rfl,
        fun u' _ => KeepsHeld.write (hb ▸ ⟨fun _ h => (by cases h), fun h => (by cases h)⟩)⟩
      rw [Registry.getElem?_write_ne (Ne.symm (hqp (by decide)))]
      exact hp
  | clear =>
    obtain ⟨rfl, rfl⟩ := hl
    rw [destroy_clear (some k) (some u) hq] at h
    cases h
    have hql := Registry.lt_length_of_getElem? hq
    refine ⟨.unlock, rfl, ⟨⟨rfl, rfl⟩, ?_, Registry.getElem?_write_self hql⟩, Registry.length_write,
      fun a _ haq => Registry.getElem?_write_ne haq, fun _ _ => rfl, fun u' hu' => KeepsHeld.write
        (hq ▸ ⟨fun _ h => by cases h; exact absurd rfl hu', fun h => (by cases h)⟩)⟩
    rw [Registry.getElem?_write_ne (Ne.symm (hqp (by decide)))]
    exact hp
  | unlock =>
    obtain ⟨rfl, rfl⟩ := hl
    rw [destroy_unlock none (some u) hq] at h
    cases h
    have hql := Registry.lt_length_of_getElem? hq
    refine ⟨.free_stat_info, rfl, ⟨⟨rfl, rfl⟩, ?_, ⟨none, Registry.getElem?_write_self hql⟩⟩,
      Registry.length_write, fun a _ haq => Registry.getElem?_write_ne haq, fun _ _ => rfl,
      fun u' hu' => KeepsHeld.write
        (hq ▸ ⟨fun _ h => by cases h; exact absurd rfl hu', fun h => (by cases h)⟩)⟩
    rw [Registry.getElem?_write_ne (Ne.symm (hqp (by decide)))]
    exact hp
  | free_stat_info =>
    obtain ⟨rfl, rfl⟩ := hl
    obtain ⟨hd, hq⟩ := hq
    rw [destroy_free_stat_info q .poisoned none hd hp hq] at h
    cases h
    have hql := Registry.lt_length_of_getElem? hq
    refine ⟨.free_gc_info, rfl, ⟨⟨rfl, rfl⟩, ?_, Registry.getElem?_write_self hql⟩,
      Registry.length_write, fun a _ haq => Registry.getElem?_write_ne haq, fun _ _ => rfl,
      fun u' _ => KeepsHeld.write (hq ▸ ⟨fun _ h => by cases h; exact .inr ⟨rfl, rfl⟩,
        fun h => (by cases h)⟩)⟩
    rw [Registry.getElem?_write_ne (Ne.symm (hqp (by decide)))]
    exact hp
  | free_gc_info =>
    obtain ⟨rfl, rfl⟩ := hl
    rw [destroy_free_gc_info (some q) .poisoned hp] at h
    cases h
    refine ⟨.done, rfl, ⟨⟨rfl, rfl⟩, Registry.getElem?_write_self hpl, ?_⟩, Registry.length_write,
      fun a hap _ => Registry.getElem?_write_ne hap, fun k' hk' => Function.update_noteq hk' _ _,
      fun u' _ => KeepsHeld.write (hp ▸ .of_gc_info _)⟩
    rw [Registry.getElem?_write_ne (hqp (by decide))]
    exact hq
  | done => cases h

end Destroyer

section Builder

variable {r r' : Registry} {sbi gp sp : Nat} {ok1 ok2 : Bool} {pc : BuildPc} {t' : Thread}
  {L0 : Nat}

/-- A step of `build_gc_manager` allocates, or writes the `gc_info` and `stat_info` it
allocated: nothing below `L0` when its objects are above it, and no `sbi->gc_info` but its own.
`si->sbi = sbi` keeps the holder of the mutex. -/
theorem BuildMove.footprint (hm : BuildMove r sbi ok1 ok2 gp sp pc r' t') (hL : L0 ≤ r.mem.length)
    (hgp : pc = .alloc_stat_info ∨ pc = .link → L0 ≤ gp) (hsp : pc = .set_sbi → L0 ≤ sp) :
    r.mem.length ≤ r'.mem.length ∧ (∀ a, a < L0 → r'.mem[a]? = r.mem[a]?) ∧
      (∀ k, k ≠ sbi → r'.gc_info k = r.gc_info k) ∧
      ∀ (u : Nat) (a : Nat), KeepsHeld u r.mem[a]? r'.mem[a]? := by
  cases hm with
  | alloc_gc_info_fail | alloc_stat_info_fail =>
    exact ⟨le_refl _, fun _ _ => rfl, fun _ _ => rfl, fun u _ => .refl u _⟩
  | alloc_gc_info =>
    refine ⟨(List.sublist_append_left _ _).length_le,
      fun a ha => List.getElem?_append_left (by omega), fun k hk => ?_, fun u a => .append _ a⟩
    exact Function.update_noteq hk _ _
  | @alloc_stat_info s l _ hp =>
    have hg := hgp (.inl rfl)
    have hpl := Registry.lt_length_of_getElem? hp
    refine ⟨?_, fun a ha => ?_, fun _ _ => rfl, fun u a => ?_⟩
    · rw [Registry.length_write]
      exact (List.sublist_append_left _ _).length_le
    · rw [Registry.getElem?_write_ne (by omega)]
      exact List.getElem?_append_left (by omega)
    · have hw : KeepsHeld u (r.mem ++ [.stat_info none none])[gp]?
          (some (.gc_info (some r.mem.length) l)) := by
        rw [List.getElem?_append_left hpl, hp]
        exact .of_gc_info _
      exact (KeepsHeld.append _ a).trans
        (KeepsHeld.write (r := ⟨_, r.gc_info, r.stat_list, r.sb, _⟩) hw a)
  | @link s l hp =>
    have hg := hgp (.inr rfl)
    exact ⟨Registry.length_write.ge, fun a ha => Registry.getElem?_write_ne (by omega),
      fun _ _ => rfl, fun u => KeepsHeld.write (hp ▸ .of_gc_info _)⟩
  | @set_sbi b hd hs =>
    have hs' := hsp rfl
    refine ⟨Registry.length_write.ge, fun a ha => Registry.getElem?_write_ne (by omega),
      fun _ _ => rfl, fun u => KeepsHeld.write (hs ▸ ⟨fun _ h => ?_, fun h => (by cases h)⟩)⟩
    cases h
    exact .inl ⟨_, rfl, fun _ => rfl⟩

end Builder

section Run

variable {r0 : Registry} {m : List Nat}

theorem MountedAt.lt_length {k p q : Nat} (h : MountedAt r0 k p q) :
    p < r0.mem.length ∧ q < r0.mem.length :=
  ⟨Registry.lt_length_of_getElem? h.2.2.1, Registry.lt_length_of_getElem? h.2.2.2⟩

/-- Two superblocks mounted when the run started share no object. -/
theorem MountedAt.disjoint {k p q k' p' q' : Nat} (h : MountedAt r0 k p q)
    (h' : MountedAt r0 k' p' q') (hk : k ≠ k') : p ≠ p' ∧ p ≠ q' ∧ q ≠ p' ∧ q ≠ q' := by
  obtain ⟨-, -, hp, hq⟩ := h
  obtain ⟨-, -, hp', hq'⟩ := h'
  have hqq : q ≠ q' := by
    rintro rfl
    simp [hq] at hq'
    exact hk hq'
  refine ⟨?_, ?_, ?_, hqq⟩
  · rintro rfl
    simp [hp] at hp'
    exact hqq hp'
  · rintro rfl
    simp [hp] at hq'
  · rintro rfl
    simp [hq] at hp'

/-- What another thread's step keeps of thread `u`, from what it keeps of the cells of readers
and of `destroy_gc_manager`s. -/
theorem ThreadInv.keep {r r' : Registry} {u : Nat} {tu : Thread}
    (hK : ∀ a : Nat, KeepsHeld u r.mem[a]? r'.mem[a]?)
    (hD : ∀ k p q pc g s, tu = .destroy k pc g s → k ∈ m → MountedAt r0 k p q →
      Destroying r u k p q pc g s → Destroying r' u k p q pc g s)
    (h : ThreadInv r0 m r u tu) : ThreadInv r0 m r' u tu := by
  cases tu with
  | read _ _ _ _ _ _ => exact Holds.keep hK h
  | destroy k pc g s =>
    obtain ⟨hk, p, q, hmt, hd⟩ := h
    exact ⟨hk, p, q, hmt, hD k p q pc g s rfl hk hmt hd⟩
  | build _ _ _ _ _ _ => exact h

theorem destroys_bind_set {ts : List Thread} {tid : Nat} {t t' : Thread}
    (ht : ts[tid]? = some t) (hd : t'.destroys = t.destroys) (i : Nat) :
    (ts.set tid t')[i]?.bind Thread.destroys = ts[i]?.bind Thread.destroys := by
  rw [List.getElem?_set]
  split
  · subst_vars
    rw [if_pos (List.getElem?_eq_some_iff.1 ht).1, ht]
    exact hd
  · rfl

/-- A step of thread `tid` keeps the invariant when it keeps `tid`'s own part, does not shrink
the heap, and keeps every other thread's part. -/
theorem Inv.set {x : StatSys} {tid : Nat} {t t' : Thread} {r' : Registry} (hi : Inv r0 m x)
    (ht : x.threads[tid]? = some t) (hlen : x.reg.mem.length ≤ r'.mem.length)
    (hdes : t'.destroys = t.destroys) (hown : ThreadInv r0 m r' tid t')
    (hother : ∀ u tu, u ≠ tid → ThreadInv r0 m x.reg u tu →
      (∀ k, tu.destroys = some k → t.destroys ≠ some k) → ThreadInv r0 m r' u tu) :
    Inv r0 m ⟨r', x.threads.set tid t'⟩ where
  length := hi.length.trans hlen
  thread u tu hu := by
    dsimp only at hu ⊢
    rw [List.getElem?_set] at hu
    split at hu
    · subst_vars
      rw [if_pos (List.getElem?_eq_some_iff.1 ht).1] at hu
      cases hu
      exact hown
    · refine hother u tu (Ne.symm ‹_›) (hi.thread u tu hu) fun k hk htk => ‹¬tid = u› ?_
      exact hi.destroys_inj tid u k (by simp [ht, htk]) (by simp [hu, hk])
  destroys_inj i j k := by
    dsimp only
    rw [destroys_bind_set ht hdes, destroys_bind_set ht hdes]
    exact hi.destroys_inj i j k

theorem Inv.step {x y : StatSys} (hi : Inv r0 m x) (hs : StatStep x y) : Inv r0 m y := by
  cases hs with
  | @step tid t t' r' ht hs =>
  have hti := hi.thread tid t ht
  cases t with
  | read kind pc pos n si sb =>
    obtain ⟨pc', pos', n', si', sb', rfl, hm⟩ := read_step_cases hs
    obtain ⟨hg, hl, hc⟩ := hm.footprint hti
    exact hi.set ht hl.ge rfl (hm.holds hti) fun u tu hu htu _ =>
      htu.keep (fun a => (hc a).keepsHeld hu) fun _ _ _ _ _ _ _ _ _ hd => hd.of_reader hg hc hu
  | destroy k pc g s =>
    obtain ⟨hk, p, q, hmt, hd⟩ := hti
    obtain ⟨pc', rfl, hd', hl, hfr, hgi, hK⟩ := hd.step hs
    refine hi.set ht hl.ge rfl ⟨hk, p, q, hmt, hd'⟩ fun u tu hu htu hne => htu.keep (hK u hu) ?_
    rintro k' p' q' pc g s rfl - hmt' hd
    have hkk : k' ≠ k := fun h => hne k' rfl (by rw [h]; rfl)
    obtain ⟨h1, h2, h3, h4⟩ := hmt'.disjoint hmt hkk
    exact hd.frame (hfr p' h1 h2) (hfr q' h3 h4) (hgi k' hkk)
  | build sbi ok1 ok2 pc gp sp =>
    obtain ⟨hk, hgp, hsp⟩ := hti
    have hm := build_step_cases hs
    obtain ⟨hl, hlow, hgi, hK⟩ :=
      hm.footprint hi.length (fun h => hgp (h.imp_right .inl)) (fun h => hsp (.inr h))
    refine hi.set ht hl ?_ ?_ fun u tu _ htu _ => htu.keep (hK u) ?_
    · cases hm <;> rfl
    · have hL := hi.length
      cases hm with
      | alloc_gc_info_fail | alloc_stat_info_fail | set_sbi => exact ⟨hk, by simp, by simp⟩
      | alloc_gc_info => exact ⟨hk, fun _ => hL, by simp⟩
      | alloc_stat_info => exact ⟨hk, fun _ => hgp (.inl rfl), fun _ => hL⟩
      | link => exact ⟨hk, fun _ => hgp (.inr (.inl rfl)), fun _ => hsp (.inl rfl)⟩
    · rintro k' p' q' pc g s - hk' hmt' hd
      obtain ⟨h1, h2⟩ := hmt'.lt_length
      exact hd.frame (hlow p' h1) (hlow q' h2) (hgi k' fun h => hk (h ▸ hk'))

/-- The starting states satisfy the invariant. -/
theorem Start.inv {x : StatSys} (h : Start m x) : Inv x.reg m x where
  length := le_refl _
  thread u t ht := by
    cases t with
    | read _ pc _ _ _ _ =>
      obtain rfl : pc = .start := h.starts u _ ht
      trivial
    | destroy k pc g s =>
      obtain ⟨hk, rfl, rfl, rfl⟩ := h.starts u _ ht
      obtain ⟨p, q, hp, hqp, hmp, hmq⟩ := h.tracks.mounted k hk
      exact ⟨hk, p, q, ⟨hp, hqp, hmp, hmq⟩, ⟨rfl, rfl, hp⟩, hmp, none, hmq⟩
    | build k _ _ pc _ _ =>
      obtain ⟨hk, rfl⟩ := h.starts u _ ht
      exact ⟨hk, by simp, by simp⟩
  destroys_inj := h.destroys_inj

theorem Inv.reaches {x y : StatSys} (hi : Inv r0 m x) (hxy : Relation.ReflTransGen StatStep x y) :
    Inv r0 m y := by
  induction hxy with
  | refl => exact hi
  | tail _ hs ih => exact ih.step hs

end Run

/-- Whatever the interleaving of readers, mounts and unmounts, a reader in its body holds the
mutex `si->stat_list` of a live `f2fs_stat_info` whose `si->sbi` names a superblock `k`, and no
`destroy_gc_manager` working on that `si` has gone past its `mutex_lock`: it is the
`destroy_gc_manager` of `k`, which can neither clear `si->sbi` nor free `si` before the reader
unlocks. So `f2fs_read_gc` and `f2fs_read_sit`, which read `si->sbi` under the mutex, find it set
when they call the statistics functions on it. -/
theorem reader_body_holds_live_stat_info {m : List Nat} {x0 x : StatSys} (h0 : Start m x0)
    (hx : Relation.ReflTransGen StatStep x0 x) {tid : Nat} {kind : ReaderKind} {pos n : Cursor}
    {si sbi : Option Nat} (ht : x.threads[tid]? = some (.read kind .use pos n si sbi)) :
    ∃ q k, si = some q ∧ x.reg.mem[q]? = some (.stat_info (some k) (some tid)) ∧
      (∀ (j k' : Nat) (pc : DestroyPc) (g : Option Nat), x.threads[j]? = some (.destroy k' pc g (some q)) →
        k' = k ∧ (pc = .unlink ∨ pc = .lock)) := by
  have hi := h0.inv.reaches hx
  obtain ⟨q, k, rfl, hq⟩ := hi.thread tid _ ht
  refine ⟨q, k, rfl, hq, fun j k' pc g hj => ?_⟩
  obtain ⟨-, p', q', -, hl, -, hc⟩ := hi.thread j _ hj
  have hjt : j ≠ tid := by
    rintro rfl
    rw [ht] at hj
    cases hj
  cases pc with
  | load => cases hl.2.1
  | unlink | lock =>
    obtain ⟨-, ⟨⟩⟩ := hl
    obtain ⟨hd, hc⟩ := hc
    rw [hq] at hc
    cases hc
    simp
  | clear =>
    obtain ⟨-, ⟨⟩⟩ := hl
    rw [hq] at hc
    cases hc
    exact absurd rfl hjt
  | unlock | free_stat_info | free_gc_info | done =>
    obtain ⟨-, ⟨⟩⟩ := hl
    simp [StatCell, hq] at hc

/-- `f2fs_read_gc` reaching its body on the one mounted superblock while that superblock's
`destroy_gc_manager` waits to start. -/
theorem read_gc_body_holds_live_stat_info : ∃ x0 x : StatSys, Start [1] x0 ∧
    Relation.ReflTransGen StatStep x0 x ∧
    x.threads[0]? = some (.read .gc .use (.entry 0) .head (some 1) none) ∧
    ∃ q k, some 1 = some q ∧ x.reg.mem[q]? = some (.stat_info (some k) (some 0)) ∧
      (∀ (j k' : Nat) (pc : DestroyPc) (g : Option Nat),
        x.threads[j]? = some (.destroy k' pc g (some q)) → k' = k ∧ (pc = .unlink ∨ pc = .lock)) := by
  have hm := Mounts.mount (.init (fun _ => one_seg_sb) fun _ => 0) (List.not_mem_nil 1)
    (build_gc_manager_ok _ 1)
  have h0 : Start [1] ⟨_, [f2fs_read_gc, .destroy 1 .load none none]⟩ :=
    { tracks := hm.tracks
      starts := by
        rintro (_ | _ | u) t ⟨⟩
        exacts [rfl, ⟨List.mem_singleton_self 1, rfl, rfl, rfl⟩]
      destroys_inj := by
        intro i j k hi hj
        have key : ∀ i, ([f2fs_read_gc, .destroy 1 .load none none][i]?.bind Thread.destroys) =
            some k → i = 1 := by
          rintro (_ | _ | i) ⟨⟩
          rfl
        exact (key i hi).trans (key j hj).symm }
  exact ⟨_, _, h0, StatSys.run_reaches [0, 0, 0, 0, 0] rfl, rfl,
    reader_body_holds_live_stat_info h0 (StatSys.run_reaches [0, 0, 0, 0, 0] rfl) rfl⟩

/-- `destroy_gc_manager` races every reader: on every registry that tracks the mounts, a reader
that has taken the first entry of `f2fs_stat_list` as `gc_i`, and lets the `destroy_gc_manager`
of that entry's superblock run to its end, reads the freed `f2fs_gc_info` at its next step:
`gc_i->stat_info`, or `gc_i->stat_info->sbi` for `f2fs_read_mem`. -/
theorem reader_races_destroy {r : Registry} {k : Nat} {m : List Nat} (h : r.Tracks (k :: m))
    (kind : ReaderKind) : ∃ x, Relation.ReflTransGen StatStep
      ⟨r, [reader kind, .destroy k .load none none]⟩ x ∧ x.Faults 0 .use_after_free := by
  obtain ⟨p, q, hk, hqp, hp, hq⟩ := h.mounted k (List.mem_cons_self k m)
  have hl : r.stat_list = p :: m.filterMap r.gc_info := by rw [h.list, List.filterMap_cons, hk]
  have hfreed : ((r.mem.set q .freed).set p .freed)[p]? = some .freed := by
    simp [Registry.lt_length_of_getElem? hp]
  have hrun := Relation.ReflTransGen.head
    (StatStep.step (x := ⟨r, [reader kind, .destroy k .load none none]⟩) 0 rfl (read_start hl hp))
    (run_alone_reaches 1 rfl ((destroy_runs 1 0 hk hp hq hqp).trans rfl))
  cases kind with
  | gc | sit =>
    exact ⟨_, hrun.tail (.step 0 rfl (read_test_load rfl)), _, rfl, read_load_freed hfreed⟩
  | mem => exact ⟨_, hrun.tail (.step 0 rfl read_test_stale), _, rfl, read_stale_freed hfreed⟩

/-- `build_gc_manager` links `gc_i` into the list before it sets `si->sbi`, and `f2fs_read_mem`
reads its own `sbi = gc_i->stat_info->sbi` before it takes the mutex but tests `si->sbi` after.
On every registry that tracks the mounts, `f2fs_read_mem` walking the list while a superblock is
mounted can read that superblock's `sbi` as NULL, then find `si->sbi` set under the mutex, and
dereference NULL. -/
theorem read_mem_races_build {r : Registry} {m : List Nat} (h : r.Tracks m) (sbi : Nat) :
    ∃ x, Relation.ReflTransGen StatStep
      ⟨r, [f2fs_read_mem, .build sbi true true .alloc_gc_info 0 0]⟩ x ∧ x.Faults 0 .null_deref := by
  -- `build_gc_manager` runs up to `si->sbi = sbi`
  have hrun := run_alone_reaches 1 (x := ⟨r, [f2fs_read_mem, .build sbi true true .alloc_gc_info 0 0]⟩)
    rfl ((build_links 1 0 r sbi 0 0).trans rfl)
  dsimp only [List.set] at hrun
  set L := r.mem.length
  set r3 : Registry := ⟨r.mem ++ [.gc_info (some (L + 1)) .linked, .stat_info none none],
    Function.update r.gc_info sbi (some L), r.stat_list ++ [L], r.sb,
    Function.update (Function.update r.dirty_count L 0) (L + 1) 0⟩ with hr3
  have hlow : ∀ a < L, r3.mem[a]? = r.mem[a]? := fun a ha => List.getElem?_append_left ha
  have hgp : r3.mem[L]? = some (.gc_info (some (L + 1)) .linked) := by
    rw [List.getElem?_append_right (le_refl _), Nat.sub_self]
    rfl
  have hsp : r3.mem[L + 1]? = some (.stat_info none none) := by
    rw [List.getElem?_append_right (Nat.le_succ _), show L + 1 - r.mem.length = 1 by omega]
    rfl
  have hold : ∀ p ∈ r.stat_list, p < L := fun p hp => by
    obtain ⟨s, hs⟩ := h.linked p hp
    exact Registry.lt_length_of_getElem? hs
  have hnd : r3.stat_list.Nodup := List.nodup_append.2 ⟨h.stat_list_nodup, List.nodup_singleton L,
    List.disjoint_singleton.2 fun hL => lt_irrefl L (hold L hL)⟩
  have hlinked : ∀ p ∈ r3.stat_list, ∃ s, r3.mem[p]? = some (.gc_info s .linked) := by
    intro p hp
    rcases List.mem_append.1 hp with hp | hp
    · obtain ⟨s, hs⟩ := h.linked p hp
      exact ⟨s, (hlow p (hold p hp)).trans hs⟩
    · obtain rfl := List.mem_singleton.1 hp
      exact ⟨_, hgp⟩
  have hgood : ∀ p ∈ r.stat_list, ∃ q k, r3.mem[p]? = some (.gc_info (some q) .linked) ∧
      r3.mem[q]? = some (.stat_info (some k) none) := by
    intro p hp
    obtain ⟨q, k, hpq, hqk⟩ := h.live p hp
    exact ⟨q, k, (hlow p (hold p hp)).trans hpq,
      (hlow q (Registry.lt_length_of_getElem? hqk)).trans hqk⟩
  -- `f2fs_read_mem` walks to `gc_i`, the new entry, and reads `sbi = NULL`
  obtain ⟨n', si', sb', hn', hwalk⟩ := read_walk hnd hlinked 0 r.stat_list [L] []
    (first_of r3.stat_list.tail) none none rfl hgood (.inr rfl)
  have hrun := (hrun.tail (.step 0 rfl (read_start_linked hlinked))).trans
    (run_alone_reaches 0 rfl (hwalk.trans rfl))
  dsimp only [List.set] at hrun
  -- `build_gc_manager` sets `si->sbi`, then the reader locks and finds it set
  set r4 := r3.write (L + 1) (.stat_info (some sbi) none)
  have h4gp : r4.mem[L]? = some (.gc_info (some (L + 1)) .linked) :=
    (Registry.getElem?_write_ne (by omega)).trans hgp
  have h4sp : r4.mem[L + 1]? = some (.stat_info (some sbi) none) :=
    Registry.getElem?_write_self (Registry.lt_length_of_getElem? hsp)
  have h5sp : (r4.write (L + 1) (.stat_info (some sbi) (some 0))).mem[L + 1]? =
      some (.stat_info (some sbi) (some 0)) :=
    Registry.getElem?_write_self (Registry.lt_length_of_getElem? h4sp)
  have hrun := hrun.tail (.step 0 rfl read_test_stale) |>.tail (.step 0 rfl (read_stale hgp hsp))
    |>.tail (.step 1 rfl (build_set_sbi none none hsp)) |>.tail (.step 0 rfl (read_load h4gp))
    |>.tail (.step 0 rfl (read_lock h4sp)) |>.tail (.step 0 rfl (read_check_set h5sp))
  exact ⟨_, hrun, _, rfl, read_use_null h5sp⟩

/-- `f2fs_read_gc` and the unmount of the one mounted superblock. -/
theorem read_gc_races_umount : ∃ r : Registry, r.Tracks [1] ∧ ∃ x,
    Relation.ReflTransGen StatStep ⟨r, [reader .gc, .destroy 1 .load none none]⟩ x ∧
      x.Faults 0 .use_after_free := by
  have hm := Mounts.mount (.init (fun _ => one_seg_sb) fun _ => 0) (List.not_mem_nil 1)
    (build_gc_manager_ok _ 1)
  exact ⟨_, hm.tracks, reader_races_destroy hm.tracks .gc⟩

/-- `f2fs_read_mem` and the mount of a second superblock. -/
theorem read_mem_races_mount : ∃ r : Registry, r.Tracks [1] ∧ ∃ x,
    Relation.ReflTransGen StatStep ⟨r, [f2fs_read_mem, .build 2 true true .alloc_gc_info 0 0]⟩ x ∧
      x.Faults 0 .null_deref := by
  have hm := Mounts.mount (.init (fun _ => one_seg_sb) fun _ => 0) (List.not_mem_nil 1)
    (build_gc_manager_ok _ 1)
  exact ⟨_, hm.tracks, read_mem_races_build hm.tracks 2⟩

end f2fs.gc
