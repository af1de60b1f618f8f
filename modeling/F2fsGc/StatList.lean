import F2fsGc.Stat

namespace f2fs.gc

/-- `ENOMEM`, which `build_gc_manager` returns negated when `kzalloc` fails. -/
def ENOMEM : Int := 12

/-- Why an access of the code faults. -/
inductive Fault
  | null_deref
  | use_after_free
  /-- an access through `LIST_POISON1` or through an address never allocated -/
  | bad_pointer
  | div_by_zero
  deriving DecidableEq, Repr

/-- The links `gc_i->stat_list`: as `kzalloc` zeroed them, on `f2fs_stat_list`, or poisoned by
`list_del`. -/
inductive Link
  | zero
  | linked
  | poisoned
  deriving DecidableEq, Repr

/-- An object of the slab. -/
inductive Obj
  /-- an `f2fs_gc_info`: `gc_i->stat_info` and the links `gc_i->stat_list` -/
  | gc_info (stat_info : Option Nat) (link : Link)
  /-- an `f2fs_stat_info`: `si->sbi` and the thread holding `si->stat_list` -/
  | stat_info (sbi : Option Nat) (holder : Option Nat)
  | freed
  deriving DecidableEq, Repr

/-- What `f2fs_update_stat` and `f2fs_update_gc_metric` read of a superblock. -/
structure SbStat where
  geometry : f2fs.segment.Geometry
  sit : f2fs.segment.SitInfo
  /-- `free_user_blocks(sbi)` -/
  free_user_blocks : Nat
  /-- `written_block_count(sbi)` -/
  written_block_count : Nat
  /-- `sbi->user_block_count` -/
  user_block_count : Nat
  /-- `dirty_segments(sbi)` -/
  dirty_segments : Nat

/-- The memory the list lives in. Addresses are indices of `mem`; `kzalloc` appends. -/
structure Registry where
  mem : List Obj
  /-- `sbi->gc_info` of each superblock. -/
  gc_info : Nat → Option Nat
  /-- `f2fs_stat_list`, from `head->next` on. -/
  stat_list : List Nat
  /-- what the statistics functions read of each superblock; no function here writes it -/
  sb : Nat → SbStat
  /-- `si->dirty_count` of the `f2fs_stat_info` at each address -/
  dirty_count : Nat → Nat

/-- What a `list_head` pointer of a walk designates. -/
inductive Cursor
  | head
  | entry (p : Nat)
  | poison
  | null
  deriving DecidableEq, Repr

/-- `*p` of a pointer the code follows. -/
def deref : Option Nat → Except Fault Nat
  | none => throw .null_deref
  | some p => pure p

/-- `list_entry(pos, ...)` of a walk, dereferenced. -/
def Cursor.deref : Cursor → Except Fault Nat
  | .entry p => pure p
  | .null => throw .null_deref
  | .head | .poison => throw .bad_pointer

/-- The first entry of a list, or its head when it is empty. -/
def first_of : List Nat → Cursor
  | [] => .head
  | p :: _ => .entry p

/-- Writing back what a list holds leaves it as it is. -/
theorem set_self_of_getElem? {α : Type} {l : List α} {i : Nat} {a : α} (h : l[i]? = some a) :
    l.set i a = l := by
  apply List.ext_getElem?
  intro j
  rw [List.getElem?_set]
  split
  · subst_vars
    simp [(List.getElem?_eq_some_iff.1 h).1, h]
  · rfl

namespace Registry

def write (r : Registry) (p : Nat) (o : Obj) : Registry := { r with mem := r.mem.set p o }

/-- The `f2fs_gc_info` at `p`: its `stat_info` and its links. -/
def gc_info_at (r : Registry) (p : Nat) : Except Fault (Option Nat × Link) :=
  match r.mem[p]? with
  | some (.gc_info si l) => pure (si, l)
  | some .freed => throw .use_after_free
  | _ => throw .bad_pointer

/-- The `f2fs_stat_info` at `p`: `si->sbi` and the holder of its mutex. -/
def stat_info_at (r : Registry) (p : Nat) : Except Fault (Option Nat × Option Nat) :=
  match r.mem[p]? with
  | some (.stat_info sbi h) => pure (sbi, h)
  | some .freed => throw .use_after_free
  | _ => throw .bad_pointer

/-- `kzalloc`: the zeroed object `o` at a new address, or `none` when the allocator answers
`ok = false`. -/
def kzalloc (r : Registry) (ok : Bool) (o : Obj) : Option (Nat × Registry) :=
  if ok then
    some (r.mem.length,
      { r with mem := r.mem ++ [o], dirty_count := Function.update r.dirty_count r.mem.length 0 })
  else none

/-- `kfree`: NULL is ignored; freeing a freed object is a use after free. -/
def kfree (r : Registry) : Option Nat → Except Fault Registry
  | none => pure r
  | some p =>
    match r.mem[p]? with
    | some .freed => throw .use_after_free
    | some _ => pure (r.write p .freed)
    | none => throw .bad_pointer

/-- `p->stat_list.next`: the entry after `p`, the head after the last entry; NULL in zeroed
links, `LIST_POISON1` in unlinked ones. -/
def next_of (r : Registry) (p : Nat) : Except Fault Cursor := do
  let (_, l) ← r.gc_info_at p
  match l with
  | .zero => pure .null
  | .poisoned => pure .poison
  | .linked => pure (first_of ((r.stat_list.dropWhile (· ≠ p)).drop 1))

/-- `list_add_tail(&gc_i->stat_list, &f2fs_stat_list)`. -/
def list_add_tail (r : Registry) (p : Nat) : Except Fault Registry := do
  let (si, _) ← r.gc_info_at p
  pure { r.write p (.gc_info si .linked) with stat_list := r.stat_list ++ [p] }

/-- `list_del(&gc_i->stat_list)`: zeroed links make it write through NULL, poisoned ones
through `LIST_POISON1`. -/
def list_del (r : Registry) (p : Nat) : Except Fault Registry := do
  let (si, l) ← r.gc_info_at p
  match l with
  | .zero => throw .null_deref
  | .poisoned => throw .bad_pointer
  | .linked => pure { r.write p (.gc_info si .poisoned) with stat_list := r.stat_list.erase p }

/-- `mutex_lock(&si->stat_list)` by thread `tid`: `none` while another thread holds it. -/
def mutex_lock (r : Registry) (tid p : Nat) : Except Fault (Option Registry) := do
  let (sbi, h) ← r.stat_info_at p
  pure (if h.isSome then none else some (r.write p (.stat_info sbi (some tid))))

/-- `mutex_unlock(&si->stat_list)`. -/
def mutex_unlock (r : Registry) (p : Nat) : Except Fault Registry := do
  let (sbi, _) ← r.stat_info_at p
  pure (r.write p (.stat_info sbi none))

end Registry

/-- Where `build_gc_manager` is: the statements it runs next, or its return value. -/
inductive BuildPc
  /-- `gc_i = kzalloc(..); if (!gc_i) return -ENOMEM; sbi->gc_info = gc_i;` -/
  | alloc_gc_info
  /-- `gc_i->stat_info = kzalloc(..); if (!gc_i->stat_info) return -ENOMEM;
  mutex_init(&si->stat_list);` -/
  | alloc_stat_info
  /-- `list_add_tail(&gc_i->stat_list, &f2fs_stat_list);` -/
  | link
  /-- `si->sbi = sbi; return 0;` -/
  | set_sbi
  | done (ret : Int)
  deriving DecidableEq, Repr

/-- Where `destroy_gc_manager` is. -/
inductive DestroyPc
  /-- `gc_i = sbi->gc_info; si = gc_i->stat_info; if (!gc_i) return;` -/
  | load
  /-- `list_del(&gc_i->stat_list);` -/
  | unlink
  /-- `mutex_lock(&si->stat_list);` -/
  | lock
  /-- `si->sbi = NULL;` -/
  | clear
  /-- `mutex_unlock(&si->stat_list);` -/
  | unlock
  /-- `kfree(gc_i->stat_info);` -/
  | free_stat_info
  /-- `sbi->gc_info = NULL; kfree(gc_i);` -/
  | free_gc_info
  | done
  deriving DecidableEq, Repr

/-- Where a reader's `list_for_each_entry_safe(gc_i, next, &f2fs_stat_list, stat_list)` walk
is. -/
inductive ReaderPc
  /-- `gc_i = head->next; next = gc_i->next` -/
  | start
  /-- `&gc_i->stat_list != &f2fs_stat_list` -/
  | test
  /-- `sbi = gc_i->stat_info->sbi;`, which only `f2fs_read_mem` does, before the lock -/
  | stale
  /-- `si = gc_i->stat_info;` -/
  | load
  /-- `mutex_lock(&si->stat_list);` -/
  | lock
  /-- `if (!si->sbi)` -/
  | check
  /-- the body: `f2fs_update_stat(si->sbi)`, `f2fs_update_gc_metric(si->sbi)`, or
  `f2fs_read_mem`'s reads through its own `sbi` -/
  | use
  /-- `mutex_unlock(&si->stat_list);` -/
  | unlock
  /-- `gc_i = next; next = gc_i->next` -/
  | advance
  | done
  deriving DecidableEq, Repr

/-- Which procfs reader a thread runs. -/
inductive ReaderKind
  | gc
  | sit
  | mem
  deriving DecidableEq, Repr

/-- `f2fs_read_mem` reads `sbi` before the lock. -/
def ReaderKind.stale : ReaderKind → Bool
  | .mem => true
  | _ => false

/-- A thread and its locals. -/
inductive Thread
  /-- `build_gc_manager(sbi)`, with the answers of its two `kzalloc` calls -/
  | build (sbi : Nat) (ok1 ok2 : Bool) (pc : BuildPc) (gc_i si : Nat)
  | destroy (sbi : Nat) (pc : DestroyPc) (gc_i si : Option Nat)
  /-- a procfs reader and the locals of its walk -/
  | read (kind : ReaderKind) (pc : ReaderPc) (pos n : Cursor) (si sbi : Option Nat)
  deriving DecidableEq, Repr

/-- One step of `build_gc_manager(sbi)`. -/
def build_step (r : Registry) (sbi : Nat) (ok1 ok2 : Bool) (gc_i si : Nat) :
    BuildPc → Except Fault (Option (Registry × Thread))
  | .alloc_gc_info =>
    match r.kzalloc ok1 (.gc_info none .zero) with
    | none => pure (some (r, .build sbi ok1 ok2 (.done (-ENOMEM)) gc_i si))
    | some (p, r) => pure (some ({ r with gc_info := Function.update r.gc_info sbi (some p) },
        .build sbi ok1 ok2 .alloc_stat_info p si))
  | .alloc_stat_info =>
    match r.kzalloc ok2 (.stat_info none none) with
    | none => pure (some (r, .build sbi ok1 ok2 (.done (-ENOMEM)) gc_i si))
    | some (q, r) => do
      let (_, l) ← r.gc_info_at gc_i
      pure (some (r.write gc_i (.gc_info (some q) l), .build sbi ok1 ok2 .link gc_i q))
  | .link => do
    let r ← r.list_add_tail gc_i
    pure (some (r, .build sbi ok1 ok2 .set_sbi gc_i si))
  | .set_sbi => do
    let (_, h) ← r.stat_info_at si
    pure (some (r.write si (.stat_info (some sbi) h), .build sbi ok1 ok2 (.done 0) gc_i si))
  | .done _ => pure none

/-- One step of `destroy_gc_manager(sbi)` by thread `tid`. -/
def destroy_step (tid : Nat) (r : Registry) (sbi : Nat) (gc_i si : Option Nat) :
    DestroyPc → Except Fault (Option (Registry × Thread))
  | .load => do
    let gc_i := r.gc_info sbi
    let (si, _) ← r.gc_info_at (← deref gc_i)
    pure (some (r, .destroy sbi (if gc_i.isNone then .done else .unlink) gc_i si))
  | .unlink => do
    let r ← r.list_del (← deref gc_i)
    pure (some (r, .destroy sbi .lock gc_i si))
  | .lock => do
    let r ← r.mutex_lock tid (← deref si)
    pure (r.map fun r => (r, .destroy sbi .clear gc_i si))
  | .clear => do
    let p ← deref si
    let (_, h) ← r.stat_info_at p
    pure (some (r.write p (.stat_info none h), .destroy sbi .unlock gc_i si))
  | .unlock => do
    let r ← r.mutex_unlock (← deref si)
    pure (some (r, .destroy sbi .free_stat_info gc_i si))
  | .free_stat_info => do
    let (s, _) ← r.gc_info_at (← deref gc_i)
    let r ← r.kfree s
    pure (some (r, .destroy sbi .free_gc_info gc_i si))
  | .free_gc_info => do
    let r ← ({ r with gc_info := Function.update r.gc_info sbi none } : Registry).kfree gc_i
    pure (some (r, .destroy sbi .done gc_i si))
  | .done => pure none

/-- `f2fs_update_stat(sbi)` (`gc`) or `f2fs_update_gc_metric(sbi)` for superblock `k`: both
reach `si` through `sbi->gc_info->stat_info`. `f2fs_update_stat` writes `si->dirty_count` and
divides by the user segments; `f2fs_update_gc_metric` reads `si->dirty_count` and divides by
`dist` and by `ndirty`. The other fields they write are read back by nothing but `sprintf`. -/
def Registry.update_stats (r : Registry) (k : Nat) (gc : Bool) : Except Fault Registry := do
  let (s, _) ← r.gc_info_at (← deref (r.gc_info k))
  let q ← deref s
  let _ ← r.stat_info_at q
  if gc then
    match f2fs_update_stat (r.sb k).geometry (r.sb k).free_user_blocks
        (r.sb k).written_block_count (r.sb k).user_block_count with
    | none => throw .div_by_zero
    | some _ =>
      pure { r with dirty_count := Function.update r.dirty_count q (r.sb k).dirty_segments }
  else
    match f2fs_update_gc_metric (r.sb k).geometry (r.sb k).sit (r.dirty_count q) with
    | none => throw .div_by_zero
    | some _ => pure r

/-- One step of a reader by thread `tid`. -/
def read_step (tid : Nat) (r : Registry) (kind : ReaderKind) (pos n : Cursor)
    (si sbi : Option Nat) : ReaderPc → Except Fault (Option (Registry × Thread))
  | .start => do
    let pos := first_of r.stat_list
    let n ← match pos with
      | .entry p => r.next_of p
      | _ => pure pos
    pure (some (r, .read kind .test pos n si sbi))
  | .test =>
    pure (some (r, .read kind (if pos = .head then .done else if kind.stale then .stale else .load)
      pos n si sbi))
  | .stale => do
    let (s, _) ← r.gc_info_at (← pos.deref)
    let (b, _) ← r.stat_info_at (← deref s)
    pure (some (r, .read kind .load pos n si b))
  | .load => do
    let (s, _) ← r.gc_info_at (← pos.deref)
    pure (some (r, .read kind .lock pos n s sbi))
  | .lock => do
    let r ← r.mutex_lock tid (← deref si)
    pure (r.map fun r => (r, .read kind .check pos n si sbi))
  | .check => do
    let (b, _) ← r.stat_info_at (← deref si)
    pure (some (r, .read kind (if b.isNone then .unlock else .use) pos n si sbi))
  | .use => do
    let (b, _) ← r.stat_info_at (← deref si)
    match kind with
    | .mem =>
      let _ ← deref sbi
      pure (some (r, .read kind .unlock pos n si sbi))
    | .gc | .sit =>
      let r ← r.update_stats (← deref b) (kind = .gc)
      pure (some (r, .read kind .unlock pos n si sbi))
  | .unlock => do
    let r ← r.mutex_unlock (← deref si)
    pure (some (r, .read kind .advance pos n si sbi))
  | .advance => do
    let n' ← match n with
      | .head => pure (first_of r.stat_list)
      | c => do r.next_of (← c.deref)
    pure (some (r, .read kind .test n n' si sbi))
  | .done => pure none

/-- One step of thread `tid`: a fault, `none` when it cannot move (it waits for a mutex or it
has returned), or the registry and the thread after the step. -/
def thread_step (tid : Nat) (r : Registry) : Thread → Except Fault (Option (Registry × Thread))
  | .build sbi ok1 ok2 pc gc_i si => build_step r sbi ok1 ok2 gc_i si pc
  | .destroy sbi pc gc_i si => destroy_step tid r sbi gc_i si pc
  | .read kind pc pos n si sbi => read_step tid r kind pos n si sbi pc

/-- Thread `tid` running alone for at most `fuel` steps. -/
def run_alone (tid : Nat) : Nat → Registry → Thread → Except Fault (Registry × Thread)
  | 0, r, t => pure (r, t)
  | fuel + 1, r, t => do
    match ← thread_step tid r t with
    | none => pure (r, t)
    | some (r, t) => run_alone tid fuel r t

/-- The value a `build_gc_manager` thread returned. -/
def Thread.ret : Thread → Option Int
  | .build _ _ _ (.done ret) _ _ => some ret
  | _ => none

/-- `build_gc_manager(sbi)` called alone: its return value and the registry it leaves. -/
def build_gc_manager (r : Registry) (sbi : Nat) (ok1 ok2 : Bool) :
    Except Fault (Option Int × Registry) :=
  (fun x => (x.2.ret, x.1)) <$> run_alone 0 4 r (.build sbi ok1 ok2 .alloc_gc_info 0 0)

/-- `destroy_gc_manager(sbi)` called alone. -/
def destroy_gc_manager (r : Registry) (sbi : Nat) : Except Fault Registry :=
  Prod.fst <$> run_alone 0 7 r (.destroy sbi .load none none)

/-- A procfs reader before its `list_for_each_entry_safe`. -/
def reader (kind : ReaderKind) : Thread := .read kind .start .head .head none none

def f2fs_read_gc : Thread := reader .gc

def f2fs_read_sit : Thread := reader .sit

def f2fs_read_mem : Thread := reader .mem

namespace Registry

variable {r : Registry} {p q : Nat} {o : Obj}

theorem lt_length_of_getElem? (h : r.mem[p]? = some o) : p < r.mem.length :=
  (List.getElem?_eq_some_iff.1 h).1

@[simp] theorem getElem?_write_self (h : p < r.mem.length) : (r.write p o).mem[p]? = some o := by
  simp [write, h]

@[simp] theorem getElem?_write_ne (h : q ≠ p) : (r.write p o).mem[q]? = r.mem[q]? :=
  List.getElem?_set_ne (Ne.symm h)

@[simp] theorem length_write : (r.write p o).mem.length = r.mem.length := List.length_set ..

theorem gc_info_at_of {si : Option Nat} {l : Link} (h : r.mem[p]? = some (.gc_info si l)) :
    r.gc_info_at p = pure (si, l) := by
  simp [gc_info_at, h]

theorem stat_info_at_of {b hd : Option Nat} (h : r.mem[p]? = some (.stat_info b hd)) :
    r.stat_info_at p = pure (b, hd) := by
  simp [stat_info_at, h]

theorem write_of_getElem? (h : r.mem[p]? = some o) : r.write p o = r := by
  simp only [write, set_self_of_getElem? h]

end Registry

/-- The entries after `p` in a list where `p` appears once, after `pre`. -/
theorem dropWhile_ne_append {p : Nat} {pre l : List Nat} (hp : p ∉ pre) :
    (pre ++ p :: l).dropWhile (· ≠ p) = p :: l := by
  induction pre with
  | nil => simp
  | cons x pre ih =>
    have hx : x ≠ p := fun h => hp (h ▸ List.mem_cons_self x pre)
    rw [List.cons_append, List.dropWhile_cons_of_pos (by simpa using hx)]
    exact ih fun h => hp (List.mem_cons_of_mem x h)

namespace Registry

/-- `gc_i->stat_list.next` of a linked entry: the entry after it in the list. -/
theorem next_of_linked {r : Registry} {p : Nat} {pre l : List Nat} {s : Option Nat}
    (hl : r.stat_list = pre ++ p :: l) (hpre : p ∉ pre) (hp : r.mem[p]? = some (.gc_info s .linked)) :
    r.next_of p = pure (first_of l) := by
  simp only [next_of, gc_info_at_of hp, pure_bind, hl, dropWhile_ne_append hpre]
  rfl

end Registry

section Steps

variable {tid sbi : Nat} {r : Registry} {p q : Nat} {g s si b hd : Option Nat} {l : Link}
  {ok1 ok2 : Bool} {gp sp : Nat} {kind : ReaderKind} {pos n : Cursor} {sb : Option Nat}

theorem build_alloc_gc_info_fail :
    thread_step tid r (.build sbi false ok2 .alloc_gc_info gp sp) =
      pure (some (r, .build sbi false ok2 (.done (-ENOMEM)) gp sp)) := rfl

theorem build_alloc_gc_info :
    thread_step tid r (.build sbi true ok2 .alloc_gc_info gp sp) =
      pure (some (⟨r.mem ++ [.gc_info none .zero], Function.update r.gc_info sbi (some r.mem.length),
        r.stat_list, r.sb, Function.update r.dirty_count r.mem.length 0⟩,
        .build sbi true ok2 .alloc_stat_info r.mem.length sp)) := rfl

theorem build_alloc_stat_info_fail :
    thread_step tid r (.build sbi ok1 false .alloc_stat_info gp sp) =
      pure (some (r, .build sbi ok1 false (.done (-ENOMEM)) gp sp)) := rfl

theorem build_alloc_stat_info (si : Option Nat) (l : Link) (hp : r.mem[gp]? = some (.gc_info si l)) :
    thread_step tid r (.build sbi ok1 true .alloc_stat_info gp sp) =
      pure (some ((⟨r.mem ++ [.stat_info none none], r.gc_info, r.stat_list, r.sb,
        Function.update r.dirty_count r.mem.length 0⟩ : Registry).write gp
        (.gc_info (some r.mem.length) l), .build sbi ok1 true .link gp r.mem.length)) := by
  have hp' : (r.mem ++ [Obj.stat_info none none])[gp]? = some (.gc_info si l) := by
    rw [List.getElem?_append_left (List.getElem?_eq_some_iff.1 hp).1, hp]
  simp [thread_step, build_step, Registry.kzalloc,
    Registry.gc_info_at_of (r := ⟨r.mem ++ [.stat_info none none], r.gc_info, r.stat_list, r.sb,
      Function.update r.dirty_count r.mem.length 0⟩) hp']

theorem build_link (si : Option Nat) (l : Link) (hp : r.mem[gp]? = some (.gc_info si l)) :
    thread_step tid r (.build sbi ok1 ok2 .link gp sp) =
      pure (some ({ r.write gp (.gc_info si .linked) with stat_list := r.stat_list ++ [gp] },
        .build sbi ok1 ok2 .set_sbi gp sp)) := by
  simp [thread_step, build_step, Registry.list_add_tail, Registry.gc_info_at_of hp]

theorem build_set_sbi (b hd : Option Nat) (hs : r.mem[sp]? = some (.stat_info b hd)) :
    thread_step tid r (.build sbi ok1 ok2 .set_sbi gp sp) =
      pure (some (r.write sp (.stat_info (some sbi) hd), .build sbi ok1 ok2 (.done 0) gp sp)) := by
  simp [thread_step, build_step, Registry.stat_info_at_of hs]

/-- `si = gc_i->stat_info` comes before `if (!gc_i) return`. -/
theorem destroy_load_none (h : r.gc_info sbi = none) :
    thread_step tid r (.destroy sbi .load g s) = throw .null_deref := by
  simp [thread_step, destroy_step, h, deref]
  rfl

theorem destroy_load (si : Option Nat) (l : Link) (h : r.gc_info sbi = some p)
    (hp : r.mem[p]? = some (.gc_info si l)) :
    thread_step tid r (.destroy sbi .load g s) =
      pure (some (r, .destroy sbi .unlink (some p) si)) := by
  simp [thread_step, destroy_step, h, deref, Registry.gc_info_at_of hp]

/-- `list_del` of links `kzalloc` zeroed writes through NULL. -/
theorem destroy_unlink_zero (hp : r.mem[p]? = some (.gc_info si .zero)) :
    thread_step tid r (.destroy sbi .unlink (some p) s) = throw .null_deref := by
  simp [thread_step, destroy_step, deref, Registry.list_del, Registry.gc_info_at_of hp]
  rfl

theorem destroy_unlink (si : Option Nat) (hp : r.mem[p]? = some (.gc_info si .linked)) :
    thread_step tid r (.destroy sbi .unlink (some p) s) =
      pure (some ({ r.write p (.gc_info si .poisoned) with stat_list := r.stat_list.erase p },
        .destroy sbi .lock (some p) s)) := by
  simp [thread_step, destroy_step, deref, Registry.list_del, Registry.gc_info_at_of hp]

theorem destroy_lock (b : Option Nat) (hq : r.mem[q]? = some (.stat_info b none)) :
    thread_step tid r (.destroy sbi .lock g (some q)) =
      pure (some (r.write q (.stat_info b (some tid)), .destroy sbi .clear g (some q))) := by
  simp [thread_step, destroy_step, deref, Registry.mutex_lock, Registry.stat_info_at_of hq]

theorem destroy_clear (b hd : Option Nat) (hq : r.mem[q]? = some (.stat_info b hd)) :
    thread_step tid r (.destroy sbi .clear g (some q)) =
      pure (some (r.write q (.stat_info none hd), .destroy sbi .unlock g (some q))) := by
  simp [thread_step, destroy_step, deref, Registry.stat_info_at_of hq]

theorem destroy_unlock (b hd : Option Nat) (hq : r.mem[q]? = some (.stat_info b hd)) :
    thread_step tid r (.destroy sbi .unlock g (some q)) =
      pure (some (r.write q (.stat_info b none), .destroy sbi .free_stat_info g (some q))) := by
  simp [thread_step, destroy_step, deref, Registry.mutex_unlock, Registry.stat_info_at_of hq]

theorem destroy_free_stat_info (q : Nat) (l : Link) (b hd : Option Nat)
    (hp : r.mem[p]? = some (.gc_info (some q) l)) (hq : r.mem[q]? = some (.stat_info b hd)) :
    thread_step tid r (.destroy sbi .free_stat_info (some p) s) =
      pure (some (r.write q .freed, .destroy sbi .free_gc_info (some p) s)) := by
  simp [thread_step, destroy_step, deref, Registry.kfree, Registry.gc_info_at_of hp, hq]

theorem destroy_free_gc_info (si : Option Nat) (l : Link) (hp : r.mem[p]? = some (.gc_info si l)) :
    thread_step tid r (.destroy sbi .free_gc_info (some p) s) =
      pure (some (({ r with gc_info := Function.update r.gc_info sbi none } : Registry).write p
        .freed, .destroy sbi .done (some p) s)) := by
  simp [thread_step, destroy_step, Registry.kfree, hp]

theorem read_start {post : List Nat} (hl : r.stat_list = p :: post) (hp : r.mem[p]? = some (.gc_info s .linked)) :
    thread_step tid r (.read kind .start pos n si sb) =
      pure (some (r, .read kind .test (.entry p) (first_of post) si sb)) := by
  simp [thread_step, read_step, hl, first_of, Registry.next_of_linked (hl.trans (List.nil_append _).symm) (List.not_mem_nil p) hp]

theorem read_start_empty (hl : r.stat_list = []) :
    thread_step tid r (.read kind .start pos n si sb) =
      pure (some (r, .read kind .test .head .head si sb)) := by
  simp [thread_step, read_step, hl, first_of]

/-- `gc_i = head->next; next = gc_i->next` on a list whose entries are linked. -/
theorem read_start_linked (hl : ∀ p ∈ r.stat_list, ∃ s, r.mem[p]? = some (.gc_info s .linked)) :
    thread_step tid r (.read kind .start pos n si sb) = pure (some (r,
      .read kind .test (first_of r.stat_list) (first_of r.stat_list.tail) si sb)) := by
  cases h : r.stat_list with
  | nil => exact read_start_empty h
  | cons p post =>
    obtain ⟨s, hp⟩ := hl p (by simp [h])
    exact read_start h hp

theorem read_test_load (hk : kind.stale = false) :
    thread_step tid r (.read kind .test (.entry p) n si sb) =
      pure (some (r, .read kind .load (.entry p) n si sb)) := by
  simp [thread_step, read_step, hk]

theorem read_test_stale :
    thread_step tid r (.read .mem .test (.entry p) n si sb) =
      pure (some (r, .read .mem .stale (.entry p) n si sb)) := rfl

theorem read_stale (hp : r.mem[p]? = some (.gc_info (some q) l))
    (hq : r.mem[q]? = some (.stat_info b hd)) :
    thread_step tid r (.read .mem .stale (.entry p) n si sb) =
      pure (some (r, .read .mem .load (.entry p) n si b)) := by
  simp [thread_step, read_step, Cursor.deref, deref, Registry.gc_info_at_of hp,
    Registry.stat_info_at_of hq]

theorem read_load (hp : r.mem[p]? = some (.gc_info s l)) :
    thread_step tid r (.read kind .load (.entry p) n si sb) =
      pure (some (r, .read kind .lock (.entry p) n s sb)) := by
  simp [thread_step, read_step, Cursor.deref, Registry.gc_info_at_of hp]

/-- `gc_i->stat_info` of a freed `gc_info`. -/
theorem read_load_freed (hp : r.mem[p]? = some .freed) :
    thread_step tid r (.read kind .load (.entry p) n si sb) = throw .use_after_free := by
  simp only [thread_step, read_step, Cursor.deref, pure_bind, Registry.gc_info_at, hp]
  rfl

theorem read_stale_freed (hp : r.mem[p]? = some .freed) :
    thread_step tid r (.read .mem .stale (.entry p) n si sb) = throw .use_after_free := by
  simp only [thread_step, read_step, Cursor.deref, pure_bind, Registry.gc_info_at, hp]
  rfl

theorem read_lock (hq : r.mem[q]? = some (.stat_info b none)) :
    thread_step tid r (.read kind .lock pos n (some q) sb) =
      pure (some (r.write q (.stat_info b (some tid)), .read kind .check pos n (some q) sb)) := by
  simp [thread_step, read_step, deref, Registry.mutex_lock, Registry.stat_info_at_of hq]

theorem read_check_set {k : Nat} (hq : r.mem[q]? = some (.stat_info (some k) hd)) :
    thread_step tid r (.read kind .check pos n (some q) sb) =
      pure (some (r, .read kind .use pos n (some q) sb)) := by
  simp [thread_step, read_step, deref, Registry.stat_info_at_of hq]

/-- `f2fs_read_mem` reads through the `sbi` it loaded before the lock. -/
theorem read_use_stale {k : Nat} (hq : r.mem[q]? = some (.stat_info b hd)) :
    thread_step tid r (.read .mem .use pos n (some q) (some k)) =
      pure (some (r, .read .mem .unlock pos n (some q) (some k))) := by
  simp [thread_step, read_step, deref, Registry.stat_info_at_of hq]

/-- `f2fs_read_mem` dereferences the `sbi` it read before the lock. -/
theorem read_use_null (hq : r.mem[q]? = some (.stat_info b hd)) :
    thread_step tid r (.read .mem .use pos n (some q) none) = throw .null_deref := by
  simp [thread_step, read_step, deref, Registry.stat_info_at_of hq]
  rfl

/-- `f2fs_read_sit` divides by zero in `f2fs_update_gc_metric(si->sbi)` when `dist` wraps to 0
on `si->sbi`, reached through `sbi->gc_info->stat_info`. -/
theorem read_use_sit_div {k : Nat} (hq : r.mem[q]? = some (.stat_info (some k) hd))
    (hp : r.mem[p]? = some (.gc_info (some q) l)) (hk : r.gc_info k = some p)
    (hdist : metric_dist (r.sb k).geometry = 0) :
    thread_step tid r (.read .sit .use pos n (some q) sb) = throw .div_by_zero := by
  simp only [thread_step, read_step, deref, Registry.stat_info_at_of hq, pure_bind,
    Registry.update_stats, hk, Registry.gc_info_at_of hp, f2fs_update_gc_metric, hdist, ↓reduceIte]
  rfl

theorem read_unlock (hq : r.mem[q]? = some (.stat_info b hd)) :
    thread_step tid r (.read kind .unlock pos n (some q) sb) =
      pure (some (r.write q (.stat_info b none), .read kind .advance pos n (some q) sb)) := by
  simp [thread_step, read_step, deref, Registry.mutex_unlock, Registry.stat_info_at_of hq]

theorem read_advance_head :
    thread_step tid r (.read kind .advance pos .head si sb) =
      pure (some (r, .read kind .test .head (first_of r.stat_list) si sb)) := rfl

theorem read_advance {pre post : List Nat} (hl : r.stat_list = pre ++ p :: post) (hpre : p ∉ pre)
    (hp : r.mem[p]? = some (.gc_info s .linked)) :
    thread_step tid r (.read kind .advance pos (.entry p) si sb) =
      pure (some (r, .read kind .test (.entry p) (first_of post) si sb)) := by
  simp [thread_step, read_step, Cursor.deref, Registry.next_of_linked hl hpre hp]

theorem run_alone_step {n : Nat} {r' : Registry} {t t' : Thread}
    (h : thread_step tid r t = pure (some (r', t'))) :
    run_alone tid (n + 1) r t = run_alone tid n r' t' := by
  simp only [run_alone, h]
  rfl

theorem run_alone_fault {n : Nat} {t : Thread} {f : Fault} (h : thread_step tid r t = throw f) :
    run_alone tid (n + 1) r t = throw f := by
  simp only [run_alone, h]
  rfl

end Steps

section Alone

/-- The first three steps of `build_gc_manager` when both allocations succeed: `gc_i` and `si`
at the end of the heap, `gc_i` linked at the tail of the list, `si->sbi` still NULL. -/
theorem build_links (tid n : Nat) (r : Registry) (sbi gp sp : Nat) :
    run_alone tid (n + 3) r (.build sbi true true .alloc_gc_info gp sp) =
      run_alone tid n ⟨r.mem ++ [.gc_info (some (r.mem.length + 1)) .linked, .stat_info none none],
        Function.update r.gc_info sbi (some r.mem.length), r.stat_list ++ [r.mem.length], r.sb,
        Function.update (Function.update r.dirty_count r.mem.length 0) (r.mem.length + 1) 0⟩
        (.build sbi true true .set_sbi r.mem.length (r.mem.length + 1)) := by
  have h1 : (r.mem ++ [Obj.gc_info none .zero])[r.mem.length]? = some (.gc_info none .zero) := by
    simp
  rw [run_alone_step build_alloc_gc_info, run_alone_step (build_alloc_stat_info _ _ h1),
    run_alone_step (build_link (some (r.mem.length + 1)) .zero
      (by simp [Registry.write, List.getElem_append]))]
  simp [Registry.write, List.set_append]

theorem build_gc_manager_ok (r : Registry) (sbi : Nat) :
    build_gc_manager r sbi true true = pure (some 0,
      ⟨r.mem ++ [.gc_info (some (r.mem.length + 1)) .linked, .stat_info (some sbi) none],
        Function.update r.gc_info sbi (some r.mem.length), r.stat_list ++ [r.mem.length], r.sb,
        Function.update (Function.update r.dirty_count r.mem.length 0) (r.mem.length + 1) 0⟩) := by
  have hsp : (r.mem ++ [Obj.gc_info (some (r.mem.length + 1)) .linked,
      .stat_info none none])[r.mem.length + 1]? = some (.stat_info none none) := by
    rw [List.getElem?_append_right (Nat.le_add_right _ 1), Nat.add_sub_cancel_left]
    rfl
  rw [build_gc_manager, build_links 0 1, run_alone_step (build_set_sbi none none hsp),
    Registry.write, List.set_append_right _ _ (Nat.le_add_right _ 1), Nat.add_sub_cancel_left]
  rfl

theorem build_gc_manager_no_gc_info (r : Registry) (sbi : Nat) (ok2 : Bool) :
    build_gc_manager r sbi false ok2 = pure (some (-ENOMEM), r) := by
  rw [build_gc_manager, run_alone_step build_alloc_gc_info_fail]
  rfl

/-- When the second `kzalloc` fails, `sbi->gc_info` is left pointing at the zeroed `gc_info`. -/
theorem build_gc_manager_no_stat_info (r : Registry) (sbi : Nat) :
    build_gc_manager r sbi true false = pure (some (-ENOMEM),
      ⟨r.mem ++ [.gc_info none .zero], Function.update r.gc_info sbi (some r.mem.length),
        r.stat_list, r.sb, Function.update r.dirty_count r.mem.length 0⟩) := by
  rw [build_gc_manager, run_alone_step build_alloc_gc_info, run_alone_step build_alloc_stat_info_fail]
  rfl

theorem destroy_gc_manager_of_none {r : Registry} {sbi : Nat} (h : r.gc_info sbi = none) :
    destroy_gc_manager r sbi = throw .null_deref := by
  rw [destroy_gc_manager, run_alone_fault (destroy_load_none h)]
  rfl

theorem destroy_gc_manager_of_zero {r : Registry} {sbi p : Nat} {si : Option Nat}
    (h : r.gc_info sbi = some p) (hp : r.mem[p]? = some (.gc_info si .zero)) :
    destroy_gc_manager r sbi = throw .null_deref := by
  rw [destroy_gc_manager, run_alone_step (destroy_load _ _ h hp), run_alone_fault (destroy_unlink_zero hp)]
  rfl

/-- `destroy_gc_manager` of a linked `gc_i` whose `si` has a free mutex runs its seven steps to
the end: `gc_i` unlinked, both objects freed, `sbi->gc_info` cleared. -/
theorem destroy_runs (tid n : Nat) {r : Registry} {sbi p s : Nat} {b : Option Nat}
    (h : r.gc_info sbi = some p) (hp : r.mem[p]? = some (.gc_info (some s) .linked))
    (hs : r.mem[s]? = some (.stat_info b none)) (hps : s ≠ p) :
    run_alone tid (n + 7) r (.destroy sbi .load none none) =
      run_alone tid n ⟨(r.mem.set s .freed).set p .freed, Function.update r.gc_info sbi none,
        r.stat_list.erase p, r.sb, r.dirty_count⟩ (.destroy sbi .done (some p) (some s)) := by
  have hpl := Registry.lt_length_of_getElem? hp
  have hsl := Registry.lt_length_of_getElem? hs
  rw [run_alone_step (destroy_load _ _ h hp), run_alone_step (destroy_unlink _ hp),
    run_alone_step (destroy_lock b (by simpa [Registry.write, Ne.symm hps] using hs)),
    run_alone_step (destroy_clear b (some tid) (by simp [Registry.write, hsl])),
    run_alone_step (destroy_unlock none (some tid) (by simp [Registry.write, hsl])),
    run_alone_step (destroy_free_stat_info s .poisoned none none
      (by simp [Registry.write, hps, hpl]) (by simp [Registry.write, hsl])),
    run_alone_step (destroy_free_gc_info (some s) .poisoned (by simp [Registry.write, hps, hpl]))]
  simp [Registry.write, List.set_comm _ _ _ (Ne.symm hps)]

theorem destroy_gc_manager_linked {r : Registry} {sbi p s : Nat} {b : Option Nat}
    (h : r.gc_info sbi = some p) (hp : r.mem[p]? = some (.gc_info (some s) .linked))
    (hs : r.mem[s]? = some (.stat_info b none)) (hps : s ≠ p) :
    destroy_gc_manager r sbi = pure ⟨(r.mem.set s .freed).set p .freed,
      Function.update r.gc_info sbi none, r.stat_list.erase p, r.sb, r.dirty_count⟩ := by
  rw [destroy_gc_manager, destroy_runs 0 0 h hp hs hps]
  rfl

end Alone

/-- A list erased at `a` maps to the image erased at `f a`, when no other element has that
image. -/
theorem filterMap_erase {f : Nat → Option Nat} {a b : Nat} (ha : f a = some b) :
    ∀ {l : List Nat}, (∀ x ∈ l, f x = some b → x = a) →
      (l.erase a).filterMap f = (l.filterMap f).erase b
  | [], _ => rfl
  | x :: l, hinj => by
    by_cases hx : x = a
    · subst hx
      simp [ha]
    · have ih := filterMap_erase ha fun y hy => hinj y (List.mem_cons_of_mem x hy)
      rw [List.erase_cons_tail (by simp [hx])]
      cases hfx : f x with
      | none => simp [hfx, ih]
      | some c =>
        have hc : c ≠ b := fun hcb => hx (hinj x (List.mem_cons_self x l) (hcb ▸ hfx))
        simp [hfx, ih, List.erase_cons_tail (by simp [hc] : ¬(c == b) = true)]

/-- The registry after mounts and unmounts of the superblocks `m`, the mounted ones in mount
order. -/
structure Registry.Tracks (r : Registry) (m : List Nat) : Prop where
  /-- `f2fs_stat_list` holds the `gc_info` of each mounted superblock, in mount order. -/
  list : r.stat_list = m.filterMap r.gc_info
  nodup : m.Nodup
  /-- A mounted superblock's `gc_info` is linked, with a `stat_info` of its own that points back
  at it and whose mutex is free. -/
  mounted : ∀ k ∈ m, ∃ p s, r.gc_info k = some p ∧ s ≠ p ∧
    r.mem[p]? = some (.gc_info (some s) .linked) ∧ r.mem[s]? = some (.stat_info (some k) none)
  /-- Another superblock has no `gc_info`, or the zeroed one a failed `build_gc_manager` left. -/
  unmounted : ∀ k ∉ m, ∀ p, r.gc_info k = some p → r.mem[p]? = some (.gc_info none .zero)

namespace Registry.Tracks

variable {r : Registry} {m : List Nat}

/-- Two mounted superblocks have different `gc_info`s: each `stat_info` points back at one. -/
theorem gc_info_inj (h : r.Tracks m) {k k' p : Nat} (hk : k ∈ m) (hk' : k' ∈ m)
    (h1 : r.gc_info k = some p) (h2 : r.gc_info k' = some p) : k = k' := by
  obtain ⟨p1, s1, hp1, -, hm1, hs1⟩ := h.mounted k hk
  obtain ⟨p2, s2, hp2, -, hm2, hs2⟩ := h.mounted k' hk'
  obtain rfl : p1 = p := Option.some.inj (hp1.symm.trans h1)
  obtain rfl : p2 = p1 := Option.some.inj (hp2.symm.trans h2)
  obtain rfl : s1 = s2 := by simpa [hm1] using hm2
  simpa [hs1] using hs2

/-- Appending objects keeps what the old addresses hold. -/
theorem getElem?_append_of_some {l t : List Obj} {p : Nat} {o : Obj} (hp : l[p]? = some o) :
    (l ++ t)[p]? = some o := by
  rw [List.getElem?_append_left (List.getElem?_eq_some_iff.1 hp).1, hp]

theorem build_ok (h : r.Tracks m) {sbi : Nat} (hsbi : sbi ∉ m) :
    Registry.Tracks ⟨r.mem ++ [.gc_info (some (r.mem.length + 1)) .linked,
      .stat_info (some sbi) none], Function.update r.gc_info sbi (some r.mem.length),
      r.stat_list ++ [r.mem.length], r.sb,
      Function.update (Function.update r.dirty_count r.mem.length 0) (r.mem.length + 1) 0⟩
      (m ++ [sbi]) where
  list := by
    have hm : m.filterMap (Function.update r.gc_info sbi (some r.mem.length)) =
        m.filterMap r.gc_info :=
      List.filterMap_congr fun k hk => Function.update_noteq (ne_of_mem_of_not_mem hk hsbi) _ _
    simp [hm, h.list]
  nodup := List.nodup_append.2 ⟨h.nodup, List.nodup_singleton sbi,
    List.disjoint_singleton.2 hsbi⟩
  mounted k hk := by
    rcases List.mem_append.1 hk with hk | hk
    · obtain ⟨p, s, hp, hsp, hmp, hms⟩ := h.mounted k hk
      exact ⟨p, s, by simp [Function.update_noteq (ne_of_mem_of_not_mem hk hsbi), hp], hsp,
        getElem?_append_of_some hmp, getElem?_append_of_some hms⟩
    · obtain rfl := List.mem_singleton.1 hk
      refine ⟨r.mem.length, r.mem.length + 1, by simp, by omega, by simp [List.getElem_append], ?_⟩
      rw [List.getElem?_append_right (by omega)]
      simp
  unmounted k hk p hp := by
    have hks : k ≠ sbi := fun hks => hk (by simp [hks])
    dsimp only at hp ⊢
    rw [Function.update_noteq hks] at hp
    exact getElem?_append_of_some (h.unmounted k (fun hm => hk (List.mem_append_left _ hm)) p hp)

theorem build_no_stat_info (h : r.Tracks m) {sbi : Nat} (hsbi : sbi ∉ m) :
    Registry.Tracks ⟨r.mem ++ [.gc_info none .zero],
      Function.update r.gc_info sbi (some r.mem.length), r.stat_list, r.sb,
      Function.update r.dirty_count r.mem.length 0⟩ m where
  list := h.list.trans
    (List.filterMap_congr fun k hk => (Function.update_noteq (ne_of_mem_of_not_mem hk hsbi) _ _).symm)
  nodup := h.nodup
  mounted k hk := by
    obtain ⟨p, s, hp, hsp, hmp, hms⟩ := h.mounted k hk
    exact ⟨p, s, by simp [Function.update_noteq (ne_of_mem_of_not_mem hk hsbi), hp], hsp,
      getElem?_append_of_some hmp, getElem?_append_of_some hms⟩
  unmounted k hk p hp := by
    by_cases hks : k = sbi
    · subst hks
      obtain rfl : r.mem.length = p := by simpa using hp
      simp
    · dsimp only at hp ⊢
      rw [Function.update_noteq hks] at hp
      exact getElem?_append_of_some (h.unmounted k hk p hp)

/-- Every call of `build_gc_manager` on a superblock not mounted returns, and keeps the
registry tracking the mounts: the superblock is mounted when both allocations succeed. -/
theorem build (h : r.Tracks m) {sbi : Nat} (hsbi : sbi ∉ m) (ok1 ok2 : Bool) :
    ∃ ret r', build_gc_manager r sbi ok1 ok2 = pure (ret, r') ∧
      r'.Tracks (if ok1 && ok2 then m ++ [sbi] else m) := by
  cases ok1
  · exact ⟨_, _, build_gc_manager_no_gc_info r sbi ok2, h⟩
  · cases ok2
    · exact ⟨_, _, build_gc_manager_no_stat_info r sbi, h.build_no_stat_info hsbi⟩
    · exact ⟨_, _, build_gc_manager_ok r sbi, h.build_ok hsbi⟩

/-- `destroy_gc_manager` takes down a mounted superblock and keeps the registry tracking the
mounts. -/
theorem destroy (h : r.Tracks m) {k : Nat} (hk : k ∈ m) :
    ∃ r', destroy_gc_manager r k = pure r' ∧ r'.Tracks (m.erase k) := by
  obtain ⟨p, s, hp, hsp, hmp, hms⟩ := h.mounted k hk
  refine ⟨_, destroy_gc_manager_linked hp hmp hms hsp, ?_⟩
  -- the objects of another superblock are neither `p` nor `s`
  have hother : ∀ q o, r.mem[q]? = some o → o ≠ .gc_info (some s) .linked → q ≠ s →
      ((r.mem.set s .freed).set p .freed)[q]? = some o := by
    intro q o hq ho hqs
    have hqp : q ≠ p := fun hqp => ho (by simpa [hqp, hmp] using hq.symm)
    rw [List.getElem?_set_ne (Ne.symm hqp), List.getElem?_set_ne (Ne.symm hqs), hq]
  refine ⟨?_, h.nodup.erase k, ?_, ?_⟩
  · have hinj : ∀ x ∈ m, r.gc_info x = some p → x = k := fun x hx hxp =>
      h.gc_info_inj hx hk hxp hp
    simp only
    rw [h.list, ← filterMap_erase hp hinj]
    exact List.filterMap_congr fun x hx =>
      (Function.update_noteq ((h.nodup.mem_erase_iff.1 hx).1) _ _).symm
  · intro k' hk'
    obtain ⟨hne, hk'⟩ := h.nodup.mem_erase_iff.1 hk'
    obtain ⟨p', s', hp', hsp', hmp', hms'⟩ := h.mounted k' hk'
    refine ⟨p', s', by simp [Function.update_noteq hne, hp'], hsp', hother _ _ hmp' ?_ ?_,
      hother _ _ hms' (by simp) ?_⟩
    · intro hq
      obtain rfl : s' = s := by cases hq; rfl
      have hkk := hms'.symm.trans hms
      simp only [Option.some.injEq, Obj.stat_info.injEq, and_true] at hkk
      exact hne hkk
    · intro hq
      simp [hq, hms] at hmp'
    · intro hq
      subst hq
      have hkk := hms'.symm.trans hms
      simp only [Option.some.injEq, Obj.stat_info.injEq, and_true] at hkk
      exact hne hkk
  · intro k' hk' q hq
    by_cases hkk : k' = k
    · subst hkk
      simp at hq
    dsimp only at hq ⊢
    rw [Function.update_noteq hkk] at hq
    have hk'm : k' ∉ m := fun hm => hk' ((List.mem_erase_of_ne hkk).2 hm)
    have hz := h.unmounted k' hk'm q hq
    exact hother _ _ hz (by simp) fun hqs => by simp [hqs, hms] at hz

/-- `destroy_gc_manager` faults on every superblock that is not mounted: it has no `gc_info`,
or the zeroed one of a failed `build_gc_manager`. -/
theorem destroy_not_mounted (h : r.Tracks m) {k : Nat} (hk : k ∉ m) :
    destroy_gc_manager r k = throw .null_deref := by
  cases hp : r.gc_info k with
  | none => exact destroy_gc_manager_of_none hp
  | some p => exact destroy_gc_manager_of_zero hp (h.unmounted k hk p hp)

end Registry.Tracks

/-- The registries mounts and unmounts reach from the empty one, with the superblocks mounted,
in mount order: a mount names a superblock that is not mounted, an unmount a mounted one. -/
inductive Mounts : Registry → List Nat → Prop
  | init (sb : Nat → SbStat) (dirty_count : Nat → Nat) :
      Mounts ⟨[], fun _ => none, [], sb, dirty_count⟩ []
  | mount {r r' : Registry} {m : List Nat} {sbi : Nat} {ok1 ok2 : Bool} {ret : Option Int}
      (h : Mounts r m) (hsbi : sbi ∉ m) (hb : build_gc_manager r sbi ok1 ok2 = pure (ret, r')) :
      Mounts r' (if ok1 && ok2 then m ++ [sbi] else m)
  | umount {r r' : Registry} {m : List Nat} {sbi : Nat} (h : Mounts r m) (hsbi : sbi ∈ m)
      (hd : destroy_gc_manager r sbi = pure r') : Mounts r' (m.erase sbi)

theorem Mounts.tracks {r : Registry} {m : List Nat} (h : Mounts r m) : r.Tracks m := by
  induction h with
  | init => exact ⟨rfl, List.nodup_nil, fun _ h => absurd h (List.not_mem_nil _), fun _ _ _ h => by cases h⟩
  | mount _ hsbi hb ih =>
    obtain ⟨ret, r', hb', ht⟩ := ih.build hsbi _ _
    rw [hb] at hb'
    obtain ⟨-, rfl⟩ := Prod.ext_iff.1 (Except.ok.inj hb')
    exact ht
  | umount _ hsbi hd ih =>
    obtain ⟨r', hd', ht⟩ := ih.destroy hsbi
    rw [hd] at hd'
    obtain rfl := Except.ok.inj hd'
    exact ht

/-- Over every run of mounts and unmounts, `f2fs_stat_list` holds the `gc_info` of each mounted
superblock, in mount order; every `build_gc_manager` returns; and `destroy_gc_manager`
succeeds exactly on the mounted superblocks. On every other one (never mounted, unmounted, or
whose `build_gc_manager` failed at either `kzalloc`) it dereferences NULL: its
`if (!gc_i) return` test comes after `gc_i->stat_info`, and a `gc_info` whose second allocation
failed was never linked, so `list_del` writes through its zeroed links. -/
theorem stat_list_tracks_mounts {r : Registry} {m : List Nat} (h : Mounts r m) :
    r.stat_list = m.filterMap r.gc_info ∧
      (∀ sbi ∉ m, ∀ ok1 ok2, ∃ ret r', build_gc_manager r sbi ok1 ok2 = pure (ret, r')) ∧
      (∀ sbi ∈ m, ∃ r', destroy_gc_manager r sbi = pure r') ∧
      ∀ sbi ∉ m, destroy_gc_manager r sbi = throw .null_deref := by
  have ht := h.tracks
  exact ⟨ht.list, fun sbi hsbi ok1 ok2 => (ht.build hsbi ok1 ok2).imp fun _ h => h.imp fun _ h => h.1,
    fun sbi hsbi => (ht.destroy hsbi).imp fun _ h => h.1, fun sbi hsbi => ht.destroy_not_mounted hsbi⟩

/-- A superblock of one 512-block segment, half of it written. -/
def one_seg_sb : SbStat := ⟨one_seg_geometry, empty_sit, 256, 256, 512, 0⟩

/-- Superblock 1 mounted, superblock 2's mount failing at its second `kzalloc`, superblock 3
mounted and superblock 1 unmounted: only superblock 3 is on the list, and unmounting
superblock 2 faults. -/
theorem failed_mount_is_not_unmountable : ∃ r m, m = [3] ∧ Mounts r m ∧
    r.stat_list = m.filterMap r.gc_info ∧
      (∀ sbi ∉ m, ∀ ok1 ok2, ∃ ret r', build_gc_manager r sbi ok1 ok2 = pure (ret, r')) ∧
      (∀ sbi ∈ m, ∃ r', destroy_gc_manager r sbi = pure r') ∧
      ∀ sbi ∉ m, destroy_gc_manager r sbi = throw .null_deref := by
  have h := Mounts.umount (Mounts.mount (Mounts.mount (Mounts.mount
    (.init (fun _ => one_seg_sb) fun _ => 0) (by decide)
    (build_gc_manager_ok _ 1)) (by decide) (build_gc_manager_no_stat_info _ 2)) (by decide)
    (build_gc_manager_ok _ 3)) (by decide)
    (@destroy_gc_manager_linked _ 1 0 1 _ (by rfl) (by rfl) (by rfl) (by decide))
  exact ⟨_, _, by decide, h, stat_list_tracks_mounts h⟩

section ReadWalk

variable {tid : Nat} {r : Registry} {n : Cursor} {si sb : Option Nat}

/-- `f2fs_read_mem` passes over an entry whose `stat_info` names a superblock and whose mutex is
free in eight steps: it reads `sbi` before the lock, locks, finds `si->sbi` set, reads through
its own `sbi`, unlocks and moves to the next entry, leaving the registry as it was. -/
theorem read_entry (si sb : Option Nat) {p q k : Nat} {pre post : List Nat}
    (hl : r.stat_list = pre ++ p :: post)
    (hnd : r.stat_list.Nodup) (hp : r.mem[p]? = some (.gc_info (some q) .linked))
    (hq : r.mem[q]? = some (.stat_info (some k) none))
    (hnext : ∀ p' ∈ post, ∃ s, r.mem[p']? = some (.gc_info s .linked))
    (hn : n = first_of post) (fuel : Nat) :
    ∃ n' sb', (post = [] ∨ n' = first_of post.tail) ∧
      run_alone tid (fuel + 8) r (.read .mem .test (.entry p) n si sb) =
        run_alone tid fuel r (.read .mem .test (first_of post) n' (some q) sb') := by
  have hql := Registry.lt_length_of_getElem? hq
  have h1 : (r.write q (.stat_info (some k) (some tid))).mem[q]? =
      some (.stat_info (some k) (some tid)) := Registry.getElem?_write_self hql
  have hback : (r.write q (.stat_info (some k) (some tid))).write q (.stat_info (some k) none) = r := by
    simp only [Registry.write, List.set_set]
    exact Registry.write_of_getElem? hq
  obtain ⟨n', hn', hadv⟩ : ∃ n', (post = [] ∨ n' = first_of post.tail) ∧ ∀ sb',
      thread_step tid r (.read .mem .advance (.entry p) n (some q) sb') =
        pure (some (r, .read .mem .test n n' (some q) sb')) := by
    subst hn
    cases post with
    | nil => exact ⟨_, .inl rfl, fun _ => read_advance_head⟩
    | cons p' post =>
      obtain ⟨s, hp'⟩ := hnext p' (List.mem_cons_self p' post)
      have hnd' := hnd
      rw [hl, show pre ++ p :: p' :: post = (pre ++ [p]) ++ p' :: post by simp] at hnd'
      exact ⟨_, .inr rfl, fun _ => read_advance (by simp [hl])
        (fun h => (List.nodup_append.1 hnd').2.2 h (List.mem_cons_self _ _)) hp'⟩
  subst hn
  refine ⟨n', some k, hn', ?_⟩
  rw [run_alone_step read_test_stale, run_alone_step (read_stale hp hq),
    run_alone_step (read_load hp), run_alone_step (read_lock hq),
    run_alone_step (read_check_set h1), run_alone_step (read_use_stale h1),
    run_alone_step (read_unlock h1), hback, run_alone_step (hadv (some k))]

/-- `f2fs_read_mem` at the head of the entries `good ++ rest` of the list walks over the entries
`good`, each with a `stat_info` that names a superblock and a free mutex, to the head of `rest`. -/
theorem read_walk (hnd : r.stat_list.Nodup)
    (hlinked : ∀ p ∈ r.stat_list, ∃ s, r.mem[p]? = some (.gc_info s .linked)) (fuel : Nat) :
    ∀ (good rest pre : List Nat) (n : Cursor) (si sb : Option Nat),
      r.stat_list = pre ++ (good ++ rest) →
      (∀ p ∈ good, ∃ q k, r.mem[p]? = some (.gc_info (some q) .linked) ∧
        r.mem[q]? = some (.stat_info (some k) none)) →
      (good ++ rest = [] ∨ n = first_of (good ++ rest).tail) →
      ∃ n' si' sb', (rest = [] ∨ n' = first_of rest.tail) ∧
        run_alone tid (fuel + 8 * good.length) r
          (.read .mem .test (first_of (good ++ rest)) n si sb) =
            run_alone tid fuel r (.read .mem .test (first_of rest) n' si' sb')
  | [], _, _, n, si, sb, _, _, hn => ⟨n, si, sb, hn, rfl⟩
  | p :: good, rest, pre, n, si, sb, hl, hgood, hn => by
    obtain ⟨q, k, hp, hq⟩ := hgood p (List.mem_cons_self p good)
    have hnext : ∀ p' ∈ good ++ rest, ∃ s, r.mem[p']? = some (.gc_info s .linked) :=
      fun p' h => hlinked p' (by simp [hl, h])
    obtain ⟨n', sb', hn', heq⟩ := read_entry si sb hl hnd hp hq hnext
      (hn.resolve_left (List.cons_ne_nil p _)) (fuel + 8 * good.length)
    obtain ⟨n'', si'', sb'', hn'', hrest⟩ := read_walk hnd hlinked fuel good rest (pre ++ [p]) n'
      (some q) sb' (by simp [hl]) (fun p' h => hgood p' (List.mem_cons_of_mem p h)) hn'
    refine ⟨n'', si'', sb'', hn'', ?_⟩
    rw [show fuel + 8 * (p :: good).length = fuel + 8 * good.length + 8 by
      simp [Nat.mul_succ]; omega]
    exact heq.trans hrest

end ReadWalk

/-- A list without duplicates maps, by a function injective on it, to a list without
duplicates. -/
theorem nodup_filterMap {f : Nat → Option Nat} :
    ∀ {l : List Nat}, l.Nodup → (∀ a ∈ l, ∀ a' ∈ l, ∀ b, f a = some b → f a' = some b → a = a') →
      (l.filterMap f).Nodup
  | [], _, _ => List.nodup_nil
  | a :: l, hnd, hinj => by
    rw [List.nodup_cons] at hnd
    have ih := nodup_filterMap hnd.2 fun x hx y hy =>
      hinj x (List.mem_cons_of_mem a hx) y (List.mem_cons_of_mem a hy)
    cases hfa : f a with
    | none => simpa [List.filterMap_cons, hfa] using ih
    | some b =>
      rw [List.filterMap_cons, hfa]
      refine List.nodup_cons.2 ⟨fun hb => ?_, ih⟩
      obtain ⟨a', ha', hfa'⟩ := List.mem_filterMap.1 hb
      exact hnd.1 (hinj a (List.mem_cons_self a l) a' (List.mem_cons_of_mem a ha') b hfa hfa' ▸ ha')

namespace Registry.Tracks

variable {r : Registry} {m : List Nat}

/-- Every entry of the list is a linked `gc_info` whose `stat_info` names its superblock, with
its mutex free. -/
theorem live (h : r.Tracks m) : ∀ p ∈ r.stat_list, ∃ q k,
    r.mem[p]? = some (.gc_info (some q) .linked) ∧ r.mem[q]? = some (.stat_info (some k) none) := by
  intro p hp
  rw [h.list, List.mem_filterMap] at hp
  obtain ⟨k, hk, hkp⟩ := hp
  obtain ⟨p', q, hp', -, hmp, hmq⟩ := h.mounted k hk
  obtain rfl : p' = p := Option.some.inj (hp'.symm.trans hkp)
  exact ⟨q, k, hmp, hmq⟩

theorem linked (h : r.Tracks m) :
    ∀ p ∈ r.stat_list, ∃ s, r.mem[p]? = some (.gc_info s .linked) := fun p hp => by
  obtain ⟨q, -, hp, -⟩ := h.live p hp
  exact ⟨_, hp⟩

theorem stat_list_nodup (h : r.Tracks m) : r.stat_list.Nodup := by
  rw [h.list]
  exact nodup_filterMap h.nodup fun a ha a' ha' _ h1 h2 => h.gc_info_inj ha ha' h1 h2

end Registry.Tracks

/-- `f2fs_read_sit` alone faults at its sixth step when the first mounted superblock `k` is one
on which `total_sections * hblks_per_sec * hblks_per_sec` wraps below 100: it locks `k`'s
`si`, finds `si->sbi` set, and `f2fs_update_gc_metric(si->sbi)` divides by zero. -/
theorem read_sit_faults_on_metric {r : Registry} {k : Nat} {m : List Nat}
    (h : r.Tracks (k :: m)) (hdist : metric_dist (r.sb k).geometry = 0) (tid n : Nat) :
    run_alone tid (n + 6) r f2fs_read_sit = throw .div_by_zero := by
  obtain ⟨p, q, hk, hqp, hp, hq⟩ := h.mounted k (List.mem_cons_self k m)
  have hl : r.stat_list = p :: m.filterMap r.gc_info := by rw [h.list, List.filterMap_cons, hk]
  have h1 : (r.write q (.stat_info (some k) (some tid))).mem[q]? =
      some (.stat_info (some k) (some tid)) :=
    Registry.getElem?_write_self (Registry.lt_length_of_getElem? hq)
  have hp1 : (r.write q (.stat_info (some k) (some tid))).mem[p]? =
      some (.gc_info (some q) .linked) := (Registry.getElem?_write_ne hqp.symm).trans hp
  have hk1 : (r.write q (.stat_info (some k) (some tid))).gc_info k = some p := hk
  have hd1 : metric_dist ((r.write q (.stat_info (some k) (some tid))).sb k).geometry = 0 := hdist
  rw [f2fs_read_sit, reader, run_alone_step (read_start hl hp),
    run_alone_step (read_test_load (rfl : ReaderKind.sit.stale = false)),
    run_alone_step (read_load hp), run_alone_step (read_lock hq), run_alone_step (read_check_set h1)]
  exact run_alone_fault (read_use_sit_div h1 hp1 hk1 hd1)

/-- A 128 GiB superblock of 512-block segments, empty. -/
def gib128_sb : SbStat := ⟨gib128_geometry, empty_sit, 65536 * 512, 0, 65536 * 512, 0⟩

/-- `f2fs_read_sit` over a mounted 128 GiB superblock. -/
theorem gib128_read_sit_faults : ∃ r : Registry, r.Tracks [1] ∧
    metric_dist (r.sb 1).geometry = 0 ∧ ∀ tid n, run_alone tid (n + 6) r f2fs_read_sit = throw .div_by_zero := by
  have hm := Mounts.mount (.init (fun _ => gib128_sb) fun _ => 0) (List.not_mem_nil 1)
    (build_gc_manager_ok _ 1)
  have hd : metric_dist gib128_sb.geometry = 0 := by decide
  exact ⟨_, hm.tracks, hd, read_sit_faults_on_metric hm.tracks hd⟩

end f2fs.gc
