import Mathlib

namespace f2fs.gc

/-- The node-tree constants of node.h and f2fs.h that `start_bidx_of_node` reads. -/
structure NodeLayout where
  NIDS_PER_BLOCK : Nat
  ADDRS_PER_BLOCK : Nat
  ADDRS_PER_INODE : Nat

/-- `a - b` on `unsigned int`. -/
def sub_u32 (a b : Nat) : Nat := (a + (2 ^ 32 - b % 2 ^ 32)) % 2 ^ 32

theorem sub_u32_of_le {a b : Nat} (h : b ≤ a) (ha : a < 2 ^ 32) : sub_u32 a b = a - b := by
  unfold sub_u32
  rw [Nat.mod_eq_of_lt (by omega : b < 2 ^ 32)]
  omega

/-- Calculate the first file block index a node page maps. The local `start_bidx` starts at
1, is cleared only for the inode, and then selects the final assignment. `dec` is an `int`
holding an unsigned quotient, which the subtraction converts back. -/
def start_bidx_of_node (l : NodeLayout) (node_ofs : Nat) : Nat :=
  let indirect_blks := (2 * l.NIDS_PER_BLOCK + 4) % 2 ^ 32
  let nids1 := (l.NIDS_PER_BLOCK + 1) % 2 ^ 32
  let (start_bidx, bidx) :=
    if node_ofs = 0 then (0, 0)
    else if node_ofs ≤ 2 then (1, sub_u32 node_ofs 1)
    else if node_ofs ≤ indirect_blks then
      let dec := sub_u32 node_ofs 4 / nids1
      (1, sub_u32 (sub_u32 node_ofs 2) dec)
    else
      let dec := sub_u32 (sub_u32 node_ofs indirect_blks) 3 / nids1
      (1, sub_u32 (sub_u32 node_ofs 5) dec)
  if start_bidx ≠ 0 then (bidx * l.ADDRS_PER_BLOCK + l.ADDRS_PER_INODE) % 2 ^ 32
  else start_bidx

/-- `DirectNode N nofs k`: in the node tree of an inode with `N = NIDS_PER_BLOCK` node ids per
indirect block, the node at offset `nofs` is the `k`-th direct node. The inode is offset 0,
the two direct nodes 1 and 2, the indirect nodes 3 and `N + 4` have direct children at
`4 + i` and `N + 5 + i`, and the `j`-th indirect child of the double-indirect node
`2N + 5` sits at `2N + 6 + j(N + 1)` with direct children after it. -/
inductive DirectNode (N : Nat) : Nat → Nat → Prop
  | direct (k : Nat) (hk : k < 2) : DirectNode N (k + 1) k
  | indirect (i : Nat) (hi : i < N) : DirectNode N (4 + i) (2 + i)
  | indirect2 (i : Nat) (hi : i < N) : DirectNode N (N + 5 + i) (N + 2 + i)
  | dind (j i : Nat) (hj : j < N) (hi : i < N) :
      DirectNode N (2 * N + 7 + j * (N + 1) + i) (2 * N + 2 + j * N + i)

private theorem lex_lt_iff {M j i j' i' : Nat} (hi : i < M) (hi' : i' < M) :
    j * M + i < j' * M + i' ↔ j < j' ∨ (j = j' ∧ i < i') := by
  constructor
  · intro h
    rcases Nat.lt_trichotomy j j' with hj | rfl | hj
    · exact .inl hj
    · exact .inr ⟨rfl, by omega⟩
    · have : j' * M + M ≤ j * M := by
        have := Nat.mul_le_mul_right M (Nat.succ_le_of_lt hj); simpa [Nat.succ_mul] using this
      omega
  · rintro (hj | ⟨rfl, h⟩)
    · have : j * M + M ≤ j' * M := by
        have := Nat.mul_le_mul_right M (Nat.succ_le_of_lt hj); simpa [Nat.succ_mul] using this
      omega
    · omega

/-- The numbering lists the direct nodes in increasing offset order: `k` is the position. -/
theorem DirectNode.lt_iff_lt {N a b k k' : Nat} (ha : DirectNode N a k) (hb : DirectNode N b k') :
    a < b ↔ k < k' := by
  cases ha with
  | direct k hk => cases hb <;> omega
  | indirect i hi => cases hb <;> omega
  | indirect2 i hi => cases hb <;> omega
  | dind j i hj hi =>
    cases hb with
    | dind j' i' hj' hi' =>
      have h1 := @lex_lt_iff (N + 1) j i j' i' (by omega) (by omega)
      have h2 := @lex_lt_iff N j i j' i' hi hi'
      omega
    | _ => omega

private theorem dind_index_lt {N j i : Nat} (hj : j < N) (hi : i < N) :
    2 * N + 2 + j * N + i < N ^ 2 + 2 * N + 2 := by
  have : j * N + N ≤ N * N := by
    have := Nat.mul_le_mul_right N (Nat.succ_le_of_lt hj); simpa [Nat.succ_mul] using this
  rw [Nat.pow_two]; omega

theorem DirectNode.index_lt {N nofs k : Nat} (h : DirectNode N nofs k) :
    k < N ^ 2 + 2 * N + 2 := by
  cases h with
  | dind j i hj hi => exact dind_index_lt hj hi
  | _ => rw [Nat.pow_two]; omega

/-- A nonzero offset selects `bidx * ADDRS_PER_BLOCK + ADDRS_PER_INODE`. -/
private theorem start_bidx_of_node_pos (l : NodeLayout) {nofs bidx : Nat} (h0 : nofs ≠ 0)
    (hb : (if nofs ≤ 2 then sub_u32 nofs 1
      else if nofs ≤ (2 * l.NIDS_PER_BLOCK + 4) % 2 ^ 32 then
        sub_u32 (sub_u32 nofs 2) (sub_u32 nofs 4 / ((l.NIDS_PER_BLOCK + 1) % 2 ^ 32))
      else sub_u32 (sub_u32 nofs 5) (sub_u32 (sub_u32 nofs ((2 * l.NIDS_PER_BLOCK + 4) % 2 ^ 32)) 3
        / ((l.NIDS_PER_BLOCK + 1) % 2 ^ 32))) = bidx) :
    start_bidx_of_node l nofs = (bidx * l.ADDRS_PER_BLOCK + l.ADDRS_PER_INODE) % 2 ^ 32 := by
  rw [← hb]
  simp only [start_bidx_of_node, h0, if_false]
  split_ifs <;> simp_all

theorem start_bidx_of_node_ind (l : NodeLayout) {i : Nat} (hi : i < l.NIDS_PER_BLOCK)
    (hsmall : 2 * l.NIDS_PER_BLOCK + 4 < 2 ^ 32) :
    start_bidx_of_node l (4 + i) = ((2 + i) * l.ADDRS_PER_BLOCK + l.ADDRS_PER_INODE) % 2 ^ 32 := by
  apply start_bidx_of_node_pos l (by omega)
  have hdec : sub_u32 (4 + i) 4 / (l.NIDS_PER_BLOCK + 1) = 0 := by
    rw [sub_u32_of_le (by omega) (by omega)]; exact Nat.div_eq_of_lt (by omega)
  rw [if_neg (by omega), if_pos (by rw [Nat.mod_eq_of_lt hsmall]; omega),
    Nat.mod_eq_of_lt (by omega : l.NIDS_PER_BLOCK + 1 < 2 ^ 32), hdec,
    sub_u32_of_le (show 2 ≤ 4 + i by omega) (by omega), sub_u32_of_le (Nat.zero_le _) (by omega)]
  omega

theorem start_bidx_of_node_ind2 (l : NodeLayout) {i : Nat} (hi : i < l.NIDS_PER_BLOCK)
    (hsmall : 2 * l.NIDS_PER_BLOCK + 4 < 2 ^ 32) :
    start_bidx_of_node l (l.NIDS_PER_BLOCK + 5 + i) =
      ((l.NIDS_PER_BLOCK + 2 + i) * l.ADDRS_PER_BLOCK + l.ADDRS_PER_INODE) % 2 ^ 32 := by
  apply start_bidx_of_node_pos l (by omega)
  have hdec : sub_u32 (l.NIDS_PER_BLOCK + 5 + i) 4 / (l.NIDS_PER_BLOCK + 1) = 1 := by
    rw [sub_u32_of_le (by omega) (by omega),
      show l.NIDS_PER_BLOCK + 5 + i - 4 = i + 1 * (l.NIDS_PER_BLOCK + 1) by omega,
      Nat.add_mul_div_right _ _ (by omega), Nat.div_eq_of_lt (by omega)]
  rw [if_neg (by omega), if_pos (by rw [Nat.mod_eq_of_lt hsmall]; omega),
    Nat.mod_eq_of_lt (by omega : l.NIDS_PER_BLOCK + 1 < 2 ^ 32), hdec,
    sub_u32_of_le (show 2 ≤ l.NIDS_PER_BLOCK + 5 + i by omega) (by omega),
    sub_u32_of_le (show 1 ≤ l.NIDS_PER_BLOCK + 5 + i - 2 by omega) (by omega)]
  omega

theorem start_bidx_of_node_dind (l : NodeLayout) {j i : Nat} (hj : j < l.NIDS_PER_BLOCK)
    (hi : i < l.NIDS_PER_BLOCK)
    (hsmall : 2 * l.NIDS_PER_BLOCK + 7 + j * (l.NIDS_PER_BLOCK + 1) + i < 2 ^ 32) :
    start_bidx_of_node l (2 * l.NIDS_PER_BLOCK + 7 + j * (l.NIDS_PER_BLOCK + 1) + i) =
      ((2 * l.NIDS_PER_BLOCK + 2 + j * l.NIDS_PER_BLOCK + i) * l.ADDRS_PER_BLOCK
        + l.ADDRS_PER_INODE) % 2 ^ 32 := by
  apply start_bidx_of_node_pos l (by omega)
  have hjm : j * (l.NIDS_PER_BLOCK + 1) = j * l.NIDS_PER_BLOCK + j := Nat.mul_succ j _
  have hdec : sub_u32 (sub_u32 (2 * l.NIDS_PER_BLOCK + 7 + j * (l.NIDS_PER_BLOCK + 1) + i)
      (2 * l.NIDS_PER_BLOCK + 4)) 3 / (l.NIDS_PER_BLOCK + 1) = j := by
    rw [sub_u32_of_le (show 2 * l.NIDS_PER_BLOCK + 4 ≤
        2 * l.NIDS_PER_BLOCK + 7 + j * (l.NIDS_PER_BLOCK + 1) + i by omega) hsmall,
      sub_u32_of_le (by omega) (by omega),
      show 2 * l.NIDS_PER_BLOCK + 7 + j * (l.NIDS_PER_BLOCK + 1) + i - (2 * l.NIDS_PER_BLOCK + 4) - 3
        = i + j * (l.NIDS_PER_BLOCK + 1) by omega,
      Nat.add_mul_div_right _ _ (by omega), Nat.div_eq_of_lt (by omega), Nat.zero_add]
  rw [if_neg (by omega), if_neg (by rw [Nat.mod_eq_of_lt (by omega)]; omega),
    Nat.mod_eq_of_lt (by omega : l.NIDS_PER_BLOCK + 1 < 2 ^ 32),
    Nat.mod_eq_of_lt (by omega : 2 * l.NIDS_PER_BLOCK + 4 < 2 ^ 32), hdec,
    sub_u32_of_le (show 5 ≤ 2 * l.NIDS_PER_BLOCK + 7 + j * (l.NIDS_PER_BLOCK + 1) + i by omega)
      hsmall,
    sub_u32_of_le (show j ≤ 2 * l.NIDS_PER_BLOCK + 7 + j * (l.NIDS_PER_BLOCK + 1) + i - 5 by omega)
      (by omega)]
  omega

private theorem fanout_le (l : NodeLayout) (hA : 0 < l.ADDRS_PER_BLOCK)
    (hfit : l.ADDRS_PER_INODE + l.ADDRS_PER_BLOCK *
      (l.NIDS_PER_BLOCK ^ 2 + 2 * l.NIDS_PER_BLOCK + 2) < 2 ^ 32) :
    l.NIDS_PER_BLOCK ≤ 65534 := by
  have hle : l.NIDS_PER_BLOCK ^ 2 + 2 * l.NIDS_PER_BLOCK + 2 ≤
      l.ADDRS_PER_BLOCK * (l.NIDS_PER_BLOCK ^ 2 + 2 * l.NIDS_PER_BLOCK + 2) :=
    Nat.le_mul_of_pos_left _ hA
  by_contra h
  have : 65535 * 65535 ≤ l.NIDS_PER_BLOCK * l.NIDS_PER_BLOCK := Nat.mul_le_mul (by omega) (by omega)
  rw [Nat.pow_two] at hle hfit
  omega

/-- For every fanout and every layout whose last file block index fits `block_t`, the inode
maps from block 0 and the `k`-th direct node from `ADDRS_PER_INODE + k * ADDRS_PER_BLOCK`,
with every branch, unsigned subtraction and truncation of the source. -/
theorem start_bidx_of_node_direct (l : NodeLayout)
    (hfit : l.ADDRS_PER_INODE + l.ADDRS_PER_BLOCK *
      (l.NIDS_PER_BLOCK ^ 2 + 2 * l.NIDS_PER_BLOCK + 2) < 2 ^ 32)
    {nofs k : Nat} (h : DirectNode l.NIDS_PER_BLOCK nofs k) :
    start_bidx_of_node l nofs = l.ADDRS_PER_INODE + k * l.ADDRS_PER_BLOCK := by
  have hkA : k * l.ADDRS_PER_BLOCK + l.ADDRS_PER_INODE < 2 ^ 32 := by
    have := Nat.mul_le_mul_right l.ADDRS_PER_BLOCK (Nat.le_of_lt h.index_lt)
    rw [Nat.mul_comm (_ + _)] at this
    omega
  rcases Nat.eq_zero_or_pos l.ADDRS_PER_BLOCK with hA | hA
  · have h0 : nofs ≠ 0 := by cases h <;> omega
    rw [start_bidx_of_node_pos l h0 rfl, hA]
    simp only [Nat.mul_zero, Nat.zero_add, Nat.add_zero]
    exact Nat.mod_eq_of_lt (by omega)
  · have hN := fanout_le l hA hfit
    rw [Nat.add_comm l.ADDRS_PER_INODE, ← Nat.mod_eq_of_lt hkA]
    cases h with
    | direct k hk =>
      exact start_bidx_of_node_pos l (by omega)
        (by rw [if_pos (by omega), sub_u32_of_le (by omega) (by omega)]; omega)
    | indirect i hi => exact start_bidx_of_node_ind l hi (by omega)
    | indirect2 i hi => exact start_bidx_of_node_ind2 l hi (by omega)
    | dind j i hj hi =>
      have hNN : l.NIDS_PER_BLOCK * l.NIDS_PER_BLOCK ≤ 65534 * l.NIDS_PER_BLOCK :=
        Nat.mul_le_mul_right _ hN
      have hjN' : j * l.NIDS_PER_BLOCK + l.NIDS_PER_BLOCK ≤ l.NIDS_PER_BLOCK * l.NIDS_PER_BLOCK := by
        have := Nat.mul_le_mul_right l.NIDS_PER_BLOCK (Nat.succ_le_of_lt hj)
        simpa [Nat.succ_mul] using this
      have hjm : j * (l.NIDS_PER_BLOCK + 1) = j * l.NIDS_PER_BLOCK + j := Nat.mul_succ j _
      exact start_bidx_of_node_dind l hj hi (by omega)

/-- Consecutive direct nodes map adjacent ranges of `ADDRS_PER_BLOCK` file blocks, and a
later node's range starts after an earlier node's range ends. -/
theorem start_bidx_of_node_tree (l : NodeLayout)
    (hfit : l.ADDRS_PER_INODE + l.ADDRS_PER_BLOCK *
      (l.NIDS_PER_BLOCK ^ 2 + 2 * l.NIDS_PER_BLOCK + 2) < 2 ^ 32) :
    start_bidx_of_node l 0 = 0 ∧
    (∀ nofs k, DirectNode l.NIDS_PER_BLOCK nofs k →
      start_bidx_of_node l nofs = l.ADDRS_PER_INODE + k * l.ADDRS_PER_BLOCK) ∧
    (∀ a k b, DirectNode l.NIDS_PER_BLOCK a k → DirectNode l.NIDS_PER_BLOCK b (k + 1) →
      start_bidx_of_node l b = start_bidx_of_node l a + l.ADDRS_PER_BLOCK) ∧
    (∀ a k b k', DirectNode l.NIDS_PER_BLOCK a k → DirectNode l.NIDS_PER_BLOCK b k' → k < k' →
      start_bidx_of_node l a + l.ADDRS_PER_BLOCK ≤ start_bidx_of_node l b) := by
  refine ⟨rfl, fun _ _ h => start_bidx_of_node_direct l hfit h, fun a k b ha hb => ?_,
    fun a k b k' ha hb hk => ?_⟩
  · rw [start_bidx_of_node_direct l hfit ha, start_bidx_of_node_direct l hfit hb, Nat.succ_mul]
    omega
  · rw [start_bidx_of_node_direct l hfit ha, start_bidx_of_node_direct l hfit hb]
    have := Nat.mul_le_mul_right l.ADDRS_PER_BLOCK (Nat.succ_le_of_lt hk)
    rw [Nat.succ_mul] at this
    omega

/-- The on-disk layout of this version: 1018 node ids or addresses per block, 923 addresses
in the inode. -/
theorem start_bidx_of_node_default_layout :
    start_bidx_of_node ⟨1018, 1018, 923⟩ (2 * 1018 + 7 + 3 * 1019 + 5) =
      923 + (2 * 1018 + 2 + 3 * 1018 + 5) * 1018 :=
  (start_bidx_of_node_tree ⟨1018, 1018, 923⟩ (by decide)).2.1 _ _
    (.dind 3 5 (by decide) (by decide))

end f2fs.gc
