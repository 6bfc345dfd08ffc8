import LibPrint.Digest.Algorithm

/-!
# Lengths of digests

Every algorithm gives digests of the one length it is listed with, whatever the message is. For the
algorithms that end in a fixed number of words this is immediate. The words of a BLAKE3 node are as
many as those of its chaining value, which is the start value or that of another node.
-/

namespace LibPrint.Digest

theorem length_flatMap_bytesLittle (words : List UInt32) :
    (words.flatMap bytesLittle).length = 4 * words.length := by
  induction words with
  | nil => rfl
  | cons word words ih =>
      have four : (bytesLittle word).length = 4 := rfl
      rw [List.flatMap_cons, List.length_append, ih, four, List.length_cons]
      omega

namespace Blake3

/-! ## Running words -/

@[simp] theorem size_quarter (words : Array UInt32) (a b c d : Nat) (x y : UInt32) :
    (quarter words a b c d x y).size = words.size := by
  simp [quarter]

theorem size_round (words block : Array UInt32) : (round words block).size = words.size := by
  rw [round]
  apply List.foldlRecOn (motive := fun mixed : Array UInt32 => mixed.size = words.size)
  · rfl
  · intro mixed same lane _
    rw [size_quarter, same]

theorem size_rounds (count : Nat) (words block : Array UInt32) :
    (rounds count words block).size = words.size := by
  induction count generalizing words block with
  | zero => rfl
  | succ count ih => rw [rounds, ih, size_round]

/-! ## Nodes -/

namespace Pending

/-- A node whose chaining value has eight words. -/
def Full (pending : Pending) : Prop :=
  pending.chaining.length = 8

theorem length_value {pending : Pending} (full : pending.Full) (extra : UInt32) :
    (pending.value extra).length = 8 := by
  have mixed (words block : Array UInt32) : (rounds 7 words block).toList.length = words.size := by
    rw [Array.length_toList, size_rounds]
  have eight : pending.chaining.length = 8 := full
  simp [value, mixed, eight, start]

end Pending

theorem full_absorb {chaining : List UInt32} (full : chaining.length = 8) (counter : Nat)
    (flags : UInt32) (block : List UInt8) (blocks : List (List UInt8)) :
    (absorb counter chaining flags block blocks).Full := by
  induction blocks generalizing chaining flags block with
  | nil =>
      unfold absorb
      exact full
  | cons next blocks ih =>
      have pending : Pending.Full ⟨chaining, blockWords block, counter, block.length, flags⟩ := full
      unfold absorb
      apply ih
      exact Pending.length_value pending 0

theorem full_chunk (bytes : List UInt8) (counter : Nat) : (chunk bytes counter).Full := by
  rw [chunk]
  split
  · exact full_absorb rfl ..
  · exact full_absorb rfl ..

theorem full_of_mem_pairUp {nodes : List Pending} (full : ∀ node ∈ nodes, node.Full)
    {node : Pending} (member : node ∈ pairUp nodes) : node.Full := by
  fun_induction pairUp nodes with
  | case1 left right nodes ih =>
      rcases List.mem_cons.mp member with rfl | member
      · rfl
      · exact ih (fun other rest => full other (by simp [rest])) member
  | case2 nodes => exact full node member

theorem full_root {nodes : List Pending} (full : ∀ node ∈ nodes, node.Full) {top : Pending}
    (found : root nodes = some top) : top.Full := by
  fun_induction root nodes with
  | case1 => cases found
  | case2 node =>
      rw [Option.some.injEq] at found
      rw [← found]
      exact full node (List.mem_singleton_self node)
  | case3 left right nodes ih =>
      apply ih _ found
      intro node member
      rcases List.mem_cons.mp member with rfl | member
      · rfl
      · exact full_of_mem_pairUp (fun other rest => full other (by simp [rest])) member

/-- A root that is missing is made up for by a chunk of no bytes. -/
theorem full_getD_root {nodes : List Pending} (full : ∀ node ∈ nodes, node.Full) :
    ((root nodes).getD (chunk [] 0)).Full := by
  cases top : root nodes with
  | none => exact full_chunk [] 0
  | some node => exact full_root full top

theorem length_digest (message : List UInt8) : (digest message).length = 32 := by
  rw [digest, length_flatMap_bytesLittle, Pending.length_value]
  apply full_getD_root
  intro other member
  obtain ⟨⟨bytes, counter⟩, _, rfl⟩ := List.mem_map.mp member
  exact full_chunk bytes counter

end Blake3

/-- A digest has the length its algorithm is listed with. -/
theorem Algorithm.length_digest (algorithm : Algorithm) (message : List UInt8) :
    (algorithm.digest message).bytes.length = algorithm.length := by
  cases algorithm with
  | md5 | sha1 | sha256 | legacy32 => rfl
  | blake3 => simp only [digest, length, Blake3.length_digest]

end LibPrint.Digest
