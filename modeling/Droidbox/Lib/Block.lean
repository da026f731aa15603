import Mathlib.Data.List.Basic

/-!
# Allocated blocks

A block of memory as `malloc` returns it: each byte is indeterminate, `none`, until it is stored.
A store outside the block has no result.

* **`Block.store_eq_some`**: a store inside the block.
* **`Block.cells_store`**, **`Block.cells_store_disjoint`**: what a store leaves in the cells it
  writes and in those it does not.
* `HeapLog`: which blocks were obtained and freed; **`HeapLog.malloc_obtained`**.
-/

/-- The bytes of an allocated block. -/
abbrev Block := List (Option UInt8)

namespace Block

def malloc (n : Nat) : Block := List.replicate n none

/-- Store the bytes `s` from byte `offset` on. -/
def store (b : Block) (offset : Nat) (s : List UInt8) : Option Block :=
  if offset + s.length ≤ b.length then
    some (b.take offset ++ s.map some ++ b.drop (offset + s.length))
  else
    none

/-- `n` bytes from byte `offset` on. -/
def cells (b : Block) (offset n : Nat) : Block := (b.drop offset).take n

variable {b b' : Block} {offset : Nat} {s : List UInt8}

@[simp] theorem malloc_length (n : Nat) : (malloc n).length = n := List.length_replicate

theorem store_eq_some (h : offset + s.length ≤ b.length) :
    store b offset s = some (b.take offset ++ s.map some ++ b.drop (offset + s.length)) :=
  if_pos h

theorem store_eq_none (h : b.length < offset + s.length) : store b offset s = none :=
  if_neg (Nat.not_le.mpr h)

theorem store_inside (h : store b offset s = some b') : offset + s.length ≤ b.length := by
  by_contra hlong
  rw [store_eq_none (Nat.not_le.mp hlong)] at h
  cases h

theorem store_length (h : store b offset s = some b') : b'.length = b.length := by
  have hle := store_inside h
  rw [store_eq_some hle] at h
  cases h
  simp
  omega

/-- The cells of a store hold its bytes. -/
theorem cells_store (h : store b offset s = some b') :
    cells b' offset s.length = s.map some := by
  have hle := store_inside h
  rw [store_eq_some hle] at h
  cases h
  have htake : (b.take offset).length = offset := by
    rw [List.length_take]
    omega
  rw [cells, List.append_assoc, List.drop_append_of_le_length (by omega),
    List.drop_of_length_le (by omega), List.nil_append,
    List.take_append_of_le_length (by simp), List.take_of_length_le (by simp)]

/-- Other cells keep what they held. -/
theorem cells_store_disjoint (h : store b offset s = some b') {o n : Nat}
    (hdisjoint : o + n ≤ offset ∨ offset + s.length ≤ o) : cells b' o n = cells b o n := by
  have hle := store_inside h
  rw [store_eq_some hle] at h
  cases h
  apply List.ext_getElem?
  intro i
  unfold cells
  rcases Nat.lt_or_ge i n with hi | hi
  · rw [List.getElem?_take_of_lt hi, List.getElem?_take_of_lt hi, List.getElem?_drop,
      List.getElem?_drop, List.append_assoc]
    rcases hdisjoint with hbefore | hbehind
    · rw [List.getElem?_append_left (by rw [List.length_take]; omega),
        List.getElem?_take_of_lt (by omega)]
    · rw [List.getElem?_append_right (by rw [List.length_take]; omega),
        List.getElem?_append_right (by rw [List.length_map, List.length_take]; omega),
        List.getElem?_drop, List.length_map, List.length_take]
      congr 1
      omega
  · rw [List.getElem?_take_eq_none hi, List.getElem?_take_eq_none hi]

end Block

/-! ## Logs -/

/-- The blocks obtained and freed so far. A block is named by how many were obtained before it. -/
structure HeapLog where
  obtained : List Nat
  freed : List Nat
  deriving DecidableEq, Repr

namespace HeapLog

def empty : HeapLog := ⟨[], []⟩

def malloc (l : HeapLog) : Nat × HeapLog :=
  (l.obtained.length, { l with obtained := l.obtained ++ [l.obtained.length] })

def free (l : HeapLog) (block : Nat) : HeapLog := { l with freed := l.freed ++ [block] }

/-- The blocks that were freed are those that were obtained, each of them once. -/
structure Balanced (l : HeapLog) : Prop where
  perm : l.freed.Perm l.obtained
  nodup : l.freed.Nodup

variable {l : HeapLog}

/-- Every block has a name of its own. -/
theorem malloc_obtained {n : Nat} (h : l.obtained = List.range n) :
    l.malloc.1 = n ∧ l.malloc.2.obtained = List.range (n + 1) := by
  unfold malloc
  dsimp only
  rw [h, List.length_range, List.range_succ]
  exact ⟨rfl, rfl⟩

/-- A log that is balanced frees as many blocks as it obtained. -/
theorem Balanced.length_eq (h : l.Balanced) : l.freed.length = l.obtained.length := h.perm.length_eq

end HeapLog
